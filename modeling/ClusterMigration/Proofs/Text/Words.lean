import ClusterMigration.Text.Blank
import Mathlib.Data.List.Forall2
import Mathlib.Data.List.TakeWhile

/-!
# Words among blanks

What it means for a text to say a word when neither the blanks around it nor the case of
its letters matter. The main statement is `toLower_trim_eq_iff`.
-/

namespace ClusterMigration

/-- The text is the word with blanks around it. Each of its letters may be a capital. -/
def Spells (text word : String) : Prop :=
  ∃ before letters after, text.toList = before ++ letters ++ after ∧
    (∀ c ∈ before, isBlank c) ∧ (∀ c ∈ after, isBlank c) ∧
    List.Forall₂ (fun c d => c = d ∨ c = d.toUpper) letters word.toList

def IsSmall (d : Char) : Prop :=
  ¬ (65 ≤ d.toNat ∧ d.toNat ≤ 90) ∧ isBlank d = false ∧ isBlank d.toUpper = false

instance (d : Char) : Decidable (IsSmall d) := inferInstanceAs (Decidable (_ ∧ _ ∧ _))

section Letters

theorem toNat_toLower (c : Char) :
    c.toLower.toNat = if 65 ≤ c.toNat ∧ c.toNat ≤ 90 then c.toNat + 32 else c.toNat := by
  have hcapital : (c.val ≥ 'A'.val ∧ c.val ≤ 'Z'.val) ↔ (65 ≤ c.toNat ∧ c.toNat ≤ 90) := Iff.rfl
  unfold Char.toLower
  by_cases h : 65 ≤ c.toNat ∧ c.toNat ≤ 90
  · rw [dif_pos (hcapital.mpr h), if_pos h]
    change (c.val + ('a'.val - 'A'.val)).toNat = c.val.toNat + 32
    have hle : c.val.toNat ≤ 90 := h.2
    rw [UInt32.toNat_add]
    apply Nat.mod_eq_of_lt
    change c.val.toNat + 32 < 2 ^ 32
    omega
  · rw [dif_neg (mt hcapital.mp h), if_neg h]

theorem toNat_toUpper (c : Char) :
    c.toUpper.toNat = if 97 ≤ c.toNat ∧ c.toNat ≤ 122 then c.toNat - 32 else c.toNat := by
  have hsmall : ('a'.val ≤ c.val ∧ c.val ≤ 'z'.val) ↔ (97 ≤ c.toNat ∧ c.toNat ≤ 122) := Iff.rfl
  unfold Char.toUpper
  by_cases h : 97 ≤ c.toNat ∧ c.toNat ≤ 122
  · rw [dif_pos (hsmall.mpr h), if_pos h]
    change (c.val + ('A'.val - 'a'.val)).toNat = c.val.toNat - 32
    have hlo : 97 ≤ c.val.toNat := h.1
    have hhi : c.val.toNat ≤ 122 := h.2
    -- The difference of the two letters is negative, so that the sum wraps around.
    rw [UInt32.toNat_add]
    change (c.val.toNat + 4294967264) % 2 ^ 32 = c.val.toNat - 32
    omega
  · rw [dif_neg (mt hsmall.mp h), if_neg h]

theorem toLower_eq_iff {d : Char} (h : ¬ (65 ≤ d.toNat ∧ d.toNat ≤ 90)) (c : Char) :
    c.toLower = d ↔ c = d ∨ c = d.toUpper := by
  rw [← Char.toNat_inj, ← Char.toNat_inj, ← Char.toNat_inj, toNat_toLower, toNat_toUpper]
  split <;> split <;> omega

theorem toList_toLower (text : String) : text.toLower.toList = text.toList.map Char.toLower :=
  String.toList_map

theorem toLower_eq_word_iff {word : String} (hword : ∀ d ∈ word.toList, IsSmall d)
    (text : String) :
    text.toLower = word ↔
      List.Forall₂ (fun c d => c = d ∨ c = d.toUpper) text.toList word.toList := by
  rw [← String.toList_inj, toList_toLower]
  generalize text.toList = cs at *
  generalize word.toList = ds at *
  induction ds generalizing cs with
  | nil => simp
  | cons d ds ih =>
      cases cs with
      | nil => simp
      | cons c cs =>
          have hd := toLower_eq_iff (hword d List.mem_cons_self).1 c
          have hds := ih cs (fun e he => hword e (List.mem_cons_of_mem _ he))
          rw [List.map_cons, List.cons_eq_cons, List.forall₂_cons, hd, hds]

end Letters

namespace Blank

theorem exists_blanks_around (text : String) :
    ∃ before after, text.toList = before ++ (trim text).toList ++ after ∧
      (∀ c ∈ before, isBlank c) ∧ ∀ c ∈ after, isBlank c := by
  let before := text.toList.takeWhile isBlank
  let rest := text.toList.dropWhile isBlank
  let behind := rest.reverse.takeWhile isBlank
  have htrim : (trim text).toList = (rest.reverse.dropWhile isBlank).reverse :=
    String.toList_ofList
  have hbehind : behind ++ rest.reverse.dropWhile isBlank = rest.reverse :=
    List.takeWhile_append_dropWhile
  refine ⟨before, behind.reverse, ?_, ?_, ?_⟩
  · calc text.toList = before ++ rest := List.takeWhile_append_dropWhile.symm
      _ = before ++ (behind ++ rest.reverse.dropWhile isBlank).reverse := by
          rw [hbehind, List.reverse_reverse]
      _ = before ++ (trim text).toList ++ behind.reverse := by
          rw [htrim, List.reverse_append, List.append_assoc]
  · exact fun c hc => List.mem_takeWhile_imp hc
  · exact fun c hc => List.mem_takeWhile_imp (List.mem_reverse.mp hc)

theorem dropWhile_of_forall {cs : List Char} (h : ∀ c ∈ cs, isBlank c = false) :
    cs.dropWhile isBlank = cs := by
  cases cs with
  | nil => rfl
  | cons c cs => rw [List.dropWhile_cons_of_neg (by simp [h c List.mem_cons_self])]

theorem toList_trim {text : String} {before letters after : List Char}
    (h : text.toList = before ++ letters ++ after) (hbefore : ∀ c ∈ before, isBlank c)
    (hafter : ∀ c ∈ after, isBlank c) (hletters : ∀ c ∈ letters, isBlank c = false) :
    (trim text).toList = letters := by
  have hback : ∀ c ∈ after.reverse, isBlank c := fun c hc => hafter c (List.mem_reverse.mp hc)
  have hfront : text.toList.dropWhile isBlank = (letters ++ after).dropWhile isBlank := by
    rw [h, List.append_assoc, List.dropWhile_append_of_pos hbefore]
  rw [trim, String.toList_ofList, hfront]
  cases letters with
  | nil =>
      have hnone : after.dropWhile isBlank = [] := List.dropWhile_eq_nil_iff.mpr hafter
      rw [List.nil_append, hnone]
      rfl
  | cons c cs =>
      have hkeep : (c :: cs ++ after).dropWhile isBlank = c :: cs ++ after := by
        apply List.dropWhile_cons_of_neg
        simp [hletters c List.mem_cons_self]
      have hrest : ∀ d ∈ (c :: cs).reverse, isBlank d = false :=
        fun d hd => hletters d (List.mem_reverse.mp hd)
      rw [hkeep, List.reverse_append, List.dropWhile_append_of_pos hback,
        dropWhile_of_forall hrest, List.reverse_reverse]

end Blank

theorem isBlank_of_spelled {letters ds : List Char} (hds : ∀ d ∈ ds, IsSmall d)
    (h : List.Forall₂ (fun c d => c = d ∨ c = d.toUpper) letters ds) :
    ∀ c ∈ letters, isBlank c = false := by
  induction h with
  | nil => exact fun c hc => absurd hc List.not_mem_nil
  | @cons c d cs ds hcd _ ih =>
      obtain ⟨_, hblank, hblank'⟩ := hds d List.mem_cons_self
      intro e he
      rcases List.mem_cons.mp he with rfl | he
      · rcases hcd with rfl | rfl
        · exact hblank
        · exact hblank'
      · exact ih (fun x hx => hds x (List.mem_cons_of_mem _ hx)) e he

theorem toLower_trim_eq_iff {word : String} (hword : ∀ d ∈ word.toList, IsSmall d)
    (text : String) : (Blank.trim text).toLower = word ↔ Spells text word := by
  rw [toLower_eq_word_iff hword]
  constructor
  · intro hletters
    obtain ⟨before, after, htext, hbefore, hafter⟩ := Blank.exists_blanks_around text
    exact ⟨before, _, after, htext, hbefore, hafter, hletters⟩
  · rintro ⟨before, letters, after, htext, hbefore, hafter, hletters⟩
    rw [Blank.toList_trim htext hbefore hafter (isBlank_of_spelled hword hletters)]
    exact hletters

end ClusterMigration
