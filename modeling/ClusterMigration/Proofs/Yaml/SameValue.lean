import ClusterMigration.Proofs.Yaml.Agreement
import Mathlib.Data.List.Perm.Basic

/-!
# Same values in two documents

Members of two documents hold the same values if some relation matches their nodes level
by level. The nodes that aliases stand for are nodes of the document and no aliases
themselves, so every document matches itself.
-/

namespace ClusterMigration

namespace Yaml

variable {ordered : Bool}

namespace Node

theorem areWhole_iff {items : List Node} :
    areWhole items = true ↔ ∀ item ∈ items, item.isWhole = true := by
  induction items with
  | nil => simp [areWhole]
  | cons item rest ih => simp [areWhole, ih]

theorem haveWhole_iff {members : List (Node × Node)} :
    haveWhole members = true ↔
      ∀ m ∈ members, m.1.isWhole = true ∧ m.2.isWhole = true := by
  induction members with
  | nil => simp [haveWhole]
  | cons m rest ih => simp [haveWhole, ih, and_assoc]

/-- No cut reaches into it, and it has an anchor of its own. -/
def IsTarget (n : Node) : Prop := n.isWhole = true ∧ n.properties.slot.isSome = true

theorem isTarget_own {n : Node} (hn : n.isWhole = true) {e : Nat × Node}
    (he : e ∈ n.properties.slot.toList.map (·, n)) : e.2.IsTarget := by
  obtain ⟨slot, hslot, rfl⟩ := List.mem_map.mp he
  exact ⟨hn, by simp [Option.mem_toList.mp hslot]⟩

mutual

theorem isTarget_of_mem_anchored :
    ∀ (n : Node), n.isWhole = true → ∀ e ∈ n.anchored, e.2.IsTarget
  | .scalar p form text, hn, e, he => isTarget_own hn he
  | .sequence p items, hn, e, he => by
      rcases List.mem_append.mp he with h | h
      · exact isTarget_own hn h
      · exact isTarget_of_mem_anchoredItems items hn e h
  | .mapping p members, hn, e, he => by
      rcases List.mem_append.mp he with h | h
      · exact isTarget_own hn h
      · exact isTarget_of_mem_anchoredMembers members hn e h
  | .alias _, hn, e, he => isTarget_own hn he
  | .cut, hn, e, he => isTarget_own hn he

theorem isTarget_of_mem_anchoredItems :
    ∀ (items : List Node), areWhole items = true → ∀ e ∈ anchoredItems items, e.2.IsTarget
  | [], _, e, he => nomatch he
  | item :: rest, hitems, e, he => by
      simp only [areWhole, Bool.and_eq_true] at hitems
      rcases List.mem_append.mp he with h | h
      · exact isTarget_of_mem_anchored item hitems.1 e h
      · exact isTarget_of_mem_anchoredItems rest hitems.2 e h

theorem isTarget_of_mem_anchoredMembers :
    ∀ (members : List (Node × Node)), haveWhole members = true →
      ∀ e ∈ anchoredMembers members, e.2.IsTarget
  | [], _, e, he => nomatch he
  | (key, value) :: rest, hmembers, e, he => by
      simp only [haveWhole, Bool.and_eq_true] at hmembers
      rcases List.mem_append.mp he with h | h
      · rcases List.mem_append.mp h with h | h
        · exact isTarget_of_mem_anchored key hmembers.1.1 e h
        · exact isTarget_of_mem_anchored value hmembers.1.2 e h
      · exact isTarget_of_mem_anchoredMembers rest hmembers.2 e h

end

end Node

namespace Document

def isWhole (d : Document) : Bool := d.root.all (·.isWhole)

theorem isWhole_root {d : Document} (hd : d.isWhole = true) {root : Node}
    (hroot : d.root = some root) : root.isWhole = true := by
  simpa [isWhole, hroot] using hd

theorem isTarget_of_target? {d : Document} (hd : d.isWhole = true) {slot : Nat} {n : Node}
    (h : d.target? slot = some n) : n.IsTarget := by
  obtain ⟨before, after, heq, _⟩ := List.lookup_eq_some_iff.mp h
  have hmem : (slot, n) ∈ d.anchors := by
    rw [← List.mem_reverse, heq]
    simp
  unfold anchors at hmem
  cases hroot : d.root with
  | none => simp [hroot] at hmem
  | some root =>
      rw [hroot] at hmem
      exact Node.isTarget_of_mem_anchored root (isWhole_root hd hroot) _ hmem

theorem isWhole_of_standing {d : Document} (hd : d.isWhole = true) {n : Node} :
    ∀ {v : Node}, v.isWhole = true → d.standing v = some n → n.isWhole = true
  | .scalar .., hv, h | .sequence .., hv, h | .mapping .., hv, h | .cut, hv, h => by
      cases h
      exact hv
  | .alias _, _, h => (isTarget_of_target? hd h).1

end Document

theorem Node.alike_self {d : Document} {n : Node} (hn : ∀ slot, n ≠ .alias slot) :
    Node.Alike ordered d Eq n n := by
  cases n with
  | scalar q form text => exact .scalar (.inl ⟨rfl, rfl⟩)
  | sequence q items => exact .sequence rfl (List.forall₂_refl items)
  | mapping q members =>
      exact .mapping rfl (.refl members)
        (List.forall₂_same.mpr fun m _ => ⟨fun _ => rfl, rfl, rfl⟩)
  | «alias» slot => exact absurd rfl (hn slot)
  | cut => exact .cut

theorem correspondence_self {d : Document} (hd : d.isWhole = true) :
    Correspondence ordered d d Eq := by
  rintro v _ rfl
  unfold Related
  cases hv : d.standing v with
  | none => exact .none
  | some n =>
      refine .some (Node.alike_self fun slot => ?_)
      rintro rfl
      cases v with
      | «alias» s => exact absurd (Document.isTarget_of_target? hd hv).2 (by simp [Node.properties])
      | scalar | sequence | mapping | cut => cases hv

/-- The part of a relation that is between nodes without a cut. -/
def OnWhole (R : Node → Node → Prop) (v₁ v₂ : Node) : Prop :=
  R v₁ v₂ ∧ v₁.isWhole = true ∧ v₂.isWhole = true

theorem wholeOnly_onWhole (R : Node → Node → Prop) : WholeOnly (OnWhole R) := fun _ _ h => h.2

theorem forall₂_onWhole {R : Node → Node → Prop} {items₁ items₂ : List Node}
    (h : List.Forall₂ R items₁ items₂) (h₁ : ∀ item ∈ items₁, item.isWhole = true)
    (h₂ : ∀ item ∈ items₂, item.isWhole = true) :
    List.Forall₂ (OnWhole R) items₁ items₂ := by
  induction h with
  | nil => exact .nil
  | cons hv hrest ih =>
      simp only [List.forall_mem_cons] at h₁ h₂
      exact .cons ⟨hv, h₁.1, h₂.1⟩ (ih h₁.2 h₂.2)

theorem forall₂_entry_onWhole {R : Node → Node → Prop} {members₁ members₂ : List (Node × Node)}
    (h : List.Forall₂ (Entry ordered R) members₁ members₂)
    (h₁ : ∀ m ∈ members₁, m.1.isWhole = true ∧ m.2.isWhole = true)
    (h₂ : ∀ m ∈ members₂, m.1.isWhole = true ∧ m.2.isWhole = true) :
    List.Forall₂ (Entry ordered (OnWhole R)) members₁ members₂ := by
  induction h with
  | nil => exact .nil
  | cons hm hrest ih =>
      simp only [List.forall_mem_cons] at h₁ h₂
      exact .cons ⟨hm.1, ⟨hm.2.1, h₁.1.1, h₂.1.1⟩, hm.2.2, h₁.1.2, h₂.1.2⟩ (ih h₁.2 h₂.2)

theorem Arranged.mem_iff {d : Document} {members₁ members : List (Node × Node)}
    (h : Arranged ordered d members₁ members) {m : Node × Node} :
    m ∈ members₁ ↔ m ∈ members := by
  cases h with
  | refl => rfl
  | perm hfree hperm hkeys => exact hperm.mem_iff

theorem Node.Alike.onWhole {d : Document} {R : Node → Node → Prop} {n₁ n₂ : Node}
    (h : Node.Alike ordered d R n₁ n₂) (h₁ : n₁.isWhole = true) (h₂ : n₂.isWhole = true) :
    Node.Alike ordered d (OnWhole R) n₁ n₂ := by
  cases h with
  | scalar h => exact .scalar h
  | sequence htag hitems =>
      exact .sequence htag
        (forall₂_onWhole hitems (Node.areWhole_iff.mp h₁) (Node.areWhole_iff.mp h₂))
  | mapping htag harranged hmembers =>
      have hmembers₁ := Node.haveWhole_iff.mp h₁
      exact .mapping htag harranged
        (forall₂_entry_onWhole hmembers (fun m hm => hmembers₁ m (harranged.mem_iff.mpr hm))
          (Node.haveWhole_iff.mp h₂))
  | cut => exact .cut

theorem Correspondence.onWhole {d₁ d₂ : Document} {R : Node → Node → Prop}
    (hR : Correspondence ordered d₁ d₂ R) (hd₁ : d₁.isWhole = true)
    (hd₂ : d₂.isWhole = true) : Correspondence ordered d₁ d₂ (OnWhole R) := by
  rintro v₁ v₂ ⟨hv, h₁, h₂⟩
  have hrel := hR hv
  unfold Related at hrel ⊢
  cases hs₁ : d₁.standing v₁ with
  | none =>
      cases hs₂ : d₂.standing v₂ with
      | none => exact .none
      | some n₂ => rw [hs₁, hs₂] at hrel; cases hrel
  | some n₁ =>
      cases hs₂ : d₂.standing v₂ with
      | none => rw [hs₁, hs₂] at hrel; cases hrel
      | some n₂ =>
          rw [hs₁, hs₂] at hrel
          cases hrel with
          | some halike =>
              exact .some (halike.onWhole (Document.isWhole_of_standing hd₁ h₁ hs₁)
                (Document.isWhole_of_standing hd₂ h₂ hs₂))

theorem Reader.Congruent.comesTo {α : Type} {r : Reader α} (hr : r.Congruent) {p : Place}
    (hd : p.document.isWhole = true) {v : Node} (hv : v.isWhole = true) :
    ∃ outcome, ComesTo (r p v) outcome := by
  have hself : Correspondence true p.document p.document (OnWhole Eq) :=
    (correspondence_self hd).onWhole hd hd
  have hbeside : Beside true p.document p.document p p :=
    ⟨rfl, rfl, rfl, fun _ => rfl, fun _ => rfl⟩
  obtain ⟨outcome, _, h, _⟩ := hr hself (wholeOnly_onWhole Eq) hbeside (hself ⟨rfl, hv, hv⟩)
  exact ⟨outcome, h⟩

/-- Members of two documents that hold the same values, aliases standing for their nodes. -/
def SameMembers (ordered : Bool) (d₁ d₂ : Document) (members₁ members₂ : List (Node × Node)) :
    Prop :=
  ∃ R, Correspondence ordered d₁ d₂ R ∧ List.Forall₂ (Entry ordered R) members₁ members₂

/-! ## Values written out -/

namespace Node

def written? : Node → Option String
  | .scalar _ _ text => some text
  | _ => none

theorem keyText?_of_written? {key : Node} {text : String} (h : key.written? = some text)
    (d : Document) : d.keyText? key = some text := by
  cases key with
  | scalar => exact h
  | sequence | mapping | «alias» | cut => cases h

/-- All keys are written out, and none of them twice. -/
def keysApart (members : List (Node × Node)) : Bool :=
  members.all (·.1.written?.isSome) && decide (members.map (·.1.written?)).Nodup

theorem nodup_of_keysApart {members : List (Node × Node)} (h : keysApart members = true)
    (d : Document) : (members.map fun m => d.keyText? m.1).Nodup := by
  simp only [keysApart, Bool.and_eq_true, List.all_eq_true, decide_eq_true_eq] at h
  obtain ⟨hwritten, hnodup⟩ := h
  have hkeys : ∀ m ∈ members, d.keyText? m.1 = m.1.written? := by
    intro m hm
    obtain ⟨text, htext⟩ := Option.isSome_iff_exists.mp (hwritten m hm)
    rw [htext]
    exact keyText?_of_written? htext d
  rwa [List.map_congr_left hkeys]

/-- Scalars with one text that are written alike, or are plain text however they are written. -/
def sameScalar (q₁ : Properties) (form₁ : ScalarForm) (q₂ : Properties) (form₂ : ScalarForm)
    (text : String) : Bool :=
  (q₁.tag = q₂.tag && form₁ = form₂) ||
    (q₁.tag = none && q₂.tag = none && Plain.resolve text = .text text)

theorem sameScalar_of_eq_true {q₁ q₂ : Properties} {form₁ form₂ : ScalarForm} {text : String}
    (h : sameScalar q₁ form₁ q₂ form₂ text = true) : SameScalar q₁ form₁ q₂ form₂ text := by
  simp only [sameScalar, Bool.or_eq_true, Bool.and_eq_true, decide_eq_true_eq] at h
  rcases h with h | ⟨⟨htag₁, htag₂⟩, htext⟩
  · exact .inl h
  · have hdenotes (form : ScalarForm) : Denotes none form text (.text text) :=
      ⟨rfl, fun _ => ⟨htext.symm, by simp [scalarValue, htext]⟩, fun _ => ⟨rfl, nofun⟩⟩
    exact .inr ⟨.text text, htag₁ ▸ hdenotes form₁, htag₂ ▸ hdenotes form₂⟩

mutual

/-- Two values without aliases are the same, up to the order of members and how plain text is
written. -/
def agrees : Node → Node → Bool
  | .scalar q₁ form₁ text₁, .scalar q₂ form₂ text₂ =>
    text₁ = text₂ && sameScalar q₁ form₁ q₂ form₂ text₂
  | .sequence q₁ items₁, .sequence q₂ items₂ => q₁.tag = q₂.tag && agreeItems items₁ items₂
  | .mapping q₁ members₁, .mapping q₂ members₂ =>
    q₁.tag = q₂.tag && keysApart members₁ && agreeMembers members₁ members₂
  | .cut, .cut => true
  | _, _ => false

def agreeItems : List Node → List Node → Bool
  | [], [] => true
  | item₁ :: rest₁, item₂ :: rest₂ => item₁.agrees item₂ && agreeItems rest₁ rest₂
  | _, _ => false

def agreeMembers : List (Node × Node) → List (Node × Node) → Bool
  | members₁, [] => members₁.isEmpty
  | members₁, (key, value) :: rest =>
    match members₁.find? (·.1.written? == key.written?) with
    | some m =>
      m.1.agrees key && m.2.agrees value &&
        agreeMembers (members₁.eraseP (·.1.written? == key.written?)) rest
    | none => false

end

def Agrees (v₁ v₂ : Node) : Prop := v₁.agrees v₂ = true

theorem forall₂_agreeItems {items₁ items₂ : List Node} (h : agreeItems items₁ items₂ = true) :
    List.Forall₂ Agrees items₁ items₂ := by
  induction items₁ generalizing items₂ with
  | nil => cases items₂ <;> simp_all [agreeItems]
  | cons item rest ih =>
      cases items₂ with
      | nil => simp [agreeItems] at h
      | cons item₂ rest₂ =>
          simp only [agreeItems, Bool.and_eq_true] at h
          exact .cons h.1 (ih h.2)

theorem exists_perm_of_agreeMembers {members₁ members₂ : List (Node × Node)}
    (h : agreeMembers members₁ members₂ = true) :
    ∃ members, members₁.Perm members ∧
      List.Forall₂ (Entry false Agrees) members members₂ := by
  induction members₂ generalizing members₁ with
  | nil =>
      rw [agreeMembers, List.isEmpty_iff] at h
      exact ⟨[], .of_eq h, .nil⟩
  | cons m₂ rest ih =>
      obtain ⟨key, value⟩ := m₂
      rw [agreeMembers] at h
      split at h
      · rename_i m hm
        simp only [Bool.and_eq_true] at h
        obtain ⟨⟨hkey, hvalue⟩, hrest⟩ := h
        obtain ⟨members, hperm, hmembers⟩ := ih hrest
        refine ⟨m :: members, ?_, .cons ⟨nofun, hkey, hvalue⟩ hmembers⟩
        obtain ⟨hself, before, after, rfl, hbefore⟩ := List.find?_eq_some_iff_append.mp hm
        rw [List.eraseP_append_right _ (by simpa using hbefore), List.eraseP_cons, hself] at hperm
        exact List.perm_middle.trans (hperm.cons m)
      · cases h

theorem Agrees.alike {v₁ v₂ : Node} (h : v₁.Agrees v₂) (d : Document) :
    Node.Alike false d Agrees v₁ v₂ := by
  unfold Agrees at h
  cases v₁ <;> cases v₂ <;>
    simp only [agrees, Bool.and_eq_true, decide_eq_true_eq, reduceCtorEq] at h
  · obtain ⟨rfl, hscalar⟩ := h
    exact .scalar (sameScalar_of_eq_true hscalar)
  · exact .sequence h.1 (forall₂_agreeItems h.2)
  · obtain ⟨⟨htag, hkeys⟩, hmembers⟩ := h
    obtain ⟨members, hperm, hmembers⟩ := exists_perm_of_agreeMembers hmembers
    exact .mapping htag (.perm rfl hperm (nodup_of_keysApart hkeys d)) hmembers
  · exact .cut

end Node

theorem sameMembers_of_agree (d₁ d₂ : Document) {members₁ members₂ : List (Node × Node)}
    (hkeys : Node.agreeItems (members₁.map Prod.fst) (members₂.map Prod.fst) = true)
    (hvalues : Node.agreeItems (members₁.map Prod.snd) (members₂.map Prod.snd) = true) :
    SameMembers false d₁ d₂ members₁ members₂ := by
  have hk := Node.forall₂_agreeItems hkeys
  have hv := Node.forall₂_agreeItems hvalues
  rw [List.forall₂_map_left_iff, List.forall₂_map_right_iff] at hk hv
  exact ⟨Node.Agrees, fun _ _ h => (h.alike d₁).related,
    hk.mp (fun _ _ hkey hvalue => ⟨nofun, hkey, hvalue⟩) hv⟩

end Yaml

end ClusterMigration
