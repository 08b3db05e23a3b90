import ClusterMigration.Proofs.Json.Numerals
import Mathlib.Data.List.DropRight
import Mathlib.Data.List.Forall2

/-!
# Reading what stands in a text

Where a text is written for a value, that value is read, whatever stands behind the text and
whatever blanks stand between its parts. Texts and keys are read as they were written. Numbers
may come back as other numbers, or not at all, each on its own: what is read is put together
from what is read in the place of each part.
-/

namespace ClusterMigration

namespace Json

/-- Induction on values, with the items and members of containers at once. -/
theorem induction {P : Json → Prop} (hplain : ∀ v : Json, v.isPlain = true → P v)
    (hstring : ∀ s, P (string s)) (harray : ∀ vs, (∀ v ∈ vs, P v) → P (array vs))
    (hobject : ∀ ms : List (String × Json), (∀ m ∈ ms, P m.2) → P (object ms)) : ∀ v, P v
  | null => hplain null rfl
  | bool b => hplain (bool b) rfl
  | integer i => hplain (integer i) rfl
  | float x => hplain (float x) rfl
  | string s => hstring s
  | array vs => harray vs fun v _ => induction hplain hstring harray hobject v
  | object ms => hobject ms fun m _ => induction hplain hstring harray hobject m.2
termination_by v => sizeOf v
decreasing_by
  · rename_i hv
    have hlt := List.sizeOf_lt_of_mem hv
    simp only [array.sizeOf_spec]
    omega
  · rename_i hm
    have hlt := List.sizeOf_lt_of_mem hm
    obtain ⟨key, v⟩ := m
    simp only [object.sizeOf_spec, Prod.mk.sizeOf_spec] at hlt ⊢
    omega

namespace Parser

open Printer

/-! ## Texts -/

private theorem hexDigits4_spec {n : Nat} (h : n < 32) :
    ∃ a b c d, hexDigits4 n = [a, b, c, d] ∧ hex4? a b c d = some n := by
  have hall : ∀ n < 32,
      hexDigits4 n = ['0', '0', Nat.digitChar (n / 16), Nat.digitChar (n % 16)] ∧
        hex4? '0' '0' (Nat.digitChar (n / 16)) (Nat.digitChar (n % 16)) = some n := by decide
  exact ⟨_, _, _, _, hall n h⟩

private theorem stringBody_escape (c : Char) (acc rest : List Char) :
    stringBody acc (escape c ++ rest) = stringBody (c :: acc) rest := by
  unfold escape
  split
  · simp [stringBody, simpleEscape?]
  · simp [stringBody, simpleEscape?]
  · simp [stringBody, simpleEscape?]
  · simp [stringBody, simpleEscape?]
  · simp [stringBody, simpleEscape?]
  · simp [stringBody, simpleEscape?]
  · simp [stringBody, simpleEscape?]
  · split
    · rename_i h
      obtain ⟨a, b, x, d, hdigits, hhex⟩ := hexDigits4_spec h
      have hsurrogate : isTrailSurrogate c.toNat = false ∧ isLeadSurrogate c.toNat = false := by
        simp [isTrailSurrogate, isLeadSurrogate]
        omega
      simp [hdigits, stringBody, hhex, hsurrogate]
    · rename_i hquote hslash _ _ _ _ _ h
      rw [List.singleton_append, stringBody.eq_4 _ _ _ hquote (fun _ _ _ _ _ hc _ => hslash hc)
        (fun _ _ hc _ => hslash hc), if_neg h]

theorem stringBody_quoted (chars acc rest : List Char) :
    stringBody acc (chars.flatMap escape ++ '"' :: rest) =
      some (String.ofList (acc.reverse ++ chars), rest) := by
  induction chars generalizing acc with
  | nil => simp [stringBody]
  | cons c chars ih =>
      rw [List.flatMap_cons, List.append_assoc, stringBody_escape, ih]
      simp

/-! ## Values -/

theorem skipBlanks_cons {c : Char} (rest : List Char)
    (hc : (c = ' ' || c = '\n' || c = '\t' || c = '\r') = false) :
    skipBlanks (c :: rest) = c :: rest := by
  simp [skipBlanks, hc]

theorem isNumeral_not_blank {c : Char} (hc : isNumeral c = true) :
    (c = ' ' || c = '\n' || c = '\t' || c = '\r') = false := by
  by_contra h
  simp only [Bool.not_eq_false, Bool.or_eq_true, decide_eq_true_eq] at h
  rcases h with ((rfl | rfl) | rfl) | rfl <;> cases hc

section

variable {depth steps : Nat} {tail rest : List Char} {w : Json}

theorem value_numeral {c : Char} (hc : isNumeral c = true) (text : List Char) :
    value depth (steps + 1) (c :: text) =
      if c = '-' then number true text else number false (c :: text) := by
  rw [value, skipBlanks_cons _ (isNumeral_not_blank hc)]
  split
  · rename_i heq
    cases heq
    cases hc
  · rename_i heq
    cases heq
    cases hc
  · rename_i heq
    cases heq
    cases hc
  · rename_i heq
    cases heq
    rfl
  · rename_i heq
    cases heq
    cases hc
  · rename_i heq
    cases heq
    cases hc
  · rename_i heq
    cases heq
    cases hc
  · rename_i hminus _ _ _
    rw [if_neg]
    rintro rfl
    exact hminus _ rfl

theorem value_of_numeral {text : List Char} (htext : Numeral text) (hne : text ≠ [])
    (h : value depth steps text = some (w, rest)) : w.isNumber = true ∧ Numeral rest := by
  cases steps with
  | zero => cases h
  | succ steps =>
      have hnil : Delimited [] := by simp [Delimited]
      obtain ⟨c, chars, rfl⟩ := List.exists_cons_of_ne_nil hne
      obtain ⟨hc, hrest⟩ := List.forall_mem_cons.mp htext
      have hspec : w.isNumber = true ∧ Left [] rest := by
        rw [value_numeral hc] at h
        split at h
        · exact number_spec hnil ⟨chars, hrest, by simp⟩ h
        · exact number_spec hnil ⟨c :: chars, htext, by simp⟩ h
      obtain ⟨hnumber, piece, hpiece, rfl⟩ := hspec
      exact ⟨hnumber, by simpa using hpiece⟩

theorem value_scalar {v : Json} (hv : v.isPlain = true)
    (h : value depth steps (scalar v).toList = some (w, rest)) :
    w.isPlain = true ∧ Numeral rest := by
  cases steps with
  | zero => cases h
  | succ steps =>
      rcases scalar_plain hv with hword | ⟨hnumeral, hne⟩
      · simp only [List.mem_cons, List.not_mem_nil, or_false] at hword
        rcases hword with hword | hword | hword <;> rw [hword] at h <;>
          simp [value, skipBlanks, expect] at h
        all_goals
          obtain ⟨rfl, rfl⟩ := h
          exact ⟨rfl, .nil⟩
      · obtain ⟨hnumber, hrest⟩ := value_of_numeral hnumeral hne h
        exact ⟨isPlain_of_isNumber hnumber, hrest⟩

theorem value_scalar_append {v : Json} (hv : v.isPlain = true) (htail : Delimited tail) :
    value depth (steps + 1) ((scalar v).toList ++ tail) =
      (value 1 1 (scalar v).toList).map (before tail) := by
  rcases scalar_plain hv with hword | ⟨hnumeral, hne⟩
  · simp only [List.mem_cons, List.not_mem_nil, or_false] at hword
    rcases hword with hword | hword | hword <;> rw [hword] <;>
      simp [value, skipBlanks, expect, before]
  · obtain ⟨c, chars, hchars⟩ := List.exists_cons_of_ne_nil hne
    rw [hchars] at hnumeral ⊢
    have hc := (List.forall_mem_cons.mp hnumeral).1
    rw [List.cons_append, value_numeral hc, value_numeral hc]
    split
    · exact htail.number chars
    · exact htail.number (c :: chars)

theorem value_string (s : String) :
    value depth (steps + 1) ((quote s).toList ++ tail) = some (string s, tail) := by
  have htext : (quote s).toList ++ tail = '"' :: (s.toList.flatMap escape ++ '"' :: tail) := by
    simp [quote]
  rw [value, htext, skipBlanks_cons _ (by decide)]
  simp [stringBody_quoted]

theorem delimited_cons {c : Char} (hc : isNumeral c = false) : Delimited (c :: tail) := by
  intro d hd
  cases hd
  exact hc

theorem compact_of_isPlain {v : Json} (hv : v.isPlain = true) : compact v = scalar v := by
  cases v <;> first | rfl | cases hv

theorem scalar_head {v : Json} (hv : v.isPlain = true) :
    ∃ c chars, (scalar v).toList = c :: chars ∧
      (c = ' ' || c = '\n' || c = '\t' || c = '\r') = false ∧ c ≠ ']' := by
  rcases scalar_plain hv with hword | ⟨hnumeral, hne⟩
  · simp only [List.mem_cons, List.not_mem_nil, or_false] at hword
    rcases hword with hword | hword | hword <;> rw [hword] <;>
      exact ⟨_, _, rfl, by decide, by decide⟩
  · obtain ⟨c, chars, hchars⟩ := List.exists_cons_of_ne_nil hne
    have hc := hnumeral c (by simp [hchars])
    refine ⟨c, chars, hchars, isNumeral_not_blank hc, ?_⟩
    rintro rfl
    cases hc

/-! ## Blanks -/

/-- What may stand between the parts of a document. -/
def Blanks (chars : List Char) : Prop :=
  ∀ c ∈ chars, (c = ' ' || c = '\n' || c = '\t' || c = '\r') = true

theorem Blanks.nil : Blanks [] := by simp [Blanks]

theorem blanks_space : Blanks [' '] := by simp [Blanks]

theorem blanks_newline (depth : Nat) : Blanks (newline depth).toList := by
  have htext : (newline depth).toList = ['\n'] ++ List.replicate (2 * depth) ' ' := by
    simp [newline]
  intro c hc
  rcases List.mem_append.mp (htext ▸ hc) with hc | hc
  · rw [List.mem_singleton.mp hc]
    decide
  · rw [List.eq_of_mem_replicate hc]
    decide

variable {blanks s t : List Char}

theorem skipBlanks_append (hblanks : Blanks blanks) (text : List Char) :
    skipBlanks (blanks ++ text) = skipBlanks text :=
  List.dropWhile_append_of_pos hblanks

theorem skipBlanks_skipBlanks (text : List Char) :
    skipBlanks (skipBlanks text) = skipBlanks text :=
  List.dropWhile_idempotent _ text

theorem skipBlanks_append_of_cons {c : Char} {chars text : List Char}
    (h : skipBlanks text = c :: chars) (more : List Char) :
    skipBlanks (text ++ more) = c :: (chars ++ more) := by
  unfold skipBlanks at h ⊢
  rw [List.dropWhile_append, h]
  rfl

theorem Blanks.delimited (hblanks : Blanks blanks) (htail : Delimited tail) :
    Delimited (blanks ++ tail) := by
  cases blanks with
  | nil => exact htail
  | cons c blanks =>
      have hc := hblanks c (List.mem_cons_self ..)
      apply delimited_cons
      by_contra hnumeral
      rw [isNumeral_not_blank (Bool.of_not_eq_false hnumeral)] at hc
      cases hc

theorem value_congr (h : skipBlanks s = skipBlanks t) :
    value depth steps s = value depth steps t := by
  cases steps with
  | zero => rfl
  | succ steps => rw [value, value, h]

theorem members_congr (h : skipBlanks s = skipBlanks t) (acc : List (String × Json)) :
    members depth steps acc s = members depth steps acc t := by
  cases steps with
  | zero => rfl
  | succ steps => rw [members, members, h]

end

def afterItem (depth steps : Nat) (acc : List Json) : List Char → Option (List Json × List Char)
  | ',' :: rest => items depth steps acc rest
  | ']' :: rest => some (acc.reverse, rest)
  | _ => none

def afterMember (depth steps : Nat) (acc : List (String × Json)) :
    List Char → Option (List (String × Json) × List Char)
  | ',' :: rest => members depth steps acc rest
  | '\x7d' :: rest => some (acc.reverse, rest)
  | _ => none

theorem afterItem_numeral {depth steps : Nat} {acc : List Json} {d : Char} {more : List Char}
    (hd : isNumeral d = true) : afterItem depth steps acc (d :: more) = none := by
  unfold afterItem
  split
  · rename_i hcons
    cases hcons
    cases hd
  · rename_i hcons
    cases hcons
    cases hd
  · rfl

theorem afterMember_numeral {depth steps : Nat} {acc : List (String × Json)} {d : Char}
    {more : List Char} (hd : isNumeral d = true) :
    afterMember depth steps acc (d :: more) = none := by
  unfold afterMember
  split
  · rename_i hcons
    cases hcons
    cases hd
  · rename_i hcons
    cases hcons
    cases hd
  · rfl

end Parser

/-! ## What is read again -/

def rereadPlain (v : Json) : Option Json :=
  match Parser.value 1 1 (Printer.scalar v).toList with
  | some (w, []) => some w
  | _ => none

mutual

/-- What a value in compact form is read as. The number bounds the nesting. -/
def reread (depth : Nat) : Json → Option Json
  | string s => some (string s)
  | array vs => if depth ≤ 1 then none else (rereadItems (depth - 1) vs).map array
  | object ms => if depth ≤ 1 then none else (rereadMembers (depth - 1) ms).map object
  | v => rereadPlain v

def rereadItems (depth : Nat) : List Json → Option (List Json)
  | [] => some []
  | v :: vs => do return (← reread depth v) :: (← rereadItems depth vs)

def rereadMembers (depth : Nat) : List (String × Json) → Option (List (String × Json))
  | [] => some []
  | (key, v) :: ms => do return (key, ← reread depth v) :: (← rereadMembers depth ms)

end

theorem reread_of_isPlain {depth : Nat} {v : Json} (hv : v.isPlain = true) :
    reread depth v = rereadPlain v := by
  cases v <;> first | rfl | cases hv

namespace Parser

open Printer

/-- A piece of a number stops what is done behind a value. -/
def Stops {α : Type} (next : Json → List Char → Option α) : Prop :=
  ∀ w d more, isNumeral d = true → next w (d :: more) = none

/-- Where the text stands, what is read again of the value is read, and the reader goes on
behind it. -/
structure ReadsAs (v : Json) (text : List Char) : Prop where
  opens : ∃ c chars, skipBlanks text = c :: chars ∧ c ≠ ']'
  reads {α : Type} {next : Json → List Char → Option α} {depth steps : Nat} {tail : List Char}
    (hsteps : text.length ≤ steps) (htail : Delimited tail) (hstops : Stops next) :
    (value depth steps (text ++ tail)).bind (fun r => next r.1 (skipBlanks r.2)) =
      (reread depth v).bind (next · (skipBlanks tail))

theorem readsAs_plain {v : Json} (hv : v.isPlain = true) : ReadsAs v (scalar v).toList := by
  obtain ⟨c, chars, hhead, hblank, hclose⟩ := scalar_head hv
  refine ⟨⟨c, chars, by rw [hhead, skipBlanks_cons _ hblank], hclose⟩, ?_⟩
  intro α next depth steps tail hsteps htail hstops
  rw [reread_of_isPlain hv, rereadPlain]
  cases steps with
  | zero => simp [hhead] at hsteps
  | succ steps =>
      rw [value_scalar_append hv htail]
      cases hvalue : value 1 1 (scalar v).toList with
      | none => rfl
      | some r =>
          obtain ⟨w, rest⟩ := r
          have hrest := (value_scalar hv hvalue).2
          cases rest with
          | nil => simp only [before, Option.map_some, Option.bind_some, List.nil_append]
          | cons d more =>
              have hd := hrest d (List.mem_cons_self ..)
              simp only [before, Option.map_some, Option.bind_some, List.cons_append,
                skipBlanks_cons _ (isNumeral_not_blank hd), hstops w d _ hd, Option.bind_none]

theorem readsAs_string (s : String) : ReadsAs (.string s) (quote s).toList := by
  have htext : (quote s).toList = '"' :: (s.toList.flatMap escape ++ ['"']) := by simp [quote]
  refine ⟨⟨'"', _, by rw [htext, skipBlanks_cons _ (by decide)], by decide⟩, ?_⟩
  intro α next depth steps tail hsteps htail hstops
  cases steps with
  | zero => simp [htext] at hsteps
  | succ steps => rw [value_string, Option.bind_some, reread, Option.bind_some]

theorem ReadsAs.behind {v : Json} {blanks text : List Char} (h : ReadsAs v text)
    (hblanks : Blanks blanks) : ReadsAs v (blanks ++ text) := by
  refine ⟨by rw [skipBlanks_append hblanks]; exact h.opens, ?_⟩
  intro α next depth steps tail hsteps htail hstops
  rw [List.append_assoc, value_congr (skipBlanks_append hblanks (text ++ tail))]
  exact h.reads (by simp at hsteps; omega) htail hstops

def MemberReadsAs (m : String × Json) (text : List Char) : Prop :=
  ∃ blanks chars, Blanks blanks ∧ ReadsAs m.2 chars ∧
    text = blanks ++ ((quote m.1).toList ++ ':' :: chars)

theorem MemberReadsAs.opens {m : String × Json} {text : List Char} (h : MemberReadsAs m text) :
    ∃ chars, skipBlanks text = '"' :: chars := by
  obtain ⟨blanks, chars, hblanks, -, rfl⟩ := h
  have hkey : (quote m.1).toList ++ ':' :: chars =
      '"' :: (m.1.toList.flatMap escape ++ '"' :: ':' :: chars) := by simp [quote]
  exact ⟨_, by rw [skipBlanks_append hblanks, hkey, skipBlanks_cons _ (by decide)]⟩

section

variable {depth steps : Nat} {tail blanks text : List Char}

theorem items_eq (acc : List Json) (text : List Char) :
    items depth (steps + 1) acc text = (value depth steps text).bind fun r =>
      afterItem depth steps (r.1 :: acc) (skipBlanks r.2) := by
  rw [items]
  rfl

theorem items_congr {s t : List Char} (h : skipBlanks s = skipBlanks t) (acc : List Json) :
    items depth steps acc s = items depth steps acc t := by
  cases steps with
  | zero => rfl
  | succ steps => rw [items_eq, items_eq, value_congr h]

theorem members_eq (acc : List (String × Json)) (key : String) (text : List Char) :
    members depth (steps + 1) acc ((quote key).toList ++ ':' :: text) =
      (value depth steps text).bind fun r =>
        afterMember depth steps ((key, r.1) :: acc) (skipBlanks r.2) := by
  have htext : (quote key).toList ++ ':' :: text =
      '"' :: (key.toList.flatMap escape ++ '"' :: ':' :: text) := by
    simp [quote]
  rw [members, htext, skipBlanks_cons _ (by decide)]
  simp only [stringBody_quoted, List.reverse_nil, List.nil_append, String.ofList_toList,
    Option.bind_eq_bind, Option.bind_some]
  rw [skipBlanks_cons _ (by decide)]
  rfl

section

variable {c : Char} {more : List Char} (hblanks : Blanks blanks) (hnumeral : isNumeral c = false)
  (hblank : (c = ' ' || c = '\n' || c = '\t' || c = '\r') = false)

include hblanks hnumeral hblank

theorem items_step {v : Json} (hv : ReadsAs v text) (hsteps : text.length ≤ steps)
    (acc : List Json) :
    items depth (steps + 1) acc (text ++ (blanks ++ c :: more)) =
      (reread depth v).bind fun w => afterItem depth steps (w :: acc) (c :: more) := by
  have hstops : Stops fun w => afterItem depth steps (w :: acc) :=
    fun _ _ _ hd => afterItem_numeral hd
  rw [items_eq, hv.reads hsteps (hblanks.delimited (delimited_cons hnumeral)) hstops,
    skipBlanks_append hblanks, skipBlanks_cons more hblank]

theorem members_step {m : String × Json} (hm : MemberReadsAs m text)
    (hsteps : text.length ≤ steps) (acc : List (String × Json)) :
    members depth (steps + 1) acc (text ++ (blanks ++ c :: more)) =
      (reread depth m.2).bind fun w =>
        afterMember depth steps ((m.1, w) :: acc) (c :: more) := by
  obtain ⟨before, chars, hbefore, hvalue, rfl⟩ := hm
  have hlength : chars.length ≤ steps := by
    simp only [List.length_append, List.length_cons] at hsteps
    omega
  have hstops : Stops fun w => afterMember depth steps ((m.1, w) :: acc) :=
    fun _ _ _ hd => afterMember_numeral hd
  rw [List.append_assoc, members_congr (skipBlanks_append hbefore _), List.append_assoc,
    List.cons_append, members_eq,
    hvalue.reads hlength (hblanks.delimited (delimited_cons hnumeral)) hstops,
    skipBlanks_append hblanks, skipBlanks_cons more hblank]

end

section

variable (hblanks : Blanks blanks)

include hblanks

theorem items_texts {vs : List Json} {texts : List (List Char)}
    (h : List.Forall₂ ReadsAs vs texts) (hne : vs ≠ []) (acc : List Json)
    (hsteps : ([','].intercalate texts).length < steps) :
    items depth steps acc ([','].intercalate texts ++ (blanks ++ ']' :: tail)) =
      (rereadItems depth vs).map fun ws => (acc.reverse ++ ws, tail) := by
  induction h generalizing steps acc with
  | nil => exact absurd rfl hne
  | @cons v text vs texts hv hvs ih =>
      cases steps with
      | zero => cases hsteps
      | succ steps =>
          cases hvs with
          | nil =>
              rw [List.intercalate_singleton] at hsteps ⊢
              rw [items_step hblanks (by decide) (by decide) hv (by omega)]
              simp only [rereadItems]
              cases reread depth v <;> simp [afterItem]
          | @cons _ text' _ texts =>
              have htext :
                  [','].intercalate (text :: text' :: texts) ++ (blanks ++ ']' :: tail) =
                    text ++ ([] ++ ',' ::
                      ([','].intercalate (text' :: texts) ++ (blanks ++ ']' :: tail))) := by
                simp [List.intercalate_cons_cons]
              simp only [List.intercalate_cons_cons, List.length_append, List.length_cons,
                List.length_nil] at hsteps
              rw [htext, items_step .nil (by decide) (by decide) hv (by omega), rereadItems]
              cases reread depth v with
              | none => rfl
              | some w =>
                  simp only [Option.bind_some, afterItem]
                  rw [ih (List.cons_ne_nil _ _) _ (by omega)]
                  cases rereadItems depth (_ :: _) <;> simp

theorem members_texts {ms : List (String × Json)} {texts : List (List Char)}
    (h : List.Forall₂ MemberReadsAs ms texts) (hne : ms ≠ []) (acc : List (String × Json))
    (hsteps : ([','].intercalate texts).length < steps) :
    members depth steps acc ([','].intercalate texts ++ (blanks ++ '\x7d' :: tail)) =
      (rereadMembers depth ms).map fun ns => (acc.reverse ++ ns, tail) := by
  induction h generalizing steps acc with
  | nil => exact absurd rfl hne
  | @cons m text ms texts hm hms ih =>
      obtain ⟨key, v⟩ := m
      cases steps with
      | zero => cases hsteps
      | succ steps =>
          cases hms with
          | nil =>
              rw [List.intercalate_singleton] at hsteps ⊢
              rw [members_step hblanks (by decide) (by decide) hm (by omega)]
              simp only [rereadMembers]
              cases reread depth v <;> simp [afterMember]
          | @cons _ text' _ texts =>
              have htext :
                  [','].intercalate (text :: text' :: texts) ++ (blanks ++ '\x7d' :: tail) =
                    text ++ ([] ++ ',' ::
                      ([','].intercalate (text' :: texts) ++ (blanks ++ '\x7d' :: tail))) := by
                simp [List.intercalate_cons_cons]
              simp only [List.intercalate_cons_cons, List.length_append, List.length_cons,
                List.length_nil] at hsteps
              rw [htext, members_step .nil (by decide) (by decide) hm (by omega), rereadMembers]
              cases reread depth v with
              | none => rfl
              | some w =>
                  simp only [Option.bind_some, afterMember]
                  rw [ih (List.cons_ne_nil _ _) _ (by omega)]
                  cases rereadMembers depth (_ :: _) <;> simp

end

end

theorem intercalate_cons (sep text : List Char) (texts : List (List Char)) :
    sep.intercalate (text :: texts) = text ++ texts.flatMap (sep ++ ·) := by
  induction texts generalizing text with
  | nil => simp
  | cons t texts ih =>
      rw [List.intercalate_cons_cons, ih, List.flatMap_cons, List.append_assoc, List.append_assoc]

theorem readsAs_array {vs : List Json} {texts : List (List Char)} {blanks : List Char}
    (h : List.Forall₂ ReadsAs vs texts) (hblanks : Blanks blanks) :
    ReadsAs (.array vs) ('[' :: ([','].intercalate texts ++ (blanks ++ [']']))) := by
  refine ⟨⟨'[', _, skipBlanks_cons _ (by decide), by decide⟩, ?_⟩
  intro α next depth steps tail hsteps htail hstops
  cases steps with
  | zero => simp at hsteps
  | succ steps =>
      have htext : '[' :: ([','].intercalate texts ++ (blanks ++ [']'])) ++ tail =
          '[' :: ([','].intercalate texts ++ (blanks ++ ']' :: tail)) := by simp
      rw [htext, value, skipBlanks_cons _ (by decide), reread]
      simp only
      split
      · rfl
      · cases h with
        | nil =>
            rw [List.intercalate_nil, List.nil_append, skipBlanks_append hblanks,
              skipBlanks_cons tail (by decide)]
            rfl
        | @cons v text vs texts hv hvs =>
            have hlength : ([','].intercalate (text :: texts)).length < steps := by
              simp only [List.length_cons, List.length_append] at hsteps
              omega
            obtain ⟨c, chars, hopen, hclose⟩ := hv.opens
            have hhead := skipBlanks_append_of_cons hopen
              (texts.flatMap ([','] ++ ·) ++ (blanks ++ ']' :: tail))
            rw [← List.append_assoc, ← intercalate_cons] at hhead
            rw [hhead]
            split
            · rename_i hcons
              cases hcons
              exact absurd rfl hclose
            · rw [← hhead, items_congr (skipBlanks_skipBlanks _),
                items_texts hblanks (.cons hv hvs) (List.cons_ne_nil _ _) [] hlength]
              cases rereadItems (depth - 1) (v :: vs) <;> rfl

theorem readsAs_object {ms : List (String × Json)} {texts : List (List Char)}
    {blanks : List Char} (h : List.Forall₂ MemberReadsAs ms texts) (hblanks : Blanks blanks) :
    ReadsAs (.object ms) ('\x7b' :: ([','].intercalate texts ++ (blanks ++ ['\x7d']))) := by
  refine ⟨⟨'\x7b', _, skipBlanks_cons _ (by decide), by decide⟩, ?_⟩
  intro α next depth steps tail hsteps htail hstops
  cases steps with
  | zero => simp at hsteps
  | succ steps =>
      have htext : '\x7b' :: ([','].intercalate texts ++ (blanks ++ ['\x7d'])) ++ tail =
          '\x7b' :: ([','].intercalate texts ++ (blanks ++ '\x7d' :: tail)) := by simp
      rw [htext, value, skipBlanks_cons _ (by decide), reread]
      simp only
      split
      · rfl
      · cases h with
        | nil =>
            rw [List.intercalate_nil, List.nil_append, skipBlanks_append hblanks,
              skipBlanks_cons tail (by decide)]
            rfl
        | @cons m text ms texts hm hms =>
            have hlength : ([','].intercalate (text :: texts)).length < steps := by
              simp only [List.length_cons, List.length_append] at hsteps
              omega
            obtain ⟨chars, hopen⟩ := hm.opens
            have hhead := skipBlanks_append_of_cons hopen
              (texts.flatMap ([','] ++ ·) ++ (blanks ++ '\x7d' :: tail))
            rw [← List.append_assoc, ← intercalate_cons] at hhead
            rw [hhead]
            split
            · rename_i hcons
              cases hcons
            · rw [← hhead, members_congr (skipBlanks_skipBlanks _),
                members_texts hblanks (.cons hm hms) (List.cons_ne_nil _ _) [] hlength]
              cases rereadMembers (depth - 1) (m :: ms) <;> rfl

end Parser

end Json

end ClusterMigration
