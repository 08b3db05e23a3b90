import ClusterMigration.Json.Parser
import ClusterMigration.Json.Printer

/-!
# Numbers as they are written and read

What is written for a plain value is a word or a run of characters of numbers, and of such
a run the reader takes a beginning. So what it leaves is what was written behind it, perhaps
after a piece of the number.
-/

namespace ClusterMigration

namespace Json

/-- Neither a text nor a container. -/
def isPlain : Json → Bool
  | null | bool _ | integer _ | float _ => true
  | _ => false

def isNumber : Json → Bool
  | integer _ | float _ => true
  | _ => false

theorem isPlain_of_isNumber {v : Json} (h : v.isNumber = true) : v.isPlain = true := by
  cases v <;> first | rfl | cases h

namespace Parser

open Printer

/-! ## Numbers that are read -/

def isNumeral (c : Char) : Bool :=
  Decimal.isDigit c || c = '.' || c = '-' || c = '+' || c = 'e' || c = 'E'

def Delimited (tail : List Char) : Prop := ∀ c ∈ tail.head?, isNumeral c = false

def Numeral (chars : List Char) : Prop := ∀ c ∈ chars, isNumeral c = true

/-- What follows a value is left, and before it perhaps a piece of a number. -/
def Left (tail rest : List Char) : Prop :=
  ∃ chars, Numeral chars ∧ rest = chars ++ tail

theorem isNumeral_of_isDigit {c : Char} (h : Decimal.isDigit c = true) : isNumeral c = true := by
  simp [isNumeral, h]

section

variable {tail text rest : List Char} {negative : Bool} {significand : Nat} {power : Int}
variable {w : Json}

theorem Left.uncons (htail : Delimited tail) {c : Char} (h : Left tail (c :: text))
    (hc : isNumeral c = true) : Left tail text := by
  obtain ⟨chars, hchars, heq⟩ := h
  cases chars with
  | nil =>
      have hnot := htail c (by rw [← List.nil_append tail, ← heq]; rfl)
      rw [hc] at hnot
      cases hnot
  | cons d chars =>
      cases heq
      exact ⟨chars, fun x hx => hchars x (List.mem_cons_of_mem _ hx), rfl⟩

theorem Left.dropWhile (htail : Delimited tail) (h : Left tail text) :
    Left tail (text.dropWhile Decimal.isDigit) := by
  induction text with
  | nil => exact h
  | cons c text ih =>
      rw [List.dropWhile_cons]
      split
      · rename_i hc
        exact ih (h.uncons htail (isNumeral_of_isDigit hc))
      · exact h

theorem isNumber_of_scaled (h : scaled negative significand power = some w) :
    w.isNumber = true := by
  unfold scaled at h
  simp only at h
  split at h
  · cases h; rfl
  · split at h
    · cases h
    · split at h
      · split at h
        · cases h; rfl
        · cases h
      · cases h; rfl

theorem exponentSign_spec (htail : Delimited tail) (htext : Left tail text) :
    Left tail (exponentSign text).2 := by
  unfold exponentSign
  split
  · exact htext.uncons htail (by decide)
  · exact htext.uncons htail (by decide)
  · exact htext

theorem exponentPart_spec (htail : Delimited tail) (htext : Left tail text)
    (h : exponentPart negative significand power text = some (w, rest)) :
    w.isNumber = true ∧ Left tail rest := by
  have hrest := (exponentSign_spec htail htext).dropWhile htail
  unfold exponentPart at h
  simp only at h
  split at h
  · cases h
  · split at h
    · obtain ⟨v, hv, heq⟩ := Option.map_eq_some_iff.mp h
      cases heq
      exact ⟨isNumber_of_scaled hv, hrest⟩
    · split at h
      · cases h
      · cases h
        exact ⟨rfl, hrest⟩

theorem afterDigits_spec (htail : Delimited tail) (htext : Left tail text)
    (h : afterDigits negative significand power text = some (w, rest)) :
    w.isNumber = true ∧ Left tail rest := by
  unfold afterDigits at h
  split at h
  · split at h
    · rename_i c more hc
      refine exponentPart_spec htail (htext.uncons htail ?_) h
      rcases hc with rfl | rfl <;> rfl
    · obtain ⟨v, hv, heq⟩ := Option.map_eq_some_iff.mp h
      cases heq
      exact ⟨isNumber_of_scaled hv, htext⟩
  · obtain ⟨v, hv, heq⟩ := Option.map_eq_some_iff.mp h
    cases heq
    exact ⟨isNumber_of_scaled hv, htext⟩

theorem fractionPart_spec (htail : Delimited tail) (htext : Left tail text)
    (h : fractionPart negative significand power text = some (w, rest)) :
    w.isNumber = true ∧ Left tail rest := by
  unfold fractionPart at h
  simp only at h
  split at h
  · cases h
  · exact afterDigits_spec htail (htext.dropWhile htail) h

theorem number_spec (htail : Delimited tail) (htext : Left tail text)
    (h : number negative text = some (w, rest)) : w.isNumber = true ∧ Left tail rest := by
  unfold number at h
  simp only at h
  split at h
  · cases h
  · cases h
  · split at h
    · rename_i more heq
      have hmore := htext.dropWhile htail
      rw [heq] at hmore
      exact fractionPart_spec htail (hmore.uncons htail (by decide)) h
    · split at h
      · cases h
        exact ⟨rfl, htext.dropWhile htail⟩
      · split at h
        · cases h
          exact ⟨rfl, htext.dropWhile htail⟩
        · exact afterDigits_spec htail (htext.dropWhile htail) h

end

/-! ## Numbers with text behind them -/

section

variable {tail : List Char}

def before (tail : List Char) (r : Json × List Char) : Json × List Char := (r.1, r.2 ++ tail)

theorem Delimited.takeWhile (htail : Delimited tail) (text : List Char) :
    (text ++ tail).takeWhile Decimal.isDigit = text.takeWhile Decimal.isDigit := by
  induction text with
  | nil =>
      cases tail with
      | nil => rfl
      | cons c tail =>
          have hc : Decimal.isDigit c = false := by
            cases h : Decimal.isDigit c with
            | false => rfl
            | true => exact (isNumeral_of_isDigit h).symm.trans (htail c rfl)
          simp [hc]
  | cons c text ih => simp only [List.cons_append, List.takeWhile_cons, ih]

theorem Delimited.dropWhile (htail : Delimited tail) (text : List Char) :
    (text ++ tail).dropWhile Decimal.isDigit = text.dropWhile Decimal.isDigit ++ tail := by
  have hwhole : (text ++ tail).takeWhile Decimal.isDigit ++
      (text ++ tail).dropWhile Decimal.isDigit =
        text.takeWhile Decimal.isDigit ++ (text.dropWhile Decimal.isDigit ++ tail) := by
    rw [List.takeWhile_append_dropWhile, ← List.append_assoc, List.takeWhile_append_dropWhile]
  rw [htail.takeWhile] at hwhole
  exact List.append_cancel_left hwhole

theorem Delimited.exponentSign (htail : Delimited tail) (text : List Char) :
    exponentSign (text ++ tail) = ((exponentSign text).1, (exponentSign text).2 ++ tail) := by
  cases text with
  | nil =>
      rw [List.nil_append]
      unfold Parser.exponentSign
      split
      · cases htail _ rfl
      · cases htail _ rfl
      · rfl
  | cons c text =>
      rw [List.cons_append]
      unfold Parser.exponentSign
      split
      · rename_i heq
        cases heq
        rfl
      · rename_i heq
        cases heq
        rfl
      · rename_i hplus hminus
        split
        · rename_i heq
          cases heq
          exact absurd rfl (hplus _)
        · rename_i heq
          cases heq
          exact absurd rfl (hminus _)
        · rfl

variable {negative : Bool} {significand : Nat} {power : Int}

theorem Delimited.exponentPart (htail : Delimited tail) (text : List Char) :
    exponentPart negative significand power (text ++ tail) =
      (exponentPart negative significand power text).map (before tail) := by
  unfold Parser.exponentPart
  simp only [htail.exponentSign, htail.takeWhile, htail.dropWhile]
  split
  · rfl
  · split
    · rw [Option.map_map]
      rfl
    · split <;> rfl

theorem Delimited.afterDigits (htail : Delimited tail) (text : List Char) :
    afterDigits negative significand power (text ++ tail) =
      (afterDigits negative significand power text).map (before tail) := by
  cases text with
  | nil =>
      rw [List.nil_append]
      unfold Parser.afterDigits
      split
      · rename_i c rest
        have hc : ¬ (c = 'e' ∨ c = 'E') := by
          rintro (rfl | rfl) <;> cases htail _ rfl
        rw [if_neg hc, Option.map_map]
        rfl
      · rw [Option.map_map]
        rfl
  | cons c text =>
      rw [List.cons_append, Parser.afterDigits, Parser.afterDigits]
      split
      · exact htail.exponentPart text
      · rw [Option.map_map]
        rfl

theorem Delimited.fractionPart (htail : Delimited tail) (text : List Char) :
    fractionPart negative significand power (text ++ tail) =
      (fractionPart negative significand power text).map (before tail) := by
  unfold Parser.fractionPart
  simp only [htail.takeWhile, htail.dropWhile, htail.afterDigits]
  split <;> rfl

theorem Delimited.head?_append (htail : Delimited tail) (text : List Char) {c : Char}
    (hc : isNumeral c = true) :
    ((text ++ tail).head? == some c) = (text.head? == some c) := by
  cases text with
  | nil =>
      refine beq_eq_false_iff_ne.mpr fun h => ?_
      have hnot := htail c h
      rw [hc] at hnot
      cases hnot
  | cons d text => rfl

/-- What the reader does behind the first digits of a number, some of which may be left. -/
def behindDigits (negative : Bool) (n : Nat) (left rest : List Char) :
    Option (Json × List Char) :=
  match rest with
  | '.' :: more => fractionPart negative n left.length more
  | _ =>
    let isWhole := left.isEmpty && !(rest.head? == some 'e') && !(rest.head? == some 'E')
    if isWhole ∧ negative = false then some (integer n, rest)
    else if isWhole ∧ 0 < n ∧ n ≤ Nat.pow 2 63 then some (integer (-(n : Int)), rest)
    else afterDigits negative n left.length rest

theorem behindDigits_of_ne {n : Nat} {left rest : List Char} (h : rest.head? ≠ some '.') :
    behindDigits negative n left rest =
      let isWhole := left.isEmpty && !(rest.head? == some 'e') && !(rest.head? == some 'E')
      if isWhole ∧ negative = false then some (integer n, rest)
      else if isWhole ∧ 0 < n ∧ n ≤ Nat.pow 2 63 then some (integer (-(n : Int)), rest)
      else afterDigits negative n left.length rest := by
  unfold behindDigits
  split
  · exact absurd rfl h
  · rfl

theorem Delimited.behindDigits (htail : Delimited tail) {n : Nat} {left : List Char}
    (rest : List Char) :
    behindDigits negative n left (rest ++ tail) =
      (behindDigits negative n left rest).map (before tail) := by
  by_cases hpoint : rest.head? = some '.'
  · obtain ⟨more, rfl⟩ := List.head?_eq_some_iff.mp hpoint
    exact htail.fractionPart more
  · have hpoint' : (rest ++ tail).head? ≠ some '.' := by
      rw [← beq_eq_false_iff_ne, htail.head?_append rest rfl]
      exact beq_eq_false_iff_ne.mpr hpoint
    rw [behindDigits_of_ne hpoint, behindDigits_of_ne hpoint']
    simp only [htail.head?_append rest (c := 'e') rfl, htail.head?_append rest (c := 'E') rfl,
      htail.afterDigits, apply_ite (Option.map (before tail))]
    rfl

/-- What is written behind a number does not change how it is read. -/
theorem Delimited.number (htail : Delimited tail) (text : List Char) :
    number negative (text ++ tail) = (number negative text).map (before tail) := by
  unfold Parser.number
  simp only [htail.takeWhile, htail.dropWhile]
  split
  · rfl
  · rfl
  · exact htail.behindDigits _

end

/-! ## Numbers that are written -/

theorem Numeral.append {left right : List Char} (hleft : Numeral left)
    (hright : Numeral right) : Numeral (left ++ right) := by
  intro c hc
  rcases List.mem_append.mp hc with h | h
  · exact hleft c h
  · exact hright c h

theorem Numeral.cons {c : Char} {chars : List Char} (hc : isNumeral c = true)
    (hchars : Numeral chars) : Numeral (c :: chars) :=
  List.forall_mem_cons.mpr ⟨hc, hchars⟩

theorem Numeral.nil : Numeral [] := fun _ hc => nomatch hc

theorem Numeral.toDigits (n : Nat) : Numeral (Nat.toDigits 10 n) := by
  intro c hc
  have h := Nat.isDigit_of_mem_toDigits (by decide) (by decide) hc
  apply isNumeral_of_isDigit
  simp only [Char.isDigit, Bool.and_eq_true, decide_eq_true_eq] at h
  simp only [Decimal.isDigit, Bool.and_eq_true, decide_eq_true_eq]
  exact h

theorem Numeral.zeros (n : Nat) : Numeral (Binary64.zeros n) := by
  intro c hc
  rw [List.eq_of_mem_replicate hc]
  rfl

theorem Numeral.of_subset {chars part : List Char} (hchars : Numeral chars)
    (hpart : part ⊆ chars) : Numeral part := fun c hc => hchars c (hpart hc)

theorem numeral_positional (digits : Nat) (power : Int) :
    Numeral (Binary64.positional digits power) := by
  have hdigits := Numeral.toDigits digits
  unfold Binary64.positional
  simp only
  split
  · exact (hdigits.append (.zeros _)).append (.cons rfl (.cons rfl .nil))
  · split
    · exact ((hdigits.of_subset (List.take_subset _ _)).append (.cons rfl .nil)).append
        (hdigits.of_subset (List.drop_subset _ _))
    · exact (Numeral.append (.cons rfl (.cons rfl .nil)) (.zeros _)).append hdigits

theorem numeral_scientific (digits : Nat) (power : Int) :
    Numeral (Binary64.scientific digits power) := by
  have hdigits := Numeral.toDigits digits
  unfold Binary64.scientific
  simp only
  refine ((Numeral.append (hdigits.of_subset (List.take_subset _ _)) ?_).append ?_).append ?_
  · split
    · exact .nil
    · exact .cons rfl (hdigits.of_subset (List.drop_subset _ _))
  · refine .cons rfl (.cons ?_ .nil)
    split <;> rfl
  · split
    · exact .cons rfl (.toDigits _)
    · exact .toDigits _

theorem numeral_toCompact {x : Binary64} (hx : x.isFinite = true) :
    Numeral x.toCompact.toList := by
  cases x with
  | infinite | nan => cases hx
  | finite negative m e =>
      have hbody (digits : Nat) (power exponent : Int) :
          Numeral (if -5 ≤ exponent ∧ exponent ≤ 15 then Binary64.positional digits power
            else Binary64.scientific digits power) := by
        split
        · exact numeral_positional digits power
        · exact numeral_scientific digits power
      simp only [Binary64.toCompact, Binary64.signed, String.toList_ofList]
      split
      · exact .cons rfl (hbody _ _ _)
      · exact hbody _ _ _

theorem numeral_toString (i : Int) : Numeral (toString i).toList := by
  change Numeral i.repr.toList
  cases i with
  | ofNat n =>
      rw [Int.repr, Nat.repr_eq_ofList_toDigits, String.toList_ofList]
      exact .toDigits n
  | negSucc n =>
      rw [Int.repr, String.toList_append, Nat.repr_eq_ofList_toDigits]
      refine Numeral.append (.cons rfl .nil) ?_
      rw [String.toList_ofList]
      exact .toDigits _

theorem toCompact_ne_nil (x : Binary64) : x.toCompact.toList ≠ [] := by
  have hpositional (digits : Nat) (power : Int) : Binary64.positional digits power ≠ [] := by
    unfold Binary64.positional
    simp only
    split
    · simp
    · split <;> simp
  have hscientific (digits : Nat) (power : Int) : Binary64.scientific digits power ≠ [] := by
    unfold Binary64.scientific
    simp
  cases x with
  | infinite negative => cases negative <;> simp [Binary64.toCompact, Binary64.signed]
  | nan => simp [Binary64.toCompact]
  | finite negative m e =>
      simp only [Binary64.toCompact, Binary64.signed, String.toList_ofList]
      split
      · simp
      · split
        · exact hpositional _ _
        · exact hscientific _ _

theorem toString_ne_nil (i : Int) : (toString i).toList ≠ [] := by
  change i.repr.toList ≠ []
  cases i with
  | ofNat n =>
      rw [Int.repr, Nat.repr_eq_ofList_toDigits, String.toList_ofList]
      exact Nat.toDigits_ne_nil
  | negSucc n => simp [Int.repr]

theorem scalar_plain {v : Json} (hv : v.isPlain = true) :
    scalar v ∈ ["true", "false", "null"] ∨
      Numeral (scalar v).toList ∧ (scalar v).toList ≠ [] := by
  cases v with
  | null => exact .inl (by simp [scalar])
  | bool b => exact .inl (by cases b <;> simp [scalar])
  | integer i => exact .inr ⟨numeral_toString i, toString_ne_nil i⟩
  | float x =>
      cases hx : x.isFinite with
      | true =>
          simp only [scalar, hx, if_true]
          exact .inr ⟨numeral_toCompact hx, toCompact_ne_nil x⟩
      | false => exact .inl (by simp [scalar, hx])
  | string | array | object => cases hv

end Parser

end Json

end ClusterMigration
