import ClusterMigration.Decimal.Literal
import Mathlib.Data.List.Induction
import Mathlib.Data.Nat.Digits.Defs

/-!
# Natural numbers in decimal

Reading a run of decimal digits gives the number that it writes in base ten, whatever zeros
lead; anything else is no number.
-/

namespace ClusterMigration

namespace Decimal

/-- The number that decimal digits write, the last one first in weight. -/
def number (digits : List Char) : Nat :=
  Nat.ofDigits 10 (digits.reverse.map fun c => c.toNat - '0'.toNat)

theorem number_concat (digits : List Char) (c : Char) :
    number (digits ++ [c]) = 10 * number digits + (c.toNat - '0'.toNat) := by
  rw [number, List.reverse_append, List.reverse_singleton, List.singleton_append, List.map_cons,
    Nat.ofDigits_cons, ← number]
  omega

theorem digitValue?_ten (c : Char) :
    digitValue? 10 c = if isDigit c = true then some (c.toNat - '0'.toNat) else none := by
  unfold digitValue?
  by_cases hc : isDigit c = true
  · have hle : c.toNat ≤ 57 := by
      simp only [isDigit, Bool.and_eq_true, decide_eq_true_eq] at hc
      exact hc.2
    have hlt : c.toNat - 48 < 10 := by omega
    simpa [hc] using hlt
  · rw [if_neg hc, if_neg hc]
    split
    · simp
    · split <;> simp

theorem foldlM_digits (digits : List Char) :
    (digits.foldlM (fun n c => (digitValue? 10 c).map (10 * n + ·)) 0 : Option Nat) =
      if digits.all isDigit = true then some (number digits) else none := by
  induction digits using List.reverseRecOn with
  | nil => rfl
  | append_singleton digits c ih =>
      rw [List.foldlM_append, ih, List.all_append]
      cases digits.all isDigit with
      | false => rfl
      | true =>
          cases hc : isDigit c with
          | false => simp [digitValue?_ten, hc]
          | true => simp [digitValue?_ten, hc, number_concat]

theorem natural?_ten_eq_some_iff {digits : List Char} {n : Nat} :
    natural? 10 digits = some n ↔
      digits ≠ [] ∧ (∀ c ∈ digits, isDigit c = true) ∧ number digits = n := by
  cases digits with
  | nil => simp [natural?]
  | cons c rest =>
      rw [natural?, foldlM_digits]
      · simp
      · intro hnil
        cases hnil

/-- Leading zeros write nothing. -/
example : number "0008".toList = number "8".toList := by decide

end Decimal

end ClusterMigration
