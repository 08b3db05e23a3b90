import ClusterMigration.Network.Cidr
import Mathlib.Data.List.TakeWhile

/-!
# What stands in an address

An address is read from left to right, number by number. No part of it takes a slash, so the
slash of a range is never inside of its address.
-/

namespace ClusterMigration

namespace Network

namespace Address

/-- The text begins with something without a slash, and `rest` is what follows. -/
def Passes (text rest : List Char) : Prop := ∃ read, text = read ++ rest ∧ '/' ∉ read

variable {text middle rest : List Char}

theorem Passes.refl (text : List Char) : Passes text text := ⟨[], rfl, List.not_mem_nil⟩

theorem Passes.trans (h : Passes text middle) (h' : Passes middle rest) : Passes text rest := by
  obtain ⟨read, rfl, hread⟩ := h
  obtain ⟨read', rfl, hread'⟩ := h'
  refine ⟨read ++ read', (List.append_assoc ..).symm, fun hmem => ?_⟩
  exact (List.mem_append.mp hmem).elim hread hread'

theorem passes_cons {c : Char} (h : c ≠ '/') (rest : List Char) : Passes (c :: rest) rest :=
  ⟨[c], rfl, fun hmem => h (List.mem_singleton.mp hmem).symm⟩

theorem passes_number {base width n : Nat} {ds : List Char}
    (h : number base width text = some (ds, n, rest)) : Passes text rest := by
  unfold number at h
  simp only at h
  split at h
  · cases h
  · obtain ⟨m, _, heq⟩ := Option.bind_eq_some_iff.mp h
    cases heq
    refine ⟨_, List.takeWhile_append_dropWhile.symm, fun hmem => ?_⟩
    have hdigit := List.mem_takeWhile_imp hmem
    have hnone : Decimal.digitValue? base '/' = none := rfl
    rw [hnone] at hdigit
    cases hdigit

theorem passes_octet (h : octet text = some rest) : Passes text rest := by
  obtain ⟨⟨ds, n, left⟩, hnumber, h⟩ := Option.bind_eq_some_iff.mp h
  simp only at h
  split at h
  · cases h
  · cases h
    exact passes_number hnumber

theorem passes_after {separator : Char} (hne : separator ≠ '/')
    (h : after separator text = some rest) : Passes text rest := by
  cases text with
  | nil => cases h
  | cons c text =>
      rw [after] at h
      split at h
      · rename_i hc
        cases h
        exact passes_cons (hc ▸ hne) rest
      · cases h

theorem passes_v4 (h : v4 text = some rest) : Passes text rest := by
  obtain ⟨first, hfirst, h⟩ := Option.bind_eq_some_iff.mp h
  obtain ⟨point, hpoint, h⟩ := Option.bind_eq_some_iff.mp h
  obtain ⟨second, hsecond, h⟩ := Option.bind_eq_some_iff.mp h
  obtain ⟨point', hpoint', h⟩ := Option.bind_eq_some_iff.mp h
  obtain ⟨third, hthird, h⟩ := Option.bind_eq_some_iff.mp h
  obtain ⟨point'', hpoint'', h⟩ := Option.bind_eq_some_iff.mp h
  have hdot : '.' ≠ '/' := by decide
  exact (passes_octet hfirst).trans <| (passes_after hdot hpoint).trans <|
    (passes_octet hsecond).trans <| (passes_after hdot hpoint').trans <|
    (passes_octet hthird).trans <| (passes_after hdot hpoint'').trans (passes_octet h)

theorem passes_groups (first : Bool) (limit : Nat) (text : List Char) :
    Passes text (groups first limit text).2.2 := by
  induction limit generalizing first text with
  | zero => exact .refl text
  | succ limit ih =>
      rw [groups]
      split
      · exact .refl text
      · rename_i body hbody
        have hstart : Passes text body := by
          split at hbody
          · cases hbody
            exact .refl text
          · exact passes_after (by decide) hbody
        split
        · rename_i rest hv4
          split at hv4
          · exact hstart.trans (passes_v4 hv4)
          · cases hv4
        · split
          · rename_i hnumber
            exact hstart.trans ((passes_number hnumber).trans (ih false _))
          · exact .refl text

theorem passes_v6 (h : v6 text = some rest) : Passes text rest := by
  unfold v6 at h
  have hbefore := passes_groups true 8 text
  revert h hbefore
  generalize groups true 8 text = found
  obtain ⟨n, embedded, left⟩ := found
  intro h hbefore
  simp only at h hbefore
  split at h
  · cases h
    exact hbefore
  · split at h
    · cases h
    · split at h
      · rename_i behind
        cases h
        have hcolon : ':' ≠ '/' := by decide
        exact hbefore.trans <| (passes_cons hcolon _).trans <|
          (passes_cons hcolon _).trans (passes_groups true (7 - n) behind)
      · cases h

theorem slash_not_mem_of_family? {family : Family} (h : family? text = some family) :
    '/' ∉ text := by
  have hpasses : Passes text [] := by
    unfold family? at h
    split at h
    · rename_i rest hv4
      split at h
      · rename_i hempty
        rw [List.isEmpty_iff] at hempty
        exact hempty ▸ passes_v4 hv4
      · cases h
    · split at h
      · rename_i hv6
        exact passes_v6 hv6
      · cases h
  obtain ⟨read, rfl, hread⟩ := hpasses
  rwa [List.append_nil]

end Address

end Network

end ClusterMigration
