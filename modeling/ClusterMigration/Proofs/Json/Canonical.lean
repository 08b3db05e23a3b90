import ClusterMigration.Proofs.Json.Member
import ClusterMigration.Proofs.Json.Printed

/-!
# What canonical form keeps

Of several members with one key the last one counts. Canonical form keeps that one, and
so does a value that is written, read again and rid of its null members.
-/

namespace ClusterMigration

namespace Json

def last? (key : String) (members : List (String × Json)) : Option Json :=
  members.reverse.lookup key

/-- Keys in order, so no key stands twice. -/
def KeysSorted (members : List (String × Json)) : Prop :=
  (members.map Prod.fst).Pairwise (· < ·)

section

variable {key k : String} {value v : Json} {ms : List (String × Json)}

@[simp] theorem last?_nil : last? key [] = none := rfl

theorem last?_cons :
    last? k ((key, v) :: ms) = (last? k ms).or (if k = key then some v else none) := by
  simp only [last?, List.reverse_cons, List.lookup_append, lookup_cons_eq, List.lookup_nil]

theorem lookup_eq_filter (ms : List (String × Json)) :
    ms.lookup k = (ms.filter (·.1 == k)).head?.map Prod.snd := by
  induction ms with
  | nil => rfl
  | cons m ms ih =>
      obtain ⟨key, v⟩ := m
      rw [lookup_cons_eq, List.filter_cons]
      by_cases h : k = key
      · simp [h]
      · rw [if_neg h, if_neg (by simpa using Ne.symm h)]
        exact ih

theorem last?_eq (ms : List (String × Json)) :
    last? k ms = (ms.filter (·.1 == k)).getLast?.map Prod.snd := by
  rw [last?, lookup_eq_filter, List.filter_reverse, List.head?_reverse]

/-! ## Members in order -/

theorem lookup_putMember (ms : List (String × Json)) :
    (putMember key value ms).lookup k = if k = key then some value else ms.lookup k := by
  induction ms with
  | nil => rw [putMember, lookup_cons_eq]
  | cons m ms ih =>
      obtain ⟨other, v⟩ := m
      rw [putMember]
      split
      · rename_i heq
        subst heq
        rw [lookup_cons_eq, lookup_cons_eq]
        split <;> rfl
      · split
        · rw [lookup_cons_eq]
        · rename_i hne _
          rw [lookup_cons_eq, lookup_cons_eq, ih]
          by_cases h : k = other
          · rw [if_pos h, if_pos h, if_neg]
            rintro rfl
            exact hne h
          · rw [if_neg h, if_neg h]

theorem putMember_comm {k₁ k₂ : String} {v₁ v₂ : Json} (hne : k₁ ≠ k₂)
    (ms : List (String × Json)) :
    putMember k₁ v₁ (putMember k₂ v₂ ms) = putMember k₂ v₂ (putMember k₁ v₁ ms) := by
  have htotal : k₁ < k₂ ∨ k₂ < k₁ := by grind
  induction ms with
  | nil => grind [putMember]
  | cons m ms ih => grind [putMember]

theorem mem_putMember {m : String × Json} (h : m ∈ putMember key value ms) :
    m = (key, value) ∨ m ∈ ms := by
  induction ms with
  | nil => exact .inl (List.mem_singleton.mp h)
  | cons n ms ih =>
      rw [putMember] at h
      split at h
      · exact (List.mem_cons.mp h).imp id (List.mem_cons_of_mem _)
      · split at h
        · exact List.mem_cons.mp h
        · rcases List.mem_cons.mp h with rfl | h
          · exact .inr (List.mem_cons_self ..)
          · exact (ih h).imp id (List.mem_cons_of_mem _)

theorem mem_keys_putMember (h : k ∈ (putMember key value ms).map Prod.fst) :
    k = key ∨ k ∈ ms.map Prod.fst := by
  obtain ⟨m, hm, rfl⟩ := List.mem_map.mp h
  rcases mem_putMember hm with rfl | hm
  · exact .inl rfl
  · exact .inr (List.mem_map_of_mem hm)

theorem keysSorted_putMember (hms : KeysSorted ms) : KeysSorted (putMember key value ms) := by
  induction ms with
  | nil => exact List.pairwise_singleton _ _
  | cons m ms ih =>
      obtain ⟨other, v⟩ := m
      obtain ⟨hfirst, hrest⟩ := List.pairwise_cons.mp hms
      rw [putMember]
      split
      · rename_i heq
        subst heq
        exact hms
      · split
        · rename_i hlt
          refine List.pairwise_cons.mpr ⟨fun k hk => ?_, hms⟩
          rcases List.mem_cons.mp hk with hk | hk
          · rw [hk]
            exact hlt
          · exact String.lt_trans hlt (hfirst k hk)
        · rename_i hne hge
          refine List.pairwise_cons.mpr ⟨fun k hk => ?_, ih hrest⟩
          rcases mem_keys_putMember hk with hk | hk
          · rw [hk]
            by_contra hle
            exact hne (String.le_antisymm (String.not_lt.mp hle) (String.not_lt.mp hge))
          · exact hfirst k hk

theorem lookup_foldl_putMember (ms acc : List (String × Json)) :
    (ms.foldl (fun sorted m => putMember m.1 m.2 sorted) acc).lookup k =
      (last? k ms).or (acc.lookup k) := by
  induction ms generalizing acc with
  | nil => rfl
  | cons m ms ih =>
      obtain ⟨other, v⟩ := m
      rw [List.foldl_cons, ih, lookup_putMember, last?_cons, Option.or_assoc]
      congr 1
      split <;> rfl

theorem keysSorted_foldl_putMember (ms : List (String × Json)) {acc : List (String × Json)}
    (hacc : KeysSorted acc) :
    KeysSorted (ms.foldl (fun sorted m => putMember m.1 m.2 sorted) acc) := by
  induction ms generalizing acc with
  | nil => exact hacc
  | cons m ms ih => exact ih (keysSorted_putMember hacc)

theorem KeysSorted.lookup_head (hms : KeysSorted ((key, v) :: ms)) : ms.lookup key = none := by
  rw [List.lookup_eq_none_iff]
  intro m hm
  have hlt := (List.pairwise_cons.mp hms).1 m.1 (List.mem_map_of_mem hm)
  exact bne_iff_ne.mpr (String.ne_of_lt hlt)

theorem last?_of_keysSorted (hms : KeysSorted ms) : last? k ms = ms.lookup k := by
  induction ms with
  | nil => rfl
  | cons m ms ih =>
      obtain ⟨other, v⟩ := m
      have hrest : KeysSorted ms := hms.of_cons
      rw [last?_cons, lookup_cons_eq, ih hrest]
      split
      · rename_i heq
        subst heq
        rw [hms.lookup_head]
        rfl
      · exact Option.or_none

/-! ## Members that are null -/

theorem keys_dropNullsMembers (ms : List (String × Json)) :
    ((dropNullsMembers ms).map Prod.fst).Sublist (ms.map Prod.fst) := by
  induction ms with
  | nil => exact .slnil
  | cons m ms ih =>
      obtain ⟨key, v⟩ := m
      rw [dropNullsMembers]
      split
      · exact ih.cons _
      · exact ih.cons_cons _

theorem keysSorted_dropNullsMembers (hms : KeysSorted ms) : KeysSorted (dropNullsMembers ms) :=
  hms.sublist (keys_dropNullsMembers ms)

theorem lookup_dropNullsMembers (hms : KeysSorted ms) :
    (dropNullsMembers ms).lookup k =
      (ms.lookup k).bind fun v => if v.isNull then none else some v.dropNulls := by
  induction ms with
  | nil => rfl
  | cons m ms ih =>
      obtain ⟨key, v⟩ := m
      have hrest : KeysSorted ms := hms.of_cons
      rw [dropNullsMembers, lookup_cons_eq]
      split
      · rename_i hnull
        rw [ih hrest]
        split
        · rename_i heq
          subst heq
          simp [hms.lookup_head, hnull]
        · rfl
      · rename_i hnull
        rw [lookup_cons_eq, ih hrest]
        split
        · simp [hnull]
        · rfl

/-! ## Canonical form -/

theorem last?_canonicalMembers (ms : List (String × Json)) :
    last? k (canonicalMembers ms) = (last? k ms).map canonical := by
  induction ms with
  | nil => rfl
  | cons m ms ih =>
      obtain ⟨key, v⟩ := m
      rw [canonicalMembers, last?_cons, last?_cons, ih, Option.map_or]
      congr 1
      split <;> rfl

end

/-! ## Values that return -/

/-- What `v` may be once it is written, read again and rid of its null members. -/
def Returns (v u : Json) : Prop := ∃ w, Mirrors v w ∧ u = w.canonical.dropNulls

/-- A member and what it returns as. One that is plain may come back null and be left out. -/
inductive MemberReturns : Option Json → Option Json → Prop
  | absent : MemberReturns none none
  | lost {v : Json} (h : v.isPlain = true) : MemberReturns (some v) none
  | kept {v u : Json} (h : Returns v u) : MemberReturns (some v) (some u)

variable {u v : Json} {k : String} {ms ns : List (String × Json)}

theorem returns_of_parse? (h : parse? v.toCompact = some u) : Returns v u.dropNulls := by
  obtain ⟨w, hw, rfl⟩ := mirrors_of_parse? h
  exact ⟨w, hw, rfl⟩

theorem Returns.eq_string {s : String} (h : Returns (string s) u) : u = string s := by
  obtain ⟨w, hw, rfl⟩ := h
  cases hw with
  | plain hv _ => cases hv
  | string => rfl

theorem Returns.isPlain (h : Returns v u) (hv : v.isPlain = true) : u.isPlain = true := by
  obtain ⟨w, hw, rfl⟩ := h
  cases hw with
  | plain _ hw => cases w <;> first | rfl | cases hw
  | string | array | object => cases hv

theorem Mirrors.isPlain_of_isNull {w : Json} (h : Mirrors v w)
    (hnull : w.canonical.isNull = true) : v.isPlain = true := by
  cases h with
  | plain hv _ => exact hv
  | string | array | object => cases hnull

theorem last?_of_mirrors (h : List.Forall₂ MirrorsMember ms ns) :
    Option.Rel Mirrors (last? k ms) (last? k ns) := by
  induction h with
  | nil => exact .none
  | cons hm _ ih =>
      obtain ⟨key, hvalue⟩ := hm
      rw [last?_cons, last?_cons]
      revert ih
      generalize last? k _ = x
      generalize last? k _ = y
      rintro (h | _)
      · exact .some h
      · rw [Option.none_or, Option.none_or]
        split
        · exact .some hvalue
        · exact .none

theorem Returns.object (h : Returns (object ms) u) :
    ∃ us, u = .object us ∧ ∀ k, MemberReturns (last? k ms) (last? k us) := by
  obtain ⟨w, hw, rfl⟩ := h
  cases hw with
  | plain hv _ => cases hv
  | @object _ ns hms =>
      have hnil : KeysSorted [] := List.Pairwise.nil
      have hsorted := keysSorted_foldl_putMember (canonicalMembers ns) hnil
      refine ⟨_, rfl, fun k => ?_⟩
      rw [last?_of_keysSorted (keysSorted_dropNullsMembers hsorted),
        lookup_dropNullsMembers hsorted, lookup_foldl_putMember, last?_canonicalMembers]
      have hrel := last?_of_mirrors (k := k) hms
      revert hrel
      generalize last? k ms = x
      generalize last? k ns = y
      rintro (hvalue | _)
      · rename_i v w
        rw [Option.map_some, Option.some_or, Option.bind_some]
        split
        · rename_i hnull
          exact .lost (hvalue.isPlain_of_isNull hnull)
        · exact .kept ⟨w, hvalue, rfl⟩
      · exact .absent

end Json

end ClusterMigration
