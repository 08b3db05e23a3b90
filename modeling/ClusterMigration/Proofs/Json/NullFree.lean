import ClusterMigration.Proofs.Json.Resembles

/-!
# Values without null members

To leave out members that are null is to thin a value: containers and plain values stay where
they are, an array keeps its length and its nulls, and of the members of an object none goes
that is not null. Of all the values that a value can be thinned to, exactly one has no null
members left, as `eq_dropNulls_iff` says.
-/

namespace ClusterMigration

namespace Json

inductive NullFree : Json → Prop
  | plain {v : Json} (h : v.isPlain = true) : NullFree v
  | string (s : String) : NullFree (string s)
  | array {vs : List Json} (h : ∀ v ∈ vs, NullFree v) : NullFree (array vs)
  | object {ms : List (String × Json)} (hnull : ∀ m ∈ ms, m.2.isNull = false)
      (h : ∀ m ∈ ms, NullFree m.2) : NullFree (object ms)

/-- The same keys in the same order with related values, once some members that are null have
been left out. -/
inductive ThinsMembers (R : Json → Json → Prop) :
    List (String × Json) → List (String × Json) → Prop
  | nil : ThinsMembers R [] []
  | drop (key : String) {ms ns : List (String × Json)} (h : ThinsMembers R ms ns) :
      ThinsMembers R ((key, null) :: ms) ns
  | keep (key : String) {v w : Json} {ms ns : List (String × Json)} (hvalue : R v w)
      (h : ThinsMembers R ms ns) : ThinsMembers R ((key, v) :: ms) ((key, w) :: ns)

/-- The same value, once some members that are null have been left out, at any depth. -/
inductive Thins : Json → Json → Prop
  | plain {v : Json} (h : v.isPlain = true) : Thins v v
  | string (s : String) : Thins (string s) (string s)
  | array {vs ws : List Json} (h : List.Forall₂ Thins vs ws) : Thins (array vs) (array ws)
  | object {ms ns : List (String × Json)} (h : ThinsMembers Thins ms ns) :
      Thins (object ms) (object ns)

def SameButNulls (v w : Json) : Prop := ∃ u, v.Thins u ∧ w.Thins u

variable {v w : Json} {ms ns : List (String × Json)}

theorem NullFree.items {vs : List Json} (h : NullFree (.array vs)) : ∀ v ∈ vs, NullFree v := by
  cases h with
  | plain h => cases h
  | array h => exact h

theorem NullFree.members (h : NullFree (.object ms)) :
    ∀ m ∈ ms, m.2.isNull = false ∧ NullFree m.2 := by
  cases h with
  | plain h => cases h
  | object hnull h => exact fun m hm => ⟨hnull m hm, h m hm⟩

theorem isNull_eq_true_iff : v.isNull = true ↔ v = null := by
  cases v <;> simp [isNull]

/-! ## What a value is thinned to -/

theorem Thins.of_isPlain (h : Thins v w) (hv : v.isPlain = true) : w = v := by
  cases h with
  | plain _ => rfl
  | string | array | object => cases hv

theorem Thins.of_string {s : String} (h : Thins (.string s) w) : w = .string s := by
  cases h with
  | plain h => cases h
  | string => rfl

theorem Thins.of_array {vs : List Json} (h : Thins (.array vs) w) :
    ∃ ws, w = .array ws ∧ List.Forall₂ Thins vs ws := by
  cases h with
  | plain h => cases h
  | array h => exact ⟨_, rfl, h⟩

theorem Thins.of_object (h : Thins (.object ms) w) :
    ∃ ns, w = .object ns ∧ ThinsMembers Thins ms ns := by
  cases h with
  | plain h => cases h
  | object h => exact ⟨_, rfl, h⟩

theorem Thins.isNull_eq (h : Thins v w) : w.isNull = v.isNull := by
  cases h <;> rfl

/-! ## Leaving out all of them -/

theorem thins_dropNulls (v : Json) : Thins v v.dropNulls := by
  induction v using Json.induction with
  | hplain v hv =>
      rw [dropNulls_of_isPlain hv]
      exact .plain hv
  | hstring s => exact .string s
  | harray vs ih =>
      refine .array ?_
      induction vs with
      | nil => exact .nil
      | cons v vs ihrest =>
          obtain ⟨ihv, ihvs⟩ := List.forall_mem_cons.mp ih
          exact .cons ihv (ihrest ihvs)
  | hobject ms ih =>
      refine .object ?_
      induction ms with
      | nil => exact .nil
      | cons m ms ihrest =>
          obtain ⟨ihm, ihms⟩ := List.forall_mem_cons.mp ih
          obtain ⟨key, v⟩ := m
          rw [dropNullsMembers]
          split
          · rename_i hnull
            obtain rfl := isNull_eq_true_iff.mp hnull
            exact .drop key (ihrest ihms)
          · exact .keep key ihm (ihrest ihms)

theorem isNull_of_mem_dropNullsMembers {m : String × Json} (h : m ∈ dropNullsMembers ms) :
    m.2.isNull = false := by
  induction ms with
  | nil => cases h
  | cons n ms ih =>
      rw [dropNullsMembers] at h
      split at h
      · exact ih h
      · rename_i hnull
        rcases List.mem_cons.mp h with rfl | h
        · rw [isNull_dropNulls]
          exact eq_false_of_ne_true hnull
        · exact ih h

theorem nullFree_dropNulls (v : Json) : NullFree v.dropNulls := by
  induction v using Json.induction with
  | hplain v hv =>
      rw [dropNulls_of_isPlain hv]
      exact .plain hv
  | hstring s => exact .string s
  | harray vs ih =>
      refine .array fun v hv => ?_
      obtain ⟨w, hw, rfl⟩ := mem_dropNullsItems hv
      exact ih w hw
  | hobject ms ih =>
      refine .object (fun m hm => ?_) fun m hm => ?_
      · exact isNull_of_mem_dropNullsMembers hm
      · obtain ⟨v, hv, heq⟩ := mem_dropNullsMembers hm
        rw [heq]
        exact ih _ hv

/-- Whatever has been left out already, the same is left in the end. -/
theorem Thins.dropNulls_eq (h : Thins v w) : w.dropNulls = v.dropNulls := by
  induction v using Json.induction generalizing w with
  | hplain v hv => rw [h.of_isPlain hv]
  | hstring s => rw [h.of_string]
  | harray vs ih =>
      obtain ⟨ws, rfl, hitems⟩ := h.of_array
      refine congrArg Json.array ?_
      clear h
      induction hitems with
      | nil => rfl
      | cons hv _ ihrest =>
          obtain ⟨ihv, ihvs⟩ := List.forall_mem_cons.mp ih
          rw [dropNullsItems, dropNullsItems, ihv hv, ihrest ihvs]
  | hobject ms ih =>
      obtain ⟨ns, rfl, hmembers⟩ := h.of_object
      refine congrArg Json.object ?_
      clear h
      induction hmembers with
      | nil => rfl
      | drop key _ ihrest =>
          obtain ⟨-, ihms⟩ := List.forall_mem_cons.mp ih
          have hnull : null.isNull = true := rfl
          rw [ihrest ihms, dropNullsMembers, if_pos hnull]
      | keep key hvalue _ ihrest =>
          obtain ⟨ihv, ihms⟩ := List.forall_mem_cons.mp ih
          rw [dropNullsMembers, dropNullsMembers, hvalue.isNull_eq, ihv hvalue, ihrest ihms]

theorem NullFree.dropNulls_eq (h : NullFree v) : v.dropNulls = v := by
  induction v using Json.induction with
  | hplain v hv => exact dropNulls_of_isPlain hv
  | hstring s => rfl
  | harray vs ih =>
      have hfree := h.items
      refine congrArg Json.array ?_
      clear h
      induction vs with
      | nil => rfl
      | cons v vs ihrest =>
          obtain ⟨ihv, ihvs⟩ := List.forall_mem_cons.mp ih
          obtain ⟨hv, hvs⟩ := List.forall_mem_cons.mp hfree
          rw [dropNullsItems, ihv hv, ihrest ihvs hvs]
  | hobject ms ih =>
      have hfree := h.members
      refine congrArg Json.object ?_
      clear h
      induction ms with
      | nil => rfl
      | cons m ms ihrest =>
          obtain ⟨ihm, ihms⟩ := List.forall_mem_cons.mp ih
          obtain ⟨⟨hnull, hm⟩, hms⟩ := List.forall_mem_cons.mp hfree
          rw [dropNullsMembers, if_neg (ne_true_of_eq_false hnull), ihm hm, ihrest ihms hms]

/-- Leaving out all null members is the one way to thin a value that leaves none. -/
theorem eq_dropNulls_iff : w = v.dropNulls ↔ v.Thins w ∧ w.NullFree := by
  constructor
  · rintro rfl
    exact ⟨thins_dropNulls v, nullFree_dropNulls v⟩
  · rintro ⟨hthins, hfree⟩
    calc
      w = w.dropNulls := hfree.dropNulls_eq.symm
      _ = v.dropNulls := hthins.dropNulls_eq

example : (object [("a", null), ("b", array [null, object [("c", null)]])]).dropNulls =
    object [("b", array [null, object []])] := rfl

theorem dropNulls_eq_self_iff : v.dropNulls = v ↔ v.NullFree := by
  constructor
  · intro h
    rw [← h]
    exact nullFree_dropNulls v
  · exact NullFree.dropNulls_eq

theorem sameButNulls_iff : v.SameButNulls w ↔ v.dropNulls = w.dropNulls := by
  constructor
  · rintro ⟨u, hv, hw⟩
    rw [← hv.dropNulls_eq, hw.dropNulls_eq]
  · intro h
    refine ⟨v.dropNulls, thins_dropNulls v, ?_⟩
    rw [h]
    exact thins_dropNulls w

end Json

end ClusterMigration
