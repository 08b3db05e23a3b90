import ClusterMigration.Json.Basic

/-!
# Members of objects
-/

namespace ClusterMigration

namespace Json

theorem lookup_cons_eq {α : Type} (k key : String) (v : α) (rest : List (String × α)) :
    ((key, v) :: rest).lookup k = if k = key then some v else rest.lookup k := by
  rw [List.lookup_cons]
  by_cases h : k = key
  · rw [if_pos h, beq_iff_eq.mpr h]
  · rw [if_neg h, beq_false_of_ne h]

@[simp] theorem member?_object (key : String) (members : List (String × Json)) :
    (object members).member? key = members.lookup key := rfl

end Json

end ClusterMigration
