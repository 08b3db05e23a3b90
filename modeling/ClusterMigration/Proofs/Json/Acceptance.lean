import ClusterMigration.Json.Record
import ClusterMigration.Proofs.Json.Resembles
import ClusterMigration.Proofs.Result

/-!
# What records are read from

Whether a record is read from an object is settled by its members one by one, and whether it
is read from a value is settled by what the value resembles.
-/

namespace ClusterMigration

namespace Json

variable {ρ α β : Type}

/-- Of two values that resemble each other both are read or none. -/
def Steady (value : Json → Except Mismatch α) : Prop :=
  ∀ v w, Resembles v w → (value w).isOk = (value v).isOk

def RecordField.Steady (f : RecordField ρ) : Prop :=
  ∀ v w r s, Resembles v w → (f.read w s).isOk = (f.read v r).isOk

/-- Whether an object is read is settled by its members one by one. -/
structure Memberwise (value : Json → Except Mismatch α) : Prop where
  steady : Steady value
  members : ∀ ms, (value (.object ms)).isOk = ms.all fun m => (value (.object [m])).isOk

@[simp] theorem Steady.field {value : Json → Except Mismatch α} (h : Steady value) (name : String)
    (set : α → ρ → ρ) : (field name value set).Steady := by
  intro v w r s hvalue
  simp only [Json.field, isOk_map]
  exact h v w hvalue

theorem Steady.map {value : Json → Except Mismatch α} (h : Steady value) (f : α → β) :
    Steady fun v => (value v).map f := by
  intro v w hvalue
  simp only [isOk_map]
  exact h v w hvalue

theorem Memberwise.map {value : Json → Except Mismatch α} (h : Memberwise value) (f : α → β) :
    Memberwise fun v => (value v).map f where
  steady := h.steady.map f
  members ms := by
    simp only [isOk_map]
    exact h.members ms

/-! ## Values -/

variable {v w : Json} {vs ws : List Json} {ms ns : List (String × Json)}

theorem resembles_refl (v : Json) : Resembles v v := by
  induction v using Json.induction with
  | hplain v hv =>
      cases v with
      | null => exact .null
      | bool b => exact .bool b
      | integer | float => exact .number rfl rfl
      | string | array | object => cases hv
  | hstring s => exact .string s
  | harray vs ih => exact .array (List.forall₂_same.mpr ih)
  | hobject ms ih => exact .object (List.forall₂_same.mpr fun m hm => .mk m.1 (ih m hm))

theorem isOk_mapM (f : α → Except Mismatch β) (as : List α) :
    (as.mapM f).isOk = as.all fun a => (f a).isOk := by
  induction as with
  | nil => rfl
  | cons a as ih =>
      rw [List.mapM_cons, List.all_cons, ← ih]
      cases f a with
      | error e => rfl
      | ok b =>
          cases as.mapM f <;> rfl

/-- Numbers are refused, and arrays and objects are read by what their parts resemble. -/
theorem steady_of_containers {value : Json → Except Mismatch α}
    (hnumber : ∀ v, v.isNumber = true → (value v).isOk = false)
    (harray : ∀ vs ws, List.Forall₂ Resembles vs ws →
      (value (.array ws)).isOk = (value (.array vs)).isOk)
    (hobject : ∀ ms ns, List.Forall₂ ResemblesMember ms ns →
      (value (.object ns)).isOk = (value (.object ms)).isOk) : Steady value := by
  intro v w h
  cases h with
  | number hv hw => rw [hnumber v hv, hnumber w hw]
  | null | bool | string => rfl
  | array h => exact harray _ _ h
  | object h => exact hobject _ _ h

@[simp] theorem steady_readText : Steady readText := by
  refine steady_of_containers ?_ (fun _ _ _ => rfl) (fun _ _ _ => rfl)
  intro v hv
  cases v <;> first | rfl | cases hv

@[simp] theorem steady_readFlag : Steady readFlag := by
  refine steady_of_containers ?_ (fun _ _ _ => rfl) (fun _ _ _ => rfl)
  intro v hv
  cases v <;> first | rfl | cases hv

@[simp] theorem steady_readTexts : Steady readTexts := by
  refine steady_of_containers ?_ (fun vs ws h => ?_) (fun _ _ _ => rfl)
  · intro v hv
    cases v <;> first | rfl | cases hv
  · simp only [readTexts, isOk_mapM]
    induction h with
    | nil => rfl
    | cons hv _ ih => rw [List.all_cons, List.all_cons, ih, steady_readText _ _ hv]

@[simp] theorem steady_readTextMap : Steady readTextMap := by
  refine steady_of_containers ?_ (fun _ _ _ => rfl) (fun ms ns h => ?_)
  · intro v hv
    cases v <;> first | rfl | cases hv
  · simp only [readTextMap, isOk_mapM, isOk_map]
    induction h with
    | nil => rfl
    | cons hm _ ih =>
        obtain ⟨key, hvalue⟩ := hm
        rw [List.all_cons, List.all_cons, ih, steady_readText _ _ hvalue]

/-! ## Records -/

section

variable {fields : List (RecordField ρ)} {type : String} {r s : ρ}

theorem isOk_next {x y : Except Mismatch ρ} {f g : ρ → Except Mismatch ρ}
    (h : y.isOk = x.isOk) (hnext : ∀ r s, (g s).isOk = (f r).isOk) :
    (match y with
      | .ok s => g s
      | .error e => .error e).isOk =
    (match x with
      | .ok r => f r
      | .error e => .error e).isOk := by
  cases x <;> cases y
  · rfl
  · cases h
  · cases h
  · exact hnext _ _

theorem isOk_readMembers_of_resembles (hfields : ∀ f ∈ fields, f.Steady)
    (h : List.Forall₂ ResemblesMember ms ns) (r s : ρ) :
    (readMembers fields ns s).isOk = (readMembers fields ms r).isOk := by
  induction h generalizing r s with
  | nil => rfl
  | cons hm _ ih =>
      obtain ⟨key, hvalue⟩ := hm
      rw [readMembers, readMembers]
      split
      · exact ih r s
      · rename_i f hfind
        have hsteady := hfields f (List.mem_of_find?_eq_some hfind)
        exact isOk_next (hsteady _ _ r s hvalue) ih

theorem isOk_readItems_of_resembles {n m : Nat} (hfields : ∀ f ∈ fields, f.Steady)
    (h : List.Forall₂ Resembles vs ws) (r s : ρ) :
    (readItems n fields ws s).isOk = (readItems m fields vs r).isOk := by
  induction h generalizing fields r s with
  | nil =>
      cases fields <;> rfl
  | cons hvalue _ ih =>
      cases fields with
      | nil => rfl
      | cons f fields =>
          obtain ⟨hf, hfields⟩ := List.forall_mem_cons.mp hfields
          rw [readItems, readItems]
          exact isOk_next (hf _ _ r s hvalue) (ih hfields)

theorem isOk_readMembers (hfields : ∀ f ∈ fields, f.Steady) (ms : List (String × Json)) (r s : ρ) :
    (readMembers fields ms r).isOk = ms.all fun m => (readMembers fields [m] s).isOk := by
  induction ms generalizing r with
  | nil => rfl
  | cons m ms ih =>
      obtain ⟨key, v⟩ := m
      rw [List.all_cons, readMembers, readMembers]
      split
      · rw [ih]
        rfl
      · rename_i f hfind
        have hsteady := hfields f (List.mem_of_find?_eq_some hfind) v v r s (resembles_refl v)
        revert hsteady
        cases f.read v r <;> cases f.read v s <;> intro hsteady
        · rfl
        · cases hsteady
        · cases hsteady
        · exact ih _

theorem memberwise_readRecord (hfields : ∀ f ∈ fields, f.Steady) :
    Memberwise (readRecord type fields r) where
  steady := by
    refine steady_of_containers ?_ (fun vs ws h => ?_) (fun ms ns h => ?_)
    · intro v hv
      cases v <;> first | rfl | cases hv
    · exact isOk_readItems_of_resembles hfields h r r
    · exact isOk_readMembers_of_resembles hfields h r r
  members ms := isOk_readMembers hfields ms r r

theorem isOk_readRecord_member {key : String} {value : Json → Except Mismatch α}
    {set : α → ρ → ρ} (hfind : fields.find? (·.name == key) = some (field key value set))
    (v : Json) : (readRecord type fields r (.object [(key, v)])).isOk = (value v).isOk := by
  rw [readRecord, readMembers, hfind]
  simp only [field]
  cases value v <;> rfl

theorem mem_names_of_refused {m : String × Json}
    (h : (readRecord type fields r (.object [m])).isOk = false) :
    m.1 ∈ fields.map (·.name) := by
  obtain ⟨key, v⟩ := m
  rw [readRecord, readMembers] at h
  split at h
  · cases h
  · rename_i f hfind
    have hname : f.name = key := by simpa using List.find?_some hfind
    exact List.mem_map.mpr ⟨f, List.mem_of_find?_eq_some hfind, hname⟩

end

end Json

end ClusterMigration
