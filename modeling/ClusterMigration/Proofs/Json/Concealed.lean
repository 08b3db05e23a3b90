import ClusterMigration.Proofs.Json.Record

/-!
# Texts that are concealed

A text can be put in place of another one, under some keys only, without anything noticing
that looks at the shape of a value: to leave out what is null, to write and read again and to
put members in order all go by keys and by what kind of value stands there.
-/

namespace ClusterMigration

namespace Json

def mapMembers (f : String → Json → Json) : Json → Json
  | object ms => object (ms.map fun m => (m.1, f m.1 m.2))
  | v => v

/-- It makes no difference whether a value is changed before or after it is written, read
again, put in order and rid of its null members. -/
structure Unseen (f : Json → Json) : Prop where
  isNull : ∀ v, (f v).isNull = v.isNull
  dropNulls : ∀ v, (f v).dropNulls = f v.dropNulls
  canonical : ∀ v, (f v).canonical = f v.canonical
  reread : ∀ depth v, reread depth (f v) = (reread depth v).map f

theorem unseen_id : Unseen id :=
  ⟨fun _ => rfl, fun _ => rfl, fun _ => rfl, fun _ _ => Option.map_id.symm ▸ rfl⟩

variable {f g : Json → Json}

theorem Unseen.comp (hf : Unseen f) (hg : Unseen g) : Unseen (fun v => f (g v)) := by
  refine ⟨fun v => ?_, fun v => ?_, fun v => ?_, fun depth v => ?_⟩
  · rw [hf.isNull, hg.isNull]
  · rw [hf.dropNulls, hg.dropNulls]
  · rw [hf.canonical, hg.canonical]
  · rw [hf.reread, hg.reread, Option.map_map]
    rfl

theorem Unseen.parse? (hf : Unseen f) (v : Json) :
    parse? (f v).toCompact = (parse? v.toCompact).map f := by
  rw [parse?_toCompact, parse?_toCompact, hf.reread, Option.map_map, Option.map_map]
  congr 1
  funext w
  exact hf.canonical w

theorem map_reread_array (hf : ∀ ws, f (array ws) = array ws) (depth : Nat) (vs : List Json) :
    (reread depth (array vs)).map f = reread depth (array vs) := by
  rw [reread]
  split
  · rfl
  · cases rereadItems (depth - 1) vs with
    | none => rfl
    | some ws => exact congrArg some (hf ws)

theorem map_reread_object (hf : ∀ ns, f (object ns) = object ns) (depth : Nat)
    (ms : List (String × Json)) :
    (reread depth (object ms)).map f = reread depth (object ms) := by
  rw [reread]
  split
  · rfl
  · cases rereadMembers (depth - 1) ms with
    | none => rfl
    | some ns => exact congrArg some (hf ns)

theorem map_reread_of_isPlain (hf : ∀ w : Json, w.isPlain = true → f w = w) {v : Json}
    (hv : v.isPlain = true) (depth : Nat) :
    (reread depth v).map f = reread depth v := by
  rw [reread_of_isPlain hv]
  cases h : rereadPlain v with
  | none => rfl
  | some w => rw [Option.map_some, hf w (isPlain_of_rereadPlain hv h)]

/-! ## Members -/

section

variable {f : String → Json → Json}

theorem mapMembers_of_isPlain {v : Json} (hv : v.isPlain = true) : mapMembers f v = v := by
  cases v <;> first | rfl | cases hv

theorem putMember_map (key : String) (v : Json) (ms : List (String × Json)) :
    putMember key (f key v) (ms.map fun m => (m.1, f m.1 m.2)) =
      (putMember key v ms).map fun m => (m.1, f m.1 m.2) := by
  induction ms with
  | nil => rfl
  | cons m ms ih =>
      obtain ⟨other, w⟩ := m
      rw [List.map_cons, putMember, putMember]
      split
      · rw [List.map_cons]
      · split
        · rw [List.map_cons, List.map_cons]
        · rw [List.map_cons, ih]

theorem member?_mapMembers (key : String) (v : Json) :
    (mapMembers f v).member? key = (v.member? key).map (f key) := by
  cases v with
  | object ms =>
      change (ms.map fun m => (m.1, f m.1 m.2)).lookup key = (ms.lookup key).map (f key)
      induction ms with
      | nil => rfl
      | cons m ms ih =>
          obtain ⟨other, v⟩ := m
          rw [List.map_cons, lookup_cons_eq, lookup_cons_eq, ih]
          split
          · rename_i h
            rw [h, Option.map_some]
          · rfl
  | _ => rfl

theorem ofMembers_map (ms : List (String × Json)) :
    ofMembers (ms.map fun m => (m.1, f m.1 m.2)) = mapMembers f (ofMembers ms) := by
  have hfoldl (acc : List (String × Json)) :
      (ms.map fun m => (m.1, f m.1 m.2)).foldl (fun sorted m => putMember m.1 m.2 sorted)
          (acc.map fun m => (m.1, f m.1 m.2)) =
        (ms.foldl (fun sorted m => putMember m.1 m.2 sorted) acc).map
          fun m => (m.1, f m.1 m.2) := by
    induction ms generalizing acc with
    | nil => rfl
    | cons m ms ih => rw [List.map_cons, List.foldl_cons, List.foldl_cons, putMember_map, ih]
  exact congrArg object (hfoldl [])

variable (hf : ∀ key, Unseen (f key))

include hf

theorem dropNullsMembers_map (ms : List (String × Json)) :
    dropNullsMembers (ms.map fun m => (m.1, f m.1 m.2)) =
      (dropNullsMembers ms).map fun m => (m.1, f m.1 m.2) := by
  induction ms with
  | nil => rfl
  | cons m ms ih =>
      obtain ⟨key, v⟩ := m
      rw [List.map_cons, dropNullsMembers, dropNullsMembers, (hf key).isNull, ih]
      split
      · rfl
      · rw [(hf key).dropNulls, List.map_cons]

theorem canonicalMembers_map (ms : List (String × Json)) :
    canonicalMembers (ms.map fun m => (m.1, f m.1 m.2)) =
      (canonicalMembers ms).map fun m => (m.1, f m.1 m.2) := by
  induction ms with
  | nil => rfl
  | cons m ms ih =>
      obtain ⟨key, v⟩ := m
      rw [List.map_cons, canonicalMembers, canonicalMembers, (hf key).canonical, ih, List.map_cons]

theorem rereadMembers_map (depth : Nat) (ms : List (String × Json)) :
    rereadMembers depth (ms.map fun m => (m.1, f m.1 m.2)) =
      (rereadMembers depth ms).map fun ns => ns.map fun m => (m.1, f m.1 m.2) := by
  induction ms with
  | nil => rfl
  | cons m ms ih =>
      obtain ⟨key, v⟩ := m
      rw [List.map_cons, rereadMembers, rereadMembers, (hf key).reread, ih]
      cases reread depth v <;> cases rereadMembers depth ms <;> rfl

theorem Unseen.mapMembers : Unseen (mapMembers f) where
  isNull v := by cases v <;> rfl
  dropNulls v := by
    cases v with
    | object ms => exact congrArg object (dropNullsMembers_map hf ms)
    | _ => rfl
  canonical v := by
    cases v with
    | object ms =>
        rw [Json.mapMembers, Json.canonical, Json.canonical, canonicalMembers_map hf,
          ofMembers_map]
    | _ => rfl
  reread depth v := by
    cases v with
    | object ms =>
        rw [Json.mapMembers, Json.reread, Json.reread, rereadMembers_map hf]
        split
        · rfl
        · cases rereadMembers (depth - 1) ms <;> rfl
    | array vs => exact (map_reread_array (fun _ => rfl) depth vs).symm
    | string s => rfl
    | _ => exact (map_reread_of_isPlain (fun _ => mapMembers_of_isPlain) rfl depth).symm

end

/-! ## Texts -/

/-- The same text in the place of all others. The empty one stays. -/
def conceal (s : String) : String := if s = "" then "" else "concealed"

@[simp] theorem conceal_empty : conceal "" = "" := rfl

@[simp] theorem isEmpty_conceal (s : String) : (conceal s).isEmpty = s.isEmpty := by
  by_cases h : s = ""
  · rw [h]
    rfl
  · rw [conceal, if_neg h, String.isEmpty_eq_false_iff.mpr h]
    rfl

def concealText : Json → Json
  | string s => string (conceal s)
  | v => v

theorem concealText_of_isPlain {v : Json} (hv : v.isPlain = true) : concealText v = v := by
  cases v <;> first | rfl | cases hv

theorem unseen_concealText : Unseen concealText where
  isNull v := by cases v <;> rfl
  dropNulls v := by cases v <;> rfl
  canonical v := by cases v <;> rfl
  reread depth v := by
    cases v with
    | object ms => exact (map_reread_object (fun _ => rfl) depth ms).symm
    | array vs => exact (map_reread_array (fun _ => rfl) depth vs).symm
    | string s => rfl
    | _ => exact (map_reread_of_isPlain (fun _ => concealText_of_isPlain) rfl depth).symm

/-! ## Records -/

section

variable {ρ α : Type} {f : String → Json → Json} {g : ρ → ρ} {fields : List (RecordField ρ)}

def RecordField.Carries (f : Json → Json) (g : ρ → ρ) (field : RecordField ρ) : Prop :=
  ∀ v r, field.read (f v) (g r) = (field.read v r).map g

theorem carries_field {f : Json → Json} {h : α → α} {value : Json → Except Mismatch α}
    {set : α → ρ → ρ} (name : String) (hvalue : ∀ v, value (f v) = (value v).map h)
    (hset : ∀ a r, set (h a) (g r) = g (set a r)) : (field name value set).Carries f g := by
  intro v r
  simp only [field, hvalue]
  cases value v with
  | error e => rfl
  | ok a => exact congrArg Except.ok (hset a r)

theorem carries_field_id {value : Json → Except Mismatch α} {set : α → ρ → ρ} (name : String)
    (hset : ∀ a r, set a (g r) = g (set a r)) : (field name value set).Carries id g :=
  carries_field (h := id) name (fun v => by rw [id]; cases value v <;> rfl) hset

theorem readMembers_map (hfields : ∀ field ∈ fields, field.Carries (f field.name) g)
    (ms : List (String × Json)) (r : ρ) :
    readMembers fields (ms.map fun m => (m.1, f m.1 m.2)) (g r) =
      (readMembers fields ms r).map g := by
  induction ms generalizing r with
  | nil => rfl
  | cons m ms ih =>
      obtain ⟨key, v⟩ := m
      rw [List.map_cons, readMembers, readMembers]
      cases hfind : fields.find? (·.name == key) with
      | none => exact ih r
      | some field =>
          have hname : field.name = key := by simpa using List.find?_some hfind
          have hread := hfields field (List.mem_of_find?_eq_some hfind) v r
          rw [hname] at hread
          simp only [hread]
          cases field.read v r with
          | error e => rfl
          | ok r => exact ih r

theorem readRecord_mapMembers (type : String) {initial : ρ} (hinitial : g initial = initial)
    (hfields : ∀ field ∈ fields, field.Carries (f field.name) g) (ms : List (String × Json)) :
    readRecord type fields initial (mapMembers f (object ms)) =
      (readRecord type fields initial (object ms)).map g := by
  have hread := readMembers_map hfields ms initial
  rw [hinitial] at hread
  exact hread

end

end Json

end ClusterMigration
