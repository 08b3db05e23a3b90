import ClusterMigration.Proofs.Json.Resembles
import ClusterMigration.Proofs.Yaml.Sections

/-!
# What readers yield

Something that is true of all that a reader yields, whatever the document, stays true
through lists, optional values and records. A value of any shape is yielded in canonical
form.
-/

namespace ClusterMigration

namespace Yaml

variable {α β ρ : Type} {P : α → Prop} {Q : β → Prop}

/-- Where something is read, this is true of it. -/
def Yields (x : Reading α) (P : α → Prop) : Prop :=
  ∀ before a after, x.run before = .ok (a, after) → P a

def Reader.Yields (r : Reader α) (P : α → Prop) : Prop := ∀ p n, Yaml.Yields (r p n) P

theorem yields_pure {a : α} (h : P a) : Yields (pure a) P := by
  intro before b after hrun
  cases hrun
  exact h

theorem yields_throw (e : ReadError) : Yields (throw e : Reading α) P :=
  fun _ _ _ hrun => nomatch hrun

theorem yields_true (x : Reading α) : Yields x fun _ => True := fun _ _ _ _ => trivial

theorem Yields.bind {x : Reading α} {f : α → Reading β} (hx : Yields x P)
    (hf : ∀ a, P a → Yields (f a) Q) : Yields (x >>= f) Q := by
  intro before b after hrun
  obtain ⟨a, n, ha, hb⟩ := run_bind_eq_ok.mp hrun
  exact hf a (hx before a n ha) n b after hb

theorem yields_bind {x : Reading α} {f : α → Reading β} (hf : ∀ a, Yields (f a) Q) :
    Yields (x >>= f) Q :=
  (yields_true x).bind fun a _ => hf a

theorem Yields.map {x : Reading α} {f : α → β} (hx : Yields x P) (hf : ∀ a, P a → Q (f a)) :
    Yields (f <$> x) Q := by
  rw [map_eq_pure_bind]
  exact hx.bind fun a ha => yields_pure (hf a ha)

theorem yields_refuse (p : Place) (n : Node) (expected : String) :
    Yields (p.refuse n expected : Reading α) P := by
  unfold Place.refuse
  split <;> exact yields_throw _

/-! ## Collections -/

theorem yields_readItems {item : Reader α} (h : item.Yields P) (p : Place) (index : Nat)
    (nodes : List Node) : Yields (readItems item p index nodes) fun as => ∀ a ∈ as, P a := by
  induction nodes generalizing index with
  | nil => exact yields_pure fun _ ha => nomatch ha
  | cons n nodes ih =>
      refine (h (p.item index) n).bind fun a ha => (ih (index + 1)).bind fun as has => ?_
      exact yields_pure (List.forall_mem_cons.mpr ⟨ha, has⟩)

theorem yields_readList {item : Reader α} (h : item.Yields P) :
    (readList item).Yields fun as => ∀ a ∈ as, P a := by
  intro p n
  refine yields_bind fun n => ?_
  split
  · exact yields_bind fun q => yields_readItems h q 0 _
  · exact yields_pure fun _ ha => nomatch ha
  · exact yields_refuse p _ _

theorem yields_readOptional {value : Reader α} (h : value.Yields P) :
    (readOptional value).Yields fun o => ∀ a ∈ o, P a := by
  have hsome (p : Place) (n : Node) : Yields (some <$> value p n) fun o => ∀ a ∈ o, P a :=
    (h p n).map fun a ha b hb => by
      cases hb
      exact ha
  have hnone : Yields (pure none : Reading (Option α)) fun o => ∀ a ∈ o, P a :=
    yields_pure fun _ ha => nomatch ha
  intro p n
  refine yields_bind fun n => ?_
  split
  · split
    · exact hsome p _
    · split
      · split
        · split
          · exact hnone
          · exact yields_throw _
        · exact hsome p _
      · split
        · exact hnone
        · exact hsome p _
  · exact hsome p _

/-! ## Records -/

def RecordField.Preserves (f : RecordField ρ) (P : ρ → Prop) : Prop :=
  ∀ r, P r → ∀ p n, Yields (f.read r p n) P

theorem preserves_field {R : ρ → Prop} {name : String} {value : Reader α} {set : α → ρ → ρ}
    (h : value.Yields P) (hset : ∀ a r, P a → R r → R (set a r)) :
    (field name value set).Preserves R := by
  intro r hr p n
  exact (h p n).bind fun a ha => yields_pure (hset a r ha hr)

theorem preserves_elsewhere {R : ρ → Prop} {name : String} {value : Reader α}
    {set : α → ρ → ρ} (hset : ∀ a r, R r → R (set a r)) : (field name value set).Preserves R :=
  preserves_field (fun p n => yields_true (value p n)) fun a r _ => hset a r

theorem yields_readRecord {R : ρ → Prop} {type : String} {fields : List (RecordField ρ)}
    {initial : ρ} (hfields : ∀ f ∈ fields, f.Preserves R) (hinitial : R initial) :
    (readRecord type fields initial).Yields R := by
  have hmembers (p : Place) (given : List String) (members : List (Node × Node)) (r : ρ)
      (hr : R r) : Yields (readMembers fields p given members r) R := by
    induction members generalizing given r with
    | nil => exact yields_pure hr
    | cons m members ih =>
        obtain ⟨key, value⟩ := m
        rw [readMembers]
        refine yields_bind fun name => ?_
        split
        · split
          · exact ih given r hr
          · exact yields_throw _
        · rename_i f hfind
          split
          · exact yields_throw _
          · have hf := hfields f (List.mem_of_find?_eq_some hfind)
            exact (hf r hr (p.member key) value).bind fun r' hr' => ih _ r' hr'
  intro p n
  refine yields_bind fun n => ?_
  split
  · exact yields_bind fun q => hmembers q [] _ initial hinitial
  · exact yields_pure hinitial
  · exact yields_refuse p _ _

theorem of_read {r : Reader α} {initial a : α} {d : Document} (h : r.Yields P)
    (hinitial : P initial) (hread : read r initial d = .ok a) : P a := by
  unfold read at hread
  split at hread
  · cases hread
    exact hinitial
  · rename_i root _
    cases hrun : (r { document := d } root).run 0 with
    | error e =>
        rw [hrun] at hread
        cases hread
    | ok result =>
        obtain ⟨value, n⟩ := result
        rw [hrun] at hread
        change (if d.complete then Except.ok value else .error ReadError.unreadable) =
          .ok a at hread
        split at hread
        · cases hread
          exact h _ root 0 a n hrun
        · cases hread

/-! ## Values of any shape -/

open Json (IsCanonical)

theorem yields_jsonOfFound (f : Found) : Yields (jsonOfFound f) IsCanonical := by
  cases f with
  | nothing => exact yields_pure .null
  | boolean b => exact yields_pure (.bool b)
  | integer i => exact yields_pure (.integer i)
  | float x =>
      refine yields_pure ?_
      split
      · rename_i hx
        exact .float hx
      · exact .null
  | text s => exact yields_pure (.string s)
  | _ => exact yields_throw _

theorem yields_readJsonMembers {value : Reader Json} (h : value.Yields IsCanonical) (p : Place)
    (first : Bool) (members : List (Node × Node)) :
    Yields (readJsonMembers value p first members) fun ms => ∀ m ∈ ms, m.2.IsCanonical := by
  induction members generalizing first with
  | nil => exact yields_pure fun _ hm => nomatch hm
  | cons m members ih =>
      refine yields_bind fun name => (h (p.member m.1) m.2).bind fun v hv => ?_
      exact (ih false).bind fun ms hms => yields_pure (List.forall_mem_cons.mpr ⟨hv, hms⟩)

theorem yields_readJsonWithin (nesting : Nat) : (readJsonWithin nesting).Yields IsCanonical := by
  induction nesting with
  | zero => exact fun _ _ => yields_throw _
  | succ nesting ih =>
      intro p n
      refine yields_bind fun n => ?_
      split
      · exact yields_throw _
      · split
        · split
          · exact yields_jsonOfFound _
          · exact yields_throw _
        · refine yields_bind fun q => (yields_readItems ih q 0 _).bind fun vs hvs => ?_
          exact yields_pure (.array hvs)
        · refine yields_bind fun q => (yields_readJsonMembers ih q true _).bind fun ms hms => ?_
          exact yields_pure (Json.isCanonical_ofMembers hms)
        · exact yields_throw _

theorem yields_readJson : readJson.Yields IsCanonical :=
  fun p n => yields_readJsonWithin (p.depth + 1) p n

end Yaml

end ClusterMigration
