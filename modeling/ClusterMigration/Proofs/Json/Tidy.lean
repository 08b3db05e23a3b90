import ClusterMigration.Proofs.Json.Record
import ClusterMigration.Proofs.Json.Resembles

/-!
# What is read from tidy values

A value as it comes from a text, in canonical form and rid of its null members, has the keys of
every object in order, at each depth. So have the maps of texts that are read from it.
-/

namespace ClusterMigration

namespace Json

/-- In canonical form and rid of its null members. -/
def IsTidy (v : Json) : Prop := ∃ w : Json, v = w.canonical.dropNulls

variable {v : Json} {vs : List Json} {ms ns : List (String × Json)} {key : String}

theorem mem_foldl_putMember {m : String × Json}
    (h : m ∈ ms.foldl (fun sorted m => putMember m.1 m.2 sorted) ns) : m ∈ ms ∨ m ∈ ns := by
  induction ms generalizing ns with
  | nil => exact .inr h
  | cons n ms ih =>
      rcases ih h with hm | hm
      · exact .inl (List.mem_cons_of_mem _ hm)
      · rcases mem_putMember hm with rfl | hm
        · exact .inl (List.mem_cons_self ..)
        · exact .inr hm

theorem mem_canonicalMembers {m : String × Json} (h : m ∈ canonicalMembers ms) :
    ∃ v, m.2 = canonical v := by
  induction ms with
  | nil => cases h
  | cons n ms ih =>
      rcases List.mem_cons.mp h with rfl | h
      · exact ⟨n.2, rfl⟩
      · exact ih h

theorem mem_canonicalItems (h : v ∈ canonicalItems vs) : ∃ w, v = canonical w := by
  induction vs with
  | nil => cases h
  | cons w vs ih =>
      rcases List.mem_cons.mp h with rfl | h
      · exact ⟨w, rfl⟩
      · exact ih h

theorem IsTidy.object (h : IsTidy (object ms)) : ∃ ns, ms = dropNullsMembers
    ((canonicalMembers ns).foldl (fun sorted m => putMember m.1 m.2 sorted) []) := by
  obtain ⟨w, hw⟩ := h
  cases w with
  | object ns => exact ⟨ns, object.inj hw⟩
  | null | bool | integer | float | string | array => cases hw

theorem IsTidy.keys (h : IsTidy (.object ms)) : KeysSorted ms := by
  obtain ⟨ns, rfl⟩ := h.object
  exact keysSorted_dropNullsMembers (keysSorted_foldl_putMember _ List.Pairwise.nil)

theorem IsTidy.members (h : IsTidy (.object ms)) : ∀ m ∈ ms, IsTidy m.2 := by
  obtain ⟨ns, rfl⟩ := h.object
  intro m hm
  obtain ⟨v, hv, heq⟩ := mem_dropNullsMembers hm
  rcases mem_foldl_putMember hv with hv | hv
  · obtain ⟨w, hw⟩ := mem_canonicalMembers hv
    exact ⟨w, by rw [heq, ← hw]⟩
  · cases hv

theorem IsTidy.items (h : IsTidy (.array vs)) : ∀ v ∈ vs, IsTidy v := by
  obtain ⟨w, hw⟩ := h
  cases w with
  | array ws =>
      obtain rfl := array.inj hw
      intro v hv
      obtain ⟨u, hu, rfl⟩ := mem_dropNullsItems hv
      obtain ⟨w, rfl⟩ := mem_canonicalItems hu
      exact ⟨w, rfl⟩
  | null | bool | integer | float | string | object => cases hw

/-! ## Records -/

section

variable {ρ : Type} {P : ρ → Prop} {fields : List (RecordField ρ)} {r s : ρ}

def RecordField.Preserves (f : RecordField ρ) (P : ρ → Prop) : Prop :=
  ∀ v r s, IsTidy v → f.read v r = .ok s → P r → P s

theorem preserves_field {α : Type} {name : String} {value : Json → Except Mismatch α}
    {set : α → ρ → ρ} (h : ∀ v a r, IsTidy v → value v = .ok a → P r → P (set a r)) :
    (field name value set).Preserves P := by
  intro v r s hv hread hr
  obtain ⟨a, ha, rfl⟩ := map_eq_ok.mp hread
  exact h v a r hv ha hr

theorem of_readMembers (hfields : ∀ f ∈ fields, f.Preserves P) (hms : ∀ m ∈ ms, IsTidy m.2)
    (h : readMembers fields ms r = .ok s) (hr : P r) : P s := by
  induction ms generalizing r with
  | nil =>
      cases h
      exact hr
  | cons m ms ih =>
      obtain ⟨hm, hms⟩ := List.forall_mem_cons.mp hms
      rw [readMembers] at h
      split at h
      · exact ih hms h hr
      · rename_i f hfind
        split at h
        · rename_i r' hf
          exact ih hms h (hfields f (List.mem_of_find?_eq_some hfind) m.2 r r' hm hf hr)
        · cases h

theorem of_readItems {length : Nat} (hfields : ∀ f ∈ fields, f.Preserves P)
    (hvs : ∀ v ∈ vs, IsTidy v) (h : readItems length fields vs r = .ok s) (hr : P r) : P s := by
  induction vs generalizing fields r with
  | nil =>
      cases fields <;> (cases h; exact hr)
  | cons v vs ih =>
      cases fields with
      | nil => cases h
      | cons f fields =>
          obtain ⟨hv, hvs⟩ := List.forall_mem_cons.mp hvs
          obtain ⟨hf, hfields⟩ := List.forall_mem_cons.mp hfields
          rw [readItems] at h
          split at h
          · rename_i r' hread
            exact ih hfields hvs h (hf v r r' hv hread hr)
          · cases h

theorem of_readRecord {type : String} (hfields : ∀ f ∈ fields, f.Preserves P)
    (hv : IsTidy v) (h : readRecord type fields r v = .ok s) (hr : P r) : P s := by
  unfold readRecord at h
  split at h
  · exact of_readMembers hfields hv.members h hr
  · exact of_readItems hfields hv.items h hr
  · cases h

end

end Json

end ClusterMigration
