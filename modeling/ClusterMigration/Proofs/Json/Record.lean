import ClusterMigration.Json.Record
import ClusterMigration.Proofs.Json.Canonical

/-!
# What a record holds after reading

A part of a record that one field sets, and no other one touches, comes from the last
member under the name of that field.
-/

namespace ClusterMigration

namespace Json

variable {ρ α : Type}

def RecordField.Keeps (f : RecordField ρ) (part : ρ → α) : Prop :=
  ∀ v r s, f.read v r = .ok s → part s = part r

/-- The field of this name sets the part to something that `given` allows for the value,
and no field of another name touches it. -/
structure Owns (fields : List (RecordField ρ)) (key : String) (given : Json → α → Prop)
    (part : ρ → α) : Prop where
  sets : ∃ f, fields.find? (·.name == key) = some f ∧
    ∀ v r s, f.read v r = .ok s → given v (part s)
  keeps : ∀ f ∈ fields, f.name ≠ key → f.Keeps part

/-- The last member under the key allows this, or there is none and this is `initial`. -/
def Given (given : Json → α → Prop) (initial : α) (key : String)
    (members : List (String × Json)) (a : α) : Prop :=
  match last? key members with
  | none => a = initial
  | some v => given v a

theorem map_eq_ok {ε β : Type} {x : Except ε α} {f : α → β} {b : β} :
    x.map f = .ok b ↔ ∃ a, x = .ok a ∧ f a = b := by
  cases x <;> simp [Except.map]

section

variable {fields : List (RecordField ρ)} {key k : String} {given : Json → α → Prop}
variable {part : ρ → α} {ms : List (String × Json)} {r s : ρ}

theorem keeps_field {β : Type} {value : Json → Except Mismatch β} {set : β → ρ → ρ}
    (h : ∀ b r, part (set b r) = part r) : (field k value set).Keeps part := by
  intro v r s hread
  obtain ⟨b, _, rfl⟩ := map_eq_ok.mp hread
  exact h b r

theorem given_cons_of_ne {initial a : α} {v : Json} (hne : key ≠ k)
    (h : Given given initial key ms a) : Given given initial key ((k, v) :: ms) a := by
  rw [Given, last?_cons, if_neg hne, Option.or_none]
  exact h

theorem Owns.given_of_readMembers (h : Owns fields key given part)
    (hread : readMembers fields ms r = .ok s) : Given given (part r) key ms (part s) := by
  induction ms generalizing r with
  | nil =>
      cases hread
      rfl
  | cons m ms ih =>
      obtain ⟨k, v⟩ := m
      obtain ⟨f, hfind, hset⟩ := h.sets
      rw [readMembers] at hread
      split at hread
      · rename_i hnone
        refine given_cons_of_ne ?_ (ih hread)
        rintro rfl
        rw [hfind] at hnone
        cases hnone
      · rename_i g hsome
        split at hread
        · rename_i r' hg
          have hname : g.name = k := by simpa using List.find?_some hsome
          by_cases hk : key = k
          · subst hk
            obtain rfl : f = g := Option.some.inj (hfind.symm.trans hsome)
            have hrest := ih hread
            rw [Given] at hrest ⊢
            rw [last?_cons, if_pos rfl]
            -- a later member under the key counts, and this one only without it
            cases hlast : last? key ms with
            | none =>
                rw [hlast] at hrest
                simp only [Option.none_or]
                rw [hrest]
                exact hset v r r' hg
            | some w =>
                rw [hlast] at hrest
                exact hrest
          · have hkeep : part r' = part r :=
              h.keeps g (List.mem_of_find?_eq_some hsome) (hname ▸ Ne.symm hk) v r r' hg
            rw [← hkeep]
            exact given_cons_of_ne hk (ih hread)
        · cases hread

theorem given_of_readRecord {β : Type} {value : Json → Except Mismatch β} {set : β → ρ → ρ}
    {type : String} (hread : readRecord type fields r (.object ms) = .ok s)
    (hfind : fields.find? (·.name == key) = some (field key value set))
    (hset : ∀ v b r, value v = .ok b → given v (part (set b r)))
    (hkeeps : ∀ f ∈ fields, f.name ≠ key → f.Keeps part) :
    Given given (part r) key ms (part s) := by
  have howns : Owns fields key given part := by
    refine ⟨⟨_, hfind, fun v r s hf => ?_⟩, hkeeps⟩
    obtain ⟨b, hb, rfl⟩ := map_eq_ok.mp hf
    exact hset v b r hb
  exact howns.given_of_readMembers hread

end

/-! ## Texts -/

def TextAt (key : String) (members : List (String × Json)) (text : String) : Prop :=
  Given (fun v a => v = .string a) "" key members text

theorem readText_eq_ok {v : Json} {a : String} : readText v = .ok a ↔ v = .string a := by
  cases v <;> simp [readText]

@[simp] theorem field_name {β : Type} (k : String) (value : Json → Except Mismatch β)
    (set : β → ρ → ρ) : (field k value set).name = k := rfl

theorem textAt_of_readRecord {fields : List (RecordField ρ)} {key type : String}
    {ms : List (String × Json)} {r s : ρ} {set : String → ρ → ρ} (part : ρ → String)
    (hread : readRecord type fields r (.object ms) = .ok s) (hr : part r = "")
    (hfind : fields.find? (·.name == key) = some (field key readText set))
    (hset : ∀ a r, part (set a r) = a)
    (hkeeps : ∀ f ∈ fields, f.name ≠ key → f.Keeps part) : TextAt key ms (part s) := by
  rw [TextAt, ← hr]
  refine given_of_readRecord hread hfind (fun v a r hv => ?_) hkeeps
  rw [hset]
  exact readText_eq_ok.mp hv

theorem TextAt.eq {key a b : String} {ms ns : List (String × Json)} (ha : TextAt key ms a)
    (hb : TextAt key ns b) (hreturns : MemberReturns (last? key ms) (last? key ns)) : a = b := by
  rw [TextAt, Given] at ha hb
  revert ha hb
  generalize last? key ms = x at hreturns ⊢
  generalize last? key ns = y at hreturns ⊢
  intro ha hb
  cases hreturns with
  | absent => exact ha.trans hb.symm
  | lost hplain =>
      subst ha
      cases hplain
  | kept h =>
      subst ha hb
      exact (string.inj h.eq_string).symm

end Json

end ClusterMigration
