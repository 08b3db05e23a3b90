/-!
# Results of runs

A run ends with a result or with the reason why there is none. Two runs can end alike: both
with a result, or both for the same reason without one.
-/

namespace ClusterMigration

section

variable {ε α β : Type} {x : Except ε α}

theorem isOk_iff : x.isOk = true ↔ ∃ a, x = .ok a := by
  cases x <;> simp [Except.isOk, Except.toBool]

theorem isOk_eq_false_iff : x.isOk = false ↔ ∃ e, x = .error e := by
  cases x <;> simp [Except.isOk, Except.toBool]

theorem toOption_any_iff {p : α → Bool} :
    x.toOption.any p = true ↔ ∃ a, x = .ok a ∧ p a = true := by
  cases x <;> simp [Except.toOption]

@[simp] theorem isOk_map (f : α → β) : (x.map f).isOk = x.isOk := by
  cases x <;> rfl

@[simp] theorem isOk_mapError (f : ε → β) : (x.mapError f).isOk = x.isOk := by
  cases x <;> rfl

end

/-- Both results are there and related, or both are missing for the same reason. -/
inductive Both {ε α β : Type} (R : α → β → Prop) : Except ε α → Except ε β → Prop
  | ok {a : α} {b : β} (h : R a b) : Both R (.ok a) (.ok b)
  | error (e : ε) : Both R (.error e) (.error e)

theorem Both.of_map_eq {ε α β γ : Type} {f : α → γ} {g : β → γ} {x : Except ε α}
    {y : Except ε β} (h : x.map f = y.map g) : Both (fun a b => f a = g b) x y := by
  cases x with
  | error e =>
      cases y with
      | error e' =>
          cases h
          exact .error e
      | ok b => cases h
  | ok a =>
      cases y with
      | error e => cases h
      | ok b => exact .ok (Except.ok.inj h)

theorem Both.map {ε α β γ δ : Type} {R : α → β → Prop} {S : γ → δ → Prop} {f : α → γ}
    {g : β → δ} {x : Except ε α} {y : Except ε β} (h : Both R x y)
    (hmap : ∀ a b, R a b → S (f a) (g b)) : Both S (x.map f) (y.map g) := by
  cases h with
  | error e => exact .error e
  | ok h => exact .ok (hmap _ _ h)

end ClusterMigration
