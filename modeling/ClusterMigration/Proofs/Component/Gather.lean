import ClusterMigration.Component.Basic

/-!
# Gathering from unchanging files

Where every path has one answer, a gathering comes down to what it ends with and what
it tells on the way.
-/

namespace ClusterMigration

/-- The answer for each path of files that do not change. -/
abbrev Files := String → Except FetchError Bytes

namespace Gather

variable {α β : Type}

def outcome (files : Files) : Gather α → List Notice × Except Failure α
  | done a => ([], .ok a)
  | fail e => ([], .error e)
  | fetch path next =>
    match files path with
    | .ok content => outcome files (next content)
    | .error e => ([], .error (.fetch e))
  | note n next => (n :: (outcome files next).1, (outcome files next).2)

def result (files : Files) (g : Gather α) : Except Failure α := (g.outcome files).2

@[simp] theorem result_pure (files : Files) (a : α) :
    result files (pure a : Gather α) = .ok a := rfl

@[simp] theorem result_fail (files : Files) (e : Failure) :
    result files (fail e : Gather α) = .error e := rfl

@[simp] theorem result_tell (files : Files) (n : Notice) :
    result files (tell n) = .ok () := rfl

theorem result_file (files : Files) (path : String) :
    result files (file path) = (files path).mapError .fetch := by
  simp only [result, file, outcome]
  cases files path <;> rfl

theorem result_bind (files : Files) (g : Gather α) (f : α → Gather β) :
    result files (g >>= f) =
      match result files g with
      | .ok a => result files (f a)
      | .error e => .error e := by
  change result files (g.bind f) = _
  induction g with
  | done a => rfl
  | fail e => rfl
  | note n next ih => exact ih
  | fetch path next ih =>
      simp only [bind, result, outcome]
      cases files path with
      | ok content => exact ih content
      | error e => rfl

theorem result_bind_eq_ok {files : Files} {g : Gather α} {f : α → Gather β} {b : β} :
    result files (g >>= f) = .ok b ↔
      ∃ a, result files g = .ok a ∧ result files (f a) = .ok b := by
  rw [result_bind]
  cases result files g <;> simp

theorem result_file_eq_ok {files : Files} {path : String} {content : Bytes} :
    result files (file path) = .ok content ↔ files path = .ok content := by
  rw [result_file]
  cases files path with
  | ok _ =>
      constructor <;> intro h <;> cases h <;> rfl
  | error e =>
      constructor <;> intro h <;> cases h

end Gather

namespace Component

theorem extract_announced_eq_ok {α : Type} {name : String} {gather : Gather α}
    {validate : α → Except Failure Unit}
    {transform : α → List Notice × Except Failure (List Output)} {files : Files}
    {x : Extraction} :
    (announced name gather validate transform).extract.result files = .ok x ↔
      ∃ a, gather.result files = .ok a ∧
        ⟨validate a, .transforming name :: (transform a).1, (transform a).2⟩ = x := by
  constructor
  · intro h
    obtain ⟨_, _, h⟩ := Gather.result_bind_eq_ok.mp h
    obtain ⟨a, ha, h⟩ := Gather.result_bind_eq_ok.mp h
    exact ⟨a, ha, Except.ok.inj h⟩
  · rintro ⟨a, ha, rfl⟩
    exact Gather.result_bind_eq_ok.mpr ⟨(), rfl, Gather.result_bind_eq_ok.mpr ⟨a, ha, rfl⟩⟩

end Component

end ClusterMigration
