import ClusterMigration.Proofs.Component.Gather
import ClusterMigration.Proofs.Result

/-!
# Gatherings in lockstep

Two gatherings go in lockstep where they ask for the same files and tell the same, whatever
the files hold. As long as the same files can be had they do the same from outside, and what
they end with is related. What a single one does is up to the files that it asks for and no
others, as `run_of_asked` says.
-/

namespace ClusterMigration

/-- The same files can be had, and the others fail in the same way. -/
def Files.FailAlike (files₁ files₂ : Files) : Prop :=
  ∀ path, (files₁ path).map (fun _ => ()) = (files₂ path).map fun _ => ()

namespace Gather

/-- What a gathering does that can be seen from outside. -/
inductive Event where
  | asked (path : String)
  | told (n : Notice)
  deriving DecidableEq, Repr

variable {α β γ δ : Type}

def events (files : Files) : Gather α → List Event
  | done _ => []
  | fail _ => []
  | fetch path next =>
    .asked path :: match files path with
      | .ok content => (next content).events files
      | .error _ => []
  | note n next => .told n :: next.events files

def answer (files : Files) (path : String) : StateM (List Event) (Except FetchError Bytes) :=
  fun log => (files path, log ++ [.asked path])

theorem run_answer (files : Files) (path : String) (log : List Event) :
    (answer files path).run log = pure (files path, log ++ [.asked path]) := rfl

def listen (n : Notice) : StateM (List Event) Unit := fun log => ((), log ++ [.told n])

/-- A host that writes everything down sees the events. -/
theorem perform_events (files : Files) (g : Gather α) (log : List Event) :
    (g.perform (answer files) listen).run log = (g.result files, log ++ g.events files) := by
  induction g generalizing log with
  | done a => exact congrArg (Prod.mk _) (List.append_nil log).symm
  | fail e => exact congrArg (Prod.mk _) (List.append_nil log).symm
  | note n next ih =>
      refine (ih (log ++ [.told n])).trans ?_
      rw [List.append_assoc]
      rfl
  | fetch path next ih =>
      rw [perform, StateT.run_bind, run_answer, result, outcome, events]
      cases files path with
      | ok content =>
          refine (ih content (log ++ [.asked path])).trans ?_
          rw [List.append_assoc]
          rfl
      | error e => rfl

theorem events_bind (files : Files) (g : Gather α) (f : α → Gather β) :
    events files (g >>= f) = events files g ++
      match result files g with
      | .ok a => events files (f a)
      | .error _ => [] := by
  change events files (g.bind f) = _
  induction g with
  | done a => rfl
  | fail e => rfl
  | note n next ih => exact congrArg (.told n :: ·) ih
  | fetch path next ih =>
      simp only [bind, events, result, outcome]
      cases files path with
      | ok content => exact congrArg (.asked path :: ·) (ih content)
      | error e => rfl

/-! ## Lockstep -/

/-- The same is asked and told, whatever is answered, and results are related. -/
inductive Lockstep (R : α → β → Prop) : Gather α → Gather β → Prop
  | done {a : α} {b : β} (h : R a b) : Lockstep R (done a) (done b)
  | fail (e : Failure) : Lockstep R (fail e) (fail e)
  | fetch (path : String) {next₁ : Bytes → Gather α} {next₂ : Bytes → Gather β}
      (h : ∀ content₁ content₂, Lockstep R (next₁ content₁) (next₂ content₂)) :
      Lockstep R (fetch path next₁) (fetch path next₂)
  | note (n : Notice) {next₁ : Gather α} {next₂ : Gather β} (h : Lockstep R next₁ next₂) :
      Lockstep R (note n next₁) (note n next₂)

variable {R S : α → β → Prop} {T : γ → δ → Prop} {g₁ : Gather α} {g₂ : Gather β}

theorem Lockstep.pure {a : α} {b : β} (h : R a b) :
    Lockstep R (Pure.pure a) (Pure.pure b) := .done h

theorem lockstep_file (path : String) :
    Lockstep (fun _ _ => True) (file path) (file path) :=
  .fetch path fun _ _ => .done trivial

theorem lockstep_tell (n : Notice) : Lockstep (fun _ _ => True) (tell n) (tell n) :=
  .note n (.done trivial)

theorem Lockstep.bind {f₁ : α → Gather γ} {f₂ : β → Gather δ} (h : Lockstep R g₁ g₂)
    (hnext : ∀ a b, R a b → Lockstep T (f₁ a) (f₂ b)) : Lockstep T (g₁ >>= f₁) (g₂ >>= f₂) := by
  change Lockstep T (g₁.bind f₁) (g₂.bind f₂)
  induction h with
  | done h => exact hnext _ _ h
  | fail e => exact .fail e
  | fetch path _ ih => exact .fetch path ih
  | note n _ ih => exact .note n ih

theorem Lockstep.mono (h : Lockstep R g₁ g₂) (hmono : ∀ a b, R a b → S a b) :
    Lockstep S g₁ g₂ := by
  induction h with
  | done h => exact .done (hmono _ _ h)
  | fail e => exact .fail e
  | fetch path _ ih => exact .fetch path ih
  | note n _ ih => exact .note n ih

/-- From outside two gatherings in lockstep look the same. -/
theorem Lockstep.run {files₁ files₂ : Files} (h : Lockstep R g₁ g₂)
    (hfiles : files₁.FailAlike files₂) :
    g₁.events files₁ = g₂.events files₂ ∧ Both R (g₁.result files₁) (g₂.result files₂) := by
  induction h with
  | done h => exact ⟨rfl, .ok h⟩
  | fail e => exact ⟨rfl, .error e⟩
  | note n _ ih => exact ⟨congrArg (List.cons (Event.told n)) ih.1, ih.2⟩
  | fetch path _ ih =>
      have hpath := Both.of_map_eq (hfiles path)
      simp only [events, result, outcome]
      generalize files₁ path = x at hpath ⊢
      generalize files₂ path = y at hpath ⊢
      cases hpath with
      | error e => exact ⟨rfl, .error _⟩
      | @ok content₁ content₂ _ =>
          obtain ⟨hevents, hresult⟩ := ih content₁ content₂
          exact ⟨congrArg (.asked path :: ·) hevents, hresult⟩

/-! ## Files that are asked for -/

def Event.path? : Event → Option String
  | asked path => some path
  | told _ => none

def asked (files : Files) (g : Gather α) : List String := (g.events files).filterMap (·.path?)

theorem asked_fetch (files : Files) (path : String) (next : Bytes → Gather α) :
    asked files (fetch path next) =
      path :: match files path with
        | .ok content => asked files (next content)
        | .error _ => [] := by
  simp only [asked, events, List.filterMap_cons, Event.path?]
  cases files path <;> rfl

theorem asked_note (files : Files) (n : Notice) (next : Gather α) :
    asked files (note n next) = asked files next := rfl

theorem run_of_asked {files files' : Files} {g : Gather α}
    (h : ∀ path ∈ g.asked files, files' path = files path) :
    g.events files' = g.events files ∧ g.outcome files' = g.outcome files := by
  induction g with
  | done a => exact ⟨rfl, rfl⟩
  | fail e => exact ⟨rfl, rfl⟩
  | note n next ih =>
      rw [asked_note] at h
      obtain ⟨hevents, houtcome⟩ := ih h
      simp only [events, outcome, hevents, houtcome, and_self]
  | fetch path next ih =>
      rw [asked_fetch] at h
      have hpath : files' path = files path := h path (List.mem_cons_self ..)
      simp only [events, outcome, hpath]
      cases hfile : files path with
      | error e => exact ⟨rfl, rfl⟩
      | ok content =>
          simp only [hfile] at h
          obtain ⟨hevents, houtcome⟩ := ih content fun p hp => h p (List.mem_cons_of_mem _ hp)
          exact ⟨congrArg (.asked path :: ·) hevents, houtcome⟩

theorem outcome_of_asked {files files' : Files} {g : Gather α}
    (h : ∀ path ∈ g.asked files, files' path = files path) :
    g.outcome files' = g.outcome files := (run_of_asked h).2

end Gather

end ClusterMigration
