import ClusterMigration.Component.Basic
import ClusterMigration.Proofs.Result

/-!
# Gathering from changing files

What is answered for a path may depend on all that was asked before, as with a host that fails
after a while. Many gatherings ask for the same paths whatever they are answered, up to the first
that is refused. The main statement is `Asks.follows`.
-/

namespace ClusterMigration

/-- What is answered for a path, by all that was asked for before. -/
abbrev Archive := List String → String → Except FetchError Bytes

namespace Archive

/-- After the start the paths of the plan are all given, one after the other. -/
def Grants (archive : Archive) (start plan : List String) : Prop :=
  ∀ before path after, plan = before ++ path :: after →
    ∃ content, archive (start ++ before) path = .ok content

/-- After the start the paths of the plan are given up to this one, which is refused. -/
structure Refuses (archive : Archive) (start plan before : List String) (path : String)
    (e : FetchError) : Prop where
  split : ∃ after, plan = before ++ path :: after
  grants : archive.Grants start before
  refused : archive (start ++ before) path = .error e

/-- This path comes first and is given in both or refused for the same reason, and what is
answered from then on is the same. -/
structure SameAfter (path : String) (archive₁ archive₂ : Archive) : Prop where
  first : (archive₁ [] path).map (fun _ => ()) = (archive₂ [] path).map fun _ => ()
  rest : ∀ before other, archive₁ (path :: before) other = archive₂ (path :: before) other

variable {archive : Archive} {start plan before : List String}
  {path first : String} {content : Bytes} {e e' : FetchError}

theorem grants_nil : archive.Grants start [] := by
  intro before path after h
  cases before <;> cases h

theorem grants_cons_iff (h : archive start path = .ok content) :
    archive.Grants start (path :: plan) ↔ archive.Grants (start ++ [path]) plan := by
  constructor
  · intro hgrants before p after heq
    simpa using hgrants (path :: before) p after (by rw [heq, List.cons_append])
  · intro hgrants before p after heq
    cases before with
    | nil =>
        cases heq
        exact ⟨content, by rw [List.append_nil, h]⟩
    | cons q before =>
        obtain ⟨rfl, htail⟩ := List.cons.inj heq
        simpa using hgrants before p after htail

theorem Refuses.head (h : archive start path = .error e) :
    archive.Refuses start (path :: plan) [] path e :=
  ⟨⟨plan, rfl⟩, grants_nil, by rw [List.append_nil, h]⟩

theorem Refuses.eq_head (hfirst : archive start first = .error e)
    (h : archive.Refuses start (first :: plan) before path e') :
    before = [] ∧ path = first ∧ e' = e := by
  obtain ⟨⟨after, heq⟩, hgrants, hrefused⟩ := h
  cases before with
  | nil =>
      cases heq
      rw [List.append_nil, hfirst] at hrefused
      exact ⟨rfl, rfl, (Except.error.inj hrefused).symm⟩
  | cons q before =>
      obtain ⟨rfl, -⟩ := List.cons.inj heq
      obtain ⟨content, hcontent⟩ := hgrants [] first before rfl
      rw [List.append_nil, hfirst] at hcontent
      cases hcontent

theorem refuses_cons_iff (h : archive start first = .ok content) :
    archive.Refuses start (first :: plan) before path e ↔
      ∃ rest, before = first :: rest ∧ archive.Refuses (start ++ [first]) plan rest path e := by
  constructor
  · rintro ⟨⟨after, heq⟩, hgrants, hrefused⟩
    cases before with
    | nil =>
        cases heq
        rw [List.append_nil, h] at hrefused
        cases hrefused
    | cons q rest =>
        obtain ⟨rfl, htail⟩ := List.cons.inj heq
        exact ⟨rest, rfl, ⟨after, htail⟩, (grants_cons_iff h).mp hgrants, by simpa using hrefused⟩
  · rintro ⟨rest, rfl, ⟨after, rfl⟩, hgrants, hrefused⟩
    exact ⟨⟨after, rfl⟩, (grants_cons_iff h).mpr hgrants, by simpa using hrefused⟩

theorem grants_or_refuses (archive : Archive) (start plan : List String) :
    archive.Grants start plan ∨ ∃ before path e, archive.Refuses start plan before path e := by
  induction plan generalizing start with
  | nil => exact .inl grants_nil
  | cons first plan ih =>
      cases hfirst : archive start first with
      | error e => exact .inr ⟨[], first, e, .head hfirst⟩
      | ok content =>
          rcases ih (start ++ [first]) with hgrants | ⟨before, path, e, hrefuses⟩
          · exact .inl ((grants_cons_iff hfirst).mpr hgrants)
          · exact .inr ⟨_, path, e, (refuses_cons_iff hfirst).mpr ⟨before, rfl, hrefuses⟩⟩

theorem Refuses.not_grants (h : archive.Refuses start plan before path e) :
    ¬ archive.Grants start plan := by
  intro hgrants
  obtain ⟨after, hsplit⟩ := h.split
  obtain ⟨content, hcontent⟩ := hgrants before path after hsplit
  rw [h.refused] at hcontent
  cases hcontent

end Archive

/-! ## Visits to an archive -/

namespace Gather

variable {α β : Type}

def consult (archive : Archive) (path : String) :
    StateM (List String) (Except FetchError Bytes) :=
  fun asked => (archive asked path, asked ++ [path])

/-- What a gathering ends with, and all that has been asked for by then. -/
def visit (archive : Archive) (asked : List String) (g : Gather α) :
    Except Failure α × List String :=
  (g.perform (consult archive) fun _ => pure ()).run asked

variable {archive : Archive} {asked : List String}

theorem visit_done (archive : Archive) (asked : List String) (a : α) :
    visit archive asked (done a) = (.ok a, asked) := rfl

theorem visit_pure (archive : Archive) (asked : List String) (a : α) :
    visit archive asked (pure a : Gather α) = (.ok a, asked) := rfl

theorem visit_fetch (path : String) (next : Bytes → Gather α) :
    visit archive asked (fetch path next) =
      match archive asked path with
      | .ok content => visit archive (asked ++ [path]) (next content)
      | .error e => (.error (.fetch e), asked ++ [path]) := by
  have hconsult : (consult archive path).run asked = (archive asked path, asked ++ [path]) := rfl
  rw [visit, perform, StateT.run_bind, hconsult]
  cases archive asked path <;> rfl

theorem visit_bind (archive : Archive) (asked : List String) (g : Gather α)
    (f : α → Gather β) :
    visit archive asked (g >>= f) =
      match visit archive asked g with
      | (.ok a, asked) => visit archive asked (f a)
      | (.error e, asked) => (.error e, asked) := by
  change visit archive asked (g.bind f) = _
  induction g generalizing asked with
  | done a => rfl
  | fail e => rfl
  | note n next ih => exact ih asked
  | fetch path next ih =>
      rw [bind, visit_fetch, visit_fetch]
      cases archive asked path with
      | ok content => exact ih content _
      | error e => rfl

theorem visit_congr {archive₁ archive₂ : Archive} (g : Gather α) {start : List String}
    (h : ∀ before path, archive₁ (start ++ before) path = archive₂ (start ++ before) path) :
    visit archive₁ start g = visit archive₂ start g := by
  induction g generalizing start with
  | done a => rfl
  | fail e => rfl
  | note n next ih => exact ih h
  | fetch path next ih =>
      have hpath := h [] path
      rw [List.append_nil] at hpath
      rw [visit_fetch, visit_fetch, hpath]
      cases archive₂ start path with
      | error e => rfl
      | ok content =>
          refine ih content fun before p => ?_
          rw [List.append_assoc]
          exact h _ p

/-! ## Plans -/

/-- Whatever it is answered, the gathering asks for these paths and then has a result. -/
inductive Asks : Gather α → List String → Prop
  | done (a : α) : Asks (done a) []
  | fetch (path : String) {next : Bytes → Gather α} {plan : List String}
      (h : ∀ content, Asks (next content) plan) : Asks (fetch path next) (path :: plan)
  | note (n : Notice) {next : Gather α} {plan : List String} (h : Asks next plan) :
      Asks (note n next) plan

theorem Asks.pure (a : α) : Asks (Pure.pure a) [] := .done a

theorem asks_file (path : String) : Asks (file path) [path] := .fetch path fun _ => .done _

theorem Asks.bind {g : Gather α} {f : α → Gather β} {plan more : List String}
    (h : Asks g plan) (hnext : ∀ a, Asks (f a) more) : Asks (g >>= f) (plan ++ more) := by
  change Asks (g.bind f) _
  induction h with
  | done a => exact hnext a
  | fetch path _ ih => exact .fetch path ih
  | note n _ ih => exact .note n ih

theorem Asks.map {g : Gather α} {f : α → Gather β} {plan : List String} (h : Asks g plan)
    (hnext : ∀ a, Asks (f a) []) : Asks (g >>= f) plan := by
  simpa using h.bind hnext

/-- After the start the paths of the plan are asked for up to the first that is refused. There
is a result if none is. -/
structure Follows (archive : Archive) (start plan : List String)
    (visit : Except Failure α × List String) : Prop where
  of_grants : archive.Grants start plan → visit.2 = start ++ plan ∧ ∃ a, visit.1 = .ok a
  of_refuses : ∀ before path e, archive.Refuses start plan before path e →
    visit = (.error (.fetch e), start ++ before ++ [path])

variable {start plan : List String} {path : String} {content : Bytes}
  {visited : Except Failure α × List String}

theorem Follows.nil (a : α) : Follows archive start [] (.ok a, start) where
  of_grants _ := ⟨(List.append_nil start).symm, a, rfl⟩
  of_refuses _ _ _ h := absurd Archive.grants_nil h.not_grants

theorem Follows.cons (hpath : archive start path = .ok content)
    (h : Follows archive (start ++ [path]) plan visited) :
    Follows archive start (path :: plan) visited := by
  constructor
  · intro hgrants
    simpa using h.of_grants ((Archive.grants_cons_iff hpath).mp hgrants)
  · intro before p e hrefuses
    obtain ⟨rest, rfl, hrest⟩ := (Archive.refuses_cons_iff hpath).mp hrefuses
    simpa using h.of_refuses rest p e hrest

theorem Follows.refused {e : FetchError} (hpath : archive start path = .error e) :
    Follows archive start (path :: plan)
      ((.error (.fetch e), start ++ [path]) : Except Failure α × List String) := by
  constructor
  · intro hgrants
    exact absurd hgrants (Archive.Refuses.head hpath).not_grants
  · intro before p e' hrefuses
    obtain ⟨rfl, rfl, rfl⟩ := hrefuses.eq_head hpath
    rw [List.append_nil]

/-- A visit follows the plan of what is asked for. -/
theorem Asks.follows {g : Gather α} (h : Asks g plan) (archive : Archive) (start : List String) :
    Follows archive start plan (g.visit archive start) := by
  induction h generalizing start with
  | done a => exact .nil a
  | note n _ ih => exact ih start
  | fetch path _ ih =>
      rw [visit_fetch]
      cases hpath : archive start path with
      | ok content => exact .cons hpath (ih content _)
      | error e => exact .refused hpath

theorem Follows.map {f : α → β} (h : Follows archive start plan visited) :
    Follows archive start plan (visited.1.map f, visited.2) := by
  constructor
  · intro hgrants
    obtain ⟨hasked, a, ha⟩ := h.of_grants hgrants
    exact ⟨hasked, f a, by rw [ha]; rfl⟩
  · intro before p e hrefuses
    rw [h.of_refuses before p e hrefuses]
    rfl

theorem Follows.error_iff (h : Follows archive start plan visited) {failure : Failure} :
    visited.1 = .error failure ↔
      ∃ before path e, archive.Refuses start plan before path e ∧ failure = .fetch e := by
  constructor
  · intro hfailure
    rcases archive.grants_or_refuses start plan with hgrants | ⟨before, path, e, hrefuses⟩
    · obtain ⟨-, a, ha⟩ := h.of_grants hgrants
      rw [ha] at hfailure
      cases hfailure
    · rw [h.of_refuses before path e hrefuses] at hfailure
      exact ⟨before, path, e, hrefuses, (Except.error.inj hfailure).symm⟩
  · rintro ⟨before, path, e, hrefuses, rfl⟩
    rw [h.of_refuses before path e hrefuses]

end Gather

end ClusterMigration
