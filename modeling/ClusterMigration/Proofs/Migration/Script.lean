import ClusterMigration.Proofs.Migration.Stages

/-!
# Migrations as scripts

What a migration asks of its host depends only on what it was answered before. So a migration
is a script that any host can carry out, and to know the answers of the host is to know the
run. A host is watched by writing down everything that passes between it and the migration:
the session.

Main statements: `on_run`, by which a migration is the same script on every host, and
`watched_eq_iff`, by which a watched host has just those sessions of a script whose answers it
gives.
-/

namespace ClusterMigration

namespace Migration

/-- A procedure that asks for files, hands over and tells, and goes on by the answers. -/
inductive Script (α : Type) where
  | done (a : α)
  | fetch (path : String) (next : Except FetchError Bytes → Script α)
  | deliver (d : Delivery) (next : Except DeliveryError Unit → Script α)
  | heed (n : Notice) (next : Script α)

namespace Script

variable {α β : Type}

def bind (f : α → Script β) : Script α → Script β
  | done a => f a
  | fetch path next => fetch path fun answer => (next answer).bind f
  | deliver d next => deliver d fun answer => (next answer).bind f
  | heed n next => heed n (next.bind f)

instance : Monad Script where
  pure := done
  bind x f := x.bind f

theorem bind_done (x : Script α) : x.bind done = x := by
  induction x with
  | done a => rfl
  | fetch path next ih => exact congrArg (fetch path) (funext ih)
  | deliver d next ih => exact congrArg (deliver d) (funext ih)
  | heed n next ih => exact congrArg (heed n) ih

theorem bind_bind {γ : Type} (x : Script α) (f : α → Script β) (g : β → Script γ) :
    (x.bind f).bind g = x.bind fun a => (f a).bind g := by
  induction x with
  | done a => rfl
  | fetch path next ih => exact congrArg (fetch path) (funext ih)
  | deliver d next ih => exact congrArg (deliver d) (funext ih)
  | heed n next ih => exact congrArg (heed n) ih

instance : LawfulMonad Script := .mk' Script bind_done (fun _ _ => rfl) bind_bind

def host : Host Script where
  fetch path := fetch path done
  deliver d := deliver d done
  heed n := heed n (done ())

/-! ## Hosts carry scripts out -/

variable {m : Type → Type} [Monad m]

def on (h : Host m) : Script α → m α
  | done a => pure a
  | fetch path next => do on h (next (← h.fetch path))
  | deliver d next => do on h (next (← h.deliver d))
  | heed n next => do
    h.heed n
    on h next

theorem on_pure (h : Host m) (a : α) : (pure a : Script α).on h = pure a := rfl

variable [LawfulMonad m] (h : Host m)

theorem on_bind (x : Script α) (f : α → Script β) :
    (x >>= f).on h = x.on h >>= fun a => (f a).on h := by
  change (x.bind f).on h = _
  induction x with
  | done a => simp [bind, on]
  | fetch path next ih => simp [bind, on, ih]
  | deliver d next ih => simp [bind, on, ih]
  | heed n next ih => simp [bind, on, ih]

theorem on_fetch (path : String) : (host.fetch path).on h = h.fetch path := by
  simp [host, on]

theorem on_deliver (d : Delivery) : (host.deliver d).on h = h.deliver d := by
  simp [host, on]

theorem on_heed (n : Notice) : (host.heed n).on h = h.heed n := by
  simp [host, on]

theorem on_perform (g : Gather α) :
    (g.perform host.fetch host.heed).on h = g.perform h.fetch h.heed := by
  induction g with
  | done a => rfl
  | fail e => rfl
  | fetch path next ih =>
      simp only [Gather.perform, on_bind, on_fetch]
      refine bind_congr fun answer => ?_
      cases answer with
      | ok content => exact ih content
      | error e => rfl
  | note n next ih => simp only [Gather.perform, on_bind, on_heed, ih]

theorem on_deliverManifests (ms : List Manifest) :
    (deliverManifests host ms).on h = deliverManifests h ms := by
  induction ms with
  | nil => rfl
  | cons x rest ih =>
      simp only [deliverManifests, on_bind, on_deliver]
      refine bind_congr fun answer => ?_
      cases answer with
      | ok _ => exact ih
      | error e => rfl

theorem on_deliverOutput (o : Output) : (deliverOutput host o).on h = deliverOutput h o := by
  cases o with
  | manifests ms => exact on_deliverManifests h ms
  | report r => exact on_deliver h (.report r)

theorem on_deliverOutputs (options : OutputOptions) (outputs : List Output) :
    (deliverOutputs host options outputs).on h = deliverOutputs h options outputs := by
  induction outputs with
  | nil => rfl
  | cons o rest ih =>
      simp only [deliverOutputs]
      split
      · simp only [on_bind, on_deliverOutput]
        refine bind_congr fun answer => ?_
        cases answer with
        | ok _ => exact ih
        | error e => rfl
      · exact ih

theorem on_heedAll (ns : List Notice) : (heedAll host ns).on h = heedAll h ns := by
  induction ns with
  | nil => rfl
  | cons n rest ih => simp only [heedAll, on_bind, on_heed, ih]

theorem on_runComponent (options : OutputOptions) (c : Component) :
    (runComponent host options c).on h = runComponent h options c := by
  simp only [runComponent_eq, on_bind, on_perform]
  refine bind_congr fun extracted => ?_
  cases extracted with
  | error e => rfl
  | ok x =>
      simp only
      cases x.validate with
      | error e => rfl
      | ok _ =>
          simp only [on_bind, on_heedAll]
          refine bind_congr fun _ => ?_
          cases x.transform.2 with
          | error e => rfl
          | ok outputs =>
              simp only [on_bind, on_deliverOutputs]
              refine bind_congr fun delivered => ?_
              cases delivered with
              | error e => rfl
              | ok _ => simp only [on_bind, on_heed, on_pure]

theorem on_run (options : OutputOptions) (cs : List Component) :
    (run host options cs).on h = run h options cs := by
  induction cs with
  | nil => rfl
  | cons c rest ih =>
      simp only [run, on_bind, on_heed, on_runComponent]
      refine bind_congr fun _ => bind_congr fun outcome => ?_
      cases outcome with
      | flushed => simp only [on_bind, on_pure, ih]
      | skipped stage reason => simp only [on_bind, on_heed, on_pure, ih]

end Script

/-! ## Sessions -/

inductive Exchange where
  | asked (path : String) (answer : Except FetchError Bytes)
  | handed (d : Delivery) (answer : Except DeliveryError Unit)
  | told (n : Notice)

abbrev Session := List Exchange

variable {α β σ : Type}

/-- With the answers of the session the script ends with the result. -/
inductive Script.Ends : Script α → Session → α → Prop
  | done (a : α) : Ends (done a) [] a
  | fetch {path : String} {next : Except FetchError Bytes → Script α} {session : Session} {a : α}
      (answer : Except FetchError Bytes) (h : Ends (next answer) session a) :
      Ends (fetch path next) (.asked path answer :: session) a
  | deliver {d : Delivery} {next : Except DeliveryError Unit → Script α} {session : Session}
      {a : α} (answer : Except DeliveryError Unit) (h : Ends (next answer) session a) :
      Ends (deliver d next) (.handed d answer :: session) a
  | heed {n : Notice} {next : Script α} {session : Session} {a : α} (h : Ends next session a) :
      Ends (heed n next) (.told n :: session) a

theorem Script.Ends.exists_of_bind {x : Script α} {f : α → Script β} {session : Session} {b : β}
    (h : Ends (x >>= f) session b) :
    ∃ first rest a, session = first ++ rest ∧ Ends x first a ∧ Ends (f a) rest b := by
  change Ends (x.bind f) session b at h
  induction x generalizing session with
  | done a => exact ⟨[], session, a, rfl, .done a, h⟩
  | fetch path next ih =>
      cases h with
      | fetch answer h =>
          obtain ⟨first, rest, a, rfl, hfirst, hrest⟩ := ih answer h
          exact ⟨_, rest, a, rfl, .fetch answer hfirst, hrest⟩
  | deliver d next ih =>
      cases h with
      | deliver answer h =>
          obtain ⟨first, rest, a, rfl, hfirst, hrest⟩ := ih answer h
          exact ⟨_, rest, a, rfl, .deliver answer hfirst, hrest⟩
  | heed n next ih =>
      cases h with
      | heed h =>
          obtain ⟨first, rest, a, rfl, hfirst, hrest⟩ := ih h
          exact ⟨_, rest, a, rfl, .heed hfirst, hrest⟩

namespace Script

variable {session : Session} {b : β}

theorem ends_pure {a : β} : (pure a : Script β).Ends session b ↔ session = [] ∧ b = a := by
  constructor
  · intro h
    cases h
    exact ⟨rfl, rfl⟩
  · rintro ⟨rfl, rfl⟩
    exact .done b

theorem ends_fetch {path : String} {f : Except FetchError Bytes → Script β} :
    (host.fetch path >>= f).Ends session b ↔
      ∃ answer rest, session = .asked path answer :: rest ∧ (f answer).Ends rest b := by
  change (fetch path f).Ends session b ↔ _
  constructor
  · intro h
    cases h with
    | fetch answer h => exact ⟨answer, _, rfl, h⟩
  · rintro ⟨answer, rest, rfl, h⟩
    exact .fetch answer h

theorem ends_deliver {d : Delivery} {f : Except DeliveryError Unit → Script β} :
    (host.deliver d >>= f).Ends session b ↔
      ∃ answer rest, session = .handed d answer :: rest ∧ (f answer).Ends rest b := by
  change (deliver d f).Ends session b ↔ _
  constructor
  · intro h
    cases h with
    | deliver answer h => exact ⟨answer, _, rfl, h⟩
  · rintro ⟨answer, rest, rfl, h⟩
    exact .deliver answer h

theorem ends_heed {n : Notice} {f : Unit → Script β} :
    (host.heed n >>= f).Ends session b ↔
      ∃ rest, session = .told n :: rest ∧ (f ()).Ends rest b := by
  change (heed n (f ())).Ends session b ↔ _
  constructor
  · intro h
    cases h with
    | heed h => exact ⟨_, rfl, h⟩
  · rintro ⟨rest, rfl, h⟩
    exact .heed h

end Script

/-- The host gives the answers of the session one after the other, and the states are those
before and after. -/
inductive Answers (h : Host (StateM σ)) : σ → Session → σ → Prop
  | nil (s : σ) : Answers h s [] s
  | asked {s s' s'' : σ} {path : String} {answer : Except FetchError Bytes} {session : Session}
      (hanswer : (h.fetch path).run s = (answer, s')) (hrest : Answers h s' session s'') :
      Answers h s (.asked path answer :: session) s''
  | handed {s s' s'' : σ} {d : Delivery} {answer : Except DeliveryError Unit}
      {session : Session} (hanswer : (h.deliver d).run s = (answer, s'))
      (hrest : Answers h s' session s'') : Answers h s (.handed d answer :: session) s''
  | told {s s' s'' : σ} {n : Notice} {session : Session}
      (hanswer : (h.heed n).run s = ((), s')) (hrest : Answers h s' session s'') :
      Answers h s (.told n :: session) s''

def watched (h : Host (StateM σ)) : Host (StateM (Session × σ)) where
  fetch path := fun (log, s) =>
    let (answer, s') := (h.fetch path).run s
    (answer, log ++ [.asked path answer], s')
  deliver d := fun (log, s) =>
    let (answer, s') := (h.deliver d).run s
    (answer, log ++ [.handed d answer], s')
  heed n := fun (log, s) =>
    let (_, s') := (h.heed n).run s
    ((), log ++ [.told n], s')

section

variable {h : Host (StateM σ)} {x : Script α} {log log' session : Session} {s s' : σ} {a : α}

private theorem run_fetch (path : String) (next : Except FetchError Bytes → Script α) :
    ((Script.fetch path next).on (watched h)).run (log, s) =
      ((next ((h.fetch path).run s).1).on (watched h)).run
        (log ++ [.asked path ((h.fetch path).run s).1], ((h.fetch path).run s).2) := rfl

private theorem run_deliver (d : Delivery) (next : Except DeliveryError Unit → Script α) :
    ((Script.deliver d next).on (watched h)).run (log, s) =
      ((next ((h.deliver d).run s).1).on (watched h)).run
        (log ++ [.handed d ((h.deliver d).run s).1], ((h.deliver d).run s).2) := rfl

private theorem run_heed (n : Notice) (next : Script α) :
    ((Script.heed n next).on (watched h)).run (log, s) =
      (next.on (watched h)).run (log ++ [.told n], ((h.heed n).run s).2) := rfl

theorem watched_of_ends (hends : x.Ends session a) (hanswers : Answers h s session s') :
    (x.on (watched h)).run (log, s) = (a, log ++ session, s') := by
  induction hends generalizing log s with
  | done a =>
      cases hanswers
      rw [List.append_nil]
      rfl
  | fetch answer _ ih =>
      cases hanswers with
      | asked hanswer hrest =>
          rw [run_fetch, hanswer, ih hrest, List.append_assoc, List.singleton_append]
  | deliver answer _ ih =>
      cases hanswers with
      | handed hanswer hrest =>
          rw [run_deliver, hanswer, ih hrest, List.append_assoc, List.singleton_append]
  | heed _ ih =>
      cases hanswers with
      | told hanswer hrest =>
          rw [run_heed, hanswer, ih hrest, List.append_assoc, List.singleton_append]

theorem exists_session (h : Host (StateM σ)) (x : Script α) (s : σ) :
    ∃ session a s', x.Ends session a ∧ Answers h s session s' := by
  induction x generalizing s with
  | done a => exact ⟨[], a, s, .done a, .nil s⟩
  | fetch path next ih =>
      obtain ⟨session, a, s', hends, hanswers⟩ :=
        ih ((h.fetch path).run s).1 ((h.fetch path).run s).2
      exact ⟨_, a, s', .fetch _ hends, .asked rfl hanswers⟩
  | deliver d next ih =>
      obtain ⟨session, a, s', hends, hanswers⟩ :=
        ih ((h.deliver d).run s).1 ((h.deliver d).run s).2
      exact ⟨_, a, s', .deliver _ hends, .handed rfl hanswers⟩
  | heed n next ih =>
      obtain ⟨session, a, s', hends, hanswers⟩ := ih ((h.heed n).run s).2
      exact ⟨_, a, s', .heed hends, .told rfl hanswers⟩

/-- A watched host has the sessions of the script that it gives the answers of. -/
theorem watched_eq_iff :
    (x.on (watched h)).run (log, s) = (a, log', s') ↔
      ∃ session, log' = log ++ session ∧ x.Ends session a ∧ Answers h s session s' := by
  constructor
  · intro hrun
    obtain ⟨session, b, t, hends, hanswers⟩ := exists_session h x s
    rw [watched_of_ends hends hanswers] at hrun
    cases hrun
    exact ⟨session, rfl, hends, hanswers⟩
  · rintro ⟨session, rfl, hends, hanswers⟩
    exact watched_of_ends hends hanswers

end

/-- A whole migration on a host that is watched: its summary, what has passed, and what has
become of the host. -/
def watch (h : Host (StateM σ)) (options : OutputOptions) (cs : List Component) (s : σ) :
    Summary × Session × σ :=
  (run (watched h) options cs).run ([], s)

theorem watch_eq_iff {h : Host (StateM σ)} {options : OutputOptions} {cs : List Component}
    {summary : Summary} {session : Session} {s s' : σ} :
    watch h options cs s = (summary, session, s') ↔
      (run Script.host options cs).Ends session summary ∧ Answers h s session s' := by
  rw [watch, ← Script.on_run, watched_eq_iff]
  simp

end Migration

end ClusterMigration
