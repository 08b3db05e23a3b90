import ClusterMigration.Proofs.Component.Gather
import ClusterMigration.Proofs.Migration.Stages
import Mathlib.Data.List.InsertIdx

/-!
# What a migration hands over

A migration is watched by a host that writes down every delivery and every notice, with
files that do not change and a destination that may answer a delivery by all that it was
handed before. What happens is described without the loops of the migration: each
component takes its turn, and in its last stage the deliveries of its wanted outputs,
one after the other, are handed over up to the first that is refused.

Main statement: `run_turns`, which says that a run is the turns of its components, and
what follows for components that are skipped, for destinations without a memory and for
outputs that are not wanted.
-/

namespace ClusterMigration

namespace Migration

/-- What a destination answers, by all that it was handed before. -/
abbrev Sink := List Delivery → Delivery → Except DeliveryError Unit

structure Journal where
  deliveries : List Delivery := []
  notices : List Notice := []

namespace Journal

def hand (j : Journal) (ds : List Delivery) : Journal :=
  { j with deliveries := j.deliveries ++ ds }

def tell (j : Journal) (ns : List Notice) : Journal :=
  { j with notices := j.notices ++ ns }

@[simp] theorem hand_nil (j : Journal) : j.hand [] = j := by simp [hand]

@[simp] theorem tell_nil (j : Journal) : j.tell [] = j := by simp [tell]

@[simp] theorem hand_hand (j : Journal) (a b : List Delivery) :
    (j.hand a).hand b = j.hand (a ++ b) := by simp [hand]

@[simp] theorem tell_tell (j : Journal) (a b : List Notice) :
    (j.tell a).tell b = j.tell (a ++ b) := by simp [tell]

@[simp] theorem tell_hand (j : Journal) (a : List Notice) (b : List Delivery) :
    (j.tell a).hand b = (j.hand b).tell a := rfl

@[simp] theorem deliveries_tell (j : Journal) (ns : List Notice) :
    (j.tell ns).deliveries = j.deliveries := rfl

@[simp] theorem deliveries_hand (j : Journal) (ds : List Delivery) :
    (j.hand ds).deliveries = j.deliveries ++ ds := rfl

@[simp] theorem notices_tell (j : Journal) (ns : List Notice) :
    (j.tell ns).notices = j.notices ++ ns := rfl

@[simp] theorem notices_hand (j : Journal) (ds : List Delivery) :
    (j.hand ds).notices = j.notices := rfl

end Journal

/-- The host that writes everything down. -/
def recorder (files : Files) (sink : Sink) : Host (StateM Journal) where
  fetch path := pure (files path)
  deliver d := fun j => (sink j.deliveries d, j.hand [d])
  heed n := fun j => ((), j.tell [n])

variable {files : Files} {sink : Sink}

private theorem run_pure {α : Type} (a : α) (j : Journal) :
    (pure a : StateM Journal α).run j = (a, j) := rfl

private theorem run_bind {α β : Type} (x : StateM Journal α) (f : α → StateM Journal β)
    (j : Journal) : (x >>= f).run j = (f (x.run j).1).run (x.run j).2 := rfl

theorem perform_recorder {α : Type} (g : Gather α) (j : Journal) :
    StateT.run (g.perform (recorder files sink).fetch (recorder files sink).heed) j =
      (g.result files, j.tell (g.outcome files).1) := by
  induction g generalizing j with
  | done a => simp only [Gather.perform, Gather.result, Gather.outcome, run_pure, Journal.tell_nil]
  | fail e => simp only [Gather.perform, Gather.result, Gather.outcome, run_pure, Journal.tell_nil]
  | note n next ih =>
      have hstep := ih (j.tell [n])
      rw [Journal.tell_tell] at hstep
      exact hstep
  | fetch path next ih =>
      simp only [Gather.perform, Gather.result, Gather.outcome]
      change StateT.run (pure (files path) >>= _) j = _
      rw [pure_bind]
      cases files path with
      | ok content => exact ih content j
      | error e => simp only [run_pure, Journal.tell_nil]

private theorem heed_recorder (n : Notice) (j : Journal) :
    ((recorder files sink).heed n).run j = ((), j.tell [n]) := rfl

theorem heedAll_recorder (ns : List Notice) (j : Journal) :
    (heedAll (recorder files sink) ns).run j = ((), j.tell ns) := by
  induction ns generalizing j with
  | nil => simp only [heedAll, run_pure, Journal.tell_nil]
  | cons n rest ih =>
      have hstep := ih (j.tell [n])
      rw [Journal.tell_tell] at hstep
      exact hstep

/-! ## Handing over -/

/-- The calls that are made to hand over what is in the list, and how they end: nothing is
handed over after the first refusal. -/
inductive Handed (sink : Sink) :
    List Delivery → List Delivery → List Delivery → Except DeliveryError Unit → Prop where
  | nil {history : List Delivery} : Handed sink history [] [] (.ok ())
  | accepted {history rest calls : List Delivery} {d : Delivery}
      {r : Except DeliveryError Unit} (hd : sink history d = .ok ())
      (hrest : Handed sink (history ++ [d]) rest calls r) :
      Handed sink history (d :: rest) (d :: calls) r
  | refused {history rest : List Delivery} {d : Delivery} {e : DeliveryError}
      (hd : sink history d = .error e) : Handed sink history (d :: rest) [d] (.error e)

namespace Handed

variable {history ds more calls others : List Delivery} {r s : Except DeliveryError Unit}

theorem eq_of_ok (h : Handed sink history ds calls (.ok ())) : calls = ds := by
  generalize hr : Except.ok () = r at h
  induction h with
  | nil => rfl
  | accepted _ _ ih => rw [ih hr]
  | refused _ => cases hr

theorem append (h : Handed sink history ds ds (.ok ()))
    (hmore : Handed sink (history ++ ds) more calls r) :
    Handed sink history (ds ++ more) (ds ++ calls) r := by
  induction ds generalizing history with
  | nil => simpa using hmore
  | cons d rest ih =>
      cases h with
      | accepted hd hrest => exact .accepted hd (ih hrest (by simpa using hmore))

theorem append_of_error {e : DeliveryError} (h : Handed sink history ds calls (.error e)) :
    Handed sink history (ds ++ more) calls (.error e) := by
  generalize hr : Except.error e = r at h ⊢
  induction h with
  | nil => cases hr
  | accepted hd _ ih => exact .accepted hd (ih hr)
  | refused hd => exact .refused hd

theorem unique (h : Handed sink history ds calls r) (h' : Handed sink history ds others s) :
    calls = others ∧ r = s := by
  induction h generalizing others s with
  | nil => cases h'; exact ⟨rfl, rfl⟩
  | accepted hd _ ih =>
      cases h' with
      | accepted _ hrest =>
          obtain ⟨rfl, rfl⟩ := ih hrest
          exact ⟨rfl, rfl⟩
      | refused hd' => rw [hd] at hd'; cases hd'
  | refused hd =>
      cases h' with
      | accepted hd' _ => rw [hd] at hd'; cases hd'
      | refused hd' => rw [hd] at hd'; cases hd'; exact ⟨rfl, rfl⟩

theorem of_willing (hsink : ∀ history d, sink history d = .ok ()) (history ds : List Delivery) :
    Handed sink history ds ds (.ok ()) := by
  induction ds generalizing history with
  | nil => exact .nil
  | cons d rest ih => exact .accepted (hsink history d) (ih _)

theorem all_of_willing (hsink : ∀ history d, sink history d = .ok ())
    (h : Handed sink history ds calls r) : calls = ds ∧ r = .ok () := by
  induction h with
  | nil => exact ⟨rfl, rfl⟩
  | accepted _ _ ih => exact ⟨by rw [ih.1], ih.2⟩
  | refused hd => rw [hsink] at hd; cases hd

theorem of_forgetful (hsink : ∀ history history' d, sink history d = sink history' d)
    (h : Handed sink history ds calls r) (history' : List Delivery) :
    Handed sink history' ds calls r := by
  induction h generalizing history' with
  | nil => exact .nil
  | accepted hd _ ih => exact .accepted (by rw [hsink _ _, hd]) (ih _)
  | refused hd => exact .refused (by rw [hsink _ _, hd])

end Handed

theorem deliverManifests_recorder (ms : List Manifest) (j : Journal) :
    ∃ calls r, (deliverManifests (recorder files sink) ms).run j = (r, j.hand calls) ∧
      Handed sink j.deliveries (ms.map .manifest) calls r := by
  induction ms generalizing j with
  | nil => exact ⟨[], .ok (), by simp only [deliverManifests, run_pure, Journal.hand_nil], .nil⟩
  | cons f rest ih =>
      have hdeliver : ((recorder files sink).deliver (.manifest f)).run j =
          (sink j.deliveries (.manifest f), j.hand [.manifest f]) := rfl
      rw [deliverManifests, run_bind, hdeliver]
      cases hd : sink j.deliveries (.manifest f) with
      | error e => exact ⟨[.manifest f], .error e, run_pure _ _, .refused hd⟩
      | ok u =>
          obtain ⟨calls, r, hrest, hcalls⟩ := ih (j.hand [.manifest f])
          exact ⟨.manifest f :: calls, r, by simpa using hrest, .accepted hd hcalls⟩

def parts : Output → List Delivery
  | .manifests ms => ms.map .manifest
  | .report r => [.report r]

theorem deliverOutput_recorder (files : Files) (sink : Sink) (o : Output) (j : Journal) :
    ∃ calls r, (deliverOutput (recorder files sink) o).run j = (r, j.hand calls) ∧
      Handed sink j.deliveries (parts o) calls r := by
  cases o with
  | manifests ms => exact deliverManifests_recorder ms j
  | report r =>
      refine ⟨[.report r], sink j.deliveries (.report r), rfl, ?_⟩
      cases hd : sink j.deliveries (.report r) with
      | ok u => exact .accepted hd .nil
      | error e => exact .refused hd

def wanted (options : OutputOptions) (outputs : List Output) : List Delivery :=
  (outputs.filter (·.isWanted options)).flatMap parts

theorem wanted_cons (options : OutputOptions) (o : Output) (rest : List Output) :
    wanted options (o :: rest) =
      (if o.isWanted options then parts o else []) ++ wanted options rest := by
  by_cases ho : o.isWanted options <;> simp [wanted, ho]

def isWanted (options : OutputOptions) : Delivery → Bool
  | .manifest _ => options.manifests
  | .report _ => options.reporting

theorem filter_parts (options : OutputOptions) (o : Output) :
    (parts o).filter (isWanted options) = if o.isWanted options then parts o else [] := by
  have hparts : ∀ d ∈ parts o, isWanted options d = o.isWanted options := by
    cases o <;> simp [parts, isWanted, Output.isWanted]
  by_cases ho : o.isWanted options
  · rw [if_pos ho, List.filter_eq_self]
    exact fun d hd => (hparts d hd).trans ho
  · rw [if_neg ho, List.filter_eq_nil_iff]
    exact fun d hd => (hparts d hd) ▸ ho

theorem filter_wanted {options fewer : OutputOptions}
    (hm : fewer.manifests → options.manifests) (hr : fewer.reporting → options.reporting)
    (outputs : List Output) :
    (wanted options outputs).filter (isWanted fewer) = wanted fewer outputs := by
  induction outputs with
  | nil => rfl
  | cons o rest ih =>
      have ho : o.isWanted fewer → o.isWanted options := by
        cases o
        · exact hm
        · exact hr
      rw [wanted_cons, wanted_cons, List.filter_append, ih]
      by_cases hfewer : o.isWanted fewer
      · rw [if_pos (ho hfewer), filter_parts]
      · rw [if_neg hfewer]
        by_cases hoptions : o.isWanted options
        · rw [if_pos hoptions, filter_parts, if_neg hfewer]
        · rw [if_neg hoptions, List.filter_nil]

theorem deliverOutputs_recorder (files : Files) (sink : Sink) (options : OutputOptions)
    (outputs : List Output) (j : Journal) :
    ∃ calls r, (deliverOutputs (recorder files sink) options outputs).run j =
        (r, j.hand calls) ∧ Handed sink j.deliveries (wanted options outputs) calls r := by
  induction outputs generalizing j with
  | nil => exact ⟨[], .ok (), by simp only [deliverOutputs, run_pure, Journal.hand_nil], .nil⟩
  | cons o rest ih =>
      by_cases ho : o.isWanted options
      · have hwanted : wanted options (o :: rest) = parts o ++ wanted options rest := by
          rw [wanted_cons, if_pos ho]
        obtain ⟨calls, r, hrun, hcalls⟩ := deliverOutput_recorder files sink o j
        simp only [deliverOutputs, ho, if_true, run_bind, hrun, hwanted]
        cases r with
        | error e => exact ⟨calls, .error e, run_pure _ _, hcalls.append_of_error⟩
        | ok u =>
            obtain rfl := hcalls.eq_of_ok
            obtain ⟨more, r, hrest, hmore⟩ := ih (j.hand (parts o))
            exact ⟨parts o ++ more, r, by simpa using hrest, hcalls.append hmore⟩
      · have hwanted : wanted options (o :: rest) = wanted options rest := by
          rw [wanted_cons, if_neg ho, List.nil_append]
        simp only [deliverOutputs, ho, hwanted]
        exact ih j

/-! ## Turns -/

structure Turn where
  component : String
  outcome : Outcome
  calls : List Delivery := []
  notices : List Notice

namespace Turn

def entry (t : Turn) : String × Outcome := (t.component, t.outcome)

def told (t : Turn) : List Notice :=
  .running t.component :: t.notices ++
    match t.outcome with
    | .skipped stage reason => [.skipping t.component stage reason]
    | .flushed => []

/-- The turn with those calls only that hand over what is wanted. -/
def restrict (options : OutputOptions) (t : Turn) : Turn :=
  { t with calls := t.calls.filter (isWanted options) }

end Turn

/-- The turn of a component after the calls of `history`: it ends with the first stage that
fails, and a stage that it does not get to is not told of. -/
inductive Takes (files : Files) (sink : Sink) (options : OutputOptions)
    (history : List Delivery) (c : Component) : Turn → Prop where
  | unextracted {e : Failure} (he : c.extract.result files = .error e) :
      Takes files sink options history c
        { component := c.name
          outcome := .skippedBy .extract e
          notices := (c.extract.outcome files).1 }
  | invalid {x : Extraction} {e : Failure} (hx : c.extract.result files = .ok x)
      (he : x.validate = .error e) :
      Takes files sink options history c
        { component := c.name
          outcome := .skippedBy .validate e
          notices := (c.extract.outcome files).1 }
  | untransformed {x : Extraction} {e : Failure} (hx : c.extract.result files = .ok x)
      (hv : x.validate = .ok ()) (he : x.transform.2 = .error e) :
      Takes files sink options history c
        { component := c.name
          outcome := .skippedBy .transform e
          notices := (c.extract.outcome files).1 ++ x.transform.1 }
  | refused {x : Extraction} {outputs : List Output} {calls : List Delivery}
      {e : DeliveryError} (hx : c.extract.result files = .ok x) (hv : x.validate = .ok ())
      (ho : x.transform.2 = .ok outputs)
      (he : Handed sink history (wanted options outputs) calls (.error e)) :
      Takes files sink options history c
        { component := c.name
          outcome := .skippedBy .flush (.delivery e)
          calls := calls
          notices := (c.extract.outcome files).1 ++ x.transform.1 }
  | flushed {x : Extraction} {outputs : List Output} {calls : List Delivery}
      (hx : c.extract.result files = .ok x) (hv : x.validate = .ok ())
      (ho : x.transform.2 = .ok outputs)
      (hd : Handed sink history (wanted options outputs) calls (.ok ())) :
      Takes files sink options history c
        { component := c.name
          outcome := .flushed
          calls := calls
          notices := (c.extract.outcome files).1 ++ x.transform.1
            ++ [.flushed c.name outputs.length] }

inductive TakeTurns (files : Files) (sink : Sink) (options : OutputOptions) :
    List Delivery → List Component → List Turn → Prop where
  | nil {history : List Delivery} : TakeTurns files sink options history [] []
  | cons {history : List Delivery} {c : Component} {rest : List Component} {t : Turn}
      {ts : List Turn} (ht : Takes files sink options history c t)
      (hts : TakeTurns files sink options (history ++ t.calls) rest ts) :
      TakeTurns files sink options history (c :: rest) (t :: ts)

section

variable {options fewer : OutputOptions} {history : List Delivery} {c : Component}
  {cs : List Component} {t t' : Turn} {ts ts' : List Turn}

theorem runComponent_recorder (files : Files) (sink : Sink) (options : OutputOptions)
    (c : Component) (j : Journal) :
    ∃ t, Takes files sink options j.deliveries c t ∧
      (runComponent (recorder files sink) options c).run j =
        (t.outcome, (j.hand t.calls).tell t.notices) ∧ t.component = c.name := by
  rw [runComponent_eq, run_bind, perform_recorder]
  cases hx : c.extract.result files with
  | error e =>
      exact ⟨_, .unextracted hx, by simp only [run_pure, Journal.hand_nil], rfl⟩
  | ok x =>
      simp only
      cases hv : x.validate with
      | error e => exact ⟨_, .invalid hx hv, by simp only [run_pure, Journal.hand_nil], rfl⟩
      | ok u =>
          simp only [run_bind, heedAll_recorder, Journal.tell_tell]
          cases ho : x.transform.2 with
          | error e =>
              exact ⟨_, .untransformed hx hv ho, by simp only [run_pure, Journal.hand_nil], rfl⟩
          | ok outputs =>
              obtain ⟨calls, r, hrun, hcalls⟩ := deliverOutputs_recorder files sink options
                outputs (j.tell ((c.extract.outcome files).1 ++ x.transform.1))
              simp only [run_bind, hrun]
              cases r with
              | error e =>
                  exact ⟨_, .refused hx hv ho hcalls, by simp only [run_pure, Journal.tell_hand],
                    rfl⟩
              | ok u =>
                  refine ⟨_, .flushed hx hv ho hcalls, ?_, rfl⟩
                  simp only [run_bind, heed_recorder, run_pure, Journal.tell_hand,
                    Journal.tell_tell]

theorem run_recorder (files : Files) (sink : Sink) (options : OutputOptions)
    (cs : List Component) (j : Journal) :
    ∃ ts, TakeTurns files sink options j.deliveries cs ts ∧
      (run (recorder files sink) options cs).run j =
        (ts.map (·.entry), (j.hand (ts.flatMap (·.calls))).tell (ts.flatMap (·.told))) := by
  induction cs generalizing j with
  | nil =>
      refine ⟨[], .nil, ?_⟩
      simp only [run, run_pure, List.map_nil, List.flatMap_nil, Journal.hand_nil,
        Journal.tell_nil]
  | cons c rest ih =>
      obtain ⟨t, ht, hrun, hname⟩ := runComponent_recorder files sink options c
        (j.tell [.running c.name])
      obtain ⟨ts, hts, hrest⟩ := ih ((j.hand t.calls).tell t.told)
      refine ⟨t :: ts, .cons ht hts, ?_⟩
      simp only [run, run_bind, heed_recorder, hrun]
      cases ho : t.outcome with
      | flushed =>
          have htold : t.told = [.running c.name] ++ t.notices := by
            simp [Turn.told, ho, hname]
          simp only [htold] at hrest
          simp only [run_bind, run_pure, Journal.tell_hand, Journal.tell_tell, hrest]
          simp [Turn.entry, ho, hname, htold]
      | skipped stage reason =>
          have htold : t.told = [.running c.name] ++ t.notices
              ++ [.skipping c.name stage reason] := by
            simp [Turn.told, ho, hname]
          simp only [htold] at hrest
          simp only [run_bind, run_pure, heed_recorder, Journal.tell_hand, Journal.tell_tell,
            hrest]
          simp [Turn.entry, ho, hname, htold]

/-! ## What turns have to do with one another -/

private theorem outputs_unique {x x' : Extraction} {outputs outputs' : List Output}
    (hx : c.extract.result files = .ok x) (ho : x.transform.2 = .ok outputs)
    (hx' : c.extract.result files = .ok x') (ho' : x'.transform.2 = .ok outputs') :
    x = x' ∧ outputs = outputs' := by
  obtain rfl := Except.ok.inj (hx.symm.trans hx')
  exact ⟨rfl, Except.ok.inj (ho.symm.trans ho')⟩

theorem Takes.unique (h : Takes files sink options history c t)
    (h' : Takes files sink options history c t') : t = t' := by
  cases h with
  | refused hx hv ho he =>
      cases h' with
      | refused hx' _ ho' he' =>
          obtain ⟨rfl, rfl⟩ := outputs_unique hx ho hx' ho'
          obtain ⟨rfl, h⟩ := he.unique he'
          cases h
          rfl
      | flushed hx' _ ho' hd' =>
          obtain ⟨rfl, rfl⟩ := outputs_unique hx ho hx' ho'
          cases (he.unique hd').2
      | _ => simp_all
  | flushed hx hv ho hd =>
      cases h' with
      | refused hx' _ ho' he' =>
          obtain ⟨rfl, rfl⟩ := outputs_unique hx ho hx' ho'
          cases (hd.unique he').2
      | flushed hx' _ ho' hd' =>
          obtain ⟨rfl, rfl⟩ := outputs_unique hx ho hx' ho'
          obtain ⟨rfl, -⟩ := hd.unique hd'
          rfl
      | _ => simp_all
  | _ => cases h' <;> simp_all

theorem TakeTurns.unique (h : TakeTurns files sink options history cs ts)
    (h' : TakeTurns files sink options history cs ts') : ts = ts' := by
  induction h generalizing ts' with
  | nil => cases h'; rfl
  | cons ht _ ih =>
      cases h' with
      | cons ht' hts' =>
          obtain rfl := ht.unique ht'
          rw [ih hts']

theorem Takes.of_forgetful (hsink : ∀ history history' d, sink history d = sink history' d)
    (h : Takes files sink options history c t) (history' : List Delivery) :
    Takes files sink options history' c t := by
  cases h with
  | unextracted he => exact .unextracted he
  | invalid hx he => exact .invalid hx he
  | untransformed hx hv he => exact .untransformed hx hv he
  | refused hx hv ho he => exact .refused hx hv ho (he.of_forgetful hsink history')
  | flushed hx hv ho hd => exact .flushed hx hv ho (hd.of_forgetful hsink history')

/-- A destination that never refuses is handed, where less is wanted, what is still wanted
of what it would be handed otherwise. -/
theorem Takes.restrict (hsink : ∀ history d, sink history d = .ok ())
    (hm : fewer.manifests → options.manifests) (hr : fewer.reporting → options.reporting)
    (h : Takes files sink options history c t) (history' : List Delivery) :
    Takes files sink fewer history' c (t.restrict fewer) := by
  cases h with
  | unextracted he => exact .unextracted he
  | invalid hx he => exact .invalid hx he
  | untransformed hx hv he => exact .untransformed hx hv he
  | refused hx hv ho he => cases (he.all_of_willing hsink).2
  | flushed hx hv ho hd =>
      obtain ⟨rfl, -⟩ := hd.all_of_willing hsink
      refine .flushed hx hv ho ?_
      rw [filter_wanted hm hr]
      exact .of_willing hsink history' _

theorem TakeTurns.restrict (hsink : ∀ history d, sink history d = .ok ())
    (hm : fewer.manifests → options.manifests) (hr : fewer.reporting → options.reporting)
    (h : TakeTurns files sink options history cs ts) (history' : List Delivery) :
    TakeTurns files sink fewer history' cs (ts.map (·.restrict fewer)) := by
  induction h generalizing history' with
  | nil => exact .nil
  | cons ht _ ih => exact .cons (ht.restrict hsink hm hr history') (ih _)

def outputs? (files : Files) (c : Component) : Option (List Output) :=
  match c.extract.result files with
  | .error _ => none
  | .ok x =>
    match x.validate, x.transform.2 with
    | .ok (), .ok outputs => some outputs
    | _, _ => none

theorem Takes.calls_eq_nil (hc : outputs? files c = none)
    (h : Takes files sink options history c t) : t.calls = [] := by
  cases h with
  | refused hx hv ho he => simp [outputs?, hx, hv, ho] at hc
  | flushed hx hv ho hd => simp [outputs?, hx, hv, ho] at hc
  | _ => rfl

/-- The others take the same turns without a component that does not get to its last
stage. -/
theorem TakeTurns.erase {before after : List Component} (hc : outputs? files c = none)
    (h : TakeTurns files sink options history (before ++ c :: after) ts) :
    TakeTurns files sink options history (before ++ after) (ts.eraseIdx before.length) ∧
      (ts.eraseIdx before.length).flatMap (·.calls) = ts.flatMap (·.calls) := by
  induction before generalizing history ts with
  | nil =>
      cases h with
      | cons ht hts =>
          rw [ht.calls_eq_nil hc, List.append_nil] at hts
          exact ⟨hts, by simp [ht.calls_eq_nil hc]⟩
  | cons b before ih =>
      cases h with
      | cons ht hts =>
          obtain ⟨hrest, hcalls⟩ := ih hts
          exact ⟨.cons ht hrest, by simp [hcalls]⟩

/-! ## Runs -/

/-- A whole migration, as the host that writes everything down sees it. -/
def record (files : Files) (sink : Sink) (options : OutputOptions) (cs : List Component) :
    Summary × Journal :=
  (run (recorder files sink) options cs).run {}

theorem exists_turns (files : Files) (sink : Sink) (options : OutputOptions)
    (cs : List Component) :
    ∃ ts, TakeTurns files sink options [] cs ts ∧
      record files sink options cs =
        (ts.map (·.entry), ⟨ts.flatMap (·.calls), ts.flatMap (·.told)⟩) := by
  obtain ⟨ts, hts, hrun⟩ := run_recorder files sink options cs {}
  refine ⟨ts, hts, hrun.trans ?_⟩
  simp [Journal.hand, Journal.tell]

theorem record_eq (h : TakeTurns files sink options [] cs ts) :
    record files sink options cs =
      (ts.map (·.entry), ⟨ts.flatMap (·.calls), ts.flatMap (·.told)⟩) := by
  obtain ⟨ts', hts', hrecord⟩ := exists_turns files sink options cs
  rwa [hts'.unique h] at hrecord

theorem TakeTurns.eq_alone (hsink : ∀ history history' d, sink history d = sink history' d)
    (h : TakeTurns files sink options history cs ts) :
    ts.map (·.entry) = cs.flatMap (fun c => (record files sink options [c]).1) ∧
      ts.flatMap (·.calls) =
        cs.flatMap (fun c => (record files sink options [c]).2.deliveries) := by
  induction h with
  | nil => exact ⟨rfl, rfl⟩
  | cons ht _ ih =>
      have halone := record_eq (.cons (ht.of_forgetful hsink []) .nil)
      exact ⟨by simp [ih.1, halone], by simp [ih.2, halone]⟩

/-- A run makes the calls of its components' turns, one turn after the other, and sums up
their outcomes. A component that does not get to its last stage might as well not be there,
a destination without a memory makes every component end as it would alone, and where
nothing is refused, wanting less takes away the calls of the kinds not wanted and nothing
else. -/
theorem run_turns (files : Files) (sink : Sink) (options : OutputOptions)
    (cs : List Component) :
    (∃ ts, TakeTurns files sink options [] cs ts ∧
      record files sink options cs =
        (ts.map (·.entry), ⟨ts.flatMap (·.calls), ts.flatMap (·.told)⟩)) ∧
    (∀ before c after, cs = before ++ c :: after → outputs? files c = none →
      (record files sink options (before ++ after)).2.deliveries =
          (record files sink options cs).2.deliveries ∧
        (record files sink options (before ++ after)).1 =
          (record files sink options cs).1.eraseIdx before.length) ∧
    ((∀ history history' d, sink history d = sink history' d) →
      (record files sink options cs).2.deliveries =
          cs.flatMap (fun c => (record files sink options [c]).2.deliveries) ∧
        (record files sink options cs).1 =
          cs.flatMap (fun c => (record files sink options [c]).1)) ∧
    ((∀ history d, sink history d = .ok ()) → ∀ fewer : OutputOptions,
      (fewer.manifests → options.manifests) → (fewer.reporting → options.reporting) →
      (record files sink fewer cs).2.deliveries =
          (record files sink options cs).2.deliveries.filter (isWanted fewer) ∧
        (record files sink fewer cs).1 = (record files sink options cs).1) := by
  obtain ⟨ts, hts, hrecord⟩ := exists_turns files sink options cs
  refine ⟨⟨ts, hts, hrecord⟩, ?_, fun hsink => ?_, fun hsink fewer hm hr => ?_⟩
  · rintro before c after rfl hc
    obtain ⟨hothers, hcalls⟩ := hts.erase hc
    rw [record_eq hothers, hrecord]
    exact ⟨hcalls, by simp [List.eraseIdx_map]⟩
  · obtain ⟨hentries, hcalls⟩ := hts.eq_alone hsink
    rw [hrecord]
    exact ⟨hcalls, hentries⟩
  · rw [record_eq (hts.restrict hsink hm hr []), hrecord]
    refine ⟨?_, ?_⟩
    · simp [Turn.restrict, List.filter_flatMap, List.flatMap_map]
    · simp [Turn.restrict, Turn.entry]

end

end Migration

end ClusterMigration
