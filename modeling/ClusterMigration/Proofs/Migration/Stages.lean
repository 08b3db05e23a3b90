import ClusterMigration.Migration

/-!
# Stages of a component

The stage that a failure is put down to is worked out afterwards from how far the
component had come. The main statement, `runComponent_eq`, says that it is the stage in
which the failure happened, on every lawful host.
-/

namespace ClusterMigration

namespace Migration

variable {m : Type → Type} [Monad m]

/-! ## Steps of a component on its way -/

private theorem run_set [LawfulMonad m] (p q : Progress) :
    (set p : ExceptT Failure (StateT Progress m) PUnit).run.run q = pure (.ok (), p) := by
  change (do
    let (a, s) ← (pure ((), p) : m (Unit × Progress))
    pure (Except.ok a, s)) = _
  simp

private theorem run_lift [LawfulMonad m] {α : Type} (x : m α) (q : Progress) :
    (liftM x : ExceptT Failure (StateT Progress m) α).run.run q =
      x >>= fun a => pure (.ok a, q) := by
  change (do
    let (a, s) ← (x >>= fun a => pure (a, q) : m (α × Progress))
    pure (Except.ok a, s)) = _
  simp

private theorem run_mk {α : Type} (x : m (Except Failure α)) (q : Progress) :
    (.mk (liftM x) : ExceptT Failure (StateT Progress m) α).run.run q =
      x >>= fun r => pure (r, q) := rfl

private theorem run_mk_pure {α : Type} (r : Except Failure α) (q : Progress) :
    (.mk (pure r) : ExceptT Failure (StateT Progress m) α).run.run q = pure (r, q) := rfl

private theorem drive_bind {α β : Type} (x : ExceptT Failure (StateT Progress m) α)
    (f : α → ExceptT Failure (StateT Progress m) β) (q : Progress) :
    (x >>= f).run.run q = x.run.run q >>= fun r =>
      match r with
      | (.ok a, q) => (f a).run.run q
      | (.error e, q) => pure (.error e, q) := by
  rw [ExceptT.run_bind, StateT.run_bind]
  refine bind_congr fun r => ?_
  obtain ⟨r, q⟩ := r
  cases r <;> rfl

/-! ## The stage of a failure -/

/-- A component with each failure put down to its stage on the spot. -/
theorem runComponent_eq [LawfulMonad m] (h : Host m) (options : OutputOptions)
    (c : Component) :
    runComponent h options c = (do
      match ← c.extract.perform h.fetch h.heed with
      | .error e => pure (.skippedBy .extract e)
      | .ok extraction =>
        match extraction.validate with
        | .error e => pure (.skippedBy .validate e)
        | .ok () =>
          heedAll h extraction.transform.1
          match extraction.transform.2 with
          | .error e => pure (.skippedBy .transform e)
          | .ok outputs =>
            match ← deliverOutputs h options outputs with
            | .error e => pure (.skippedBy .flush (.delivery e))
            | .ok () =>
              h.heed (.flushed c.name outputs.length)
              pure .flushed) := by
  simp only [runComponent, drive, drive_bind, run_set, run_lift, run_mk, run_mk_pure,
    bind_assoc, pure_bind, map_eq_pure_bind]
  refine bind_congr fun extracted => ?_
  obtain e | ⟨validated, told, transformed⟩ := extracted
  · simp [Progress.next]
  · obtain e | _ := validated
    · simp [Progress.next]
    · simp only [bind_assoc]
      refine bind_congr fun _ => ?_
      obtain e | outputs := transformed
      · simp [Progress.next]
      · simp only [bind_assoc]
        refine bind_congr fun delivered => ?_
        obtain e | _ := delivered
        · have herror : (Except.error e : Except DeliveryError Unit).mapError Failure.delivery =
              .error (.delivery e) := rfl
          simp [Progress.next, herror]
        · have hok : (Except.ok () : Except DeliveryError Unit).mapError Failure.delivery =
              .ok () := rfl
          simp [hok]

end Migration

end ClusterMigration
