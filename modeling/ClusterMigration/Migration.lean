import ClusterMigration.Component.Basic

/-!
# Migrations

Components are carried out one after the other. A component goes through its stages up
to the first that fails, and then the next component has its turn; what it has put out
by then stays.
-/

namespace ClusterMigration

inductive Delivery where
  | manifest (m : Manifest)
  | report (r : Report)
  deriving DecidableEq, Repr

structure OutputOptions where
  manifests : Bool := true
  reporting : Bool := true
  deriving DecidableEq, Repr

def Output.isWanted (options : OutputOptions) : Output → Bool
  | manifests _ => options.manifests
  | report _ => options.reporting

inductive Progress where
  | pending
  | extracted
  | validated
  | transformed
  deriving DecidableEq, Repr

def Progress.next : Progress → Stage
  | pending => .extract
  | extracted => .validate
  | validated => .transform
  | transformed => .flush

/-- What a migration acts on. -/
structure Host (m : Type → Type) where
  fetch : String → m (Except FetchError Bytes)
  deliver : Delivery → m (Except DeliveryError Unit)
  heed : Notice → m Unit

inductive Outcome where
  | flushed
  | skipped (stage : Stage) (reason : String)
  deriving DecidableEq, Repr

namespace Outcome

def isSkipped : Outcome → Bool
  | skipped .. => true
  | flushed => false

def skippedBy (stage : Stage) (e : Failure) : Outcome := skipped stage e.message

end Outcome

abbrev Summary := List (String × Outcome)

namespace Summary

def outcomeOf? (s : Summary) (name : String) : Option Outcome := s.lookup name

def skipped (s : Summary) : List String := (s.filter (·.2.isSkipped)).map (·.1)

end Summary

namespace Migration

variable {m : Type → Type} [Monad m]

/-- Hands over one manifest after the other, up to the first that is refused. -/
def deliverManifests (h : Host m) : List Manifest → m (Except DeliveryError Unit)
  | [] => pure (.ok ())
  | f :: rest => do
    match ← h.deliver (.manifest f) with
    | .ok () => deliverManifests h rest
    | .error e => pure (.error e)

def deliverOutput (h : Host m) : Output → m (Except DeliveryError Unit)
  | .manifests ms => deliverManifests h ms
  | .report r => h.deliver (.report r)

/-- What is not wanted is passed over. What was handed over before a refusal stays. -/
def deliverOutputs (h : Host m) (options : OutputOptions) :
    List Output → m (Except DeliveryError Unit)
  | [] => pure (.ok ())
  | o :: rest =>
    if o.isWanted options then do
      match ← deliverOutput h o with
      | .ok () => deliverOutputs h options rest
      | .error e => pure (.error e)
    else deliverOutputs h options rest

def heedAll (h : Host m) : List Notice → m Unit
  | [] => pure ()
  | n :: rest => do
    h.heed n
    heedAll h rest

/-- Takes a component through its stages and keeps track of how far it has come. -/
def drive (h : Host m) (options : OutputOptions) (c : Component) :
    ExceptT Failure (StateT Progress m) Unit := do
  let extraction ← .mk (liftM (c.extract.perform h.fetch h.heed))
  set Progress.extracted
  .mk (pure extraction.validate)
  set Progress.validated
  liftM (heedAll h extraction.transform.1)
  let outputs ← .mk (pure extraction.transform.2)
  set Progress.transformed
  .mk (liftM (Except.mapError .delivery <$> deliverOutputs h options outputs))
  liftM (h.heed (.flushed c.name outputs.length))

/-- A failure is put down to the stage that the component was about to complete. -/
def runComponent (h : Host m) (options : OutputOptions) (c : Component) : m Outcome := do
  match ← (drive h options c).run.run .pending with
  | (.ok (), _) => pure .flushed
  | (.error e, progress) => pure (.skippedBy progress.next e)

def run (h : Host m) (options : OutputOptions) : List Component → m Summary
  | [] => pure []
  | c :: rest => do
    h.heed (.running c.name)
    let outcome ← runComponent h options c
    match outcome with
    | .skipped stage reason => h.heed (.skipping c.name stage reason)
    | .flushed => pure ()
    return (c.name, outcome) :: (← run h options rest)

end Migration

end ClusterMigration
