import ClusterMigration.Environment
import ClusterMigration.Failure
import ClusterMigration.Manifest
import ClusterMigration.MasterConfig
import ClusterMigration.Notice
import ClusterMigration.Report

/-!
# Components

A component is a part of the configuration that is migrated on its own. It gathers
its data from files of the old cluster, checks it, and transforms it into output for
the new one. Gathering is a procedure that asks for files one after the other, where
the next file may depend on the contents of those before; the first file that cannot
be had ends it.
-/

namespace ClusterMigration

inductive Gather (α : Type) where
  | done (a : α)
  | fail (e : Failure)
  | fetch (path : String) (next : Bytes → Gather α)
  | note (n : Notice) (next : Gather α)

namespace Gather

variable {α β : Type}

def bind (f : α → Gather β) : Gather α → Gather β
  | done a => f a
  | fail e => fail e
  | fetch path next => fetch path fun content => (next content).bind f
  | note n next => note n (next.bind f)

instance : Monad Gather where
  pure := done
  bind g f := g.bind f

def file (path : String) : Gather Bytes := fetch path done

def tell (n : Notice) : Gather Unit := note n (done ())

def ofExcept : Except Failure α → Gather α
  | .ok a => done a
  | .error e => fail e

/-- Carries the procedure out where `files` gives the files and `heed` takes notice. -/
def perform {m : Type → Type} [Monad m] (files : String → m (Except FetchError Bytes))
    (heed : Notice → m Unit) : Gather α → m (Except Failure α)
  | done a => pure (.ok a)
  | fail e => pure (.error e)
  | fetch path next => do
    match ← files path with
    | .ok content => perform files heed (next content)
    | .error e => pure (.error (.fetch e))
  | note n next => do
    heed n
    perform files heed next

end Gather

inductive Output where
  | manifests (ms : List Manifest)
  | report (r : Report)

/-- The data of a component: what a check says about it and what it becomes, with what
is told on the way. -/
structure Extraction where
  validate : Except Failure Unit
  transform : List Notice × Except Failure (List Output)

structure Component where
  name : String
  extract : Gather Extraction

namespace Component

/-- A component that announces its two working stages. -/
def announced {α : Type} (name : String) (gather : Gather α)
    (validate : α → Except Failure Unit)
    (transform : α → List Notice × Except Failure (List Output)) : Component where
  name := name
  extract := do
    .tell (.extracting name)
    let data ← gather
    return {
      validate := validate data
      transform := (.transforming name :: (transform data).1, (transform data).2) }

def masterConfig (path : String) : Gather MasterConfig := do
  let content ← .file path
  match MasterConfig.decode content with
  | .ok c => return c
  | .error e => .fail (.undecodable e.message)

def resourceAndReport (domain : String) (r : Resource) (report : Report) : List Output :=
  [.manifests [.ofResource domain r], .report report]

/-- The resource of which the cluster has just one. -/
def clusterResource (kind : String) (spec : Json) : Resource :=
  ⟨configVersion, kind, { name := "cluster" }, spec⟩

/-- A resource that the cluster's own updates leave alone. -/
def createOnlyResource (kind : String) (spec : Json) : Resource :=
  let metadata : Metadata := { name := "cluster" }
  ⟨configVersion, kind, metadata.annotate "release.openshift.io/create-only" "true", spec⟩

end Component

end ClusterMigration
