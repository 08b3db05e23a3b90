import ClusterMigration.Storage.Basic

/-!
# Disks

A storage as a value. An entry stands under the names that lead to it from the root,
and the root is always a directory. A path is followed name by name, through
directories only: a dot stays, two dots go out, and any other name leads in.
-/

namespace ClusterMigration

inductive Disk.Entry where
  | file (content : Bytes)
  | directory
  deriving DecidableEq, Repr

structure Disk where
  /-- Where paths that are not absolute start. -/
  workingDirectory : List String := []
  entries : List (List String × Disk.Entry) := []

namespace Disk

/-- How many bytes a name may have. -/
def nameLimit : Nat := 255

def pathLimit : Nat := 4095

def entry? (d : Disk) : List String → Option Entry
  | [] => some .directory
  | place => d.entries.lookup place

/-- Where the names lead to. There may be nothing there. -/
def walk (d : Disk) : List String → List String → Except FileError (List String)
  | here, [] => .ok here
  | here, name :: rest =>
    match d.entry? here with
    | none => .error .notFound
    | some (.file _) => .error .notADirectory
    | some .directory =>
      if name = "." then walk d here rest
      else if name = ".." then walk d here.dropLast rest
      else if nameLimit < name.utf8ByteSize then .error .nameTooLong
      else walk d (here ++ [name]) rest

def start (d : Disk) (path : String) : Except FileError (List String) :=
  if path.toList.contains '\x00' then .error .zeroInName
  else if path.isEmpty then .error .notFound
  else if pathLimit < path.utf8ByteSize then .error .nameTooLong
  else .ok (if Path.isAbsolute path then [] else d.workingDirectory)

def names (path : String) : List String := (Path.segments path).filter (!·.isEmpty)

/-- A slash at the end wants a directory, as a dot there does. -/
def locate (d : Disk) (path : String) : Except FileError (List String) := do
  d.walk (← d.start path) (names path ++ if Path.endsInSlash path then ["."] else [])

def find (d : Disk) (path : String) : Except FileError Entry := do
  match d.entry? (← d.locate path) with
  | some e => .ok e
  | none => .error .notFound

def read (d : Disk) (path : String) : Except FileError Bytes := do
  match ← d.find path with
  | .file content => .ok content
  | .directory => .error .aDirectory

def isPresent (d : Disk) (path : String) : Bool := (d.find path).toBool

def isDirectory (d : Disk) (path : String) : Bool :=
  match d.find path with
  | .ok .directory => true
  | _ => false

def put (d : Disk) (place : List String) (e : Entry) : Disk :=
  { d with entries := (place, e) :: d.entries.filter (·.1 != place) }

/-- A path that ends in a slash leads to no file, be there a directory or not. -/
def write (d : Disk) (path : String) (content : Bytes) : Except FileError Disk := do
  let origin ← d.start path
  if Path.endsInSlash path then
    let _ ← d.walk origin ((names path).dropLast ++ ["."])
    .error .aDirectory
  else
    let place ← d.walk origin (names path)
    match d.entry? place with
    | some .directory => .error .aDirectory
    | _ => .ok (d.put place (.file content))

def makeDirectory (d : Disk) (path : String) : Except FileError Disk := do
  let place ← d.walk (← d.start path) (names path)
  match d.entry? place with
  | some _ => .error .alreadyThere
  | none => .ok (d.put place .directory)

def remove (d : Disk) (path : String) : Disk :=
  match d.locate path with
  | .ok place => { d with entries := d.entries.filter fun e => !place.isPrefixOf e.1 }
  | .error _ => d

def below (d : Disk) (path : String) : List (List String × Entry) :=
  match d.locate path with
  | .ok place => d.entries.filterMap fun (names, e) =>
    if place.isPrefixOf names && place != names then some (names.drop place.length, e) else none
  | .error _ => []

/-! ## As a storage -/

variable {m : Type → Type} [Monad m] [MonadStateOf Disk m]

def update (change : Disk → Except FileError Disk) : m (Except FileError Unit) := do
  match change (← getThe Disk) with
  | .ok d =>
    set d
    return .ok ()
  | .error e => return .error e

/-- The storage that the disk of a state is. -/
def storage : Storage m where
  read path := return (← getThe Disk).read path
  write path content := update (·.write path content)
  makeDirectory path := update (·.makeDirectory path)
  isDirectory path := return (← getThe Disk).isDirectory path
  isPresent path := return (← getThe Disk).isPresent path

end Disk

end ClusterMigration
