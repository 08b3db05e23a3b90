import ClusterMigration.Notice
import ClusterMigration.Storage.Path
import ClusterMigration.Text.Utf8

/-!
# Storage

Where files are kept. What a migration does with files it does through the few
operations of a storage, so that it runs on any of them.
-/

namespace ClusterMigration

inductive FileError where
  | notFound
  | alreadyThere
  | notADirectory
  | aDirectory
  | nameTooLong
  | zeroInName
  | notText
  | other (reason : String)
  deriving DecidableEq, Repr

def FileError.message : FileError → String
  | notFound => "No such file or directory (os error 2)"
  | alreadyThere => "File exists (os error 17)"
  | notADirectory => "Not a directory (os error 20)"
  | aDirectory => "Is a directory (os error 21)"
  | nameTooLong => "File name too long (os error 36)"
  | zeroInName => "file name contained an unexpected NUL byte"
  | notText => "stream did not contain valid UTF-8"
  | other reason => reason

structure Storage (m : Type → Type) where
  read : String → m (Except FileError Bytes)
  /-- The contents replace those of a file that is there. -/
  write : String → Bytes → m (Except FileError Unit)
  makeDirectory : String → m (Except FileError Unit)
  isDirectory : String → m Bool
  isPresent : String → m Bool

/-- A storage, and somebody who is told what happens. -/
structure System (m : Type → Type) extends Storage m where
  heed : Notice → m Unit

namespace Storage

variable {m : Type → Type} [Monad m]

/-- A directory that is there already will do. -/
def settleDirectory (s : Storage m) (path : String) :
    Except FileError Unit → m (Except FileError Unit)
  | .ok () => pure (.ok ())
  | .error e => do if ← s.isDirectory path then pure (.ok ()) else pure (.error e)

/-- Makes the first directory inside the others, and those that are missing. -/
def makeDirectories (s : Storage m) (absolute : Bool) : List String → m (Except FileError Unit)
  | [] => pure (.ok ())
  | name :: outer => do
    let path := Path.ofComponents absolute (name :: outer).reverse
    match ← s.makeDirectory path with
    | .error .notFound =>
      match ← makeDirectories s absolute outer with
      | .error e => pure (.error e)
      | .ok () => s.settleDirectory path (← s.makeDirectory path)
    | result => s.settleDirectory path result

def createDirectory (s : Storage m) (path : String) : m (Except FileError Unit) :=
  s.makeDirectories (Path.isAbsolute path) (Path.components path).reverse

/-- Writes a file, for which missing directories are made. -/
def put (s : Storage m) (path : String) (content : Bytes) : m (Except FileError Unit) := do
  match ← s.makeDirectories (Path.isAbsolute path) (Path.components path).dropLast.reverse with
  | .error e => pure (.error e)
  | .ok () => s.write path content

def readText (s : Storage m) (path : String) : m (Except FileError String) := do
  match ← s.read path with
  | .error e => pure (.error e)
  | .ok content =>
    match Utf8.decode? content with
    | some text => pure (.ok text)
    | none => pure (.error .notText)

end Storage

end ClusterMigration
