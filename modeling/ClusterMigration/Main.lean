import ClusterMigration.Program

/-!
# The command

Runs the program on the files and in the environment of this machine.
-/

namespace ClusterMigration

namespace Command

/-- Some operations give the number of an error with its sign reversed. -/
def errorNumber (code : UInt32) : Nat :=
  if code.toNat < Nat.pow 2 31 then code.toNat else Nat.pow 2 32 - code.toNat

def systemError (code : UInt32) (text : String) : FileError :=
  match errorNumber code with
  | 2 => .notFound
  | 17 => .alreadyThere
  | 20 => .notADirectory
  | 21 => .aDirectory
  | 36 => .nameTooLong
  | n => .other (text ++ " (os error " ++ toString n ++ ")")

def fileError : IO.Error → FileError
  | .alreadyExists _ code text | .invalidArgument _ code text | .permissionDenied _ code text
  | .resourceExhausted _ code text | .inappropriateType _ code text | .noSuchThing _ code text
  | .interrupted _ code text | .noFileOrDirectory _ code text | .otherError code text
  | .resourceBusy code text | .resourceVanished code text | .unsupportedOperation code text
  | .hardwareFault code text | .unsatisfiedConstraints code text | .illegalOperation code text
  | .protocolError code text | .timeExpired code text => systemError code text
  | .unexpectedEof => .other "unexpected end of file"
  | .userError text => .other text

def attempt {α : Type} (action : IO α) : IO (Except FileError α) := do
  try return .ok (← action)
  catch e => return .error (fileError e)

def isDirectory (path : String) : IO Bool := do
  try return ← (← IO.FS.realPath path).isDir
  catch _ => return false

def isPresent (path : String) : IO Bool := do
  try return ← (← IO.FS.realPath path).pathExists
  catch _ => return false

def machine : Storage IO where
  read path := attempt do return (← IO.FS.readBinFile path).toList
  write path content := attempt (IO.FS.writeBinFile path ⟨content.toArray⟩)
  makeDirectory path := attempt (IO.FS.createDir path)
  isDirectory := isDirectory
  isPresent := isPresent

/-- The environment of this process; an empty one where it cannot be seen. -/
def environment : IO Environment := do
  match ← machine.read "/proc/self/environ" with
  | .ok block => return .ofBlock block
  | .error _ => return fun _ => none

def announce (settings : Settings) (n : Notice) : IO Unit := do
  if settings.debug || n.level != .debug then IO.println n.line

def usage : String :=
  String.join ("Usage: cpma [OPTIONS]\n" :: (Flag.settingsFile :: Overrides.flags).map fun f =>
    "  --" ++ f.name ++ (if f.hasValue then " <VALUE>\n" else "\n"))

def complaint : Refusal → String
  | .helpWanted => usage
  | .unknownArgument => "error: unexpected argument found\n\n" ++ usage
  | .invalidValue => "error: a value is missing or invalid\n\n" ++ usage
  | .repeatedFlag => "error: an argument cannot be used multiple times\n\n" ++ usage
  | .unexpectedValue => "error: unexpected value for an argument\n\n" ++ usage

def conclude : Ending → IO Unit
  | .migrated _ => pure ()
  | .refused .helpWanted => IO.print usage
  | .refused r => IO.eprint (complaint r)
  | .misconfigured e => IO.eprintln ("Error: " ++ e.message)
  | .reportsLost e => IO.eprintln ("Error: error writing reports: " ++ e.message)

end Command

end ClusterMigration

open ClusterMigration in
def main (arguments : List String) : IO UInt32 := do
  let ending ← Program.run Command.machine Command.announce (← Command.environment) arguments
  Command.conclude ending
  return ending.exitCode.toUInt32
