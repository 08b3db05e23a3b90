/-!
# Command lines

Arguments are flags with two dashes. A flag with a value has it behind an equals sign
or in the next argument; that may be anything but a flag. A flag is given once, and
nothing else is accepted.

An argument is complete only when the next flag begins, or at the end. What is wrong
with its value shows then, unless that flag is unknown.
-/

namespace ClusterMigration

inductive Flag where
  | settingsFile
  | outputDirectory
  | hostname
  | sourceRoot
  | masterConfig
  | registriesConfig
  | crioConfig
  | noManifests
  | noReporting
  | debug
  deriving DecidableEq, Repr

namespace Flag

def name : Flag → String
  | settingsFile => "config"
  | outputDirectory => "output-dir"
  | hostname => "hostname"
  | sourceRoot => "source-root"
  | masterConfig => "master-config"
  | registriesConfig => "registries-config"
  | crioConfig => "crio-config"
  | noManifests => "no-manifests"
  | noReporting => "no-reporting"
  | debug => "debug"

def hasValue : Flag → Bool
  | noManifests | noReporting | debug => false
  | _ => true

/-- The values that may be empty are those that name no file of this system. -/
def accepts (f : Flag) (value : String) : Bool :=
  match f with
  | settingsFile | outputDirectory | sourceRoot => !value.isEmpty
  | _ => true

end Flag

/-- Why arguments are not taken. Asking for help is one reason. -/
inductive Refusal where
  | helpWanted
  | unknownArgument
  | invalidValue
  | repeatedFlag
  | unexpectedValue
  deriving DecidableEq, Repr

namespace CommandLine

/-- Flags with their values, those without value with an empty one. -/
abbrev Given := List (Flag × String)

def Given.hasFlag (g : Given) (f : Flag) : Bool := g.any (·.1 == f)

structure Progress where
  given : Given := []
  /-- The flag whose value is not settled, with the value if it has come. -/
  pending : Option (Flag × Option String) := none

def record (g : Given) (f : Flag) (value : String) : Except Refusal Given :=
  if g.hasFlag f then .error .repeatedFlag
  else if f.accepts value then .ok (g ++ [(f, value)])
  else .error .invalidValue

def settle (p : Progress) : Except Refusal Given :=
  match p.pending with
  | none => .ok p.given
  | some (_, none) => .error .invalidValue
  | some (f, some value) => record p.given f value

/-- The name of a flag and the value attached to it. -/
def splitAtEquals (text : List Char) : String × Option String :=
  let name := String.ofList (text.takeWhile (· != '='))
  match text.dropWhile (· != '=') with
  | [] => (name, none)
  | _ :: value => (name, some (String.ofList value))

def readFlag (flags : List Flag) (p : Progress) (text : List Char) : Except Refusal Progress := do
  let (name, value) := splitAtEquals text
  if name = "help" then
    if value.isSome then throw .unexpectedValue
    let _ ← settle p
    throw .helpWanted
  match flags.find? (·.name == name), value with
  | none, _ => throw .unknownArgument
  | some f, none =>
    let given ← settle p
    if f.hasValue then return { given, pending := some (f, none) }
    else return { given := ← record given f "" }
  | some f, some value =>
    if f.hasValue then return { given := ← record (← settle p) f value }
    else throw .unexpectedValue

def readArgument (flags : List Flag) (p : Progress) (argument : String) :
    Except Refusal Progress := do
  match argument.toList with
  | '-' :: '-' :: text => readFlag flags p text
  | '-' :: 'h' :: _ =>
    let _ ← settle p
    throw .helpWanted
  | '-' :: _ :: _ => throw .unknownArgument
  | _ =>
    match p.pending with
    | some (f, none) => return { p with pending := some (f, some argument) }
    | _ => throw .unknownArgument

def readAll (flags : List Flag) : Progress → List String → Except Refusal Given
  | p, [] => settle p
  | p, "--" :: rest => if rest.isEmpty then settle p else .error .unknownArgument
  | p, argument :: rest => do readAll flags (← readArgument flags p argument) rest

def read (flags : List Flag) (arguments : List String) : Except Refusal Given :=
  readAll flags {} arguments

end CommandLine

end ClusterMigration
