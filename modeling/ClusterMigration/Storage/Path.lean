/-!
# Paths

A path is a text of names with slashes between them. One that begins with a slash
starts at the root, any other where it is used.
-/

namespace ClusterMigration

namespace Path

def isAbsolute (path : String) : Bool := path.toList.head? == some '/'

def endsInSlash (path : String) : Bool := path.toList.getLast? == some '/'

/-- The path as seen from `base`. An absolute path stays what it is. -/
def join (base path : String) : String :=
  if isAbsolute path then path
  else if base.isEmpty || endsInSlash base then base ++ path
  else base ++ "/" ++ path

def relative (path : String) : String :=
  String.ofList (path.toList.dropWhile (· == '/'))

def splitAtSlashes : List Char → List (List Char)
  | [] => [[]]
  | c :: rest =>
    if c = '/' then [] :: splitAtSlashes rest
    else match splitAtSlashes rest with
      | [] => [[c]]
      | name :: names => (c :: name) :: names

def segments (path : String) : List String :=
  (splitAtSlashes path.toList).map String.ofList

/-- The names that say where the path leads: a dot counts at the start only. -/
def components (path : String) : List String :=
  match segments path with
  | [] => []
  | first :: rest =>
    [first].filter (!·.isEmpty) ++ rest.filter fun name => !name.isEmpty && name != "."

def ofComponents (absolute : Bool) (names : List String) : String :=
  (if absolute then "/" else "") ++ "/".intercalate names

end Path

end ClusterMigration
