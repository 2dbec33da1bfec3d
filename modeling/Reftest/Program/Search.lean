import Reftest.World

namespace Reftest.Program

def entrySeparator : UInt8 := 0x3A

def tilde : Octets := [0x7E]

/-- An entry of the search path whose first part is a tilde lies in the home directory. -/
def expandHome (home entry : Octets) : Octets :=
  if Path.isAbsolute entry then entry
  else match Path.parts entry with
    | first :: rest => if first = tilde then rest.foldl Path.join home else entry
    | [] => entry

def tildeHome (environment : Environment) : Octets :=
  environment.home.getD []

def entries (home searchPath : Octets) : List Octets :=
  (pieces entrySeparator searchPath).map (expandHome home)

def candidates (home searchPath name : Octets) : List Octets :=
  (entries home searchPath).map (Path.join · name)

inductive SearchFailure where
  | noSearchPath
  | notFound
  deriving DecidableEq, Repr

def SearchFailure.message : SearchFailure → String
  | .noSearchPath => "no path to search and provided name is not an absolute path"
  | .notFound => "cannot find binary path"

def search (world : World) (name : Octets) : Except SearchFailure Octets :=
  match world.environment.searchPath with
  | none => .error .noSearchPath
  | some searchPath =>
    match (candidates (tildeHome world.environment) searchPath name).find?
        (world.files.isProgram world.directory) with
    | some path => .ok path
    | none => .error .notFound

def locate (world : World) (name : Octets) : Except SearchFailure Octets :=
  if Path.namesDirectory name then .ok name else search world name

end Reftest.Program
