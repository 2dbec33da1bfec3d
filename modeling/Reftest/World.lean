import Reftest.Files.Planting
import Reftest.Log.Event
import Reftest.Toml.Position

namespace Reftest

structure Environment where
  searchPath : Option Octets := none
  home : Option Octets := none
  /-- not a variable, but the home directory that the system has on record for the user -/
  accountHome : Option Octets := none
  configHome : Option Octets := none
  logFilter : Option Octets := none
  deriving DecidableEq, Repr

structure World where
  files : FileTree
  /-- the working directory, which may have been taken away -/
  directory : Location := []
  environment : Environment := {}
  input : Octets := []
  /-- whether standard error is a terminal -/
  terminal : Bool := false
  /-- the time, in words, at which an event is told; no event is told twice in a run -/
  clock : Log.Event → String := fun _ => "<unknown time>"
  /-- what the reader of documents has to say of a text that it cannot read -/
  objection : String → Toml.Objection := fun _ => {}

namespace World

def withFiles (world : World) (files : FileTree) : World :=
  { world with files }

def exists? (world : World) (path : Octets) : Bool :=
  world.files.exists? world.directory path

def readText (world : World) (path : Octets) : Except Failure String :=
  world.files.readText world.directory path

def clear (world : World) (place : Location) : World :=
  { world with
    files := world.files.prune place
    directory := world.directory.afterRemoval place }

def plant (world : World) (root : Location) (names : List Octets) (entry : Entry) : World :=
  let (files, place) := world.files.makeWay root names
  let cleared := (world.withFiles files).clear place
  cleared.withFiles (cleared.files.set place entry)

def uproot (world : World) (root : Location) (names : List Octets) : World :=
  match world.files.nameplace? root names with
  | some place => world.clear place
  | none => world

end World

end Reftest
