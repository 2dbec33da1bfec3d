import Reftest.Program.Launch
import Reftest.Run.Stage

namespace Reftest.Run

/-- Where the standard output of a program goes: to a file, or where that of the run goes. -/
inductive Outlet where
  | file (place : Location)
  | inherited
  deriving DecidableEq, Repr

namespace Outlet

def write (outlet : Outlet) (files : FileTree) (octets : Octets) : FileTree :=
  match outlet with
  | .file place => files.append place octets
  | .inherited => files

def trace (outlet : Outlet) (octets : Octets) : Trace :=
  match outlet with
  | .file _ => []
  | .inherited => [.output octets]

def place? : Outlet → Option Location
  | .file place => some place
  | .inherited => none

end Outlet

def unreadable : Octets := Octets.ofText "(none)"

def shownFile (world : World) (path : Octets) : Octets :=
  match world.files.read world.directory path with
  | .ok octets => octets
  | .error _ => unreadable

def spoken (behaviour : Behaviour) (arguments : List Octets) (input : Octets) : Octets :=
  behaviour.output ++
    (if behaviour.echoesArguments then arguments.flatMap (· ++ [0x0A]) else []) ++
    (if behaviour.copiesInput then input else [])

/-- The run of a program.  What it shows of a file includes what it has written there itself. -/
def execute (launched : Program.Launch) (outlet : Outlet) : Stage Ending :=
  fun world =>
    let behaviour := launched.behaviour
    let first := spoken behaviour launched.arguments world.input
    let world := { world with
      files := outlet.write world.files first
      input := if behaviour.copiesInput then [] else world.input }
    let shown := (behaviour.shows.map (shownFile world)).getD []
    let files := outlet.write world.files shown
    let files := match behaviour.removes with
      | none => files
      | some path => files.remove world.directory path
    ⟨.ok behaviour.ending, world.withFiles files,
      .call launched.path launched.arguments :: outlet.trace (first ++ shown) ++
        [.complaint behaviour.complaint]⟩

def start (program : Octets) (arguments : List Octets) (outlet : Outlet)
    (refused : Failure → Fault) : Stage Ending :=
  fun world =>
    match Program.launch world outlet.place? program arguments with
    | .error failure => Stage.fail (refused failure) world
    | .ok launched => execute launched outlet world

def find (name : String) : Stage Octets :=
  fun world =>
    match Program.locate world (Octets.ofText name) with
    | .ok path => Stage.done path world
    | .error failure =>
      ⟨.error (.programNotFound name), world,
        [.event ⟨.debug, .program,
          "PATH lookup for '" ++ name ++ "' failed: " ++ failure.message⟩]⟩

end Reftest.Run
