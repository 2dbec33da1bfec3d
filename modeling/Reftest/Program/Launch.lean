import Reftest.Program.Script
import Reftest.Program.Search

namespace Reftest.Program

structure Launch where
  path : Octets
  arguments : List Octets
  behaviour : Behaviour
  deriving DecidableEq, Repr

/-- The content of a file that is to be run.  One that is open for writing, the file at `busy`,
cannot be run. -/
def content (world : World) (busy : Option Location) (path : Octets) : Except Failure Content :=
  match world.files.locate world.directory path with
  | .error failure => .error failure
  | .ok place =>
    match world.files.file? place with
    | none => .error .permissionDenied
    | some (mode, content) =>
      if !runnable mode then .error .permissionDenied
      else if busy = some place then .error .fileBusy
      else .ok content

def interpreterContent (world : World) (busy : Option Location) (script : Script) :
    Except Failure Content :=
  if script.interpreter = [] then .error .permissionDenied
  else content world busy script.interpreter

/-- Runs a file: a script by its interpreter, which may be a script as well, and a program, which
counts as the last of them. -/
def interpret (world : World) (busy : Option Location) :
    (scripts : Nat) → Content → (path : Octets) → (arguments : List Octets) →
      Except Failure Launch
  | 0, .program _, _, _ => .error .tooManyLinks
  | _ + 1, .program behaviour, path, arguments => .ok ⟨path, arguments, behaviour⟩
  | scripts, .octets octets, path, arguments =>
    match Script.read? octets with
    | none => .error .execFormat
    | some script =>
      match interpreterContent world busy script, scripts with
      | .error failure, _ => .error failure
      | .ok _, 0 => .error .tooManyLinks
      | .ok inner, scripts + 1 =>
        interpret world busy scripts inner script.interpreter
          (script.argument.toList ++ path :: arguments)

def scriptLimit : Nat := 5

def argumentLimit : Nat := 131072

def launchAt (world : World) (busy : Option Location) (arguments : List Octets) (path : Octets) :
    Except Failure Launch :=
  match content world busy path with
  | .error failure => .error failure
  | .ok inner =>
    if arguments.all (·.length < argumentLimit) then
      interpret world busy scriptLimit inner path arguments
    else .error .argumentsTooLong

/-- Whether the failure to run one candidate leaves it to the next. -/
def passesOn (failure : Failure) : Bool :=
  failure = .permissionDenied || failure = .noEntry || failure = .notDirectory

/-- What remains of the failures of a search: a permission that was denied, or else the last. -/
def remaining (before last : Failure) : Failure :=
  if before = .permissionDenied then before else last

def launchFirst (world : World) (busy : Option Location) (arguments : List Octets)
    (before : Failure) : List Octets → Except Failure Launch
  | [] => .error before
  | path :: rest =>
    match launchAt world busy arguments path with
    | .ok launched => .ok launched
    | .error failure =>
      if passesOn failure then
        launchFirst world busy arguments (remaining before failure) rest
      else .error failure

/-- The entries of a search path as the system takes them.  One that is too long for any path counts
as empty, or for nothing if it comes last. -/
def systemEntries : List Octets → List Octets
  | [] => []
  | [last] => if pathLimit ≤ last.length then [] else [last]
  | entry :: rest => (if pathLimit ≤ entry.length then [] else entry) :: systemEntries rest

def systemCandidates (searchPath name : Octets) : List Octets :=
  (systemEntries (pieces entrySeparator searchPath)).map fun entry =>
    if entry = [] then name else entry ++ Path.separator :: name

def launch (world : World) (busy : Option Location) (program : Octets) (arguments : List Octets) :
    Except Failure Launch :=
  if Path.hasNul program || arguments.any Path.hasNul then .error .nulInCommand
  else if program.contains Path.separator then launchAt world busy arguments program
  else launchFirst world busy arguments .noEntry
    (systemCandidates (world.environment.searchPath.getD []) program)

end Reftest.Program
