import Reftest.Files.Way

namespace Reftest.FileTree

def exists? (tree : FileTree) (directory : Location) (path : Octets) : Bool :=
  !Path.hasNul path && (tree.locate directory path).isOk

/-- The mode and the content of a file; everything that is no file counts as a directory. -/
def file? (tree : FileTree) (place : Location) : Option (Nat × Content) :=
  match tree.lookup? place with
  | some (.file mode content) => some (mode, content)
  | _ => none

def read (tree : FileTree) (directory : Location) (path : Octets) : Except Failure Octets :=
  if Path.hasNul path then .error .nulInPath
  else match tree.locate directory path with
    | .error failure => .error failure
    | .ok place =>
      match tree.file? place with
      | some (_, content) => .ok content.read
      | none => .error .isDirectory

def readText (tree : FileTree) (directory : Location) (path : Octets) : Except Failure String :=
  match tree.read directory path with
  | .error failure => .error failure
  | .ok octets =>
    match octets.text? with
    | some text => .ok text
    | none => .error .notText

def isProgram (tree : FileTree) (directory : Location) (path : Octets) : Bool :=
  !Path.hasNul path &&
    match tree.locate directory path with
    | .error _ => false
    | .ok place =>
      match tree.file? place with
      | some (mode, _) => runnable mode
      | none => false

def newMode : Nat := 0o644

/-- Opens a file to be written from its beginning.  A file that is there keeps its mode and loses
its content. -/
def create (tree : FileTree) (directory : Location) (path : Octets) :
    Except Failure (Location × FileTree) :=
  if Path.hasNul path then .error .nulInPath
  else match tree.find .create directory path with
    | .error failure => .error failure
    | .ok (.vacant place) => .ok (place, tree.set place (.file newMode (.octets [])))
    | .ok (.entry place) =>
      match tree.file? place with
      | some (mode, _) => .ok (place, tree.set place (.file mode (.octets [])))
      | none => .error .isDirectory

def append (tree : FileTree) (place : Location) (octets : Octets) : FileTree :=
  match tree.lookup? place with
  | some (.file mode (.octets before)) => tree.set place (.file mode (.octets (before ++ octets)))
  | _ => tree

/-- The place of the last name on a way, which is not followed if it is a link. -/
def nameplace? (tree : FileTree) (here : Location) (steps : List Octets) : Option Location :=
  let name := steps.getLastD []
  if name = [] ∨ name = Path.dot ∨ name = Path.dotDot then none
  else match tree.way .find linkLimit here steps.dropLast with
    | .ok (.entry place) => if (tree.file? place).isNone then some (place ++ [name]) else none
    | _ => none

def remove (tree : FileTree) (directory : Location) (path : Octets) : FileTree :=
  if Path.hasNul path ∨ pathLimit ≤ path.length then tree
  else match tree.nameplace? (Path.origin directory path) (Path.steps path) with
    | none => tree
    | some place =>
      match tree.lookup? place with
      | some (.file _ _) => tree.erase place
      | some (.link _) => tree.erase place
      | _ => tree

end Reftest.FileTree
