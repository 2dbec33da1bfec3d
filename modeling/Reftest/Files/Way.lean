import Reftest.Failure
import Reftest.Files.Path
import Reftest.Files.Tree

/-!
The way that a path takes through a tree of files.  Links are followed wherever they stand on the
way, the last place included.  A directory that has been taken away has no entries and takes none,
but it can still be left for the directory above it.
-/

namespace Reftest

inductive Landing where
  | entry (place : Location)
  | vacant (place : Location)
  deriving DecidableEq, Repr

inductive Stretch where
  | landed (landing : Landing)
  | link (directory : Location) (target : Octets) (rest : List Octets)
  deriving DecidableEq, Repr

/-- What a way is for.  A file that is to be made cannot be named as a directory. -/
inductive Purpose where
  | find
  | create
  deriving DecidableEq, Repr

def nameLimit : Nat := 255

def pathLimit : Nat := 4096

def linkLimit : Nat := 40

def Path.origin (directory : Location) (path : Octets) : Location :=
  if isAbsolute path then [] else directory

namespace FileTree

def stretch (tree : FileTree) (purpose : Purpose) (here : Location) :
    List Octets → Except Failure Stretch
  | [] => .ok (.landed (.entry here))
  | step :: rest =>
    if step = [] ∨ step = Path.dot then tree.stretch purpose here rest
    else if step = Path.dotDot then tree.stretch purpose here.dropLast rest
    else if purpose = .create ∧ rest = [[]] then .error .isDirectory
    else if here.isGone then .error .noEntry
    else if nameLimit < step.length then .error .nameTooLong
    else
      let place := here ++ [step]
      match tree.lookup? place with
      | none => if rest = [] then .ok (.landed (.vacant place)) else .error .noEntry
      | some .directory => tree.stretch purpose place rest
      | some (.file _ _) =>
        if rest = [] then .ok (.landed (.entry place)) else .error .notDirectory
      | some (.link target) => .ok (.link here target rest)

def way (tree : FileTree) (purpose : Purpose) (links : Nat) (here : Location)
    (steps : List Octets) : Except Failure Landing :=
  match tree.stretch purpose here steps with
  | .error failure => .error failure
  | .ok (.landed landing) => .ok landing
  | .ok (.link directory target rest) =>
    match links with
    | 0 => .error .tooManyLinks
    | links + 1 =>
      tree.way purpose links (Path.origin directory target) (Path.steps target ++ rest)

def find (tree : FileTree) (purpose : Purpose) (directory : Location) (path : Octets) :
    Except Failure Landing :=
  if path = [] then .error .noEntry
  else if pathLimit ≤ path.length then .error .nameTooLong
  else tree.way purpose linkLimit (Path.origin directory path) (Path.steps path)

def locate (tree : FileTree) (directory : Location) (path : Octets) : Except Failure Location :=
  match tree.find .find directory path with
  | .error failure => .error failure
  | .ok (.vacant _) => .error .noEntry
  | .ok (.entry place) => .ok place

end FileTree

end Reftest
