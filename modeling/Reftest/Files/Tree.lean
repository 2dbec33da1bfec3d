import Reftest.Program.Behaviour

namespace Reftest

abbrev Location := List Octets

namespace Location

def isGone (place : Location) : Bool :=
  place.getLast? = some []

/-- What becomes of a location when the entry at `removed` is taken away.  What lay there, or below
it, goes on under an empty name, which no path can give. -/
def afterRemoval (place removed : Location) : Location :=
  if removed.isPrefixOf place then
    removed.dropLast ++ List.replicate (place.length - removed.length + 1) []
  else place

theorem afterRemoval_of_not_isPrefixOf {place removed : Location} (h : ¬ removed <+: place) :
    place.afterRemoval removed = place := by
  simp [afterRemoval, h]

end Location

inductive Content where
  | octets (octets : Octets)
  | program (behaviour : Behaviour)
  deriving DecidableEq, Repr

/-- The octets of a program are not part of its description.  They count as a line with the mark
of a script and a line with a command. -/
def programText : Octets :=
  Octets.ofText "#!/bin/sh\nexec program\n"

def Content.read : Content → Octets
  | .octets held => held
  | .program _ => programText

inductive Entry where
  | directory
  | file (mode : Nat) (content : Content)
  | link (target : Octets)
  deriving DecidableEq, Repr

@[ext] structure FileTree where
  lookup? : Location → Option Entry

namespace FileTree

def empty : FileTree := ⟨fun _ => none⟩

def set (tree : FileTree) (place : Location) (entry : Entry) : FileTree :=
  ⟨fun other => if other = place then some entry else tree.lookup? other⟩

def erase (tree : FileTree) (place : Location) : FileTree :=
  ⟨fun other => if other = place then none else tree.lookup? other⟩

def prune (tree : FileTree) (place : Location) : FileTree :=
  ⟨fun other => if place.isPrefixOf other then none else tree.lookup? other⟩

@[simp] theorem lookup?_set_self (tree : FileTree) (place : Location) (entry : Entry) :
    (tree.set place entry).lookup? place = some entry := by
  simp [set]

theorem lookup?_set_of_ne (tree : FileTree) {place other : Location} (entry : Entry)
    (h : other ≠ place) : (tree.set place entry).lookup? other = tree.lookup? other := by
  simp [set, h]

@[simp] theorem lookup?_erase_self (tree : FileTree) (place : Location) :
    (tree.erase place).lookup? place = none := by
  simp [erase]

theorem lookup?_erase_of_ne (tree : FileTree) {place other : Location} (h : other ≠ place) :
    (tree.erase place).lookup? other = tree.lookup? other := by
  simp [erase, h]

theorem lookup?_prune_of_isPrefixOf (tree : FileTree) {place other : Location}
    (h : place <+: other) : (tree.prune place).lookup? other = none := by
  simp [prune, h]

theorem lookup?_prune_of_not_isPrefixOf (tree : FileTree) {place other : Location}
    (h : ¬ place <+: other) :
    (tree.prune place).lookup? other = tree.lookup? other := by
  simp [prune, h]

@[simp] theorem set_set (tree : FileTree) (place : Location) (first second : Entry) :
    (tree.set place first).set place second = tree.set place second := by
  ext other : 2
  by_cases h : other = place <;> simp [set, h]

end FileTree

def runnable (mode : Nat) : Bool :=
  mode &&& 0o111 != 0

end Reftest
