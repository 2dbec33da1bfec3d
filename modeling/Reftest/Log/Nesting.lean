/-!
How deep the parts of an expression stand inside of each other.  A character, a kind of characters
or an assertion has depth zero.  A group, a class, a repetition, and whatever is put together of
several parts, lies one deeper than the deepest of its parts.
-/

namespace Reftest.Log.Nesting

def limit : Nat := 250

/-- The depth of parts that stand next to each other; one part alone is no deeper for that. -/
def joined : List Nat → Nat
  | [] => 0
  | [depth] => depth
  | depths => depths.foldl max 0 + 1

structure Group where
  branches : List Nat := []
  parts : List Nat := []
  deriving DecidableEq, Repr

namespace Group

def depth (group : Group) : Nat :=
  joined (joined group.parts :: group.branches)

def add (group : Group) (depth : Nat) : Group :=
  { group with parts := depth :: group.parts }

def repeatLast (group : Group) : Group :=
  { group with parts := group.parts.modifyHead (· + 1) }

def branch (group : Group) : Group :=
  { branches := joined group.parts :: group.branches }

end Group

structure Class where
  before : Option Nat := none
  items : List Nat := []
  deriving DecidableEq, Repr

namespace Class

def ofCount (characters : Nat) : Class :=
  { items := List.replicate characters 0 }

def depth (level : Class) : Nat :=
  match level.before with
  | none => joined level.items
  | some before => max before (joined level.items) + 1

def add (level : Class) (depth : Nat) : Class :=
  { level with items := depth :: level.items }

def operate (level : Class) : Class :=
  { before := some level.depth }

end Class

example : (((({} : Group).add 3).branch.add 0).add 1).depth = 4 := rfl

end Reftest.Log.Nesting
