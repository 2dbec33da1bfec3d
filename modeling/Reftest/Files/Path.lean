import Reftest.Text.Pieces
import Reftest.Text.Utf8

namespace Reftest.Path

def separator : UInt8 := 0x2F

def dot : Octets := [0x2E]

def dotDot : Octets := [0x2E, 0x2E]

def isAbsolute (path : Octets) : Bool :=
  path.head? = some separator

def hasNul (path : Octets) : Bool :=
  path.contains 0

/-- The path of `path` seen from the directory `base`; an absolute path is the same from
everywhere. -/
def join (base path : Octets) : Octets :=
  if isAbsolute path then path
  else if base = [] ∨ base.getLast? = some separator then base ++ path
  else base ++ separator :: path

def dropEmpty : List Octets → List Octets
  | [] => []
  | [last] => [last]
  | step :: rest => if step = [] then dropEmpty rest else step :: dropEmpty rest

def steps (path : Octets) : List Octets :=
  dropEmpty (pieces separator path)

/-- The parts of a relative path that tell it from other paths: neither repeated separators nor
further parts that stay where they are. -/
def parts (path : Octets) : List Octets :=
  match pieces separator path with
  | [] => []
  | first :: rest =>
    (if first = [] then [] else [first]) ++ rest.filter (fun part => part ≠ [] ∧ part ≠ dot)

def namesDirectory (path : Octets) : Bool :=
  isAbsolute path || 1 < (parts path).length

end Reftest.Path
