import Reftest.Toml.Value

namespace Reftest.Toml

/-- A header opens a table, or adds an element to a sequence of tables.  Its span grows with what is
assigned under it. -/
structure Header where
  element : Bool
  path : Key
  span : Span

def Header.reach (header : Header) (stop : Mark) : Header :=
  { header with span := ⟨header.span.start, stop⟩ }

inductive Entry where
  | header (header : Header)
  | assignment (start : Mark) (assignment : Assignment)

namespace Entry

def start : Entry → Mark
  | .header opened => opened.span.start
  | .assignment start _ => start

def readHeader (start : Mark) (element : Bool) : Reader Header := fun text => do
  let (path, rest) ← Key.read text
  if path.isEmpty then stopAt text
  match rest with
  | ']' :: rest =>
    if element then
      match rest with
      | ']' :: rest => return (⟨true, path, ⟨start, rest.length⟩⟩, rest)
      | _ => stopAt rest
    else return (⟨false, path, ⟨start, rest.length⟩⟩, rest)
  | _ => stopAt rest

def read : Reader Entry := fun text => do
  let (entry, rest) ← match text with
    | '[' :: '[' :: inner => do
      let (opened, rest) ← readHeader text.length true inner
      pure (Entry.header opened, rest)
    | '[' :: inner => do
      let (opened, rest) ← readHeader text.length false inner
      pure (Entry.header opened, rest)
    | _ => do
      let (key, rest) ← Key.read text
      if key.isEmpty then stopAt text
      let (assigned, rest) ← readAssigned (readValue depthLimit) key rest
      pure (Entry.assignment text.length assigned, rest)
  let rest ← endLine rest
  return (entry, rest)

/-- Reads entries for as long as that is possible: all of them, or those in front of the mark where
reading stopped. -/
def readAll (text : List Char) : List Entry × Option Mark :=
  match skipBlanks text with
  | [] => ([], none)
  | c :: cs =>
    if c = '#' ∨ c = '\n' ∨ c = '\r' then
      match endLine (c :: cs) with
      | .error mark => ([], some mark)
      | .ok rest => if rest.length < text.length then readAll rest else ([], none)
    else
      match read (c :: cs) with
      | .error mark => ([], some mark)
      | .ok (entry, rest) =>
        if rest.length < text.length then
          let (entries, stop) := readAll rest
          (entry :: entries, stop)
        else ([entry], none)
termination_by text.length

end Entry

end Reftest.Toml
