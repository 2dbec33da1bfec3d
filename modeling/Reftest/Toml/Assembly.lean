import Reftest.Toml.Entry

/-!
Putting the entries of a document together.  The table that the latest header opened is kept apart
from the rest of the document until the next header closes it.
-/

namespace Reftest.Toml

namespace Entries

/-- Applies a change inside the table that a path of headers leads to.  Tables that are missing on
the way are implied; a sequence of tables leads into its latest element; values lead nowhere. -/
def within (change : Entries → Option Entries) : Key → Entries → Option Entries
  | [], entries => change entries
  | part :: path, entries =>
    match entries.get? part.name with
    | none => do
      let inner ← within change path []
      return entries.append part.name (.table .implied part.span inner)
    | some (.table .inline _ _) => none
    | some (.table origin span inner) => do
      let inner ← within change path inner
      return entries.set part.name (.table origin span inner)
    | some (.tables earlier span inner) => do
      let inner ← within change path inner
      return entries.set part.name (.tables earlier span inner)
    | some _ => none

def follow? : Key → Entries → Option Entries
  | [], entries => some entries
  | part :: path, entries =>
    match entries.get? part.name with
    | none => follow? path []
    | some (.table .inline _ _) => none
    | some (.table _ _ inner) => follow? path inner
    | some (.tables _ _ inner) => follow? path inner
    | some _ => none

def open? (header : Header) (entries : Entries) : Option Entries := do
  let parent ← entries.follow? header.path.dropLast
  let last ← header.path.getLast?
  match parent.get? last.name with
  | none => some []
  | some (.tables _ _ _) => if header.element then some [] else none
  | some (.table .implied _ inner) => if header.element then none else some inner
  | some _ => none

/-- Puts the table of a header into its place.  A table that was implied before moves to the end of
the table around it. -/
def close? (header : Header) (table entries : Entries) : Option Entries := do
  let last ← header.path.getLast?
  entries.within (fun parent =>
    if header.element then
      match parent.get? last.name with
      | some (.tables earlier span inner) =>
        some (parent.set last.name (.tables ((span, inner) :: earlier) header.span table))
      | _ => some (parent.append last.name (.tables [] header.span table))
    else
      some ((parent.remove last.name).append last.name (.table .header header.span table)))
    header.path.dropLast

end Entries

/-- A document in the making: what is closed, and the table in which assignments are put now, with
the header that opened it. -/
structure Assembly where
  closed : Entries
  header : Option Header
  current : Entries

namespace Assembly

def empty : Assembly where
  closed := []
  header := none
  current := []

/-- The document with its open table in place.  A header that could be opened leads to its place,
so nothing is lost. -/
def close (assembly : Assembly) : Entries :=
  match assembly.header with
  | none => assembly.current
  | some header => (Entries.close? header assembly.current assembly.closed).getD assembly.closed

def add? (assembly : Assembly) : Entry → Option Assembly
  | .header header => do
    let current ← assembly.close.open? header
    return ⟨assembly.close, some header, current⟩
  | .assignment _ assignment => do
    let current ← assembly.current.assign assignment.key assignment.value
    let header := assembly.header.map (·.reach assignment.value.span.stop)
    return { assembly with header, current }

/-- Adds entries in order, up to the start of the first that is in conflict with what is there. -/
def addAll (assembly : Assembly) : List Entry → Except Mark Assembly
  | [] => .ok assembly
  | entry :: entries =>
    match assembly.add? entry with
    | some assembly => assembly.addAll entries
    | none => .error entry.start

end Assembly

def byteOrderMark : Char := '\ufeff'

def skipByteOrderMark : List Char → List Char
  | [] => []
  | c :: text => if c = byteOrderMark then text else c :: text

/-- Reads a document.  A conflict between entries counts before a later place that cannot be
read. -/
def readDocument (text : List Char) : Except Mark Entries := do
  let (entries, stop) := Entry.readAll (skipByteOrderMark text)
  let assembly ← Assembly.empty.addAll entries
  match stop with
  | some mark => .error mark
  | none => .ok assembly.close

end Reftest.Toml
