import Reftest.Toml.Key
import Reftest.Toml.Node

namespace Reftest.Toml

structure Assignment where
  key : Key
  value : Node

namespace Entries

/-- Puts a value under a key.  There is no result where the key is taken or leads through something
that a dotted key may not extend: the table that takes the value has to be of dotted keys alone,
and the ones on the way to it may also be implied by headers. -/
def assign : Key → Node → Entries → Option Entries
  | [], _, _ => none
  | [part], value, entries =>
    match entries.get? part.name with
    | some _ => none
    | none => some (entries.append part.name value)
  | part :: next :: key, value, entries =>
    match entries.get? part.name with
    | none => do
      let inner ← assign (next :: key) value []
      return entries.append part.name (.table .dotted part.span inner)
    | some (.table .dotted span inner) => do
      let inner ← assign (next :: key) value inner
      return entries.set part.name (.table .dotted span inner)
    | some (.table .implied span inner) => do
      if key.isEmpty then none
      let inner ← assign (next :: key) value inner
      return entries.set part.name (.table .implied span inner)
    | some (.tables earlier span inner) => do
      if key.isEmpty then none
      let inner ← assign (next :: key) value inner
      return entries.set part.name (.tables earlier span inner)
    | some _ => none

def assignAll (entries : Entries) (assignments : List Assignment) : Option Entries :=
  assignments.foldlM (fun entries item => entries.assign item.key item.value) entries

end Entries

end Reftest.Toml
