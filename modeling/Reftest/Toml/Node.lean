import Reftest.Decimal.Binary64
import Reftest.Toml.Position

namespace Reftest.Toml

inductive Scalar where
  | string (text : String)
  | integer (value : Int)
  | float (value : Binary64)
  | boolean (value : Bool)
  | datetime
  deriving DecidableEq, Repr

/-- What brought a table into being: braces, a header of its own, the header of a table inside it,
or a dotted key. -/
inductive Origin where
  | inline
  | header
  | implied
  | dotted
  deriving DecidableEq, Repr

/-- A value in its place.  The span of a table made by a header starts with the header and reaches
to the end of what was last assigned under it; that of a table without text of its own is the part
of a key that names it.  A sequence of tables has its latest element apart from the earlier ones,
which stand latest first. -/
inductive Node where
  | scalar (span : Span) (value : Scalar)
  | array (span : Span) (items : List Node)
  | table (origin : Origin) (span : Span) (entries : List (String × Node))
  | tables (earlier : List (Span × List (String × Node))) (span : Span)
      (entries : List (String × Node))

abbrev Entries := List (String × Node)

namespace Entries

def get? (entries : Entries) (name : String) : Option Node :=
  List.lookup name entries

def set (entries : Entries) (name : String) (node : Node) : Entries :=
  entries.map fun entry => if entry.1 = name then (name, node) else entry

def append (entries : Entries) (name : String) (node : Node) : Entries :=
  entries ++ [(name, node)]

def remove (entries : Entries) (name : String) : Entries :=
  entries.filter fun entry => entry.1 ≠ name

end Entries

namespace Node

/-- A sequence of tables reaches from its first table to its last. -/
def span : Node → Span
  | .scalar span _ => span
  | .array span _ => span
  | .table _ span _ => span
  | .tables earlier span _ => ⟨((earlier.map Prod.fst).getLastD span).start, span.stop⟩

def items? : Node → Option (List Node)
  | .array _ items => some items
  | .tables earlier span entries =>
    some (((span, entries) :: earlier).reverse.map fun table => .table .header table.1 table.2)
  | _ => none

end Node

end Reftest.Toml
