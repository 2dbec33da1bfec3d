import Reftest.Decimal.Shortest
import Reftest.Text.Quoted
import Reftest.Text.Utf8
import Reftest.Toml.Node

namespace Reftest.Config

/-- What a value is, as far as a setting can tell.  Dates and times are read as tables. -/
inductive Found where
  | string (text : String)
  | integer (value : Int)
  | float (value : Binary64)
  | boolean (value : Bool)
  | sequence
  | map
  deriving DecidableEq, Repr

inductive Expected where
  | string
  | path
  | sequence
  | boolean
  | harnessSection
  | viewerSection
  | runSection
  deriving DecidableEq, Repr

def Found.ofNode : Toml.Node → Found
  | .scalar _ (.string text) => .string text
  | .scalar _ (.integer value) => .integer value
  | .scalar _ (.float value) => .float value
  | .scalar _ (.boolean value) => .boolean value
  | .scalar _ .datetime => .map
  | .array _ _ => .sequence
  | .tables _ _ _ => .sequence
  | .table _ _ _ => .map

def Found.describe : Found → String
  | .string text => "string " ++ Quoted.quote text
  | .integer value => "integer \x60" ++ toString value ++ "\x60"
  | .float value => "floating point \x60" ++ value.text ++ "\x60"
  | .boolean value => "boolean \x60" ++ toString value ++ "\x60"
  | .sequence => "sequence"
  | .map => "map"

def Expected.describe : Expected → String
  | .string => "a string"
  | .path => "path string"
  | .sequence => "a sequence"
  | .boolean => "a boolean"
  | .harnessSection => "struct HarnessConfig"
  | .viewerSection => "struct ViewerConfig"
  | .runSection => "struct RunConfig"

structure Mismatch where
  span : Toml.Span
  found : Found
  expected : Expected
  deriving DecidableEq, Repr

def Mismatch.ofNode (node : Toml.Node) (expected : Expected) : Mismatch where
  span := node.span
  found := .ofNode node
  expected := expected

structure Excerpt where
  line : Nat
  column : Nat
  content : List Char
  carets : Nat
  deriving DecidableEq, Repr

def octetCount (text : List Char) : Nat :=
  (Utf8.encode text).length

/-- A stretch is pointed out octet for octet, but not beyond its first line. -/
def Excerpt.ofSpan (text : List Char) (span : Toml.Span) : Excerpt :=
  let column := Toml.Mark.column text span.start
  let content := Toml.Mark.lineText text span.start
  { line := Toml.Mark.line text span.start
    column
    content
    carets := max 1 (min (octetCount (span.content text)) (octetCount content - (column - 1))) }

def Excerpt.render (excerpt : Excerpt) : String :=
  let number := toString excerpt.line
  let gutter := String.ofList (List.replicate (number.length + 1) ' ')
  gutter ++ "|\n" ++
    number ++ " | " ++ String.ofList excerpt.content ++ "\n" ++
    gutter ++ "|" ++ String.ofList (List.replicate excerpt.column ' ') ++
    String.ofList (List.replicate excerpt.carets '^') ++ "\n"

inductive Diagnostic where
  | malformed (line : Nat)
  | illTyped (excerpt : Excerpt) (found : Found) (expected : Expected)
  deriving DecidableEq, Repr

namespace Diagnostic

def ofStop (text : List Char) (mark : Toml.Mark) : Diagnostic :=
  .malformed (Toml.Mark.stopLine text mark)

def ofMismatch (text : List Char) (mismatch : Mismatch) : Diagnostic :=
  .illTyped (.ofSpan text mismatch.span) mismatch.found mismatch.expected

def report (excerpt : Excerpt) (reason : String) : String :=
  "TOML parse error at line " ++ toString excerpt.line ++
    ", column " ++ toString excerpt.column ++ "\n" ++ excerpt.render ++ reason ++ "\n"

/-- The message about a text.  What there is to say of a malformed one, besides the line, is up to
the reader of documents. -/
def message (text : List Char) (objection : Toml.Objection) : Diagnostic → String
  | .malformed line =>
    report ⟨line, objection.column, Toml.lineOf text line, objection.carets⟩ objection.reason
  | .illTyped excerpt found expected =>
    report excerpt ("invalid type: " ++ found.describe ++ ", expected " ++ expected.describe)

end Diagnostic

end Reftest.Config
