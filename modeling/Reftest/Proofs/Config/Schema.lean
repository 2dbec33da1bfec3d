import Reftest.Config.Decode
import Reftest.Proofs.Folding
import Reftest.Proofs.Toml.Entries

/-!
What a document has to look like to give settings: the sections with their fields, the kind of
value that each field takes, and the values that are of another kind.
-/

namespace Reftest

open Toml (Node Entries)

namespace Config

def IsText (node : Node) (value : String) : Prop :=
  ∃ span, node = .scalar span (.string value)

def IsPath (node : Node) (value : Octets) : Prop :=
  ∃ text, IsText node text ∧ value = Octets.ofText text

def IsFlag (node : Node) (value : Bool) : Prop :=
  ∃ span, node = .scalar span (.boolean value)

def IsTexts (node : Node) (values : List String) : Prop :=
  ∃ items, node.items? = some items ∧ items.length = values.length ∧
    ∀ pair ∈ items.zip values, IsText pair.1 pair.2

inductive Kind where
  | text
  | path
  | texts
  | flag
  deriving DecidableEq, Repr

namespace Kind

def Fits : Kind → Node → Prop
  | .text, node => ∃ value, IsText node value
  | .path, node => ∃ value, IsPath node value
  | .texts, node => ∃ values, IsTexts node values
  | .flag, node => ∃ value, IsFlag node value

/-- A value offends where it is not of its kind, an array of texts in each of its items that is no
text. -/
inductive Offends : Kind → Node → Mismatch → Prop where
  | text {node : Node} (h : ¬ Kind.text.Fits node) : Offends .text node (.ofNode node .string)
  | path {node : Node} (h : ¬ Kind.path.Fits node) : Offends .path node (.ofNode node .path)
  | flag {node : Node} (h : ¬ Kind.flag.Fits node) : Offends .flag node (.ofNode node .boolean)
  | texts {node : Node} (h : node.items? = none) : Offends .texts node (.ofNode node .sequence)
  | item {node item : Node} {items : List Node} {mismatch : Mismatch}
      (hitems : node.items? = some items) (hitem : item ∈ items)
      (h : Offends .text item mismatch) : Offends .texts node mismatch

end Kind

structure Section where
  name : String
  expected : Expected
  fields : List (String × Kind)

namespace Section

def names (part : Section) : List String :=
  part.fields.map Prod.fst

def harness : Section where
  name := "harness"
  expected := .harnessSection
  fields := [("program", .text), ("args", .texts), ("suite", .text), ("log_file", .path)]

def viewer : Section where
  name := "viewer"
  expected := .viewerSection
  fields := [("browser", .text), ("args", .texts), ("analyzer_page", .text),
    ("open_on_failure", .flag)]

def run : Section where
  name := "run"
  expected := .runSection
  fields := [("exit_code", .flag)]

def all : List Section := [harness, viewer, run]

/-- The fields that a section's value has: those of a table by name, those of an array by place, and
none of a date or time.  Other values are no sections. -/
def contents? (part : Section) : Node → Option Entries
  | .table _ _ entries => some entries
  | .scalar _ .datetime => some []
  | node => node.items?.map part.names.zip

inductive Offends (part : Section) (node : Node) : Mismatch → Prop where
  | whole (h : part.contents? node = none) : Offends part node (.ofNode node part.expected)
  | field {contents : Entries} {name : String} {kind : Kind} {value : Node} {mismatch : Mismatch}
      (hcontents : part.contents? node = some contents) (hfield : (name, kind) ∈ part.fields)
      (hvalue : contents.get? name = some value) (h : kind.Offends value mismatch) :
      Offends part node mismatch

end Section

/-- One of the document's sections, or one of the fields in it, is not what it has to be. -/
def Offends (document : Entries) (mismatch : Mismatch) : Prop :=
  ∃ part ∈ Section.all, ∃ node, document.get? part.name = some node ∧ part.Offends node mismatch

def WellTyped (document : Entries) : Prop :=
  ∀ part ∈ Section.all, ∀ node, document.get? part.name = some node →
    ∃ contents, part.contents? node = some contents ∧
      ∀ field ∈ part.fields, ∀ value, contents.get? field.1 = some value → field.2.Fits value

def value? (document : Entries) (part : Section) (name : String) : Option Node := do
  let node ← document.get? part.name
  let contents ← part.contents? node
  contents.get? name

/-- A setting is what the value in the document denotes, or else its default. -/
def Settles {α : Type} (value : Option Node) (denotes : Node → α → Prop) (default setting : α) :
    Prop :=
  match value with
  | none => setting = default
  | some node => denotes node setting

structure ReflectsHarness (value : String → Option Node) (settings : HarnessSection) : Prop where
  program : Settles (value "program") IsText "./headless.py" settings.program
  arguments : Settles (value "args") IsTexts [] settings.arguments
  suite : Settles (value "suite") IsText "reftest" settings.suite
  logFile : Settles (value "log_file") IsPath (Octets.ofText "reftest.log") settings.logFile

structure ReflectsViewer (value : String → Option Node) (settings : ViewerSection) : Prop where
  browser : Settles (value "browser") IsText "firefox" settings.browser
  arguments : Settles (value "args") IsTexts [] settings.arguments
  analyzerPage : Settles (value "analyzer_page") IsText "reftest-analyzer.xhtml"
    settings.analyzerPage
  openOnFailure : Settles (value "open_on_failure") IsFlag true settings.openOnFailure

structure ReflectsRun (value : String → Option Node) (settings : RunSection) : Prop where
  exitCode : Settles (value "exit_code") IsFlag false settings.exitCode

structure Reflects (document : Entries) (config : Config) : Prop where
  harness : ReflectsHarness (value? document .harness) config.harness
  viewer : ReflectsViewer (value? document .viewer) config.viewer
  run : ReflectsRun (value? document .run) config.run

def textFaults (expected : Expected) : Node → List Mismatch
  | .scalar _ (.string _) => []
  | node => [.ofNode node expected]

def flagFaults : Node → List Mismatch
  | .scalar _ (.boolean _) => []
  | node => [.ofNode node .boolean]

def Kind.faults : Kind → Node → List Mismatch
  | .text, node => textFaults .string node
  | .path, node => textFaults .path node
  | .flag, node => flagFaults node
  | .texts, node =>
    match node.items? with
    | some items => items.flatMap (textFaults .string)
    | none => [.ofNode node .sequence]

def Section.fieldFaults (part : Section) (field : String × Node) : List Mismatch :=
  match part.fields.lookup field.1 with
  | some kind => kind.faults field.2
  | none => []

def Section.faults (part : Section) (node : Node) : List Mismatch :=
  match part.contents? node with
  | some contents => contents.flatMap part.fieldFaults
  | none => [.ofNode node part.expected]

def entryFaults (entry : String × Node) : List Mismatch :=
  match Section.all.find? (·.name = entry.1) with
  | some part => part.faults entry.2
  | none => []

def faults (document : Entries) : List Mismatch :=
  document.flatMap entryFaults

end Config

end Reftest
