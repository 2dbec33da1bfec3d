import Reftest.Config.Basic
import Reftest.Config.Mismatch
import Reftest.Toml.Assembly

namespace Reftest

open Config (Mismatch Diagnostic Expected)
open Toml (Node Entries)

namespace Config

def decodeText : Node → Except Mismatch String
  | .scalar _ (.string text) => .ok text
  | node => .error (.ofNode node .string)

def decodePath : Node → Except Mismatch Octets
  | .scalar _ (.string text) => .ok (Octets.ofText text)
  | node => .error (.ofNode node .path)

def decodeFlag : Node → Except Mismatch Bool
  | .scalar _ (.boolean value) => .ok value
  | node => .error (.ofNode node .boolean)

def decodeTexts (node : Node) : Except Mismatch (List String) :=
  match node.items? with
  | some items => items.mapM decodeText
  | none => .error (.ofNode node .sequence)

/-- A section is a table of its settings, an array of them in the order of `names`, or a date or
time, which has none of them. -/
def decodeSection (names : List String) (put : α → String → Node → Except Mismatch α)
    (initial : α) (expected : Expected) (node : Node) : Except Mismatch α :=
  match node with
  | .table _ _ entries =>
    entries.foldlM (fun settings entry => put settings entry.1 entry.2) initial
  | .scalar _ .datetime => .ok initial
  | node =>
    match node.items? with
    | some items =>
      (names.zip items).foldlM (fun settings entry => put settings entry.1 entry.2) initial
    | none => .error (.ofNode node expected)

end Config

namespace HarnessSection

def names : List String := ["program", "args", "suite", "log_file"]

def put (settings : HarnessSection) (name : String) (node : Node) :
    Except Mismatch HarnessSection :=
  match name with
  | "program" => (Config.decodeText node).map ({ settings with program := · })
  | "args" => (Config.decodeTexts node).map ({ settings with arguments := · })
  | "suite" => (Config.decodeText node).map ({ settings with suite := · })
  | "log_file" => (Config.decodePath node).map ({ settings with logFile := · })
  | _ => .ok settings

def decode : Node → Except Mismatch HarnessSection :=
  Config.decodeSection names put {} .harnessSection

end HarnessSection

namespace ViewerSection

def names : List String := ["browser", "args", "analyzer_page", "open_on_failure"]

def put (settings : ViewerSection) (name : String) (node : Node) :
    Except Mismatch ViewerSection :=
  match name with
  | "browser" => (Config.decodeText node).map ({ settings with browser := · })
  | "args" => (Config.decodeTexts node).map ({ settings with arguments := · })
  | "analyzer_page" => (Config.decodeText node).map ({ settings with analyzerPage := · })
  | "open_on_failure" => (Config.decodeFlag node).map ({ settings with openOnFailure := · })
  | _ => .ok settings

def decode : Node → Except Mismatch ViewerSection :=
  Config.decodeSection names put {} .viewerSection

end ViewerSection

namespace RunSection

def names : List String := ["exit_code"]

def put (settings : RunSection) (name : String) (node : Node) : Except Mismatch RunSection :=
  match name with
  | "exit_code" => (Config.decodeFlag node).map ({ settings with exitCode := · })
  | _ => .ok settings

def decode : Node → Except Mismatch RunSection :=
  Config.decodeSection names put {} .runSection

end RunSection

namespace Config

def put (config : Config) (name : String) (node : Node) : Except Mismatch Config :=
  match name with
  | "harness" => (HarnessSection.decode node).map ({ config with harness := · })
  | "viewer" => (ViewerSection.decode node).map ({ config with viewer := · })
  | "run" => (RunSection.decode node).map ({ config with run := · })
  | _ => .ok config

def decode (entries : Entries) : Except Mismatch Config :=
  entries.foldlM (fun config entry => config.put entry.1 entry.2) {}

/-- The settings that a text gives.  A text that cannot be read counts as such even if a value in
front of that place does not fit. -/
def ofText (text : String) : Except Diagnostic Config :=
  match Toml.readDocument text.toList with
  | .error mark => .error (.ofStop text.toList mark)
  | .ok entries => (decode entries).mapError (.ofMismatch text.toList)

end Config

instance decidableEqOutcome {Problem Value : Type} [DecidableEq Problem] [DecidableEq Value] :
    DecidableEq (Except Problem Value)
  | .ok value, .ok value' => decidable_of_iff (value = value') ⟨congrArg _, Except.ok.inj⟩
  | .error problem, .error problem' =>
    decidable_of_iff (problem = problem') ⟨congrArg _, Except.error.inj⟩
  | .ok _, .error _ => isFalse nofun
  | .error _, .ok _ => isFalse nofun

end Reftest
