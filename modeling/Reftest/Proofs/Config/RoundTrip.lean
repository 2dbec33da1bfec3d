import Reftest.Proofs.Config.Decoding
import Reftest.Proofs.Config.Values
import Reftest.Proofs.Config.Writing
import Reftest.Proofs.Text.Encoding

namespace Reftest

open Toml (Node Entries)

namespace Config

namespace Layout

def textField (name value : String) (bare : IsBare name) : Field where
  name := name
  value := text value
  Denotes node := IsText node value
  bare := bare
  begins := ⟨'"', _, rfl, by decide⟩
  reads rest := readValue_text _ value (by simp)

def textsField (name : String) (values : List String) (bare : IsBare name) : Field where
  name := name
  value := texts values
  Denotes node := IsTexts node values
  bare := bare
  begins := ⟨'[', _, rfl, by decide⟩
  reads rest := readValue_texts _ values ('\n' :: rest)

def flagField (name : String) (value : Bool) (bare : IsBare name) : Field where
  name := name
  value := flag value
  Denotes node := IsFlag node value
  bare := bare
  begins := by
    cases value with
    | false => exact ⟨'f', _, rfl, by decide⟩
    | true => exact ⟨'t', _, rfl, by decide⟩
  reads rest := readValue_flag _ value ('\n' :: rest)

def harness (settings : HarnessSection) (log : String) : Paragraph where
  name := "harness"
  fields := [textField "program" settings.program (by decide),
    textsField "args" settings.arguments (by decide),
    textField "suite" settings.suite (by decide),
    textField "log_file" log (by decide)]
  bare := by decide
  distinct := (by decide : HarnessSection.names.Nodup)

def viewer (settings : ViewerSection) : Paragraph where
  name := "viewer"
  fields := [textField "browser" settings.browser (by decide),
    textsField "args" settings.arguments (by decide),
    textField "analyzer_page" settings.analyzerPage (by decide),
    flagField "open_on_failure" settings.openOnFailure (by decide)]
  bare := by decide
  distinct := (by decide : ViewerSection.names.Nodup)

def run (settings : RunSection) : Paragraph where
  name := "run"
  fields := [flagField "exit_code" settings.exitCode (by decide)]
  bare := by decide
  distinct := (by decide : RunSection.names.Nodup)

def paragraphs (config : Config) (log : String) : List Paragraph :=
  [harness config.harness log, viewer config.viewer, run config.run]

theorem document_eq (config : Config) (log : String) :
    document config log = (paragraphs config log).flatMap Paragraph.written := by
  simp [document, paragraphs, harness, viewer, run, Paragraph.written, Field.written, textField,
    textsField, flagField]

end Layout

section

variable {span : Toml.Span} {entries : Entries}

theorem decode_harness {settings : HarnessSection} {log : String}
    (hlog : settings.logFile = Octets.ofText log)
    (h : Layout.Field.Hold (Layout.harness settings log).fields entries) :
    HarnessSection.decode (.table .header span entries) = .ok settings := by
  obtain _ | ⟨hprogram, _ | ⟨harguments, _ | ⟨hsuite, _ | ⟨hlogFile, ⟨⟩⟩⟩⟩⟩ := h
  have hprogram := decodeText_eq_ok_iff.mpr hprogram
  have harguments := decodeTexts_eq_ok_iff.mpr harguments
  have hsuite := decodeText_eq_ok_iff.mpr hsuite
  have hlogFile := decodePath_eq_ok_iff.mpr ⟨log, hlogFile, hlog⟩
  simp [HarnessSection.decode, decodeSection, HarnessSection.put, Layout.textField,
    Layout.textsField, hprogram, harguments, hsuite, hlogFile, Except.map, bind, Except.bind,
    pure, Except.pure]

theorem decode_viewer {settings : ViewerSection}
    (h : Layout.Field.Hold (Layout.viewer settings).fields entries) :
    ViewerSection.decode (.table .header span entries) = .ok settings := by
  obtain _ | ⟨hbrowser, _ | ⟨harguments, _ | ⟨hpage, _ | ⟨hopens, ⟨⟩⟩⟩⟩⟩ := h
  have hbrowser := decodeText_eq_ok_iff.mpr hbrowser
  have harguments := decodeTexts_eq_ok_iff.mpr harguments
  have hpage := decodeText_eq_ok_iff.mpr hpage
  have hopens := decodeFlag_eq_ok_iff.mpr hopens
  simp [ViewerSection.decode, decodeSection, ViewerSection.put, Layout.textField,
    Layout.textsField, Layout.flagField, hbrowser, harguments, hpage, hopens, Except.map, bind,
    Except.bind, pure, Except.pure]

theorem decode_run {settings : RunSection}
    (h : Layout.Field.Hold (Layout.run settings).fields entries) :
    RunSection.decode (.table .header span entries) = .ok settings := by
  obtain _ | ⟨hexits, ⟨⟩⟩ := h
  have hexits := decodeFlag_eq_ok_iff.mpr hexits
  simp [RunSection.decode, decodeSection, RunSection.put, Layout.flagField, hexits, Except.map,
    bind, Except.bind, pure, Except.pure]

end

theorem decode_paragraphs {config : Config} {log : String}
    (hlog : config.harness.logFile = Octets.ofText log) {document : Entries}
    (h : Layout.Paragraph.Hold (Layout.paragraphs config log) document) :
    decode document = .ok config := by
  obtain _ | ⟨hharness, _ | ⟨hviewer, _ | ⟨hrun, ⟨⟩⟩⟩⟩ := h
  simp [decode, put, Layout.harness, Layout.viewer, Layout.run, decode_harness hlog hharness,
    decode_viewer hviewer, decode_run hrun, Except.map, bind, Except.bind, pure, Except.pure]

theorem ofText_document {config : Config} {log : String}
    (hlog : config.harness.logFile = Octets.ofText log) :
    ofText (String.ofList (Layout.document config log)) = .ok config := by
  have hdistinct : ((Layout.paragraphs config log).map Layout.Paragraph.name).Nodup :=
    (by decide : ["harness", "viewer", "run"].Nodup)
  obtain ⟨document, hdocument, hread⟩ := Layout.readDocument_paragraphs hdistinct
  rw [← Layout.document_eq] at hread
  rw [ofText, String.toList_ofList, hread]
  change (decode document).mapError _ = .ok config
  rw [decode_paragraphs hlog hdocument]
  rfl

theorem Layout.write?_eq_some_iff {config : Config} {text : String} :
    Layout.write? config = some text ↔ ∃ log, config.harness.logFile = Octets.ofText log ∧
      String.ofList (Layout.document config log) = text := by
  rw [Layout.write?, Option.map_eq_some_iff]
  simp only [Octets.text?_eq_some]

example : Layout.write? {} = some (
    "[harness]\n" ++
    "program = \"./headless.py\"\n" ++
    "args = []\n" ++
    "suite = \"reftest\"\n" ++
    "log_file = \"reftest.log\"\n" ++
    "[viewer]\n" ++
    "browser = \"firefox\"\n" ++
    "args = []\n" ++
    "analyzer_page = \"reftest-analyzer.xhtml\"\n" ++
    "open_on_failure = true\n" ++
    "[run]\n" ++
    "exit_code = false\n") := by
  decide +kernel

/-- Settings with a text as the path of their log, and no others, are written down as the document
with that text, and read back from it unchanged. -/
theorem ofText_write (config : Config) (log : String) :
    config.harness.logFile = Octets.ofText log ↔
      Layout.write? config = some (String.ofList (Layout.document config log)) ∧
        ofText (String.ofList (Layout.document config log)) = .ok config := by
  constructor
  · intro hlog
    exact ⟨Layout.write?_eq_some_iff.mpr ⟨log, hlog, rfl⟩, ofText_document hlog⟩
  · rintro ⟨-, hread⟩
    have hlogged := @ofText_document
      { config with harness := { config.harness with logFile := Octets.ofText log } } log rfl
    change ofText (String.ofList (Layout.document config log)) = _ at hlogged
    rw [hread] at hlogged
    exact congrArg (fun config => config.harness.logFile) (Except.ok.inj hlogged)

end Config

end Reftest
