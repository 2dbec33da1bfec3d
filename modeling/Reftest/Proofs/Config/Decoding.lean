import Reftest.Proofs.Config.Schema

namespace Reftest

open Toml (Node Entries)

namespace Config

theorem reports_decodeText (node : Node) : Reports (Kind.text.faults node) (decodeText node) := by
  unfold decodeText
  split
  · exact reports_ok _
  · rename_i h
    rw [Kind.faults, textFaults]
    · exact reports_error _
    · exact h

theorem reports_decodePath (node : Node) : Reports (Kind.path.faults node) (decodePath node) := by
  unfold decodePath
  split
  · exact reports_ok _
  · rename_i h
    rw [Kind.faults, textFaults]
    · exact reports_error _
    · exact h

theorem reports_decodeFlag (node : Node) : Reports (Kind.flag.faults node) (decodeFlag node) := by
  unfold decodeFlag
  split
  · exact reports_ok _
  · rename_i h
    rw [Kind.faults, flagFaults]
    · exact reports_error _
    · exact h

theorem reports_decodeTexts (node : Node) :
    Reports (Kind.texts.faults node) (decodeTexts node) := by
  rw [decodeTexts, Kind.faults]
  cases node.items? with
  | none => exact reports_error _
  | some items => exact reports_mapM reports_decodeText items

theorem decodeText_eq_ok_iff {node : Node} {value : String} :
    decodeText node = .ok value ↔ IsText node value := by
  constructor
  · intro h
    unfold decodeText at h
    split at h
    · rename_i span text
      obtain rfl := Except.ok.inj h
      exact ⟨span, rfl⟩
    · cases h
  · rintro ⟨span, rfl⟩
    rfl

theorem decodePath_eq_ok_iff {node : Node} {value : Octets} :
    decodePath node = .ok value ↔ IsPath node value := by
  constructor
  · intro h
    unfold decodePath at h
    split at h
    · rename_i span text
      obtain rfl := Except.ok.inj h
      exact ⟨text, ⟨span, rfl⟩, rfl⟩
    · cases h
  · rintro ⟨text, ⟨span, rfl⟩, rfl⟩
    rfl

theorem decodeFlag_eq_ok_iff {node : Node} {value : Bool} :
    decodeFlag node = .ok value ↔ IsFlag node value := by
  constructor
  · intro h
    unfold decodeFlag at h
    split at h
    · rename_i span value'
      obtain rfl := Except.ok.inj h
      exact ⟨span, rfl⟩
    · cases h
  · rintro ⟨span, rfl⟩
    rfl

theorem decodeTexts_eq_ok_iff {node : Node} {values : List String} :
    decodeTexts node = .ok values ↔ IsTexts node values := by
  unfold decodeTexts IsTexts
  cases node.items? with
  | none =>
      constructor
      · intro h
        cases h
      · rintro ⟨items, hitems, -⟩
        cases hitems
  | some items =>
      simp only [mapM_eq_ok, decodeText_eq_ok_iff, Option.some.injEq, exists_eq_left']

theorem reports_put_harness (settings : HarnessSection) (field : String × Node) :
    Reports (Section.harness.fieldFaults field) (settings.put field.1 field.2) := by
  obtain ⟨name, node⟩ := field
  unfold HarnessSection.put
  dsimp only
  split
  · exact (reports_decodeText node).map _
  · exact (reports_decodeTexts node).map _
  · exact (reports_decodeText node).map _
  · exact (reports_decodePath node).map _
  · rename_i hprogram hargs hsuite hlog
    have hnone : Section.harness.fields.lookup name = none := by
      simpa [Section.harness, List.lookup_eq_none_iff] using ⟨hprogram, hargs, hsuite, hlog⟩
    rw [Section.fieldFaults, hnone]
    exact reports_ok settings

theorem reports_put_viewer (settings : ViewerSection) (field : String × Node) :
    Reports (Section.viewer.fieldFaults field) (settings.put field.1 field.2) := by
  obtain ⟨name, node⟩ := field
  unfold ViewerSection.put
  dsimp only
  split
  · exact (reports_decodeText node).map _
  · exact (reports_decodeTexts node).map _
  · exact (reports_decodeText node).map _
  · exact (reports_decodeFlag node).map _
  · rename_i hbrowser hargs hpage hopen
    have hnone : Section.viewer.fields.lookup name = none := by
      simpa [Section.viewer, List.lookup_eq_none_iff] using ⟨hbrowser, hargs, hpage, hopen⟩
    rw [Section.fieldFaults, hnone]
    exact reports_ok settings

theorem reports_put_run (settings : RunSection) (field : String × Node) :
    Reports (Section.run.fieldFaults field) (settings.put field.1 field.2) := by
  obtain ⟨name, node⟩ := field
  unfold RunSection.put
  dsimp only
  split
  · exact (reports_decodeFlag node).map _
  · rename_i hexit
    have hnone : Section.run.fields.lookup name = none := by
      simpa [Section.run, List.lookup_eq_none_iff] using hexit
    rw [Section.fieldFaults, hnone]
    exact reports_ok settings

theorem decodeSection_eq {α : Type} (part : Section)
    (put : α → String → Node → Except Mismatch α) (initial : α) (node : Node) :
    decodeSection part.names put initial part.expected node =
      match part.contents? node with
      | some contents =>
        contents.foldlM (fun settings field => put settings field.1 field.2) initial
      | none => .error (.ofNode node part.expected) := by
  cases node with
  | scalar span value => cases value <;> rfl
  | array span items => rfl
  | table origin span entries => rfl
  | tables earlier span entries => rfl

theorem reports_decodeSection {α : Type} (part : Section)
    {put : α → String → Node → Except Mismatch α}
    (hput : ∀ settings field, Reports (part.fieldFaults field) (put settings field.1 field.2))
    (initial : α) (node : Node) :
    Reports (part.faults node) (decodeSection part.names put initial part.expected node) := by
  rw [decodeSection_eq, Section.faults]
  cases part.contents? node with
  | none => exact reports_error _
  | some contents => exact reports_foldlM hput initial contents

theorem reports_harness (node : Node) :
    Reports (Section.harness.faults node) (HarnessSection.decode node) :=
  reports_decodeSection .harness reports_put_harness {} node

theorem reports_viewer (node : Node) :
    Reports (Section.viewer.faults node) (ViewerSection.decode node) :=
  reports_decodeSection .viewer reports_put_viewer {} node

theorem reports_run (node : Node) : Reports (Section.run.faults node) (RunSection.decode node) :=
  reports_decodeSection .run reports_put_run {} node

theorem reports_put (config : Config) (entry : String × Node) :
    Reports (entryFaults entry) (config.put entry.1 entry.2) := by
  obtain ⟨name, node⟩ := entry
  unfold Config.put
  dsimp only
  split
  · exact (reports_harness node).map _
  · exact (reports_viewer node).map _
  · exact (reports_run node).map _
  · rename_i hharness hviewer hrun
    have hnone : Section.all.find? (·.name = name) = none := by
      simp only [Section.all, List.find?_eq_none, List.forall_mem_cons, decide_eq_true_eq]
      exact ⟨fun h => hharness h.symm, fun h => hviewer h.symm, fun h => hrun h.symm,
        fun _ h => absurd h List.not_mem_nil⟩
    rw [entryFaults, hnone]
    exact reports_ok config

theorem reports_decode (document : Entries) : Reports (faults document) (decode document) :=
  reports_foldlM reports_put {} document

structure Owns {α β : Type} (put : α → String → Node → Except Mismatch α) (name : String)
    (get : α → β) (denotes : Node → β → Prop) : Prop where
  own : ∀ {settings node result}, put settings name node = .ok result →
    denotes node (get result)
  other : ∀ {settings other node result}, put settings other node = .ok result →
    other ≠ name → get result = get settings

section

variable {α β : Type} {put : α → String → Node → Except Mismatch α} {name : String} {get : α → β}
  {denotes : Node → β → Prop}

theorem Owns.settles (hfield : Owns put name get denotes) {contents : Entries}
    (hdistinct : contents.Distinct) {initial result : α}
    (h : contents.foldlM (fun settings field => put settings field.1 field.2) initial =
      .ok result) :
    Settles (contents.get? name) denotes (get initial) (get result) := by
  induction contents generalizing initial with
  | nil =>
      obtain rfl := foldlM_nil_eq_ok.mp h
      rfl
  | cons field contents ih =>
      obtain ⟨first, node⟩ := field
      obtain ⟨next, hnext, h⟩ := foldlM_cons_eq_ok.mp h
      obtain ⟨hnew, hdistinct⟩ := List.nodup_cons.mp hdistinct
      have hrest := ih hdistinct h
      by_cases hname : name = first
      · subst hname
        have hnone : Entries.get? contents name = none := by
          rw [Entries.get?_eq_none_iff]
          rintro other hother rfl
          exact hnew (List.mem_map.mpr ⟨other, hother, rfl⟩)
        rw [hnone] at hrest
        have hkept : get result = get next := hrest
        rw [Entries.get?_cons_self]
        change denotes node (get result)
        rw [hkept]
        exact hfield.own hnext
      · rw [Entries.get?_cons_of_ne hname, ← hfield.other hnext (Ne.symm hname)]
        exact hrest

theorem denotes_of_map {denotes : β → Prop} {outcome : Except Mismatch β}
    (hdenotes : ∀ {value}, outcome = .ok value → denotes value) {place : β → α}
    (hget : ∀ value, get (place value) = value) {result : α}
    (h : outcome.map place = .ok result) : denotes (get result) := by
  obtain ⟨value, hvalue, rfl⟩ := map_eq_ok h
  rw [hget]
  exact hdenotes hvalue

end

theorem kept_of_put_harness {settings result : HarnessSection} {name : String} {node : Node}
    (h : settings.put name node = .ok result) :
    (name ≠ "program" → result.program = settings.program) ∧
      (name ≠ "args" → result.arguments = settings.arguments) ∧
      (name ≠ "suite" → result.suite = settings.suite) ∧
      (name ≠ "log_file" → result.logFile = settings.logFile) := by
  unfold HarnessSection.put at h
  split at h
  · obtain ⟨value, -, rfl⟩ := map_eq_ok h
    simp
  · obtain ⟨value, -, rfl⟩ := map_eq_ok h
    simp
  · obtain ⟨value, -, rfl⟩ := map_eq_ok h
    simp
  · obtain ⟨value, -, rfl⟩ := map_eq_ok h
    simp
  · obtain rfl := Except.ok.inj h
    simp

theorem kept_of_put_viewer {settings result : ViewerSection} {name : String} {node : Node}
    (h : settings.put name node = .ok result) :
    (name ≠ "browser" → result.browser = settings.browser) ∧
      (name ≠ "args" → result.arguments = settings.arguments) ∧
      (name ≠ "analyzer_page" → result.analyzerPage = settings.analyzerPage) ∧
      (name ≠ "open_on_failure" → result.openOnFailure = settings.openOnFailure) := by
  unfold ViewerSection.put at h
  split at h
  · obtain ⟨value, -, rfl⟩ := map_eq_ok h
    simp
  · obtain ⟨value, -, rfl⟩ := map_eq_ok h
    simp
  · obtain ⟨value, -, rfl⟩ := map_eq_ok h
    simp
  · obtain ⟨value, -, rfl⟩ := map_eq_ok h
    simp
  · obtain rfl := Except.ok.inj h
    simp

theorem kept_of_put_run {settings result : RunSection} {name : String} {node : Node}
    (h : settings.put name node = .ok result) :
    name ≠ "exit_code" → result.exitCode = settings.exitCode := by
  unfold RunSection.put at h
  split at h
  · obtain ⟨value, -, rfl⟩ := map_eq_ok h
    simp
  · obtain rfl := Except.ok.inj h
    simp

theorem kept_of_put {config result : Config} {name : String} {node : Node}
    (h : config.put name node = .ok result) :
    (name ≠ "harness" → result.harness = config.harness) ∧
      (name ≠ "viewer" → result.viewer = config.viewer) ∧
      (name ≠ "run" → result.run = config.run) := by
  unfold put at h
  split at h
  · obtain ⟨value, -, rfl⟩ := map_eq_ok h
    simp
  · obtain ⟨value, -, rfl⟩ := map_eq_ok h
    simp
  · obtain ⟨value, -, rfl⟩ := map_eq_ok h
    simp
  · obtain rfl := Except.ok.inj h
    simp

theorem owns_program : Owns HarnessSection.put "program" HarnessSection.program IsText where
  own h := denotes_of_map decodeText_eq_ok_iff.mp (fun _ => rfl) h
  other h := (kept_of_put_harness h).1

theorem owns_harnessArguments :
    Owns HarnessSection.put "args" HarnessSection.arguments IsTexts where
  own h := denotes_of_map decodeTexts_eq_ok_iff.mp (fun _ => rfl) h
  other h := (kept_of_put_harness h).2.1

theorem owns_suite : Owns HarnessSection.put "suite" HarnessSection.suite IsText where
  own h := denotes_of_map decodeText_eq_ok_iff.mp (fun _ => rfl) h
  other h := (kept_of_put_harness h).2.2.1

theorem owns_logFile : Owns HarnessSection.put "log_file" HarnessSection.logFile IsPath where
  own h := denotes_of_map decodePath_eq_ok_iff.mp (fun _ => rfl) h
  other h := (kept_of_put_harness h).2.2.2

theorem reflectsHarness_of_foldlM {contents : Entries} (hdistinct : contents.Distinct)
    {settings : HarnessSection}
    (h : contents.foldlM (fun settings field => HarnessSection.put settings field.1 field.2) {} =
      .ok settings) : ReflectsHarness contents.get? settings where
  program := owns_program.settles hdistinct h
  arguments := owns_harnessArguments.settles hdistinct h
  suite := owns_suite.settles hdistinct h
  logFile := owns_logFile.settles hdistinct h

theorem owns_browser : Owns ViewerSection.put "browser" ViewerSection.browser IsText where
  own h := denotes_of_map decodeText_eq_ok_iff.mp (fun _ => rfl) h
  other h := (kept_of_put_viewer h).1

theorem owns_viewerArguments : Owns ViewerSection.put "args" ViewerSection.arguments IsTexts where
  own h := denotes_of_map decodeTexts_eq_ok_iff.mp (fun _ => rfl) h
  other h := (kept_of_put_viewer h).2.1

theorem owns_analyzerPage :
    Owns ViewerSection.put "analyzer_page" ViewerSection.analyzerPage IsText where
  own h := denotes_of_map decodeText_eq_ok_iff.mp (fun _ => rfl) h
  other h := (kept_of_put_viewer h).2.2.1

theorem owns_openOnFailure :
    Owns ViewerSection.put "open_on_failure" ViewerSection.openOnFailure IsFlag where
  own h := denotes_of_map decodeFlag_eq_ok_iff.mp (fun _ => rfl) h
  other h := (kept_of_put_viewer h).2.2.2

theorem reflectsViewer_of_foldlM {contents : Entries} (hdistinct : contents.Distinct)
    {settings : ViewerSection}
    (h : contents.foldlM (fun settings field => ViewerSection.put settings field.1 field.2) {} =
      .ok settings) : ReflectsViewer contents.get? settings where
  browser := owns_browser.settles hdistinct h
  arguments := owns_viewerArguments.settles hdistinct h
  analyzerPage := owns_analyzerPage.settles hdistinct h
  openOnFailure := owns_openOnFailure.settles hdistinct h

theorem owns_exitCode : Owns RunSection.put "exit_code" RunSection.exitCode IsFlag where
  own h := denotes_of_map decodeFlag_eq_ok_iff.mp (fun _ => rfl) h
  other h := kept_of_put_run h

theorem reflectsRun_of_foldlM {contents : Entries} (hdistinct : contents.Distinct)
    {settings : RunSection}
    (h : contents.foldlM (fun settings field => RunSection.put settings field.1 field.2) {} =
      .ok settings) : ReflectsRun contents.get? settings where
  exitCode := owns_exitCode.settles hdistinct h

def Readable (document : Entries) : Prop :=
  document.Distinct ∧ ∀ entry ∈ document, ∀ origin span inner,
    entry.2 = .table origin span inner → Entries.Distinct inner

theorem Section.names_nodup : ∀ part ∈ Section.all, part.names.Nodup := by
  decide

theorem zip_distinct {names : List String} (h : names.Nodup) (items : List Node) :
    Entries.Distinct (names.zip items) := by
  induction names generalizing items with
  | nil => exact List.nodup_nil
  | cons name names ih =>
      cases items with
      | nil => exact List.nodup_nil
      | cons item items =>
          obtain ⟨hnew, hrest⟩ := List.nodup_cons.mp h
          refine List.nodup_cons.mpr ⟨?_, ih hrest items⟩
          intro hmem
          obtain ⟨⟨other, node⟩, hpair, rfl⟩ := List.mem_map.mp hmem
          exact hnew (List.of_mem_zip hpair).1

theorem Section.contents?_distinct {part : Section} (hnames : part.names.Nodup) {node : Node}
    (htable : ∀ origin span inner, node = .table origin span inner → Entries.Distinct inner)
    {contents : Entries} (h : part.contents? node = some contents) : contents.Distinct := by
  cases node with
  | scalar span value =>
      cases value with
      | datetime =>
          obtain rfl := Option.some.inj h
          exact List.nodup_nil
      | string text => cases h
      | integer value => cases h
      | float value => cases h
      | boolean value => cases h
  | array span items =>
      obtain rfl := Option.some.inj h
      exact zip_distinct hnames items
  | table origin span entries =>
      obtain rfl := Option.some.inj h
      exact htable origin span entries rfl
  | tables earlier span entries =>
      obtain rfl := Option.some.inj h
      exact zip_distinct hnames _

theorem Readable.contents?_distinct {document : Entries} (h : Readable document) {part : Section}
    (hpart : part ∈ Section.all) {name : String} {node : Node}
    (hnode : document.get? name = some node) {contents : Entries}
    (hcontents : part.contents? node = some contents) : contents.Distinct :=
  Section.contents?_distinct (Section.names_nodup part hpart)
    (fun origin span inner heq => h.2 _ (Entries.mem_of_get? hnode) origin span inner heq) hcontents

theorem reflects_section {α : Type} {document : Entries} (hreadable : Readable document)
    {part : Section} (hpart : part ∈ Section.all) {put : α → String → Node → Except Mismatch α}
    {default settings : α} {reflects : (String → Option Node) → α → Prop}
    (hfold : ∀ contents settings, Entries.Distinct contents →
      contents.foldlM (fun settings field => put settings field.1 field.2) default = .ok settings →
        reflects (Entries.get? contents) settings)
    (h : Settles (document.get? part.name)
      (fun node settings =>
        decodeSection part.names put default part.expected node = .ok settings)
      default settings) :
    reflects (value? document part) settings := by
  cases hnode : document.get? part.name with
  | none =>
      rw [hnode] at h
      have hsettings : settings = default := h
      have hvalue : value? document part = Entries.get? [] := by
        funext name
        rw [value?, hnode]
        rfl
      rw [hvalue, hsettings]
      exact hfold [] default List.nodup_nil rfl
  | some node =>
      rw [hnode] at h
      have hdecode : decodeSection part.names put default part.expected node = .ok settings := h
      rw [decodeSection_eq] at hdecode
      cases hcontents : part.contents? node with
      | none =>
          rw [hcontents] at hdecode
          cases hdecode
      | some contents =>
          rw [hcontents] at hdecode
          have hvalue : value? document part = Entries.get? contents := by
            funext name
            rw [value?, hnode]
            change (do let contents ← part.contents? node; contents.get? name) = _
            rw [hcontents]
            rfl
          rw [hvalue]
          exact hfold contents settings (hreadable.contents?_distinct hpart hnode hcontents) hdecode

theorem owns_harness : Owns put "harness" Config.harness fun node settings =>
    HarnessSection.decode node = .ok settings where
  own h := denotes_of_map id (fun _ => rfl) h
  other h := (kept_of_put h).1

theorem owns_viewer : Owns put "viewer" Config.viewer fun node settings =>
    ViewerSection.decode node = .ok settings where
  own h := denotes_of_map id (fun _ => rfl) h
  other h := (kept_of_put h).2.1

theorem owns_run : Owns put "run" Config.run fun node settings =>
    RunSection.decode node = .ok settings where
  own h := denotes_of_map id (fun _ => rfl) h
  other h := (kept_of_put h).2.2

theorem reflects_of_decode {document : Entries} (hreadable : Readable document) {config : Config}
    (h : decode document = .ok config) : Reflects document config := by
  have hparts : Section.harness ∈ Section.all ∧ Section.viewer ∈ Section.all ∧
      Section.run ∈ Section.all := by
    simp [Section.all]
  constructor
  · exact reflects_section hreadable hparts.1
      (fun _ _ hdistinct hfold => reflectsHarness_of_foldlM hdistinct hfold)
      (owns_harness.settles hreadable.1 h)
  · exact reflects_section hreadable hparts.2.1
      (fun _ _ hdistinct hfold => reflectsViewer_of_foldlM hdistinct hfold)
      (owns_viewer.settles hreadable.1 h)
  · exact reflects_section hreadable hparts.2.2
      (fun _ _ hdistinct hfold => reflectsRun_of_foldlM hdistinct hfold)
      (owns_run.settles hreadable.1 h)

end Config

end Reftest
