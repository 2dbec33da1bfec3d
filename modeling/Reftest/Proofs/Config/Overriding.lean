import Reftest.Proofs.Arguments.Reading
import Reftest.Run.Settings

namespace Reftest

/-- A command line is in order and gives something, octet for octet. -/
def Says (items : List Octets) (given : Given) : Prop :=
  ∃ givens, Sentence givens items ∧ Admissible givens ∧ given ∈ givens

variable {items : List Octets} {lines : List (List Octets)} {arguments : Arguments}
  {octets : Octets}

theorem describes_of_read (h : Arguments.read items = .ok arguments) :
    ∃ givens, Sentence givens items ∧ Admissible givens ∧ arguments.Describes givens := by
  obtain ⟨givens, hsentence, haccept⟩ := Reading.sentence_of_finish.1 {} {} rfl rfl h
  exact ⟨givens, hsentence, Arguments.acceptAll_eq_ok.mp haccept⟩

theorem read_of_sentence {givens : List Given} (hsentence : Sentence givens items)
    (hadmissible : Admissible givens) :
    ∃ arguments, Arguments.read items = .ok arguments ∧ arguments.Describes givens := by
  obtain ⟨arguments, haccept⟩ := Arguments.exists_acceptAll.mpr hadmissible
  exact ⟨arguments, Reading.finish_of_sentence hsentence haccept,
    (Arguments.acceptAll_eq_ok.mp haccept).2⟩

theorem says_iff {given : Given} (h : Arguments.read items = .ok arguments) :
    Says items given ↔ arguments.Gives given := by
  constructor
  · intro htold
    obtain ⟨givens, hsentence, hadmissible, hmem⟩ := htold
    obtain ⟨arguments', hread, hdescribes⟩ := read_of_sentence hsentence hadmissible
    cases h.symm.trans hread
    exact (hdescribes given).mpr hmem
  · intro hgives
    obtain ⟨givens, hsentence, hadmissible, hdescribes⟩ := describes_of_read h
    exact ⟨givens, hsentence, hadmissible, (hdescribes given).mp hgives⟩

theorem not_says_of_error {fault : ArgumentFault} {given : Given}
    (h : Arguments.read items = .error fault) : ¬ Says items given := by
  intro htold
  obtain ⟨givens, hsentence, hadmissible, -⟩ := htold
  obtain ⟨arguments, hread, -⟩ := read_of_sentence hsentence hadmissible
  cases h.symm.trans hread

/-- What bears on the settings: everything but which settings to read and how much to tell. -/
def Given.Weighs (given : Given) : Prop :=
  given.subject ≠ .option .config ∧ given.subject ≠ .flag .verbose

namespace Config

def apply (config : Config) (items : List Octets) : Config :=
  match Arguments.read items with
  | .error _ => config
  | .ok arguments => arguments.override config

def applyAll (config : Config) (lines : List (List Octets)) : Config :=
  lines.foldl apply config

theorem applyAll_append (config : Config) (left right : List (List Octets)) :
    config.applyAll (left ++ right) = (config.applyAll left).applyAll right :=
  List.foldl_append

end Config

inductive Setting where
  | program
  | suite
  | logFile
  | browser
  | analyzerPage
  deriving DecidableEq, Repr

namespace Setting

def given : Setting → Octets → Given
  | .program => .value .harness
  | .suite => .suite
  | .logFile => .value .log
  | .browser => .value .browser
  | .analyzerPage => .value .analyzer

theorem weighs_given (setting : Setting) : (setting.given octets).Weighs := by
  cases setting <;> simp [Given.Weighs, Given.subject, given]

def value (config : Config) : Setting → Octets
  | .program => Octets.ofText config.harness.program
  | .suite => Octets.ofText config.harness.suite
  | .logFile => config.harness.logFile
  | .browser => Octets.ofText config.viewer.browser
  | .analyzerPage => Octets.ofText config.viewer.analyzerPage

def carried (settings : Run.Settings) : Setting → Octets
  | .program => Octets.ofText settings.harness
  | .suite => Octets.ofText settings.suite
  | .logFile => settings.logFile
  | .browser => Octets.ofText settings.browser
  | .analyzerPage => Octets.ofText settings.analyzerPage

def value? (arguments : Arguments) : Setting → Option Octets
  | .program => arguments.harness.map Octets.ofText
  | .suite => arguments.suite.map Octets.ofText
  | .logFile => arguments.log
  | .browser => arguments.browser.map Octets.ofText
  | .analyzerPage => arguments.analyzer.map Octets.ofText

theorem carried_ofConfig (setting : Setting) (config : Config) :
    setting.carried (Run.Settings.ofConfig config) = setting.value config := by
  cases setting with
  | program => rfl
  | suite => rfl
  | logFile => rfl
  | browser => rfl
  | analyzerPage => rfl

theorem exists_ofText_iff {text : Option String} :
    (∃ value, text = some value ∧ octets = Octets.ofText value) ↔
      text.map Octets.ofText = some octets := by
  simp only [Option.map_eq_some_iff, @eq_comm Octets octets]

theorem gives_given (setting : Setting) :
    arguments.Gives (setting.given octets) ↔ setting.value? arguments = some octets := by
  cases setting with
  | program => exact exists_ofText_iff
  | suite => exact exists_ofText_iff
  | logFile => exact Iff.rfl
  | browser => exact exists_ofText_iff
  | analyzerPage => exact exists_ofText_iff

theorem value_override (setting : Setting) (arguments : Arguments) (config : Config) :
    setting.value (arguments.override config) =
      (setting.value? arguments).getD (setting.value config) := by
  cases setting <;>
    simp [value, value?, Arguments.override, Arguments.overrideHarness, Arguments.overrideViewer,
      Option.getD_map]

def Silent (setting : Setting) (lines : List (List Octets)) : Prop :=
  ∀ items ∈ lines, ∀ octets, ¬ Says items (setting.given octets)

def givenBy (setting : Setting) (items : List Octets) : Option Octets :=
  (Arguments.read items).toOption.bind setting.value?

theorem givenBy_eq_some {setting : Setting} :
    setting.givenBy items = some octets ↔ Says items (setting.given octets) := by
  unfold givenBy
  cases hread : Arguments.read items with
  | error fault => simp [Except.toOption, not_says_of_error hread]
  | ok arguments => simp [Except.toOption, says_iff hread, gives_given]

theorem givenBy_eq_none {setting : Setting} :
    setting.givenBy items = none ↔ ∀ octets, ¬ Says items (setting.given octets) := by
  simp only [← givenBy_eq_some, Option.eq_none_iff_forall_ne_some]

theorem value_apply (setting : Setting) (config : Config) (items : List Octets) :
    setting.value (config.apply items) =
      (setting.givenBy items).getD (setting.value config) := by
  unfold Config.apply givenBy
  cases Arguments.read items with
  | error fault => rfl
  | ok arguments => exact setting.value_override arguments config

def lastGiven (setting : Setting) (lines : List (List Octets)) : Option Octets :=
  lines.reverse.findSome? setting.givenBy

theorem lastGiven_singleton (setting : Setting) (items : List Octets) :
    setting.lastGiven [items] = setting.givenBy items :=
  List.findSome?_singleton

theorem lastGiven_append (setting : Setting) (left right : List (List Octets)) :
    setting.lastGiven (left ++ right) = (setting.lastGiven right).or (setting.lastGiven left) := by
  rw [lastGiven, List.reverse_append, List.findSome?_append]
  rfl

theorem lastGiven_cons (setting : Setting) (items : List Octets) (rest : List (List Octets)) :
    setting.lastGiven (items :: rest) = (setting.lastGiven rest).or (setting.givenBy items) := by
  rw [lastGiven, List.reverse_cons, List.findSome?_append, List.findSome?_singleton]
  rfl

theorem lastGiven_eq_none {setting : Setting} :
    setting.lastGiven lines = none ↔ setting.Silent lines := by
  simp only [lastGiven, Silent, List.findSome?_eq_none_iff, List.mem_reverse, givenBy_eq_none]

theorem lastGiven_eq_some {setting : Setting} :
    setting.lastGiven lines = some octets ↔
      ∃ front items after, lines = front ++ items :: after ∧
        Says items (setting.given octets) ∧ setting.Silent after := by
  constructor
  · intro h
    obtain ⟨after, items, front, hlines, hgiven, hnone⟩ := List.findSome?_eq_some_iff.mp h
    refine ⟨front.reverse, items, after.reverse, ?_, givenBy_eq_some.mp hgiven, ?_⟩
    · rw [← List.reverse_reverse lines, hlines]
      simp only [List.reverse_append, List.reverse_cons, List.append_assoc, List.singleton_append]
    · intro items' hmem
      exact givenBy_eq_none.mp (hnone items' (List.mem_reverse.mp hmem))
  · intro h
    obtain ⟨front, items, after, hlines, htold, hsilent⟩ := h
    rw [hlines, lastGiven_append, lastGiven_cons, lastGiven_eq_none.mpr hsilent,
      givenBy_eq_some.mpr htold]
    rfl

theorem value_applyAll (setting : Setting) (config : Config) (lines : List (List Octets)) :
    setting.value (config.applyAll lines) =
      (setting.lastGiven lines).getD (setting.value config) := by
  induction lines generalizing config with
  | nil => rfl
  | cons items rest ih =>
      calc setting.value ((config.apply items).applyAll rest)
          = (setting.lastGiven rest).getD
              ((setting.givenBy items).getD (setting.value config)) := by
            rw [ih, value_apply]
        _ = (setting.lastGiven (items :: rest)).getD (setting.value config) := by
            rw [lastGiven_cons, Option.getD_or]

/-- The value in force behind some command lines: the one of the last line that gives any. -/
inductive InForce (setting : Setting) (before : Octets) (lines : List (List Octets)) :
    Octets → Prop where
  | kept (hsilent : setting.Silent lines) : InForce setting before lines before
  | replaced {front after : List (List Octets)} {items : List Octets} {octets : Octets}
      (hlines : lines = front ++ items :: after) (htold : Says items (setting.given octets))
      (hsilent : setting.Silent after) : InForce setting before lines octets

theorem inForce_iff {setting : Setting} {before : Octets} :
    setting.InForce before lines octets ↔ (setting.lastGiven lines).getD before = octets := by
  constructor
  · intro h
    cases h with
    | kept hsilent => rw [lastGiven_eq_none.mpr hsilent, Option.getD_none]
    | replaced hlines htold hsilent =>
        rw [lastGiven_eq_some.mpr ⟨_, _, _, hlines, htold, hsilent⟩, Option.getD_some]
  · intro h
    cases hlast : setting.lastGiven lines with
    | none =>
        rw [hlast, Option.getD_none] at h
        rw [← h]
        exact .kept (lastGiven_eq_none.mp hlast)
    | some last =>
        rw [hlast, Option.getD_some] at h
        obtain ⟨front, items, after, hlines, htold, hsilent⟩ := lastGiven_eq_some.mp hlast
        rw [← h]
        exact .replaced hlines htold hsilent

theorem inForce_value_applyAll {setting : Setting} {config : Config} :
    setting.InForce (setting.value config) lines octets ↔
      setting.value (config.applyAll lines) = octets := by
  rw [inForce_iff, value_applyAll]

end Setting

def Flag.switchedBy (flag : Flag) (items : List Octets) : Bool :=
  (Arguments.read items).toOption.any flag.isGiven

theorem Arguments.gives_flag (flag : Flag) :
    arguments.Gives (.flag flag) ↔ flag.isGiven arguments = true := by
  cases flag with
  | noOpen => exact Iff.rfl
  | exitCode => exact Iff.rfl
  | verbose => exact Iff.rfl

theorem Flag.switchedBy_iff {flag : Flag} :
    flag.switchedBy items = true ↔ Says items (.flag flag) := by
  unfold switchedBy
  cases hread : Arguments.read items with
  | error fault => simp [Except.toOption, not_says_of_error hread]
  | ok arguments => simp [Except.toOption, says_iff hread, Arguments.gives_flag]

namespace Config

theorem openOnFailure_apply (config : Config) (items : List Octets) :
    (config.apply items).viewer.openOnFailure =
      (config.viewer.openOnFailure && !Flag.noOpen.switchedBy items) := by
  unfold apply Flag.switchedBy
  cases Arguments.read items with
  | error fault => exact (Bool.and_true _).symm
  | ok arguments => rfl

theorem exitCode_apply (config : Config) (items : List Octets) :
    (config.apply items).run.exitCode =
      (config.run.exitCode || Flag.exitCode.switchedBy items) := by
  unfold apply Flag.switchedBy
  cases Arguments.read items with
  | error fault => exact (Bool.or_false _).symm
  | ok arguments => rfl

theorem harnessArguments_apply (config : Config) (items : List Octets) :
    (config.apply items).harness.arguments = config.harness.arguments := by
  unfold apply
  cases Arguments.read items with
  | error fault => rfl
  | ok arguments => rfl

theorem viewerArguments_apply (config : Config) (items : List Octets) :
    (config.apply items).viewer.arguments = config.viewer.arguments := by
  unfold apply
  cases Arguments.read items with
  | error fault => rfl
  | ok arguments => rfl

theorem openOnFailure_applyAll (config : Config) (lines : List (List Octets)) :
    (config.applyAll lines).viewer.openOnFailure =
      (config.viewer.openOnFailure && !lines.any Flag.noOpen.switchedBy) := by
  induction lines generalizing config with
  | nil => exact (Bool.and_true _).symm
  | cons items rest ih =>
      calc ((config.apply items).applyAll rest).viewer.openOnFailure
          = (config.viewer.openOnFailure && !Flag.noOpen.switchedBy items &&
              !rest.any Flag.noOpen.switchedBy) := by
            rw [ih, openOnFailure_apply]
        _ = (config.viewer.openOnFailure && !(items :: rest).any Flag.noOpen.switchedBy) := by
            rw [List.any_cons, Bool.not_or, Bool.and_assoc]

theorem exitCode_applyAll (config : Config) (lines : List (List Octets)) :
    (config.applyAll lines).run.exitCode =
      (config.run.exitCode || lines.any Flag.exitCode.switchedBy) := by
  induction lines generalizing config with
  | nil => exact (Bool.or_false _).symm
  | cons items rest ih =>
      calc ((config.apply items).applyAll rest).run.exitCode
          = (config.run.exitCode || Flag.exitCode.switchedBy items ||
              rest.any Flag.exitCode.switchedBy) := by
            rw [ih, exitCode_apply]
        _ = (config.run.exitCode || (items :: rest).any Flag.exitCode.switchedBy) := by
            rw [List.any_cons, Bool.or_assoc]

theorem harnessArguments_applyAll (config : Config) (lines : List (List Octets)) :
    (config.applyAll lines).harness.arguments = config.harness.arguments := by
  induction lines generalizing config with
  | nil => rfl
  | cons items rest ih =>
      exact (ih (config.apply items)).trans (config.harnessArguments_apply items)

theorem viewerArguments_applyAll (config : Config) (lines : List (List Octets)) :
    (config.applyAll lines).viewer.arguments = config.viewer.arguments := by
  induction lines generalizing config with
  | nil => rfl
  | cons items rest ih =>
      exact (ih (config.apply items)).trans (config.viewerArguments_apply items)

theorem ext_values {left right : Config}
    (hvalue : ∀ setting : Setting, setting.value left = setting.value right)
    (hharness : left.harness.arguments = right.harness.arguments)
    (hviewer : left.viewer.arguments = right.viewer.arguments)
    (hopen : left.viewer.openOnFailure = right.viewer.openOnFailure)
    (hexit : left.run.exitCode = right.run.exitCode) : left = right := by
  have hprogram := Octets.ofText_injective (hvalue .program)
  have hsuite := Octets.ofText_injective (hvalue .suite)
  have hlog : left.harness.logFile = right.harness.logFile := hvalue .logFile
  have hbrowser := Octets.ofText_injective (hvalue .browser)
  have hpage := Octets.ofText_injective (hvalue .analyzerPage)
  obtain ⟨⟨_, _, _, _⟩, ⟨_, _, _, _⟩, ⟨_⟩⟩ := left
  obtain ⟨⟨_, _, _, _⟩, ⟨_, _, _, _⟩, ⟨_⟩⟩ := right
  cases hprogram
  cases hsuite
  cases hlog
  cases hbrowser
  cases hpage
  cases hharness
  cases hviewer
  cases hopen
  cases hexit
  rfl

theorem applyAll_congr (config : Config) {left right : List (List Octets)}
    (hlast : ∀ setting : Setting, setting.lastGiven left = setting.lastGiven right)
    (hswitched : ∀ flag : Flag, flag ≠ .verbose →
      left.any flag.switchedBy = right.any flag.switchedBy) :
    config.applyAll left = config.applyAll right := by
  have hopen := hswitched .noOpen Flag.noConfusion
  have hexit := hswitched .exitCode Flag.noConfusion
  apply ext_values
  · intro setting
    rw [Setting.value_applyAll, Setting.value_applyAll, hlast]
  · rw [harnessArguments_applyAll, harnessArguments_applyAll]
  · rw [viewerArguments_applyAll, viewerArguments_applyAll]
  · rw [openOnFailure_applyAll, openOnFailure_applyAll, hopen]
  · rw [exitCode_applyAll, exitCode_applyAll, hexit]

theorem applyAll_twice (config : Config) (lines : List (List Octets)) :
    (config.applyAll lines).applyAll lines = config.applyAll lines := by
  rw [← applyAll_append]
  apply applyAll_congr
  · intro setting
    rw [Setting.lastGiven_append, Option.or_self]
  · intro flag _
    rw [List.any_append, Bool.or_self]

theorem applyAll_comm (config : Config) {left right : List (List Octets)}
    (hdisjoint : ∀ setting : Setting, setting.Silent left ∨ setting.Silent right) :
    (config.applyAll left).applyAll right = (config.applyAll right).applyAll left := by
  rw [← applyAll_append, ← applyAll_append]
  apply applyAll_congr
  · intro setting
    rw [Setting.lastGiven_append, Setting.lastGiven_append]
    cases hdisjoint setting with
    | inl hleft => rw [Setting.lastGiven_eq_none.mpr hleft, Option.or_none, Option.none_or]
    | inr hright => rw [Setting.lastGiven_eq_none.mpr hright, Option.or_none, Option.none_or]
  · intro flag _
    rw [List.any_append, List.any_append, Bool.or_comm]

theorem apply_congr (config : Config) {left right : List Octets}
    (halike : ∀ given : Given, given.Weighs → (Says left given ↔ Says right given)) :
    config.apply left = config.apply right := by
  change config.applyAll [left] = config.applyAll [right]
  apply applyAll_congr
  · intro setting
    rw [Setting.lastGiven_singleton, Setting.lastGiven_singleton]
    apply Option.ext
    intro octets
    rw [Setting.givenBy_eq_some, Setting.givenBy_eq_some]
    exact halike _ setting.weighs_given
  · intro flag hflag
    have hweighs : (Given.flag flag).Weighs :=
      ⟨Subject.noConfusion, fun h => hflag (Subject.flag.inj h)⟩
    have hswitched : flag.switchedBy left = flag.switchedBy right := by
      apply Bool.eq_iff_iff.mpr
      rw [Flag.switchedBy_iff, Flag.switchedBy_iff]
      exact halike _ hweighs
    rw [List.any_cons, List.any_cons, hswitched]

/-- The settings with some command lines over them. -/
structure Precedence (config : Config) (lines : List (List Octets)) (result : Config) :
    Prop where
  value : ∀ (setting : Setting) (octets : Octets),
    setting.value result = octets ↔ setting.InForce (setting.value config) lines octets
  openOnFailure : result.viewer.openOnFailure = true ↔
    config.viewer.openOnFailure = true ∧ ∀ items ∈ lines, ¬ Says items (.flag .noOpen)
  exitCode : result.run.exitCode = true ↔
    config.run.exitCode = true ∨ ∃ items ∈ lines, Says items (.flag .exitCode)
  harnessArguments : result.harness.arguments = config.harness.arguments
  viewerArguments : result.viewer.arguments = config.viewer.arguments

/-- What a run is told of the settings with some command lines over them. -/
structure Carriage (config : Config) (lines : List (List Octets))
    (settings : Run.Settings) : Prop where
  value : ∀ (setting : Setting) (octets : Octets),
    setting.carried settings = octets ↔ setting.InForce (setting.value config) lines octets
  openOnFailure : settings.openOnFailure = true ↔
    config.viewer.openOnFailure = true ∧ ∀ items ∈ lines, ¬ Says items (.flag .noOpen)
  harnessArguments : settings.harnessArguments = config.harness.arguments
  browserArguments : settings.browserArguments = config.viewer.arguments
  address : ∀ (page : String) (log : Octets),
    Setting.analyzerPage.InForce (Octets.ofText config.viewer.analyzerPage) lines
        (Octets.ofText page) →
      Setting.logFile.InForce config.harness.logFile lines log →
        settings.address = page ++ "#logurl=" ++ log.shown

/-- How command lines bear on the settings. -/
structure Overriding (config : Config) : Prop where
  precedence : ∀ lines : List (List Octets), config.Precedence lines (config.applyAll lines)
  carriage : ∀ lines : List (List Octets),
    config.Carriage lines (Run.Settings.ofConfig (config.applyAll lines))
  twice : ∀ lines : List (List Octets),
    (config.applyAll lines).applyAll lines = config.applyAll lines
  exchange : ∀ left right : List (List Octets),
    (∀ setting : Setting, setting.Silent left ∨ setting.Silent right) →
      (config.applyAll left).applyAll right = (config.applyAll right).applyAll left
  indifferent : ∀ left right : List Octets,
    (∀ given : Given, given.Weighs → (Says left given ↔ Says right given)) →
      config.apply left = config.apply right

theorem openOnFailure_applyAll_iff (config : Config) (lines : List (List Octets)) :
    (config.applyAll lines).viewer.openOnFailure = true ↔
      config.viewer.openOnFailure = true ∧ ∀ items ∈ lines, ¬ Says items (.flag .noOpen) := by
  simp only [openOnFailure_applyAll, Bool.and_eq_true, Bool.not_eq_true', List.any_eq_false,
    Flag.switchedBy_iff]

theorem exitCode_applyAll_iff (config : Config) (lines : List (List Octets)) :
    (config.applyAll lines).run.exitCode = true ↔
      config.run.exitCode = true ∨ ∃ items ∈ lines, Says items (.flag .exitCode) := by
  simp only [exitCode_applyAll, Bool.or_eq_true, List.any_eq_true, Flag.switchedBy_iff]

theorem precedence_applyAll (config : Config) (lines : List (List Octets)) :
    config.Precedence lines (config.applyAll lines) where
  value _ _ := Setting.inForce_value_applyAll.symm
  openOnFailure := config.openOnFailure_applyAll_iff lines
  exitCode := config.exitCode_applyAll_iff lines
  harnessArguments := config.harnessArguments_applyAll lines
  viewerArguments := config.viewerArguments_applyAll lines

theorem carriage_ofConfig (config : Config) (lines : List (List Octets)) :
    config.Carriage lines (Run.Settings.ofConfig (config.applyAll lines)) where
  value setting octets := by
    rw [Setting.carried_ofConfig]
    exact Setting.inForce_value_applyAll.symm
  openOnFailure := config.openOnFailure_applyAll_iff lines
  harnessArguments := config.harnessArguments_applyAll lines
  browserArguments := config.viewerArguments_applyAll lines
  address page log hpage hlog := by
    have hpage' := Octets.ofText_injective (Setting.inForce_value_applyAll.mp hpage)
    have hlog' : (config.applyAll lines).harness.logFile = log :=
      Setting.inForce_value_applyAll.mp hlog
    rw [← hpage', ← hlog']
    rfl

theorem overriding (config : Config) : config.Overriding where
  precedence := config.precedence_applyAll
  carriage := config.carriage_ofConfig
  twice := config.applyAll_twice
  exchange _ _ := config.applyAll_comm
  indifferent _ _ := config.apply_congr

-- the second line is out of order, so that the log that it gives does not count
example : Config.applyAll {} [[Octets.ofText "--log=a"],
      [Octets.ofText "--log=b", Octets.ofText "--x"], [Octets.ofText "--no-open"]] =
    { harness := { logFile := Octets.ofText "a" }, viewer := { openOnFailure := false } } := by
  decide +kernel

end Config

end Reftest
