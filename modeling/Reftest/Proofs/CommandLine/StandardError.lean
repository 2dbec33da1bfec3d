import Reftest.Proofs.CommandLine.Footprint
import Reftest.Proofs.Text.Replacement

/-!
Standard error.  Unless more is asked for, nothing is written there but what the programs write, a
warning about a harness that failed and is not shown in the browser, and at the very end the fault
that a use comes to.
-/

namespace Reftest

namespace Log

def escaped (text : String) : String :=
  String.ofList (text.toList.flatMap Event.escapeControl)

def Steady (text : String) : Prop :=
  ∀ c ∈ text.toList, Event.escapeControl c = [c]

instance (text : String) : Decidable (Steady text) :=
  List.decidableBAll (fun c => Event.escapeControl c = [c]) text.toList

theorem escaped_append (first second : String) :
    escaped (first ++ second) = escaped first ++ escaped second := by
  simp only [escaped, String.toList_append, List.flatMap_append, String.ofList_append]

theorem escaped_of_steady {text : String} (h : Steady text) : escaped text = text := by
  have hsame : text.toList.flatMap Event.escapeControl = text.toList.flatMap fun c => [c] := by
    simp only [List.flatMap_def]
    rw [List.map_congr_left h]
  rw [escaped, hsame, List.flatMap_singleton', String.ofList_toList]

theorem Steady.append {first second : String} (hfirst : Steady first) (hsecond : Steady second) :
    Steady (first ++ second) := by
  intro c hc
  rw [String.toList_append, List.mem_append] at hc
  exact hc.elim (hfirst c) (hsecond c)

theorem escapeControl_of_isDigit {c : Char} (h : c.isDigit = true) :
    Event.escapeControl c = [c] := by
  have hbounds : 48 ≤ c.toNat ∧ c.toNat ≤ 57 := by
    simpa [Char.isDigit, UInt32.le_iff_toNat_le] using h
  unfold Event.escapeControl
  split
  any_goals simp_all
  omega

theorem steady_toString (number : Nat) : Steady (toString number) := by
  intro c hc
  rw [Nat.toString_eq_repr, Nat.toList_repr] at hc
  exact escapeControl_of_isDigit (Nat.isDigit_of_mem_toDigits (by decide) (by decide) hc)

theorem steady_describe (ending : Ending) : Steady ending.describe := by
  cases ending with
  | exited status => exact Steady.append (by decide) (steady_toString status.toNat)
  | killed => decide

theorem isPrefixOf_target (topic : Topic) :
    "reftest_debugger".toList.isPrefixOf topic.target.toList = true := by
  cases topic <;> decide +kernel

namespace Filter

theorem shows_standard (event : Event) :
    (standard false).shows event = decide (event.level.rank ≤ Level.warn.rank) := by
  have hcovers : Directive.covers
      { target := "reftest_debugger".toList, threshold := some .warn } event = true :=
    isPrefixOf_target event.topic
  simp only [shows, deciding, standard, Bool.false_eq_true, if_false, List.filter_cons, hcovers,
    if_true, List.filter_nil, List.foldl_cons, List.foldl_nil, prefer]
  rfl

end Filter

end Log

namespace Run

open Log (Filter)

variable {settings : Settings} {writer : Writer} {world : World} {code : Option Nat}

def Execution.complaint (execution : Execution) : Octets :=
  execution.launched.behaviour.complaint

/-- The line of a warning about a harness that failed, in colours if it is for a terminal. -/
def warningLine (terminal : Bool) (time : String) (code : Option Nat) (log : String) : String :=
  (if terminal then "\x1b[2m" ++ time ++ "\x1b[0m \x1b[33m WARN\x1b[0m " else time ++ "  WARN ") ++
    "Harness failed (" ++
    (match code with
      | some code => "exit code " ++ toString code
      | none => "terminated by signal") ++
    "), log written to " ++ log ++ "\n"

theorem describe_eq (ending : Ending) :
    ending.describe = match ending.code with
      | some code => "exit code " ++ toString code
      | none => "terminated by signal" := by
  cases ending <;> rfl

theorem line_warning (terminal : Bool) (time : String) (settings : Settings) (ending : Ending) :
    (settings.warning ending).line terminal time =
      warningLine terminal time ending.code (Log.escaped settings.logFile.shown) := by
  have hmessage : Log.escaped (settings.warning ending).message =
      "Harness failed (" ++ ending.describe ++ "), log written to " ++
        Log.escaped settings.logFile.shown := by
    have hopening : Log.Steady "Harness failed (" := by decide
    have hclosing : Log.Steady ")" := by decide
    have hpointer : Log.Steady ", log written to " := by decide
    rw [Settings.warning, Log.escaped_append,
      Log.escaped_of_steady (((hopening.append (Log.steady_describe ending)).append
        hclosing).append hpointer)]
    simp only [String.append_assoc]
    rfl
  have hline : (settings.warning ending).line terminal time =
      (if terminal then Log.painted "2" time else time) ++ " " ++
        (if terminal then Log.painted "33" " WARN" else " WARN") ++ " " ++
        Log.escaped (settings.warning ending).message ++ "\n" := rfl
  rw [hline, hmessage, describe_eq]
  unfold warningLine
  cases terminal with
  | true =>
      simp only [Log.painted, if_true, String.append_assoc]
      rfl
  | false =>
      simp only [Bool.false_eq_true, if_false, String.append_assoc]
      rfl

namespace Trace

theorem standardError_attempt (execution : Execution) (display : Log.Display) :
    execution.attempt.trace.standardError display = execution.complaint := by
  rw [Execution.attempt_eq]
  cases execution.outlet with
  | file place => exact List.append_nil _
  | inherited => exact List.append_nil _

theorem standardError_announce (writer : Writer) (world : World) (display : Log.Display) :
    (announce writer world).trace.standardError display = [] := by
  obtain ⟨result, trace, hannounce, htrace⟩ := announce_cases writer
  rw [hannounce]
  refine List.flatMap_eq_nil_iff.mpr fun happening hmem => ?_
  obtain rfl | ⟨octets, rfl⟩ := htrace happening hmem <;> rfl

theorem standardError_nil (display : Log.Display) : standardError [] display = [] := rfl

section

variable {display : Log.Display} (hquiet : display.filter = .standard false)

include hquiet

theorem standardError_cons_minor {event : Log.Event} {level : Log.Level}
    (hlevel : event.level = level) (h : Log.Level.warn.rank < level.rank) (rest : Trace) :
    standardError (.event event :: rest) display = rest.standardError display := by
  refine standardError_cons_hidden ?_ rest
  rw [hquiet, Filter.shows_standard, hlevel]
  exact decide_eq_false (Nat.not_le_of_lt h)

theorem standardError_warned {event : Log.Event} (hevent : event.level = .debug)
    (harness : Execution) :
    standardError (.event event :: (harness.attempt.trace ++
        [.event (settings.warning harness.ending)])) display =
      harness.complaint ++ Octets.ofText (warningLine display.coloured
        (display.clock (settings.warning harness.ending)) harness.ending.code
        (Log.escaped settings.logFile.shown)) := by
  have hshown : display.filter.shows (settings.warning harness.ending) = true := by
    rw [hquiet, Filter.shows_standard]
    rfl
  rw [standardError_cons_minor hquiet hevent (by decide), standardError_append,
    standardError_attempt, standardError_cons_shown hshown, standardError_nil, List.append_nil,
    line_warning]

end

end Trace

open Trace

/-- What standard error has of a run with a harness that failed and is not shown.  The warning tells
how the harness ended and where the log is. -/
structure Warned (settings : Settings) (world : World) (code : Option Nat) (harness : Execution)
    (errors : Octets) : Prop where
  single : executions settings world = [harness]
  code : harness.ending.code = code
  errors : errors = harness.complaint ++ Octets.ofText (warningLine world.terminal
    (world.clock (settings.warning harness.ending)) harness.ending.code
    (Log.escaped settings.logFile.shown))
  named : ∀ text, settings.logFile = Octets.ofText text → Log.Steady text →
    Log.escaped settings.logFile.shown = text

section

variable {display : Log.Display} (hquiet : display.filter = .standard false)

include hquiet

theorem warned_run (hcoloured : display.coloured = world.terminal)
    (hclock : display.clock = world.clock)
    (h : (run settings writer world).result = .ok (.failed code)) :
    ∃ harness, Warned settings world code harness
      ((run settings writer world).trace.standardError display) := by
  have hrun := unfolds_run settings writer world
  generalize run settings writer world = attempt at h hrun ⊢
  cases hrun with
  | @unopened harness _ hharness hevent hending hclosed =>
      cases h
      refine ⟨harness, executions_of_unopened hharness (.inr hclosed), rfl, ?_, ?_⟩
      · rw [standardError_warned hquiet hevent, hcoloured, hclock]
      · rintro text hpath hsteady
        rw [hpath, Octets.shown_ofText, Log.escaped_of_steady hsteady]
  | logRefused
  | unstarted
  | unviewed => cases h
  | announced => split at h <;> cases h
  | opened => split at h <;> cases h

theorem standardError_run (h : ∀ code, (run settings writer world).result ≠ .ok (.failed code)) :
    (run settings writer world).trace.standardError display =
      (executions settings world).flatMap Execution.complaint := by
  have hrun := unfolds_run settings writer world
  generalize run settings writer world = attempt at h hrun ⊢
  cases hrun with
  | logRefused hlog =>
      rw [executions_of_error (harnessRun_of_logRefused hlog)]
      rfl
  | unstarted _ hharness hevent =>
      rw [executions_of_error hharness, standardError_cons_minor hquiet hevent (by decide)]
      rfl
  | announced hharness hevent hending =>
      rw [executions_of_unopened hharness (.inl hending),
        standardError_cons_minor hquiet hevent (by decide), standardError_append,
        standardError_attempt, standardError_cons_minor hquiet rfl (by decide),
        standardError_announce]
      rfl
  | unopened => exact absurd rfl (h _)
  | unviewed hharness hevent _ _ hnote hbrowser hsearch =>
      rw [executions_of_unviewed hharness hbrowser,
        standardError_cons_minor hquiet hevent (by decide), standardError_append,
        standardError_attempt, standardError_cons_minor hquiet hnote (by decide),
        standardError_cons_minor hquiet hsearch (by decide)]
      rfl
  | opened hharness hevent hending hopen hnote hbrowser hopening =>
      rw [executions_of_opened hharness hending hopen hbrowser,
        standardError_cons_minor hquiet hevent (by decide), standardError_append,
        standardError_attempt, standardError_cons_minor hquiet hnote (by decide),
        standardError_cons_minor hquiet hopening (by decide), standardError_attempt]
      simp only [List.flatMap_cons, List.flatMap_nil, List.append_nil]

end

end Run

namespace CommandLine

open Run (Writer Settings Outcome)

variable {items : List Octets} {world : World} {writer : Writer} {arguments : Arguments}

def comesTo (arguments : Arguments) (world : World) (writer : Writer) : Except Fault Outcome :=
  match arguments.configInForce world with
  | .error fault => .error fault
  | .ok config => (Run.run (.ofConfig config) writer world).result

def complaints (items : List Octets) (world : World) : Octets :=
  (executions items world).flatMap Run.Execution.complaint

structure Unasked (arguments : Arguments) (world : World) : Prop where
  verbose : arguments.verbose = false
  logFilter : world.environment.logFilter = none

/-- What standard error has of a use of the command line. -/
structure Speaks (items : List Octets) (arguments : Arguments) (world : World) (writer : Writer)
    (errors : Octets) : Prop where
  quiet : Unasked arguments world → ∀ outcome, comesTo arguments world writer = .ok outcome →
    (∀ code, outcome ≠ .failed code) → errors = complaints items world
  warned : Unasked arguments world → ∀ code,
    comesTo arguments world writer = .ok (.failed code) →
    ∃ settings harness, settings? items world = some settings ∧
      executions items world = [harness] ∧ Run.Warned settings world code harness errors
  faulted : Unasked arguments world → ∀ fault, comesTo arguments world writer = .error fault →
    errors = complaints items world ++ Octets.ofText ("Error: " ++ fault.message ++ "\n")
  ends : ∀ fault, comesTo arguments world writer = .error fault →
    Octets.ofText ("Error: " ++ fault.message ++ "\n") <:+ errors

theorem filter_of_unasked (h : Unasked arguments world) :
    (displayOf arguments world).filter = .standard false := by
  rw [displayOf, filterOf, h.logFilter, h.verbose]
  rfl

theorem speaks_of_unconfigured {fault : Fault} (hread : Arguments.read items = .ok arguments)
    (hbase : arguments.base world = .error fault) (writer : Writer) :
    Speaks items arguments world writer (useInto items world writer).errors := by
  have hcomes : comesTo arguments world writer = .error fault := by
    simp only [comesTo, Arguments.configInForce_eq, hbase, Except.map]
  have herrors : (useInto items world writer).errors = faultLine fault := by
    rw [useInto_of_unconfigured hread hbase]
    rfl
  have hnothing : complaints items world = [] := by
    rw [complaints, executions_of_none (settings?_of_unconfigured hread hbase)]
    rfl
  refine ⟨?_, ?_, ?_, ?_⟩
  · intro _ outcome hok
    cases hcomes.symm.trans hok
  · intro _ code hok
    cases hcomes.symm.trans hok
  · intro _ other hother
    cases hcomes.symm.trans hother
    rw [herrors, hnothing, List.nil_append]
    rfl
  · intro other hother
    cases hcomes.symm.trans hother
    exact ⟨[], herrors.symm⟩

theorem speaks_of_base {base : Config} (hread : Arguments.read items = .ok arguments)
    (hbase : arguments.base world = .ok base) (writer : Writer) :
    Speaks items arguments world writer (useInto items world writer).errors := by
  have hsettings := settings?_of_base hread hbase
  have hcomes : comesTo arguments world writer =
      (Run.run (.ofConfig (arguments.override base)) writer world).result := by
    simp only [comesTo, Arguments.configInForce_eq, hbase, Except.map]
  have herrors := errors_settled_eq (displayOf arguments world)
    (arguments.override base) (Run.run (.ofConfig (arguments.override base)) writer world)
  rw [← useInto_of_base hread hbase] at herrors
  have hcomplaints : complaints items world =
      (executions items world).flatMap Run.Execution.complaint := rfl
  rw [executions_of_some hsettings] at hcomplaints
  generalize Settings.ofConfig (arguments.override base) = settings at *
  refine ⟨?_, ?_, ?_, ?_⟩
  · intro hunasked outcome hok hviewed
    rw [hcomes] at hok
    rw [herrors, hok, List.append_nil, hcomplaints]
    refine Run.standardError_run (filter_of_unasked hunasked) fun code hfailed => ?_
    cases hok.symm.trans hfailed
    exact hviewed code rfl
  · intro hunasked code hok
    rw [hcomes] at hok
    rw [herrors, hok, List.append_nil]
    obtain ⟨harness, hwarned⟩ := Run.warned_run (filter_of_unasked hunasked) rfl rfl hok
    refine ⟨settings, harness, hsettings, ?_, hwarned⟩
    rw [executions_of_some hsettings, hwarned.single]
  · intro hunasked fault hfault
    rw [hcomes] at hfault
    rw [herrors, hfault, hcomplaints, Run.standardError_run (filter_of_unasked hunasked)
      fun code hfailed => nomatch hfault.symm.trans hfailed]
    rfl
  · intro fault hfault
    rw [hcomes] at hfault
    rw [herrors, hfault]
    exact List.suffix_append _ _

/-- What standard error has of every use with arguments that can be read. -/
theorem speaks_useInto (hread : Arguments.read items = .ok arguments) (world : World)
    (writer : Writer) :
    Speaks items arguments world writer (useInto items world writer).errors := by
  cases hbase : arguments.base world with
  | error fault => exact speaks_of_unconfigured hread hbase writer
  | ok base => exact speaks_of_base hread hbase writer

/-- The harness complains and is killed. -/
def killedWorld : World where
  files := FileTree.empty.set [Octets.ofText "headless.py"]
    (.file 0o755 (.program { complaint := Octets.ofText "?\n", ending := .killed }))
  clock _ := "2024-05-01T12:00:00.000000Z"

theorem speaks_useInto_killed :
    Arguments.read [Octets.ofText "--no-open"] = .ok { noOpen := true } ∧
      comesTo { noOpen := true } killedWorld {} = .ok (.failed none) ∧
      (useInto [Octets.ofText "--no-open"] killedWorld {}).errors =
        Octets.ofText "?\n" ++ Octets.ofText ("2024-05-01T12:00:00.000000Z  WARN " ++
          "Harness failed (terminated by signal), log written to reftest.log\n") := by
  have hread : Arguments.read [Octets.ofText "--no-open"] = .ok { noOpen := true } := by rfl
  refine ⟨hread, rfl, ?_⟩
  obtain ⟨settings, harness, hsettings, hexecutions, hwarned⟩ :=
    (speaks_useInto hread killedWorld {}).warned ⟨rfl, rfl⟩ none rfl
  have hdefault : settings? [Octets.ofText "--no-open"] killedWorld =
      some (.ofConfig (Arguments.override { noOpen := true } {})) := rfl
  have hlog : settings.logFile = Octets.ofText "reftest.log" := by
    rw [Option.some.inj (hsettings.symm.trans hdefault)]
    rfl
  have hrun : executions [Octets.ofText "--no-open"] killedWorld = [_] := rfl
  have hharness := List.head_eq_of_cons_eq (hexecutions.symm.trans hrun)
  have hcomplaint : harness.complaint = Octets.ofText "?\n" := by rw [hharness]; rfl
  refine hwarned.errors.trans ?_
  rw [hcomplaint, hwarned.code, hwarned.named _ hlog (by decide)]
  rfl

end CommandLine

end Reftest
