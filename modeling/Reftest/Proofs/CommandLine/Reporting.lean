import Reftest.Proofs.Arguments.Addition
import Reftest.Proofs.CommandLine.Status
import Reftest.Proofs.Run.Reports

namespace Reftest

namespace Run.Trace

/-- What standard error can have of a trace: all that programs wrote there, and of the events some,
each on its line. -/
inductive Heard (terminal : Bool) (clock : Log.Event → String) : Trace → Octets → Prop where
  | done : Heard terminal clock [] []
  | complaint {trace : Trace} {heard : Octets} (octets : Octets)
      (h : Heard terminal clock trace heard) :
      Heard terminal clock (.complaint octets :: trace) (octets ++ heard)
  | shown {trace : Trace} {heard : Octets} (event : Log.Event)
      (h : Heard terminal clock trace heard) :
      Heard terminal clock (.event event :: trace)
        (Octets.ofText (event.line terminal (clock event)) ++ heard)
  | hidden {trace : Trace} {heard : Octets} (event : Log.Event)
      (h : Heard terminal clock trace heard) :
      Heard terminal clock (.event event :: trace) heard
  | elsewhere {trace : Trace} {heard : Octets} {happening : Happening}
      (hcomplaint : ∀ octets, happening ≠ .complaint octets)
      (hevent : ∀ event, happening ≠ .event event) (h : Heard terminal clock trace heard) :
      Heard terminal clock (happening :: trace) heard

theorem heard_standardError (trace : Trace) (display : Log.Display) :
    trace.Heard display.coloured display.clock (trace.standardError display) := by
  induction trace with
  | nil => exact .done
  | cons happening rest ih =>
      cases happening with
      | event event =>
          cases hshown : display.filter.shows event with
          | true =>
              rw [standardError_cons_shown hshown]
              exact .shown event ih
          | false =>
              rw [standardError_cons_hidden hshown]
              exact .hidden event ih
      | complaint octets => exact .complaint octets ih
      | call _ _
      | output _
      | verdict _
      | flush => exact .elsewhere nofun nofun ih

end Run.Trace

namespace CommandLine

open Run (Writer Settings Conclusion Concludes)

variable {items items' front rest : List Octets} {world : World} {writer : Writer}
  {arguments result : Arguments} {base : Config}

/-- Two uses that come to the same, but for the events that they show and the looks of these. -/
structure SameUse (world : World) (reports : World.Reports) (session session' : Session) :
    Prop where
  status : session'.status = session.status
  after : session'.world = session.world.withReports reports
  trace : session'.trace = session.trace
  output : session'.output = session.output
  errors : ∃ heard heard' ending, session.errors = heard ++ ending ∧
    session'.errors = heard' ++ ending ∧
      session.trace.Heard world.terminal world.clock heard ∧
        session.trace.Heard reports.terminal reports.clock heard' ∧
          (ending = [] ∨
            ∃ fault : Fault, ending = Octets.ofText ("Error: " ++ fault.message ++ "\n"))

theorem heedless_perform (arguments : Arguments) (writer : Writer) :
    (perform arguments writer).Heedless := by
  intro world reports
  have hconfig : arguments.configInForce (world.withReports reports) =
      arguments.configInForce world := rfl
  rw [perform, perform, hconfig]
  cases arguments.configInForce world with
  | error fault => rfl
  | ok config =>
      exact (Run.heedless_run (.ofConfig config) writer).bind
        (fun outcome => Run.Stage.heedless_pure (config.exitStatus outcome)) world reports

theorem perform_withReports (arguments : Arguments) (told : Bool) (writer : Writer)
    (world : World) (reports : World.Reports) :
    perform { arguments with verbose := told } writer (world.withReports reports) =
      (perform arguments writer world).withReports reports :=
  heedless_perform arguments writer world reports

theorem sameUse_conclude (arguments arguments' : Arguments) (world : World)
    (reports : World.Reports)
    (attempt : Run.Attempt Nat) :
    SameUse world reports (conclude (displayOf arguments world) attempt)
      (conclude (displayOf arguments' (world.withReports reports))
        (attempt.withReports reports)) where
  status := rfl
  after := rfl
  trace := rfl
  output := rfl
  errors := by
    refine ⟨_, _, _, rfl, rfl,
      Run.Trace.heard_standardError _ (displayOf arguments world),
      Run.Trace.heard_standardError _ (displayOf arguments' (world.withReports reports)), ?_⟩
    cases attempt.result with
    | ok status => exact .inl rfl
    | error fault => exact .inr ⟨fault, rfl⟩

theorem sameUse_of_told {told : Bool} (h : Arguments.read items = .ok arguments)
    (h' : Arguments.read items' = .ok { arguments with verbose := told }) (world : World)
    (writer : Writer) (reports : World.Reports) :
    SameUse world reports (useInto items world writer)
      (useInto items' (world.withReports reports) writer) := by
  rw [useInto_of_read h, useInto_of_read h', perform_withReports]
  exact sameUse_conclude _ _ _ _ _

/-- A run that ends without a fault, with a harness that failed, and with settings in the chosen
file that do not make this count. -/
def Overlooked (arguments : Arguments) (world : World) (writer : Writer) : Prop :=
  ∃ base, arguments.base world = .ok base ∧ base.run.exitCode = false ∧
    Concludes (.ofConfig (arguments.override base)) writer world .failed

/-- The same use but for the status, which is raised just where a failure is overlooked. -/
structure Stricter (arguments : Arguments) (before : World) (writer : Writer)
    (session session' : Session) : Prop where
  world : session'.world = session.world
  trace : session'.trace = session.trace
  output : session'.output = session.output
  errors : session'.errors = session.errors
  raised : Overlooked arguments before writer → session.status = 0 ∧ session'.status = 1
  kept : ¬ Overlooked arguments before writer → session'.status = session.status

theorem overlooked_iff (hbase : arguments.base world = .ok base) :
    Overlooked arguments world writer ↔ base.run.exitCode = false ∧
      .ofResult (Run.run (.ofConfig (arguments.override base)) writer world).result =
        Conclusion.failed := by
  rw [← Run.concludes_iff]
  constructor
  · rintro ⟨base', hbase', hlenient, hfailed⟩
    cases hbase.symm.trans hbase'
    exact ⟨hlenient, hfailed⟩
  · rintro ⟨hlenient, hfailed⟩
    exact ⟨base, hbase, hlenient, hfailed⟩

theorem not_overlooked_of_unconfigured {fault : Fault}
    (hbase : arguments.base world = .error fault) :
    ¬ Overlooked arguments world writer := by
  rintro ⟨base, hok, -⟩
  cases hbase.symm.trans hok

theorem errors_settled (display : Log.Display) (config config' : Config)
    (attempt : Run.Attempt Run.Outcome) :
    (settled display config' attempt).errors = (settled display config attempt).errors := by
  rw [errors_settled_eq, errors_settled_eq]

theorem status_true_eq {strict : Bool} {conclusion : Conclusion}
    (h : ¬ (strict = false ∧ conclusion = .failed)) :
    conclusion.status true = conclusion.status strict := by
  cases conclusion with
  | faulted => rfl
  | passed => rfl
  | failed =>
      cases strict with
      | false => exact absurd ⟨rfl, rfl⟩ h
      | true => rfl

theorem stricter_settled {config : Config} (hbase : arguments.base world = .ok base)
    (hlenient : (arguments.override base).run.exitCode = base.run.exitCode)
    (hstrict : config.run.exitCode = true) (display : Log.Display) :
    Stricter arguments world writer
      (settled display (arguments.override base)
        (Run.run (.ofConfig (arguments.override base)) writer world))
      (settled display config (Run.run (.ofConfig (arguments.override base)) writer world)) where
  world := rfl
  trace := rfl
  output := rfl
  errors := errors_settled _ _ _ _
  raised h := by
    obtain ⟨hoff, hfailed⟩ := (overlooked_iff hbase).mp h
    rw [status_settled, status_settled, hlenient, hstrict, hoff, hfailed]
    exact ⟨rfl, rfl⟩
  kept h := by
    rw [status_settled, status_settled, hlenient, hstrict]
    exact status_true_eq fun hoverlooked => h ((overlooked_iff hbase).mpr hoverlooked)

theorem stricter_of_exitCode (hread : Arguments.read items = .ok arguments)
    (hflag : arguments.exitCode = false)
    (hread' : Arguments.read items' = .ok { arguments with exitCode := true }) (world : World)
    (writer : Writer) :
    Stricter arguments world writer (useInto items world writer)
      (useInto items' world writer) := by
  cases hbase : arguments.base world with
  | error fault =>
      have hbase' : Arguments.base { arguments with exitCode := true } world = .error fault := hbase
      rw [useInto_of_unconfigured hread hbase, useInto_of_unconfigured hread' hbase']
      exact ⟨rfl, rfl, rfl, rfl, fun h => absurd h (not_overlooked_of_unconfigured hbase),
        fun _ => rfl⟩
  | ok base =>
      have hbase' : Arguments.base { arguments with exitCode := true } world = .ok base := hbase
      have hlenient : (arguments.override base).run.exitCode = base.run.exitCode := by
        rw [Arguments.override, hflag, Bool.or_false]
      -- a run is not told of the flag
      have hsettings :
          Settings.ofConfig (Arguments.override { arguments with exitCode := true } base) =
            .ofConfig (arguments.override base) := rfl
      rw [useInto_of_base hread hbase, useInto_of_base hread' hbase', hsettings]
      exact stricter_settled hbase hlenient (Bool.or_true _) _

theorem stricter_of_added (hdashes : Token.dashes ∉ front)
    (hread : Arguments.read (front ++ rest) = .ok arguments)
    (hread' : Arguments.read (front ++ Flag.exitCode.spelling :: rest) = .ok result)
    (world : World) (writer : Writer) :
    Stricter arguments world writer (useInto (front ++ rest) world writer)
      (useInto (front ++ Flag.exitCode.spelling :: rest) world writer) := by
  obtain ⟨-, plain, hplain, hflag, rfl⟩ := (Arguments.read_insert_flag_iff hdashes).mp hread'
  cases hread.symm.trans hplain
  exact stricter_of_exitCode hread hflag hread' world writer

/-- The parts that reports have in a use of the command line. -/
structure Reporting (world : World) (writer : Writer) : Prop where
  told : ∀ (items items' : List Octets) (arguments : Arguments) (told : Bool),
    Arguments.read items = .ok arguments →
      Arguments.read items' = .ok { arguments with verbose := told } →
        ∀ reports : World.Reports, SameUse world reports (useInto items world writer)
          (useInto items' (world.withReports reports) writer)
  strict : ∀ (items items' : List Octets) (arguments : Arguments),
    Arguments.read items = .ok arguments → arguments.exitCode = false →
      Arguments.read items' = .ok { arguments with exitCode := true } →
        Stricter arguments world writer (useInto items world writer) (useInto items' world writer)
  added : ∀ (front rest : List Octets) (arguments result : Arguments), Token.dashes ∉ front →
    Arguments.read (front ++ rest) = .ok arguments →
      Arguments.read (front ++ Octets.ofText "--exit-code" :: rest) = .ok result →
        Stricter arguments world writer (useInto (front ++ rest) world writer)
          (useInto (front ++ Octets.ofText "--exit-code" :: rest) world writer)

theorem reporting_useInto (world : World) (writer : Writer) : Reporting world writer where
  told _ _ _ _ h h' reports := sameUse_of_told h h' world writer reports
  strict _ _ _ h hflag h' := stricter_of_exitCode h hflag h' world writer
  added _ _ _ _ hdashes h h' := stricter_of_added hdashes h h' world writer

/-- A use of which nothing is told, the same with everything told on a terminal, and the same with a
status that tells of the failure. -/
theorem reporting_useInto_failed :
    let told : World.Reports :=
      { logFilter := some (Octets.ofText "trace"), terminal := true, clock := fun _ => "now" }
    SameUse failingWorld told (useInto [Octets.ofText "--no-open"] failingWorld {})
        (useInto [Octets.ofText "--verbose", Octets.ofText "--no-open"]
          (failingWorld.withReports told) {}) ∧
      (useInto [Octets.ofText "--no-open"] failingWorld {}).status = 0 ∧
      (useInto [Octets.ofText "--exit-code", Octets.ofText "--no-open"] failingWorld {}).status =
        1 := by
  intro told
  have hread : Arguments.read [Octets.ofText "--no-open"] = .ok { noOpen := true } := by rfl
  have hverbose : Arguments.read [Octets.ofText "--verbose", Octets.ofText "--no-open"] =
      .ok { noOpen := true, verbose := true } := by rfl
  have hcounted : Arguments.read [Octets.ofText "--exit-code", Octets.ofText "--no-open"] =
      .ok { noOpen := true, exitCode := true } := by rfl
  have hoverlooked : Overlooked { noOpen := true } failingWorld {} :=
    ⟨{}, rfl, rfl, .unopened rfl (by decide) rfl⟩
  have hreporting := reporting_useInto failingWorld {}
  refine ⟨hreporting.told _ _ _ true hread hverbose told, ?_⟩
  exact (hreporting.added [] [_] _ _ List.not_mem_nil hread hcounted).raised hoverlooked

end CommandLine

end Reftest
