import Reftest.Proofs.Program.Execution
import Reftest.Proofs.Run.Reception
import Reftest.Run.Outcome

namespace Reftest

/-- All in a world that has to do with how events are shown. -/
structure World.Reports where
  logFilter : Option Octets
  terminal : Bool
  clock : Log.Event → String

def World.withReports (world : World) (reports : World.Reports) : World :=
  { world with
    environment := { world.environment with logFilter := reports.logFilter }
    terminal := reports.terminal
    clock := reports.clock }

namespace Program

theorem launch_withReports (world : World) (reports : World.Reports) (busy : Option Location)
    (program : Octets) (arguments : List Octets) :
    launch (world.withReports reports) busy program arguments =
      launch world busy program arguments := by
  have hfiles : (world.withReports reports).files = world.files := rfl
  exact launch_congr hfiles rfl rfl busy program arguments

theorem locate_withReports (world : World) (reports : World.Reports) (name : Octets) :
    locate (world.withReports reports) name = locate world name := rfl

end Program

namespace Run

def Attempt.withReports (attempt : Attempt α) (reports : World.Reports) : Attempt α :=
  { attempt with world := attempt.world.withReports reports }

def Stage.Heedless (stage : Stage α) : Prop :=
  ∀ (world : World) (reports : World.Reports),
    stage (world.withReports reports) = (stage world).withReports reports

namespace Stage

theorem heedless_pure (value : α) : Heedless (pure value : Stage α) :=
  fun _ _ => rfl

theorem heedless_fail (fault : Fault) : Heedless (fail fault : Stage α) :=
  fun _ _ => rfl

theorem heedless_tell (level : Log.Level) (topic : Log.Topic) (message : String) :
    Heedless (tell level topic message) :=
  fun _ _ => rfl

theorem Heedless.bind {first : Stage α} {second : α → Stage β} (hfirst : first.Heedless)
    (hsecond : ∀ value, (second value).Heedless) : Heedless (first >>= second) := by
  intro world reports
  rw [bind_apply, bind_apply, hfirst world reports]
  cases hresult : (first world).result with
  | error fault => simp only [Attempt.withReports, hresult]
  | ok value =>
      have hnext := hsecond value (first world).world reports
      simp only [Attempt.withReports, hresult, hnext]

end Stage

open Stage

theorem heedless_createLog (path : Octets) : (createLog path).Heedless := by
  intro world reports
  have hfiles : (world.withReports reports).files = world.files := rfl
  have hdirectory : (world.withReports reports).directory = world.directory := rfl
  rw [createLog, createLog, hfiles, hdirectory]
  cases world.files.create world.directory path with
  | error failure => rfl
  | ok created => rfl

theorem heedless_find (name : String) : (find name).Heedless := by
  intro world reports
  rw [find, Program.locate_withReports, find]
  cases Program.locate world (Octets.ofText name) with
  | error failure => rfl
  | ok path => rfl

theorem heedless_execute (launched : Program.Launch) (outlet : Outlet) :
    (execute launched outlet).Heedless :=
  fun _ _ => rfl

theorem heedless_start (program : Octets) (arguments : List Octets) (outlet : Outlet)
    (refused : Failure → Fault) : (start program arguments outlet refused).Heedless := by
  intro world reports
  rw [start, Program.launch_withReports, start]
  cases Program.launch world outlet.place? program arguments with
  | error failure => rfl
  | ok launched => exact heedless_execute launched outlet world reports

theorem heedless_openPage (browser : String) (arguments : List String) (url : String) :
    (openPage browser arguments url).Heedless := by
  refine (heedless_find browser).bind fun program => (heedless_tell _ _ _).bind fun _ =>
    (heedless_start _ _ _ _).bind fun ending => ?_
  split
  · exact heedless_pure ()
  · exact heedless_fail _

theorem heedless_announce (writer : Writer) : (announce writer).Heedless := by
  intro world reports
  obtain ⟨result, trace, hannounce, -⟩ := announce_cases writer
  rw [hannounce, hannounce]
  rfl

theorem heedless_harnessEnding (settings : Settings) : (harnessEnding settings).Heedless :=
  (heedless_createLog _).bind fun _ => (heedless_find _).bind fun _ =>
    (heedless_tell _ _ _).bind fun _ => heedless_start _ _ _ _

theorem heedless_reactToFailure (settings : Settings) (ending : Ending) :
    (reactToFailure settings ending).Heedless := by
  unfold reactToFailure
  dsimp only
  split
  · exact (heedless_tell _ _ _).bind fun _ => (heedless_openPage _ _ _).bind fun _ =>
      heedless_pure _
  · exact (heedless_tell _ _ _).bind fun _ => heedless_pure _

theorem heedless_run (settings : Settings) (writer : Writer) : (run settings writer).Heedless := by
  refine (heedless_harnessEnding settings).bind fun ending => ?_
  split
  · exact (heedless_tell _ _ _).bind fun _ => (heedless_announce writer).bind fun _ =>
      heedless_pure _
  · exact heedless_reactToFailure settings ending

end Run

end Reftest
