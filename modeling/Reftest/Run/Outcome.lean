import Reftest.Run.Settings
import Reftest.Run.Verdict
import Reftest.Run.Page
import Reftest.Text.Quoted

namespace Reftest.Run

inductive Outcome where
  | passed
  | failureViewed (code : Option Nat)
  | failed (code : Option Nat)
  deriving DecidableEq, Repr

def Outcome.isPass (outcome : Outcome) : Bool :=
  outcome = .passed

def createLog (path : Octets) : Stage Location :=
  fun world =>
    match world.files.create world.directory path with
    | .error failure => Stage.fail (.logFile path failure) world
    | .ok (place, files) => Stage.done place (world.withFiles files)

def harnessEnding (settings : Settings) : Stage Ending := do
  let log ← createLog settings.logFile
  let program ← find settings.harness
  Stage.tell .debug .runner
    ("Running " ++ program.shown ++ " " ++ Quoted.quoteList settings.harnessArguments ++ " " ++
      settings.suite ++ " > " ++ settings.logFile.shown)
  start program (settings.harnessArguments.map Octets.ofText ++ [Octets.ofText settings.suite])
    (.file log) (.harnessLaunch settings.harness)

/-- What is done about a harness that failed.  Without the browser a warning is the only pointer
to the log. -/
def reactToFailure (settings : Settings) (ending : Ending) : Stage Outcome := do
  let reason := "Harness failed (" ++ ending.describe ++ ")"
  if settings.openOnFailure then
    Stage.tell .info .runner
      (reason ++ ", opening analyzer on " ++ settings.logFile.shown)
    openPage settings.browser settings.browserArguments settings.address
    pure (.failureViewed ending.code)
  else
    Stage.tell .warn .runner (reason ++ ", log written to " ++ settings.logFile.shown)
    pure (.failed ending.code)

def run (settings : Settings) (writer : Writer) : Stage Outcome := do
  let ending ← harnessEnding settings
  if ending.succeeded then
    Stage.tell .info .runner "Harness passed"
    announce writer
    pure .passed
  else reactToFailure settings ending

end Reftest.Run
