import Reftest.Arguments.Read
import Reftest.Config.Load
import Reftest.Log.Filter
import Reftest.Run.Outcome

namespace Reftest

def Arguments.configInForce (arguments : Arguments) (world : World) : Except Fault Config :=
  let base := match arguments.config with
    | some path => Config.ofFile world path
    | none => Config.ofStandardFile world
  base.map arguments.override

/-- A failed run is told by the exit status only on request. -/
def Config.exitStatus (config : Config) (outcome : Run.Outcome) : Nat :=
  if !outcome.isPass && config.run.exitCode then 1 else 0

namespace Run.Trace

def standardOutput (trace : Trace) : Octets :=
  trace.flatMap fun
    | .output octets => octets
    | .verdict octets => octets
    | _ => []

def standardError (trace : Trace) (display : Log.Display) : Octets :=
  trace.flatMap fun
    | .complaint octets => octets
    | .event told => display.show told
    | _ => []

@[simp] theorem standardError_append (left right : Trace) (display : Log.Display) :
    (left ++ right : Trace).standardError display =
      left.standardError display ++ right.standardError display :=
  List.flatMap_append

theorem standardError_cons_shown {display : Log.Display} {told : Log.Event}
    (h : display.filter.shows told = true) (rest : Trace) :
    standardError (.event told :: rest) display =
      Octets.ofText (told.line display.coloured (display.clock told)) ++
        standardError rest display := by
  simp only [standardError, List.flatMap_cons, Log.Display.show, if_pos h]

theorem standardError_cons_hidden {display : Log.Display} {told : Log.Event}
    (h : display.filter.shows told = false) (rest : Trace) :
    standardError (.event told :: rest) display = standardError rest display := by
  simp [standardError, Log.Display.show, h]

end Run.Trace

namespace CommandLine

structure Session where
  status : Nat
  world : World
  trace : Run.Trace
  output : Octets
  errors : Octets

def perform (arguments : Arguments) (writer : Run.Writer) : Run.Stage Nat :=
  fun world =>
    match arguments.configInForce world with
    | .error fault => Run.Stage.fail fault world
    | .ok config =>
      (do
        let outcome ← Run.run (.ofConfig config) writer
        pure (config.exitStatus outcome) : Run.Stage Nat) world

def filterOf (arguments : Arguments) (environment : Environment) : Log.Filter :=
  .choose arguments.verbose (environment.logFilter.bind Octets.text?)

def displayOf (arguments : Arguments) (world : World) : Log.Display where
  filter := filterOf arguments world.environment
  coloured := world.terminal
  clock := world.clock

def faultLine (fault : Fault) : Octets :=
  Octets.ofText ("Error: " ++ fault.message ++ "\n")

def answer (fault : ArgumentFault) (writer : Run.Writer) : Octets :=
  (writer.deliver writer.interrupts 0 (Octets.ofText (fault.message .stream))).taken

/-- Requests are answered on standard output, and faults of the arguments on standard error. -/
def decline (fault : ArgumentFault) (writer : Run.Writer) (world : World) : Session where
  status := fault.status
  world := world
  trace := []
  output := if fault.isRequest then answer fault writer else []
  errors := if fault.isRequest then [] else Octets.ofText (fault.message .stream ++ "\n")

def conclude (display : Log.Display) (attempt : Run.Attempt Nat) : Session where
  status := match attempt.result with
    | .ok status => status
    | .error _ => 1
  world := attempt.world
  trace := attempt.trace
  output := attempt.trace.standardOutput
  errors := attempt.trace.standardError display ++
    match attempt.result with
    | .ok _ => []
    | .error fault => faultLine fault

/-- A use of the command line.  The program takes the verdict to its standard output, which is a
writer like any other. -/
def useInto (items : List Octets) (world : World) (writer : Run.Writer) : Session :=
  match Arguments.read items with
  | .error fault => decline fault writer world
  | .ok arguments =>
    conclude (displayOf arguments world) (perform arguments writer world)

def use (items : List Octets) (world : World) : Session :=
  useInto items world {}

end CommandLine

end Reftest
