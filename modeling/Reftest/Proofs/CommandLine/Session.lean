import Reftest.CommandLine

namespace Reftest

def Arguments.base (arguments : Arguments) (world : World) : Except Fault Config :=
  match arguments.config with
  | some path => Config.ofFile world path
  | none => Config.ofStandardFile world

theorem Arguments.configInForce_eq (arguments : Arguments) (world : World) :
    arguments.configInForce world = (arguments.base world).map arguments.override := rfl

namespace CommandLine

open Run (Writer Settings)

variable {items : List Octets} {world : World} {arguments : Arguments} {base : Config}

def settings? (items : List Octets) (world : World) : Option Settings :=
  match Arguments.read items with
  | .error _ => none
  | .ok arguments =>
    match arguments.configInForce world with
    | .error _ => none
    | .ok config => some (.ofConfig config)

theorem settings?_of_declined {fault : ArgumentFault} (h : Arguments.read items = .error fault) :
    settings? items world = none := by
  simp only [settings?, h]

theorem settings?_of_unconfigured {fault : Fault} (hread : Arguments.read items = .ok arguments)
    (hbase : arguments.base world = .error fault) : settings? items world = none := by
  simp only [settings?, hread, Arguments.configInForce_eq, hbase, Except.map]

theorem settings?_of_base {base : Config} (hread : Arguments.read items = .ok arguments)
    (hbase : arguments.base world = .ok base) :
    settings? items world = some (.ofConfig (arguments.override base)) := by
  simp only [settings?, hread, Arguments.configInForce_eq, hbase, Except.map]

theorem settings?_eq_some {settings : Settings} (h : settings? items world = some settings) :
    ∃ arguments base, Arguments.read items = .ok arguments ∧ arguments.base world = .ok base ∧
      settings = .ofConfig (arguments.override base) := by
  cases hread : Arguments.read items with
  | error fault => cases h.symm.trans (settings?_of_declined hread)
  | ok arguments =>
      cases hbase : arguments.base world with
      | error fault => cases h.symm.trans (settings?_of_unconfigured hread hbase)
      | ok base =>
          cases h.symm.trans (settings?_of_base hread hbase)
          exact ⟨arguments, base, rfl, hbase, rfl⟩

theorem perform_of_ok {config : Config} (h : arguments.configInForce world = .ok config)
    (writer : Writer) :
    perform arguments writer world =
      let attempt := Run.run (.ofConfig config) writer world
      ⟨attempt.result.map config.exitStatus, attempt.world, attempt.trace⟩ := by
  simp only [perform, h, Run.Stage.bind_apply]
  cases (Run.run (.ofConfig config) writer world).result with
  | error fault => rfl
  | ok outcome => simp [Except.map]

theorem useInto_of_read (h : Arguments.read items = .ok arguments) (world : World)
    (writer : Writer) : useInto items world writer =
      conclude (displayOf arguments world) (perform arguments writer world) := by
  rw [useInto, h]

def settled (display : Log.Display) (config : Config) (attempt : Run.Attempt Run.Outcome) :
    Session :=
  conclude display ⟨attempt.result.map config.exitStatus, attempt.world, attempt.trace⟩

theorem errors_settled_eq (display : Log.Display) (config : Config)
    (attempt : Run.Attempt Run.Outcome) :
    (settled display config attempt).errors = attempt.trace.standardError display ++
      match attempt.result with
      | .ok _ => []
      | .error fault => faultLine fault := by
  obtain ⟨result, world, trace⟩ := attempt
  cases result with
  | error fault => rfl
  | ok outcome => rfl

theorem useInto_of_base (hread : Arguments.read items = .ok arguments)
    (hbase : arguments.base world = .ok base) (writer : Writer) :
    useInto items world writer =
      settled (displayOf arguments world) (arguments.override base)
        (Run.run (.ofConfig (arguments.override base)) writer world) := by
  have hconfig : arguments.configInForce world = .ok (arguments.override base) := by
    rw [Arguments.configInForce_eq, hbase]
    rfl
  rw [useInto_of_read hread, perform_of_ok hconfig]
  rfl

theorem useInto_of_unconfigured {fault : Fault} (hread : Arguments.read items = .ok arguments)
    (hbase : arguments.base world = .error fault) (writer : Writer) :
    useInto items world writer =
      conclude (displayOf arguments world) ⟨.error fault, world, []⟩ := by
  rw [useInto_of_read hread, perform, Arguments.configInForce_eq, hbase]
  rfl

theorem useInto_of_settings?_eq_none (h : settings? items world = none) (writer : Writer) :
    (useInto items world writer).world = world ∧ (useInto items world writer).trace = [] := by
  unfold settings? at h
  unfold useInto
  split at h
  · simp [*, decline]
  · split at h
    · simp [*, conclude, perform]
    · cases h

theorem useInto_of_settings?_eq_some {settings : Settings}
    (h : settings? items world = some settings) (writer : Writer) :
    (useInto items world writer).world = (Run.run settings writer world).world ∧
      (useInto items world writer).trace = (Run.run settings writer world).trace := by
  obtain ⟨arguments, base, hread, hbase, rfl⟩ := settings?_eq_some h
  rw [useInto_of_base hread hbase]
  exact ⟨rfl, rfl⟩

end CommandLine

end Reftest
