import Reftest.Proofs.CommandLine.Session
import Reftest.Proofs.Run.Footprint
import Reftest.Proofs.Run.Log

namespace Reftest.CommandLine

open Run (Settings Writer)

variable {items : List Octets} {world : World} {place : Location}

def executions (items : List Octets) (world : World) : List Run.Execution :=
  match settings? items world with
  | none => []
  | some settings => Run.executions settings world

structure Changes (items : List Octets) (world : World) (session : Session) (place : Location) :
    Prop where
  other : session.world.files.lookup? place ≠ world.files.lookup? place
  spared : ∀ execution ∈ executions items world, execution.deleted? ≠ some place

structure Untouched (world : World) (session : Session) : Prop where
  world : session.world = world
  calls : session.trace.calls = []

/-- All that a use of the command line changes. -/
structure Footprint (items : List Octets) (world : World) (session : Session) : Prop where
  directory : session.world.directory = world.directory
  environment : session.world.environment = world.environment
  calls : session.trace.calls = (executions items world).map (·.launched.call)
  entries : ∀ place, session.world.files.lookup? place ≠ world.files.lookup? place →
    ∃ settings, settings? items world = some settings ∧
      Run.Fate settings world session.world.files place
  single : ∀ {place other}, Changes items world session place →
    Changes items world session other → place = other
  declined : ∀ {fault}, Arguments.read items = .error fault → Untouched world session
  unconfigured : ∀ {arguments fault}, Arguments.read items = .ok arguments →
    arguments.base world = .error fault → Untouched world session
  logRefused : ∀ {settings failure}, settings? items world = some settings →
    world.files.create world.directory settings.logFile = .error failure →
    Untouched world session
  unstarted : ∀ {settings log files fault}, settings? items world = some settings →
    world.files.create world.directory settings.logFile = .ok (log, files) →
    Run.harnessRun settings world = .error fault →
    session.world = world.withFiles
        (world.files.set log (.file (world.files.modeFor log) (.octets []))) ∧
      session.world.read settings.logFile = .ok [] ∧ session.trace.calls = []

theorem executions_of_none (h : settings? items world = none) : executions items world = [] := by
  simp only [executions, h]

theorem executions_of_some {settings : Settings} (h : settings? items world = some settings) :
    executions items world = Run.executions settings world := by
  simp only [executions, h]

theorem untouched_of_none (h : settings? items world = none) (writer : Writer) :
    Untouched world (useInto items world writer) := by
  obtain ⟨hworld, htrace⟩ := useInto_of_settings?_eq_none h writer
  exact ⟨hworld, by rw [htrace, Run.calls_nil]⟩

theorem surroundings_useInto (items : List Octets) (world : World) (writer : Writer) :
    (useInto items world writer).world.directory = world.directory ∧
      (useInto items world writer).world.environment = world.environment := by
  cases h : settings? items world with
  | none =>
      rw [(untouched_of_none h writer).world]
      exact ⟨rfl, rfl⟩
  | some settings =>
      rw [(useInto_of_settings?_eq_some h writer).1]
      exact Run.surroundings_run settings writer world

theorem calls_useInto (items : List Octets) (world : World) (writer : Writer) :
    (useInto items world writer).trace.calls =
      (executions items world).map (·.launched.call) := by
  cases h : settings? items world with
  | none =>
      rw [executions_of_none h]
      exact (untouched_of_none h writer).calls
  | some settings =>
      rw [executions_of_some h, (useInto_of_settings?_eq_some h writer).2]
      exact Run.calls_run settings writer world

theorem untouched_of_logRefused {settings : Settings} {failure : Failure}
    (h : settings? items world = some settings)
    (hlog : world.files.create world.directory settings.logFile = .error failure)
    (writer : Writer) : Untouched world (useInto items world writer) := by
  have hrefused := Run.harnessRun_of_logRefused hlog
  constructor
  · rw [(useInto_of_settings?_eq_some h writer).1, Run.world_run_of_error hrefused]
    simp only [Run.logged, hlog]
  · rw [calls_useInto, executions_of_some h, Run.executions_of_error hrefused, List.map_nil]

theorem logged_of_unstarted {settings : Settings} {log : Location} {files : FileTree}
    {fault : Fault} (h : settings? items world = some settings)
    (hlog : world.files.create world.directory settings.logFile = .ok (log, files))
    (hharness : Run.harnessRun settings world = .error fault) (writer : Writer) :
    (useInto items world writer).world = world.withFiles
        (world.files.set log (.file (world.files.modeFor log) (.octets []))) ∧
      (useInto items world writer).world.read settings.logFile = .ok [] ∧
      (useInto items world writer).trace.calls = [] := by
  obtain ⟨hworld, htrace⟩ := useInto_of_settings?_eq_some h writer
  obtain ⟨hcalls, hleaves, hread⟩ := Run.unstarted_run hlog hharness writer
  rw [hworld, htrace]
  exact ⟨hleaves, hread, hcalls⟩

theorem entries_useInto (writer : Writer)
    (h : (useInto items world writer).world.files.lookup? place ≠ world.files.lookup? place) :
    ∃ settings, settings? items world = some settings ∧
      Run.Fate settings world (useInto items world writer).world.files place := by
  cases hsettings : settings? items world with
  | none =>
      rw [(untouched_of_none hsettings writer).world] at h
      exact absurd rfl h
  | some settings =>
      refine ⟨settings, rfl, ?_⟩
      rw [(useInto_of_settings?_eq_some hsettings writer).1]
      exact Run.fate_run settings writer world place

theorem creates_of_changes {writer : Writer}
    (h : Changes items world (useInto items world writer) place) :
    ∃ settings, settings? items world = some settings ∧
      world.files.Creates world.directory settings.logFile place := by
  obtain ⟨settings, hsettings, hfate⟩ := entries_useInto writer h.other
  refine ⟨settings, hsettings, ?_⟩
  cases hfate with
  | kept hkept => exact absurd hkept h.other
  | logged hcreates => exact hcreates
  | deleted hmem hdeleted =>
      rw [← executions_of_some hsettings] at hmem
      exact absurd hdeleted (h.spared _ hmem)

theorem footprint_useInto (items : List Octets) (world : World) (writer : Writer) :
    Footprint items world (useInto items world writer) := by
  obtain ⟨hdirectory, henvironment⟩ := surroundings_useInto items world writer
  refine
    { directory := hdirectory
      environment := henvironment
      calls := calls_useInto items world writer
      entries := fun place h => entries_useInto writer h
      single := ?_
      declined := ?_
      unconfigured := ?_
      logRefused := fun h hlog => untouched_of_logRefused h hlog writer
      unstarted := fun h hlog hharness => logged_of_unstarted h hlog hharness writer }
  · intro place other hplace hother
    obtain ⟨settings, hsettings, hcreates⟩ := creates_of_changes hplace
    obtain ⟨settings', hsettings', hcreates'⟩ := creates_of_changes hother
    cases hsettings.symm.trans hsettings'
    exact hcreates.unique hcreates'
  · intro fault hread
    exact untouched_of_none (settings?_of_declined hread) writer
  · intro arguments fault hread hbase
    exact untouched_of_none (settings?_of_unconfigured hread hbase) writer

end Reftest.CommandLine
