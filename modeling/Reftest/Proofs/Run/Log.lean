import Reftest.Proofs.Run.Unfolding

namespace Reftest

def World.read (world : World) (path : Octets) : Except Failure Octets :=
  world.files.read world.directory path

namespace Run

/-- A program deletes neither what a path leads to nor an entry that the path goes through. -/
def Execution.Spares (execution : Execution) (path : Octets) : Prop :=
  ∀ place, execution.deleted? = some place →
    execution.written.locate execution.world.directory path ≠ .ok place ∧
      place ∉ execution.written.route execution.world.directory path

instance (execution : Execution) (path : Octets) : Decidable (execution.Spares path) :=
  decidable_of_iff
    ((execution.deleted?.all fun place =>
      decide ((execution.written.locate execution.world.directory path).toOption ≠ some place ∧
        place ∉ execution.written.route execution.world.directory path)) = true)
    (by simp [Execution.Spares, Option.all_eq_true, toOption_eq_some])

variable {settings : Settings} {world : World} {execution : Execution} {before : FileTree}
  {path octets : Octets} {log : Location}

theorem Execution.keeps_after (hspares : execution.Spares path)
    (h : before.Keeps execution.world.directory path log octets execution.written) :
    before.Keeps execution.world.directory path log octets execution.after.files := by
  rw [files_after]
  cases hdeleted : execution.deleted? with
  | none => exact h
  | some place =>
      obtain ⟨hplace, hroute⟩ := hspares place hdeleted
      refine h.erase hroute ?_
      rintro rfl
      exact hplace h.holds.leads

/-- What a run leaves in its log: all that the harness writes, or nothing without a harness.  A
run that does not come to make its log leaves nothing behind. -/
def leavesInLog (settings : Settings) (world : World) : Option Octets :=
  match world.files.create world.directory settings.logFile with
  | .error _ => none
  | .ok _ =>
    match harnessRun settings world with
    | .error _ => some []
    | .ok harness => some harness.output

theorem keeps_of_harnessRun {harness : Execution} {files : FileTree}
    (hharness : harnessRun settings world = .ok harness)
    (hlog : world.files.create world.directory settings.logFile = .ok (log, files))
    (hspares : harness.Spares settings.logFile) :
    harness.after.directory = world.directory ∧
      world.files.Keeps world.directory settings.logFile log harness.output
        harness.after.files := by
  obtain ⟨log', files', hlog', hworld, hwritten⟩ := harnessRun_eq_ok hharness
  cases hlog.symm.trans hlog'
  have hdirectory : harness.world.directory = world.directory := by rw [hworld]; rfl
  refine ⟨hdirectory, ?_⟩
  rw [← hdirectory]
  refine Execution.keeps_after hspares ?_
  rw [hwritten, hdirectory]
  exact (FileTree.keeps_of_create hlog).append harness.output

theorem keeps_of_browserRun {browser : Execution}
    (hbrowser : browserRun settings world = .ok browser)
    (h : before.Keeps world.directory path log octets world.files)
    (hspares : browser.Spares path) :
    browser.after.directory = world.directory ∧
      before.Keeps world.directory path log octets browser.after.files := by
  obtain ⟨hworld, hwritten⟩ := browserRun_eq_ok hbrowser
  refine ⟨by rw [Execution.directory_after, hworld], ?_⟩
  rw [← hworld] at h ⊢
  refine Execution.keeps_after hspares ?_
  rw [hwritten, ← hworld]
  exact h

theorem run_of_leavesInLog_eq_none (h : leavesInLog settings world = none) (writer : Writer) :
    (run settings writer world).world = world := by
  unfold leavesInLog at h
  split at h
  · rename_i failure hlog
    rw [world_run_of_error (harnessRun_of_logRefused hlog)]
    simp only [logged, hlog]
  · split at h <;> cases h

theorem keeps_run (hspares : ∀ execution ∈ executions settings world,
      execution.Spares settings.logFile)
    (h : leavesInLog settings world = some octets) (writer : Writer) :
    ∃ log, world.files.Creates world.directory settings.logFile log ∧
      (run settings writer world).world.directory = world.directory ∧
      world.files.Keeps world.directory settings.logFile log octets
        (run settings writer world).world.files := by
  unfold leavesInLog at h
  split at h
  · cases h
  · rename_i created hlog
    obtain ⟨log, files⟩ := created
    have hkeeps := FileTree.keeps_of_create hlog
    refine ⟨log, (FileTree.create_cases hlog).2.1, ?_⟩
    split at h
    · rename_i fault hharness
      cases h
      rw [world_run_of_error hharness]
      simp only [logged, hlog]
      exact ⟨rfl, hkeeps⟩
    · rename_i harness hharness
      cases h
      obtain ⟨hdirectory, hharnessKeeps⟩ := keeps_of_harnessRun hharness hlog
        (hspares harness (harness_mem_executions hharness))
      rcases world_run_of_ok hharness writer with hrun | ⟨browser, hmem, hbrowser, hrun⟩
      · rw [hrun]
        exact ⟨hdirectory, hharnessKeeps⟩
      · rw [← hdirectory] at hharnessKeeps ⊢
        rw [hrun]
        exact keeps_of_browserRun hbrowser hharnessKeeps (hspares browser hmem)

/-- A run in which no program is run: an empty log is all that it leaves. -/
structure Unstarted (settings : Settings) (writer : Writer) (world : World) (log : Location) :
    Prop where
  calls : (run settings writer world).trace.calls = []
  leaves : (run settings writer world).world = world.withFiles
    (world.files.set log (.file (world.files.modeFor log) (.octets [])))
  read : (run settings writer world).world.read settings.logFile = .ok []

theorem unstarted_run {files : FileTree} {fault : Fault}
    (hlog : world.files.create world.directory settings.logFile = .ok (log, files))
    (hharness : harnessRun settings world = .error fault) (writer : Writer) :
    Unstarted settings writer world log := by
  have hworld := world_run_of_error hharness writer
  simp only [logged, hlog] at hworld
  refine ⟨?_, ?_, ?_⟩
  · rw [calls_run, executions_of_error hharness, List.map_nil]
  · rw [hworld, (FileTree.create_cases hlog).2.2]
  · rw [hworld]
    exact (FileTree.keeps_of_create hlog).holds.read

end Run

end Reftest
