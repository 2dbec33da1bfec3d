import Reftest.Proofs.Run.Unfolding

namespace Reftest.Run

variable {settings : Settings} {world : World} {place : Location} {current after : FileTree}

inductive Fate (settings : Settings) (world : World) (current : FileTree) (place : Location) : Prop
  | kept (h : current.lookup? place = world.files.lookup? place)
  | logged {octets : Octets}
      (hcreates : world.files.Creates world.directory settings.logFile place)
      (h : current.lookup? place = some (.file (world.files.modeFor place) (.octets octets)))
  | deleted {execution : Execution} (hmem : execution ∈ executions settings world)
      (hdeleted : execution.deleted? = some place) (h : current.lookup? place = none)

theorem Fate.congr (h : after.lookup? place = current.lookup? place)
    (hfate : Fate settings world current place) : Fate settings world after place := by
  cases hfate with
  | kept hkept => exact .kept (h.trans hkept)
  | logged hcreates hlogged => exact .logged hcreates (h.trans hlogged)
  | deleted hmem hdeleted hnone => exact .deleted hmem hdeleted (h.trans hnone)

theorem fate_set {log : Location}
    (hcreates : world.files.Creates world.directory settings.logFile log) (octets : Octets)
    (place : Location) :
    Fate settings world
      (world.files.set log (.file (world.files.modeFor log) (.octets octets))) place := by
  by_cases hplace : place = log
  · subst hplace
    exact .logged hcreates (FileTree.lookup?_set_self _ _ _)
  · exact .kept (FileTree.lookup?_set_of_ne _ _ hplace)

theorem fate_after {execution : Execution} (hmem : execution ∈ executions settings world)
    (hwritten : Fate settings world execution.written place) :
    Fate settings world execution.after.files place := by
  by_cases hdeleted : execution.deleted? = some place
  · exact .deleted hmem hdeleted (execution.lookup?_after_deleted hdeleted)
  · exact hwritten.congr (execution.lookup?_after_of_not_deleted hdeleted)

theorem fate_run (settings : Settings) (writer : Writer) (world : World) (place : Location) :
    Fate settings world (run settings writer world).world.files place := by
  cases hharness : harnessRun settings world with
  | error fault =>
      rw [world_run_of_error hharness]
      cases hlog : world.files.create world.directory settings.logFile with
      | error failure =>
          simp only [logged, hlog]
          exact .kept rfl
      | ok created =>
          obtain ⟨log, files⟩ := created
          obtain ⟨-, hcreates, rfl⟩ := FileTree.create_cases hlog
          simp only [logged, hlog]
          exact fate_set hcreates [] place
  | ok harness =>
      obtain ⟨log, files, hlog, -, hwritten⟩ := harnessRun_eq_ok hharness
      obtain ⟨-, hcreates, rfl⟩ := FileTree.create_cases hlog
      rw [FileTree.append_of_octets (FileTree.lookup?_set_self _ _ _), FileTree.set_set,
        List.nil_append] at hwritten
      have hafter : Fate settings world harness.after.files place := by
        refine fate_after (harness_mem_executions hharness) ?_
        rw [hwritten]
        exact fate_set hcreates harness.output place
      rcases world_run_of_ok hharness writer with hrun | ⟨browser, hmem, hbrowser, hrun⟩
      · rw [hrun]
        exact hafter
      · rw [hrun]
        -- the browser deletes, but it writes to no file
        refine fate_after hmem ?_
        rw [(browserRun_eq_ok hbrowser).2]
        exact hafter

theorem surroundings_run (settings : Settings) (writer : Writer) (world : World) :
    (run settings writer world).world.directory = world.directory ∧
      (run settings writer world).world.environment = world.environment := by
  apply run_invariant
    (P := fun current => current.directory = world.directory ∧
      current.environment = world.environment)
  · unfold logged
    split <;> exact ⟨rfl, rfl⟩
  · intro execution _ h
    simpa using h

end Reftest.Run
