import Reftest.Proofs.Program.Execution
import Reftest.Proofs.Program.Resolution
import Reftest.Proofs.Run.Conclusion
import Reftest.Proofs.Run.Ground

namespace Reftest

def World.withSearchPath (world : World) (searchPath : Option Octets) : World :=
  { world with environment := { world.environment with searchPath } }

namespace Program

variable {world : World} {path : Octets}

theorem launch_withSearchPath (hpath : Path.separator ∈ path) (world : World)
    (searchPath : Option Octets) (busy : Option Location) (arguments : List Octets) :
    launch (world.withSearchPath searchPath) busy path arguments =
      launch world busy path arguments := by
  have hcontains : path.contains Path.separator = true := List.contains_iff_mem.mpr hpath
  have hfiles : (world.withSearchPath searchPath).files = world.files := rfl
  simp only [launch, hcontains, if_true, launchAt_congr hfiles rfl]

theorem summon_of_directed {name : String} (h : Path.Directed (Octets.ofText name)) (world : World)
    (busy : Option Location) (arguments : List Octets) (refused : Failure → Fault) :
    summon world busy name arguments refused =
      (launch world busy (Octets.ofText name) arguments).mapError refused := by
  simp only [summon, locate_of_directed world h]

theorem summon_of_undirected {name : String} (h : Path.Undirected (Octets.ofText name))
    (hworld : world.Grounded) (busy : Option Location) (arguments : List Octets)
    (refused : Failure → Fault) :
    summon world busy name arguments refused = .error (.programNotFound name) := by
  have hresult := (leads_of_undirected hworld h).result_find
  unfold Run.find at hresult
  unfold summon
  cases hlocate : locate world (Octets.ofText name) with
  | error failure => rfl
  | ok path =>
      rw [hlocate] at hresult
      cases hresult

theorem not_directed_of_summon {asked name : String} {busy : Option Location}
    {arguments : List Octets} {refused : Failure → Fault}
    (hrefused : ∀ failure, refused failure ≠ .programNotFound name)
    (h : summon world busy asked arguments refused = .error (.programNotFound name)) :
    ¬ Path.Directed (Octets.ofText name) := by
  intro hdirected
  generalize hfault : Fault.programNotFound name = fault at h
  cases summons_of_summon h with
  | unknown hlocate =>
      cases hfault
      cases hlocate.symm.trans (locate_of_directed world hdirected)
  | refused => exact hrefused _ hfault.symm

end Program

namespace Run

variable {settings : Settings} {writer : Writer} {world : World} {harness : Execution}
  {log : Location} {files : FileTree} {failure : Failure} {name : String} {fault : Fault}

/-- A name is used as it is given.  It leads to itself and nothing is searched for; if the system
refuses it, that is told of the harness or the browser, and never that the name is not found. -/
structure UsedAsGiven (name : String) : Prop where
  leads : ∀ world, find name world = Stage.done (Octets.ofText name) world
  unsearched : ∀ world searchPath busy arguments,
    Program.launch (world.withSearchPath searchPath) busy (Octets.ofText name) arguments =
      Program.launch world busy (Octets.ofText name) arguments
  harness : ∀ {settings world log files failure} (writer : Writer), settings.harness = name →
    world.files.create world.directory settings.logFile = .ok (log, files) →
    Program.launch (world.withFiles files) (some log) (Octets.ofText name) settings.harnessLine =
      .error failure →
    (run settings writer world).result = .error (.harnessLaunch name failure)
  browser : ∀ {settings world harness failure} (writer : Writer), settings.browser = name →
    settings.openOnFailure = true → harnessRun settings world = .ok harness →
    harness.ending ≠ .exited 0 →
    Program.launch harness.after none (Octets.ofText name) settings.browserLine =
      .error failure →
    (run settings writer world).result = .error (.viewerLaunch name failure)
  told : ∀ settings writer world,
    (run settings writer world).result ≠ .error (.programNotFound name)

/-- A name is taken for a bare one, and there is no program under it anywhere. -/
structure TakenForBare (name : String) : Prop where
  leads : ∀ world, world.Grounded → (find name world).result = .error (.programNotFound name)
  harness : ∀ {settings world log files} (writer : Writer), world.Grounded →
    settings.harness = name →
    world.files.create world.directory settings.logFile = .ok (log, files) →
    (run settings writer world).result = .error (.programNotFound name)
  browser : ∀ {settings world harness} (writer : Writer), world.Grounded →
    settings.browser = name → settings.openOnFailure = true →
    harnessRun settings world = .ok harness → harness.ending ≠ .exited 0 →
    (run settings writer world).result = .error (.programNotFound name)

theorem result_run_of_unstarted (h : harnessRun settings world = .error fault) (writer : Writer) :
    (run settings writer world).result = .error fault := by
  simp only [result_run, h]

theorem result_run_of_unviewed (hharness : harnessRun settings world = .ok harness)
    (hending : harness.ending ≠ .exited 0) (hopen : settings.openOnFailure = true)
    (hbrowser : browserRun settings harness.after = .error fault) (writer : Writer) :
    (run settings writer world).result = .error fault := by
  simp only [result_run, hharness, hending, if_false, hopen, if_true, hbrowser]

theorem not_directed_of_harnessRun
    (h : harnessRun settings world = .error (.programNotFound name)) :
    ¬ Path.Directed (Octets.ofText name) := by
  unfold harnessRun at h
  split at h
  · cases h
  · exact Program.not_directed_of_summon (by simp) (map_eq_error h)

theorem not_directed_of_browserRun
    (h : browserRun settings world = .error (.programNotFound name)) :
    ¬ Path.Directed (Octets.ofText name) :=
  Program.not_directed_of_summon (by simp) (map_eq_error h)

theorem not_directed_of_run
    (h : (run settings writer world).result = .error (.programNotFound name)) :
    ¬ Path.Directed (Octets.ofText name) := by
  rw [result_run] at h
  split at h
  · rename_i hharness
    cases h
    exact not_directed_of_harnessRun hharness
  · split at h
    · split at h <;> cases h
    · split at h
      · split at h
        · rename_i hbrowser
          cases h
          exact not_directed_of_browserRun hbrowser
        · split at h <;> cases h
      · cases h

theorem usedAsGiven_of_directed (h : Path.Directed (Octets.ofText name)) : UsedAsGiven name where
  leads world := Program.find_of_directed world h
  unsearched world searchPath busy arguments :=
    Program.launch_withSearchPath
      (Program.separator_mem_of_namesDirectory (Path.namesDirectory_iff.mpr h)) world searchPath
      busy arguments
  harness writer hname hlog hlaunch := by
    subst hname
    apply result_run_of_unstarted
    simp only [harnessRun, hlog, Program.summon_of_directed h, hlaunch]
    rfl
  browser writer hname hopen hharness hending hlaunch := by
    subst hname
    apply result_run_of_unviewed hharness hending hopen
    simp only [browserRun, Program.summon_of_directed h, hlaunch]
    rfl
  told settings writer world hrun := not_directed_of_run hrun h

theorem takenForBare_of_undirected (h : Path.Undirected (Octets.ofText name)) :
    TakenForBare name where
  leads world hworld := (Program.leads_of_undirected hworld h).result_find
  harness writer hworld hname hlog := by
    subst hname
    apply result_run_of_unstarted
    simp only [harnessRun, hlog,
      Program.summon_of_undirected h (grounded_withFiles hworld hlog)]
    rfl
  browser writer hworld hname hopen hharness hending := by
    subst hname
    apply result_run_of_unviewed hharness hending hopen
    simp only [browserRun, Program.summon_of_undirected h (grounded_harness hworld hharness)]
    rfl

theorem directed_of_usedAsGiven (h : UsedAsGiven name) : Path.Directed (Octets.ofText name) := by
  apply Decidable.byContradiction
  intro hbare
  -- a bare name leads nowhere in a world without a search path
  have hunset : Program.Leads { files := .empty } name (.error (.programNotFound name)) :=
    .unset hbare rfl
  cases (congrArg Attempt.result (h.leads { files := .empty })).symm.trans hunset.result_find

/-- Of the names with a separator those are used as they are given that lead on behind one.  The
others are taken for bare names. -/
theorem separator_rule (name : String) (hseparator : Path.separator ∈ Octets.ofText name) :
    (UsedAsGiven name ↔ Path.Directed (Octets.ofText name)) ∧
      (¬ Path.Directed (Octets.ofText name) → TakenForBare name) := by
  constructor
  · exact ⟨directed_of_usedAsGiven, usedAsGiven_of_directed⟩
  · intro hbare
    exact takenForBare_of_undirected (.inr (.inr (.inr ⟨hseparator, hbare⟩)))

theorem separator_rule_dotSlash :
    Path.separator ∈ Octets.ofText "./" ∧ ¬ UsedAsGiven "./" ∧ TakenForBare "./" ∧
      (find "./" { files := .empty }).result = .error (.programNotFound "./") := by
  have hseparator : Path.separator ∈ Octets.ofText "./" := by decide
  have hbare : ¬ Path.Directed (Octets.ofText "./") := by decide
  obtain ⟨hgiven, htaken⟩ := separator_rule "./" hseparator
  exact ⟨hseparator, mt hgiven.mp hbare, htaken hbare,
    (htaken hbare).leads { files := .empty } (World.Settled.bare {} []).grounded⟩

/-- A name with nothing behind its separator is searched for, and not found. -/
theorem not_usedAsGiven_trailing :
    Path.separator ∈ Octets.ofText "sh/" ∧
      (find "sh/" { files := .empty }).result = .error (.programNotFound "sh/") ∧
      ¬ UsedAsGiven "sh/" := by
  have hresult : (find "sh/" { files := .empty }).result = .error (.programNotFound "sh/") := rfl
  refine ⟨by decide, hresult, fun h => ?_⟩
  cases (congrArg Attempt.result (h.leads { files := .empty })).symm.trans hresult

end Run

end Reftest
