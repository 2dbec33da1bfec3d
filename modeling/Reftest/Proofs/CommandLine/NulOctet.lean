import Reftest.Proofs.CommandLine.Loading
import Reftest.Proofs.Program.Creation
import Reftest.Proofs.Run.Log
import Reftest.Proofs.Run.Separator

namespace Reftest

namespace Path

theorem hasNul_iff {path : Octets} : hasNul path = true ↔ 0 ∈ path :=
  List.contains_iff_mem

theorem mem_join {octet : UInt8} {path : Octets} (h : octet ∈ path) (base : Octets) :
    octet ∈ join base path := by
  unfold join
  split
  · exact h
  · split
    · exact List.mem_append_right base h
    · exact List.mem_append_right base (List.mem_cons_of_mem separator h)

end Path

namespace World

theorem not_offers_of_nul {world : World} {path : Octets} (h : 0 ∈ path) : ¬ world.Offers path := by
  rintro ⟨hplain, -⟩
  rw [Path.hasNul_iff.mpr h] at hplain
  cases hplain

end World

namespace Program

variable {world : World} {name : String} {arguments : List Octets} {busy : Option Location}
  {refused : Failure → Fault}

/-- A name is one to be looked for along the search path, and it has a NUL in it or there is no
program under it. -/
structure Missed (world : World) (name : Octets) : Prop where
  bare : ¬ Path.Directed name
  missing : 0 ∈ name ∨ ∀ searchPath directories,
    world.environment.searchPath = some searchPath →
    Directories world.environment searchPath directories →
    ∀ directory ∈ directories, ¬ world.Offers (Path.join directory name)

/-- The fault that a NUL leads to, in a name or in what is given to the program of this name. -/
inductive NulFault (world : World) (name : String) (refused : Failure → Fault) : Fault → Prop
  | missed (h : Missed world (Octets.ofText name)) :
      NulFault world name refused (.programNotFound name)
  | refused (h : ¬ Missed world (Octets.ofText name)) :
      NulFault world name refused (refused .nulInCommand)

theorem Missed.leads (h : Missed world (Octets.ofText name)) :
    Leads world name (.error (.programNotFound name)) := by
  cases hsearch : world.environment.searchPath with
  | none => exact .unset h.bare hsearch
  | some searchPath =>
      have hdirectories : Directories world.environment searchPath _ := directories_iff.mpr rfl
      refine .missing h.bare hsearch hdirectories fun directory hdirectory => ?_
      rcases h.missing with hnul | hmissing
      · exact World.not_offers_of_nul (Path.mem_join hnul directory)
      · exact hmissing searchPath _ hsearch hdirectories directory hdirectory

theorem missed_of_locate_error {failure : SearchFailure}
    (h : locate world (Octets.ofText name) = .error failure) :
    Missed world (Octets.ofText name) := by
  have hleads := leads_find name world
  unfold Run.find at hleads
  rw [h] at hleads
  cases hleads with
  | unset hbare hsearch =>
      exact ⟨hbare, .inr fun searchPath _ hsome => nomatch hsearch.symm.trans hsome⟩
  | missing hbare hsearch hdirectories hmissing =>
      refine ⟨hbare, .inr fun searchPath others hsome hothers => ?_⟩
      cases hsearch.symm.trans hsome
      rw [← directories_iff.mp hothers, directories_iff.mp hdirectories]
      exact hmissing

theorem not_missed_of_locate {path : Octets} (h : locate world (Octets.ofText name) = .ok path) :
    ¬ Missed world (Octets.ofText name) := by
  intro hmissed
  have hresult := hmissed.leads.result_find
  unfold Run.find at hresult
  rw [h] at hresult
  cases hresult

theorem nul_mem_of_locate {path : Octets} (h : locate world (Octets.ofText name) = .ok path)
    (hnul : 0 ∈ Octets.ofText name) : 0 ∈ path := by
  cases leads_of_locate h with
  | given => exact hnul
  | found hbare _ _ hfound =>
      obtain ⟨_, directory, _, _, rfl, hoffers, -⟩ := hfound
      exact Path.mem_join hnul directory

theorem launch_of_nul {path : Octets} (h : 0 ∈ path ∨ ∃ argument ∈ arguments, 0 ∈ argument)
    (world : World) (busy : Option Location) :
    launch world busy path arguments = .error .nulInCommand := by
  have hnul : (Path.hasNul path || arguments.any Path.hasNul) = true := by
    rw [Bool.or_eq_true, List.any_eq_true, Path.hasNul_iff]
    simpa only [Path.hasNul_iff] using h
  rw [launch, if_pos hnul]

theorem summon_of_nul (h : 0 ∈ Octets.ofText name ∨ ∃ argument ∈ arguments, 0 ∈ argument)
    (world : World) (busy : Option Location) (refused : Failure → Fault) :
    ∃ fault, NulFault world name refused fault ∧
      summon world busy name arguments refused = .error fault := by
  unfold summon
  cases hlocate : locate world (Octets.ofText name) with
  | error failure => exact ⟨_, .missed (missed_of_locate_error hlocate), rfl⟩
  | ok path =>
      have hlaunch : launch world busy path arguments = .error .nulInCommand :=
        launch_of_nul (h.imp_left (nul_mem_of_locate hlocate)) world busy
      refine ⟨_, .refused (not_missed_of_locate hlocate), ?_⟩
      simp only [hlaunch]
      rfl

theorem Missed.congr {other : World} {octets : Octets}
    (henvironment : other.environment = world.environment)
    (hoffers : ∀ path, other.Offers path → world.Offers path) (h : Missed world octets) :
    Missed other octets := by
  refine ⟨h.bare, h.missing.imp_right fun hmissing => ?_⟩
  rw [henvironment]
  intro searchPath directories hsearch hdirectories directory hdirectory hoffered
  exact hmissing searchPath directories hsearch hdirectories directory hdirectory
    (hoffers _ hoffered)

theorem missed_create {log : Location} {files : FileTree} {path octets : Octets}
    (h : world.files.create world.directory path = .ok (log, files)) :
    Missed (world.withFiles files) octets ↔ Missed world octets :=
  ⟨.congr rfl fun other => (World.offers_create h other).mpr,
    .congr rfl fun other => (World.offers_create h other).mp⟩

end Program

namespace Run

variable {settings : Settings} {world : World} {harness : Execution} {log : Location}
  {files : FileTree}

namespace Settings

def HarnessNul (settings : Settings) : Prop :=
  0 ∈ Octets.ofText settings.harness ∨
    (∃ argument ∈ settings.harnessArguments, 0 ∈ Octets.ofText argument) ∨
    0 ∈ Octets.ofText settings.suite

def BrowserNul (settings : Settings) : Prop :=
  0 ∈ Octets.ofText settings.browser ∨
    (∃ argument ∈ settings.browserArguments, 0 ∈ Octets.ofText argument) ∨
    0 ∈ Octets.ofText settings.analyzerPage

theorem HarnessNul.line (h : settings.HarnessNul) :
    0 ∈ Octets.ofText settings.harness ∨ ∃ argument ∈ settings.harnessLine, 0 ∈ argument := by
  rcases h with hname | ⟨argument, hmem, hargument⟩ | hsuite
  · exact .inl hname
  · exact .inr ⟨_, List.mem_append_left _ (List.mem_map_of_mem hmem), hargument⟩
  · exact .inr ⟨_, List.mem_append_right _ (List.mem_singleton_self _), hsuite⟩

theorem BrowserNul.line (h : settings.BrowserNul) :
    0 ∈ Octets.ofText settings.browser ∨ ∃ argument ∈ settings.browserLine, 0 ∈ argument := by
  rcases h with hname | ⟨argument, hmem, hargument⟩ | hpage
  · exact .inl hname
  · exact .inr ⟨_, List.mem_append_left _ (List.mem_map_of_mem hmem), hargument⟩
  · refine .inr ⟨_, List.mem_append_right _ (List.mem_singleton_self _), ?_⟩
    simp only [address, Run.address, Octets.ofText_append]
    exact List.mem_append_left _ (List.mem_append_left _ hpage)

end Settings

theorem create_of_nul (h : 0 ∈ settings.logFile) (world : World) :
    world.files.create world.directory settings.logFile = .error .nulInPath :=
  if_pos (Path.hasNul_iff.mpr h)

theorem harnessRun_of_nul (h : settings.HarnessNul)
    (hlog : world.files.create world.directory settings.logFile = .ok (log, files)) :
    ∃ fault, Program.NulFault world settings.harness (.harnessLaunch settings.harness) fault ∧
      harnessRun settings world = .error fault := by
  obtain ⟨fault, hfault, hsummon⟩ := Program.summon_of_nul h.line (world.withFiles files)
    (some log) (.harnessLaunch settings.harness)
  refine ⟨fault, ?_, by simp only [harnessRun, hlog, hsummon]; rfl⟩
  cases hfault with
  | missed hmissed => exact .missed ((Program.missed_create hlog).mp hmissed)
  | refused hfound => exact .refused (mt (Program.missed_create hlog).mpr hfound)

theorem browserRun_of_nul (h : settings.BrowserNul) (world : World) :
    ∃ fault, Program.NulFault world settings.browser (.viewerLaunch settings.browser) fault ∧
      browserRun settings world = .error fault := by
  obtain ⟨fault, hfault, hsummon⟩ :=
    Program.summon_of_nul h.line world none (.viewerLaunch settings.browser)
  exact ⟨fault, hfault, by simp only [browserRun, hsummon]; rfl⟩

end Run

namespace CommandLine

open Run (Settings Writer)

variable {items : List Octets} {arguments : Arguments} {path : Octets}

def missingConfig (path : Octets) : Fault :=
  .config ("config file '" ++ path.shown ++ "' does not exist")

/-- What a NUL leads to wherever it stands.  What it stands in is neither run nor read nor made, and
what comes before has been done. -/
structure Uncut (world : World) (writer : Writer) : Prop where
  log : ∀ {settings : Settings}, 0 ∈ settings.logFile →
    Run.run settings writer world = ⟨.error (.logFile settings.logFile .nulInPath), world, []⟩
  harness : ∀ {settings : Settings} {log files}, settings.HarnessNul →
    world.files.create world.directory settings.logFile = .ok (log, files) →
    Run.Unstarted settings writer world log ∧
      ∃ fault, Program.NulFault world settings.harness (.harnessLaunch settings.harness) fault ∧
        (Run.run settings writer world).result = .error fault
  browser : ∀ {settings : Settings} {harness}, settings.BrowserNul →
    Run.harnessRun settings world = .ok harness → harness.ending ≠ .exited 0 →
    settings.openOnFailure = true →
    (Run.run settings writer world).trace.calls = [harness.launched.call] ∧
      ∃ fault, Program.NulFault harness.after settings.browser (.viewerLaunch settings.browser)
          fault ∧
        (Run.run settings writer world).result = .error fault
  config : ∀ {path}, 0 ∈ path → Config.ofFile world path = .error (missingConfig path)
  chosen : ∀ {items arguments path}, Arguments.read items = .ok arguments →
    arguments.config = some path → 0 ∈ path →
    useInto items world writer =
      { status := 1, world, trace := [], output := []
        errors := Octets.ofText ("Error: " ++ (missingConfig path).message ++ "\n") }

theorem ofFile_of_nul (h : 0 ∈ path) (world : World) :
    Config.ofFile world path = .error (missingConfig path) := by
  refine Config.ofFile_of_nowhere fun place hleads => ?_
  have hplain := hleads.plain
  rw [Path.hasNul_iff.mpr h] at hplain
  cases hplain

theorem useInto_of_nul (hread : Arguments.read items = .ok arguments)
    (hpath : arguments.config = some path) (h : 0 ∈ path) (world : World) (writer : Writer) :
    useInto items world writer =
      { status := 1, world, trace := [], output := []
        errors := Octets.ofText ("Error: " ++ (missingConfig path).message ++ "\n") } := by
  have hbase : arguments.base world = .error (missingConfig path) := by
    simp only [Arguments.base, hpath, ofFile_of_nul h]
  rw [useInto_of_unconfigured hread hbase]
  rfl

/-- A NUL never cuts a name or an argument short. -/
theorem uncut_useInto (world : World) (writer : Writer) : Uncut world writer where
  log hlog := Run.run_of_logRefused (Run.create_of_nul hlog world) writer
  harness hnul hlog := by
    obtain ⟨fault, hfault, hharness⟩ := Run.harnessRun_of_nul hnul hlog
    exact ⟨Run.unstarted_run hlog hharness writer, fault, hfault,
      Run.result_run_of_unstarted hharness writer⟩
  browser hnul hharness hending hopen := by
    obtain ⟨fault, hfault, hbrowser⟩ := Run.browserRun_of_nul hnul _
    refine ⟨?_, fault, hfault,
      Run.result_run_of_unviewed hharness hending hopen hbrowser writer⟩
    rw [Run.calls_run, Run.executions_of_unviewed hharness hbrowser]
    rfl
  config hnul := ofFile_of_nul hnul world
  chosen hread hpath hnul := useInto_of_nul hread hpath hnul world writer

def nulWorld : World where
  files := FileTree.empty.set [Octets.ofText "h"] (.file 0o755 (.program {}))

theorem uncut_useInto_harness :
    let settings : Settings := { Settings.ofConfig {} with harness := "./h\x00" }
    (Run.run settings {} nulWorld).result = .error (.harnessLaunch "./h\x00" .nulInCommand) ∧
      (Run.run settings {} nulWorld).trace.calls = [] := by
  intro settings
  have hnul : settings.HarnessNul := .inl (by decide)
  obtain ⟨hunstarted, fault, hfault, hresult⟩ := (uncut_useInto nulWorld {}).harness hnul rfl
  refine ⟨?_, hunstarted.calls⟩
  cases hfault with
  | missed hmissed => exact absurd (by decide) hmissed.bare
  | refused => exact hresult

end CommandLine

end Reftest
