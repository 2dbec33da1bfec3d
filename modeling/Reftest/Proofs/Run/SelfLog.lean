import Reftest.Proofs.Program.Busy
import Reftest.Proofs.Program.Creation
import Reftest.Proofs.Run.Log
import Reftest.Proofs.Run.Separator

/-!
A log that is the harness itself.  It is emptied before it is looked for, and still open when it is
to be run, so the system refuses it and there is no verdict; unless the system, which is given a
path without a separator, finds another program on the search path before it comes to the log.
-/

namespace Reftest

/-- Two paths lead to one place, behind any links.  There need not be anything yet. -/
def World.SamePlace (world : World) (first second : Octets) : Prop :=
  ∃ landing, world.files.find .find world.directory first = .ok landing ∧
    world.files.find .find world.directory second = .ok landing

theorem World.SamePlace.locate {world : World} {first second : Octets} {place : Location}
    {files : FileTree} (h : world.SamePlace first second)
    (hcreate : world.files.create world.directory first = .ok (place, files)) :
    files.locate world.directory second = .ok place := by
  obtain ⟨landing, hfirst, hsecond⟩ := h
  obtain ⟨-, hcreates, rfl⟩ := FileTree.create_cases hcreate
  have hsame : world.files.Creates world.directory second place := by
    cases hcreates with
    | anew hfind => exact .anew (hsecond.trans (hfirst.symm.trans hfind))
    | again hfind hfile => exact .again (hsecond.trans (hfirst.symm.trans hfind)) hfile
  exact (hsame.leads _ _).1

namespace Run

/-- A run that comes to no verdict: its harness is refused, nothing is run and nothing is written,
and an empty log is all that it leaves. -/
structure NoVerdict (settings : Settings) (writer : Writer) (world : World) (log : Location) :
    Prop where
  result : ∃ failure, (run settings writer world).result =
    .error (.harnessLaunch settings.harness failure)
  calls : (run settings writer world).trace.calls = []
  unwritten : (run settings writer world).trace.Unwritten
  leaves : (run settings writer world).world = world.withFiles
    (world.files.set log (.file (world.files.modeFor log) (.octets [])))
  read : (run settings writer world).world.read settings.logFile = .ok []

variable {settings : Settings} {world : World} {log : Location} {files : FileTree}
  {path : Octets}

theorem noVerdict_of_refused {failure : Failure}
    (hlog : world.files.create world.directory settings.logFile = .ok (log, files))
    (hharness : harnessRun settings world = .error (.harnessLaunch settings.harness failure))
    (writer : Writer) : NoVerdict settings writer world log := by
  obtain ⟨hcalls, hleaves, hread⟩ := unstarted_run hlog hharness writer
  refine ⟨⟨failure, result_run_of_unstarted hharness writer⟩, hcalls, ?_, hleaves, hread⟩
  exact unwritten_run (fun harness hok => by cases hharness.symm.trans hok) writer

theorem harnessRun_of_located
    (hlog : world.files.create world.directory settings.logFile = .ok (log, files))
    (hpath : Program.locate world (Octets.ofText settings.harness) = .ok path) :
    harnessRun settings world =
      ((Program.launch (world.withFiles files) (some log) path settings.harnessLine).mapError
        (.harnessLaunch settings.harness)).map fun launched =>
          ⟨launched, .file log, world.withFiles files⟩ := by
  have hpath := (Program.locate_create hlog (Octets.ofText settings.harness)).trans hpath
  simp only [harnessRun, hlog, Program.summon, hpath]

theorem noVerdict_iff
    (hlog : world.files.create world.directory settings.logFile = .ok (log, files))
    (hpath : Program.locate world (Octets.ofText settings.harness) = .ok path)
    (writer : Writer) :
    NoVerdict settings writer world log ↔ ∃ failure,
      Program.launch (world.withFiles files) (some log) path settings.harnessLine =
        .error failure := by
  have hharness := harnessRun_of_located hlog hpath
  constructor
  · intro h
    cases hlaunch : Program.launch (world.withFiles files) (some log) path
        settings.harnessLine with
    | error failure => exact ⟨failure, rfl⟩
    | ok launched =>
        rw [hlaunch] at hharness
        have hcalls := h.calls
        rw [calls_run, executions_of_ok hharness] at hcalls
        cases hcalls
  · rintro ⟨failure, hlaunch⟩
    rw [hlaunch] at hharness
    exact noVerdict_of_refused hlog hharness writer

/-- A log that is the harness leads to no verdict exactly if the system runs nothing but what is at
the path of the harness; it does so if there is a separator in this path, or if tildes make no
difference. -/
theorem log_over_harness
    (hlog : world.files.create world.directory settings.logFile = .ok (log, files))
    (hpath : Program.locate world (Octets.ofText settings.harness) = .ok path)
    (hsame : world.SamePlace settings.logFile path) (writer : Writer) :
    (NoVerdict settings writer world log ↔
      Program.NameRunsInPlace (world.withFiles files) (some log) settings.harness
        settings.harnessLine) ∧
    (Path.separator ∈ path ∨ Program.Plain world.environment →
      NoVerdict settings writer world log) := by
  have hbusy : (world.withFiles files).files.locate (world.withFiles files).directory path =
      .ok log := hsame.locate hlog
  have hafter := (Program.locate_create hlog (Octets.ofText settings.harness)).trans hpath
  have hiff : NoVerdict settings writer world log ↔
      Program.NameRunsInPlace (world.withFiles files) (some log) settings.harness
        settings.harnessLine := by
    rw [noVerdict_iff hlog hpath writer]
    constructor
    · rintro ⟨failure, hrefused⟩ path' hpath' launched hlaunched
      cases hafter.symm.trans hpath'
      cases hrefused.symm.trans hlaunched
    · intro hplace
      cases hlaunch : Program.launch (world.withFiles files) (some log) path
          settings.harnessLine with
      | error failure => exact ⟨failure, rfl⟩
      | ok launched =>
          exact absurd (hplace path hafter launched hlaunch)
            (Program.not_executes_of_busy hbusy launched)
  refine ⟨hiff, ?_⟩
  rintro (hseparator | hplain)
  · rw [hiff]
    intro path' hpath'
    cases hafter.symm.trans hpath'
    exact Program.runsInPlace_of_separator hseparator _ _ _
  · have hplain : Program.Plain (world.withFiles files).environment := hplain
    rw [noVerdict_iff hlog hpath writer]
    exact Program.launch_of_busy hplain (Program.leads_of_locate hafter) hbusy _

def logLinkedToHarness : World where
  files := (FileTree.empty.set [[0x6C]] (.link [0x68])).set [[0x68]]
    (.file 0o755 (.program { output := [0x41] }))

def logLinkedToHarnessSettings : Settings :=
  { Settings.ofConfig {} with harness := "./h", logFile := [0x6C] }

theorem log_over_harness_linked :
    logLinkedToHarness.SamePlace [0x6C] [0x2E, 0x2F, 0x68] ∧
      NoVerdict logLinkedToHarnessSettings {} logLinkedToHarness [[0x68]] ∧
      (run logLinkedToHarnessSettings {} logLinkedToHarness).result =
        .error (.harnessLaunch "./h" .fileBusy) := by
  have hlog : logLinkedToHarness.files.create logLinkedToHarness.directory
      logLinkedToHarnessSettings.logFile = .ok ([[0x68]], _) := rfl
  have hpath : Program.locate logLinkedToHarness
      (Octets.ofText logLinkedToHarnessSettings.harness) = .ok [0x2E, 0x2F, 0x68] := rfl
  have hsame : logLinkedToHarness.SamePlace [0x6C] [0x2E, 0x2F, 0x68] :=
    ⟨.entry [[0x68]], rfl, rfl⟩
  obtain ⟨-, hstops⟩ := log_over_harness hlog hpath hsame {}
  exact ⟨hsame, hstops (.inl (by decide)), rfl⟩

/-- The harness is a file in the working directory, which comes last on the search path.  The entry
in front of it begins with a tilde.  There is nothing for it in the home directory, but a directory
that has the tilde for its name. -/
def tildeWorld : World where
  files := (((FileTree.empty.set [[0x68]] (.file 0o755 (.octets []))).set [[0x7E]]
    .directory).set [[0x7E], [0x62]] .directory).set [[0x7E], [0x62], [0x68]]
      (.file 0o755 (.program {}))
  environment := { searchPath := some [0x7E, 0x2F, 0x62, 0x3A], home := some [0x2F, 0x6D] }

def tildeSettings : Settings :=
  { Settings.ofConfig {} with harness := "h", logFile := [0x68] }

/-- The log is the harness, but it is another program that is run and passes. -/
theorem log_overtaken_tilde :
    Program.locate tildeWorld (Octets.ofText "h") = .ok [0x68] ∧
      tildeWorld.SamePlace tildeSettings.logFile [0x68] ∧
      (tildeWorld.files.create tildeWorld.directory tildeSettings.logFile).isOk ∧
      (run tildeSettings {} tildeWorld).result = .ok .passed ∧
      (run tildeSettings {} tildeWorld).trace.calls =
        [([0x7E, 0x2F, 0x62, 0x2F, 0x68], [Octets.ofText "reftest"])] ∧
      ¬ NoVerdict tildeSettings {} tildeWorld [[0x68]] := by
  have hresult : (run tildeSettings {} tildeWorld).result = .ok .passed := by
    rw [result_run]
    rfl
  have hcalls : (run tildeSettings {} tildeWorld).trace.calls =
      [([0x7E, 0x2F, 0x62, 0x2F, 0x68], [Octets.ofText "reftest"])] := by
    rw [calls_run]
    rfl
  refine ⟨rfl, ⟨.entry [[0x68]], rfl, rfl⟩, rfl, hresult, hcalls, fun h => ?_⟩
  obtain ⟨failure, herror⟩ := h.result
  cases herror.symm.trans hresult

end Run

end Reftest
