import Reftest.Proofs.Program.Creation
import Reftest.Proofs.Run.Unfolding

/-!
The choice of the harness.  A run makes its log before it looks for the harness, and it could as
well look first: wherever the log comes to lie, the search goes past the same candidates to the same
program.
-/

namespace Reftest.Run

/-- A stage that comes to what it would in another world, and leaves the one at hand as it is. -/
def Stage.asIn (stage : Stage α) (other : World) : Stage α :=
  fun world => { stage other with world := world }

/-- The harness is looked for first, and started once there is a fresh log. -/
def harnessEndingLookedUpFirst (settings : Settings) : Stage Ending :=
  fun world =>
    let search := (find settings.harness).asIn world
    let course : Stage Ending := do
      let log ← createLog settings.logFile
      let program ← search
      Stage.tell .debug .runner
        ("Running " ++ program.shown ++ " " ++ Quoted.quoteList settings.harnessArguments ++ " " ++
          settings.suite ++ " > " ++ settings.logFile.shown)
      start program settings.harnessLine (.file log) (.harnessLaunch settings.harness)
    course world

/-- A log that has been made does not sway the choice of the harness. -/
structure Unswayed (settings : Settings) (world : World) (log : Location) (files : FileTree) :
    Prop where
  made : world.files.Made log files
  leads : ∀ path place, world.LeadsTo path place → (world.withFiles files).LeadsTo path place
  offers : ∀ path, (world.withFiles files).Offers path ↔ world.Offers path
  found : find settings.harness (world.withFiles files) =
    (find settings.harness).asIn world (world.withFiles files)
  ending : harnessEnding settings world = harnessEndingLookedUpFirst settings world

variable {settings : Settings} {world : World} {path : Octets} {log : Location} {files : FileTree}

theorem find_create (h : world.files.create world.directory path = .ok (log, files))
    (name : String) :
    find name (world.withFiles files) = (find name).asIn world (world.withFiles files) := by
  have hlocate := Program.locate_create h (Octets.ofText name)
  simp only [Stage.asIn, find, hlocate]
  cases Program.locate world (Octets.ofText name) with
  | error failure => rfl
  | ok program => rfl

theorem harnessEnding_eq_lookedUpFirst (settings : Settings) (world : World) :
    harnessEnding settings world = harnessEndingLookedUpFirst settings world := by
  cases hlog : world.files.create world.directory settings.logFile with
  | error failure =>
      -- without a log neither of them comes to the search
      simp only [harnessEnding, harnessEndingLookedUpFirst, Stage.bind_apply,
        createLog_of_error hlog, Stage.fail]
  | ok created =>
      obtain ⟨log, files⟩ := created
      simp only [harnessEnding, harnessEndingLookedUpFirst, Stage.bind_apply,
        createLog_of_ok hlog, Stage.done, find_create hlog]
      rfl

theorem choice_of_harness
    (hlog : world.files.create world.directory settings.logFile = .ok (log, files)) :
    Unswayed settings world log files where
  made := FileTree.made_of_create hlog
  leads _ _ hleads := World.leadsTo_create hlog hleads
  offers := World.offers_create hlog
  found := find_create hlog settings.harness
  ending := harnessEnding_eq_lookedUpFirst settings world

/-- A search path through three directories.  In the first there is a link to a name in the second,
where there is nothing yet, and in the third there is a program. -/
def threeDirectories : World where
  files := ((((FileTree.empty.set [[0x61]] .directory).set [[0x62]] .directory).set [[0x63]]
    .directory).set [[0x61], [0x68]] (.link [0x2F, 0x62, 0x2F, 0x68])).set [[0x63], [0x68]]
      (.file 0o755 (.program {}))
  environment := { searchPath := some [0x2F, 0x61, 0x3A, 0x2F, 0x62, 0x3A, 0x2F, 0x63] }

def settingsLoggingTo (path : Octets) : Settings :=
  { Settings.ofConfig {} with harness := "h", logFile := path }

/-- The log is made behind the link, under the name of the harness, or else it is the harness. -/
theorem choice_of_harness_threeDirectories :
    let behindLink := threeDirectories.files.set [[0x62], [0x68]] (.file 0o644 (.octets []))
    let overHarness := threeDirectories.files.set [[0x63], [0x68]] (.file 0o755 (.octets []))
    (threeDirectories.files.create [] [0x2F, 0x61, 0x2F, 0x68] =
        .ok ([[0x62], [0x68]], behindLink) ∧
      Unswayed (settingsLoggingTo [0x2F, 0x61, 0x2F, 0x68]) threeDirectories [[0x62], [0x68]]
        behindLink ∧
      (find "h" (threeDirectories.withFiles behindLink)).result = .ok [0x2F, 0x63, 0x2F, 0x68]) ∧
    (threeDirectories.files.create [] [0x2F, 0x63, 0x2F, 0x68] =
        .ok ([[0x63], [0x68]], overHarness) ∧
      Unswayed (settingsLoggingTo [0x2F, 0x63, 0x2F, 0x68]) threeDirectories [[0x63], [0x68]]
        overHarness ∧
      (find "h" (threeDirectories.withFiles overHarness)).result =
        .ok [0x2F, 0x63, 0x2F, 0x68]) := by
  intro behindLink overHarness
  have hfound : (find "h" threeDirectories).result = .ok [0x2F, 0x63, 0x2F, 0x68] := rfl
  have hlinked : threeDirectories.files.create threeDirectories.directory
      (settingsLoggingTo [0x2F, 0x61, 0x2F, 0x68]).logFile =
        .ok ([[0x62], [0x68]], behindLink) := rfl
  have hharness : threeDirectories.files.create threeDirectories.directory
      (settingsLoggingTo [0x2F, 0x63, 0x2F, 0x68]).logFile =
        .ok ([[0x63], [0x68]], overHarness) := rfl
  have hbehind := choice_of_harness hlinked
  have hover := choice_of_harness hharness
  exact ⟨⟨hlinked, hbehind, (congrArg Attempt.result hbehind.found).trans hfound⟩,
    ⟨hharness, hover, (congrArg Attempt.result hover.found).trans hfound⟩⟩

end Reftest.Run
