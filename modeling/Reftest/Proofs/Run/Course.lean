import Reftest.Proofs.Run.Unfolding

/-!
The courses that a run can take.  It asks for the harness and perhaps for the browser, each by its
name, and what becomes of these wishes determines what the run shows to the outside.
-/

namespace Reftest.Run

open Program (Answers)

/-- What a run shows to the outside: its result, the programs that were run one after the other,
and what the writer took. -/
structure Account where
  result : Except Fault Outcome
  calls : List (Octets × List Octets)
  verdict : Octets

def Attempt.account (attempt : Attempt Outcome) : Account where
  result := attempt.result
  calls := attempt.trace.calls
  verdict := attempt.trace.verdict

def worldAfter (launched : Program.Launch) (log : Location) (world : World) : World :=
  (execute launched (.file log) world).world

/-- What follows a harness that has failed, in the world that it left behind. -/
inductive Reaction (settings : Settings) (world : World) (code : Option Nat) :
    Except Fault Outcome → List (Octets × List Octets) → Prop
  | unopened (hclosed : settings.openOnFailure = false) :
      Reaction settings world code (.ok (.failed code)) []
  | unknown (hopen : settings.openOnFailure = true)
      (hbrowser : Answers world none settings.browser settings.browserLine .unknown) :
      Reaction settings world code (.error (.programNotFound settings.browser)) []
  | refused {failure : Failure} (hopen : settings.openOnFailure = true)
      (hbrowser : Answers world none settings.browser settings.browserLine (.refused failure)) :
      Reaction settings world code (.error (.viewerLaunch settings.browser failure)) []
  | failed {launched : Program.Launch} (hopen : settings.openOnFailure = true)
      (hbrowser : Answers world none settings.browser settings.browserLine (.executed launched))
      (hending : launched.behaviour.ending ≠ .exited 0) :
      Reaction settings world code
        (.error (.viewerFailed settings.browser
          (launched.behaviour.ending.code.map Int.ofNat)))
        [launched.call]
  | viewed {launched : Program.Launch} (hopen : settings.openOnFailure = true)
      (hbrowser : Answers world none settings.browser settings.browserLine (.executed launched))
      (hending : launched.behaviour.ending = .exited 0) :
      Reaction settings world code (.ok (.failureViewed code)) [launched.call]

/-- What a run shows to the outside, by what becomes of its log, its harness and its browser. -/
inductive Course (settings : Settings) (writer : Writer) (world : World) : Account → Prop
  | logRefused {failure : Failure}
      (hlog : world.files.create world.directory settings.logFile = .error failure) :
      Course settings writer world ⟨.error (.logFile settings.logFile failure), [], []⟩
  | unknown {log : Location} {files : FileTree}
      (hlog : world.files.create world.directory settings.logFile = .ok (log, files))
      (hharness : Answers (world.withFiles files) (some log) settings.harness
        settings.harnessLine .unknown) :
      Course settings writer world ⟨.error (.programNotFound settings.harness), [], []⟩
  | refused {log : Location} {files : FileTree} {failure : Failure}
      (hlog : world.files.create world.directory settings.logFile = .ok (log, files))
      (hharness : Answers (world.withFiles files) (some log) settings.harness
        settings.harnessLine (.refused failure)) :
      Course settings writer world ⟨.error (.harnessLaunch settings.harness failure), [], []⟩
  | passed {log : Location} {files : FileTree} {launched : Program.Launch}
      (hlog : world.files.create world.directory settings.logFile = .ok (log, files))
      (hharness : Answers (world.withFiles files) (some log) settings.harness
        settings.harnessLine (.executed launched))
      (hending : launched.behaviour.ending = .exited 0)
      (hwriter : writer.obstacle? = none) :
      Course settings writer world ⟨.ok .passed, [launched.call], message⟩
  | unannounced {log : Location} {files : FileTree} {launched : Program.Launch}
      {failure : Failure}
      (hlog : world.files.create world.directory settings.logFile = .ok (log, files))
      (hharness : Answers (world.withFiles files) (some log) settings.harness
        settings.harnessLine (.executed launched))
      (hending : launched.behaviour.ending = .exited 0)
      (hwriter : writer.obstacle? = some failure) :
      Course settings writer world ⟨.error (.io failure), [launched.call], writer.received⟩
  | failed {log : Location} {files : FileTree} {launched : Program.Launch}
      {result : Except Fault Outcome} {calls : List (Octets × List Octets)}
      (hlog : world.files.create world.directory settings.logFile = .ok (log, files))
      (hharness : Answers (world.withFiles files) (some log) settings.harness
        settings.harnessLine (.executed launched))
      (hending : launched.behaviour.ending ≠ .exited 0)
      (hreaction : Reaction settings (worldAfter launched log (world.withFiles files))
        launched.behaviour.ending.code result calls) :
      Course settings writer world ⟨result, launched.call :: calls, []⟩

/-- The system runs the files at the paths that the names of the harness and of the browser lead
to, as far as the run comes to ask for them. -/
structure RunsWhatItFinds (settings : Settings) (world : World) : Prop where
  harness : ∀ {log files},
    world.files.create world.directory settings.logFile = .ok (log, files) →
    Program.NameRunsInPlace (world.withFiles files) (some log) settings.harness
      settings.harnessLine
  browser : ∀ {log files path launched},
    world.files.create world.directory settings.logFile = .ok (log, files) →
    Program.locate (world.withFiles files) (Octets.ofText settings.harness) = .ok path →
    Program.launch (world.withFiles files) (some log) path settings.harnessLine =
      .ok launched →
    launched.behaviour.ending ≠ .exited 0 → settings.openOnFailure = true →
    Program.NameRunsInPlace (worldAfter launched log (world.withFiles files)) none
      settings.browser settings.browserLine

theorem runsWhatItFinds_of_entries (settings : Settings) {world : World}
    (hentries : ∀ searchPath, world.environment.searchPath = some searchPath →
      [] ∉ Program.entries (Program.tildeHome world.environment) searchPath) :
    RunsWhatItFinds settings world where
  harness {_ files} _ :=
    Program.nameRunsInPlace_of_entries (world.withFiles files) hentries _ _ _
  browser {log files _ launched} _ _ _ _ _ :=
    Program.nameRunsInPlace_of_entries
      (worldAfter launched log (world.withFiles files)) hentries _ _ _

section

variable {world : World} {busy : Option Location} {name : String} {arguments : List Octets}
  {refused : Failure → Fault}

theorem answers_of_summon {launched : Program.Launch}
    (hplace : Program.NameRunsInPlace world busy name arguments)
    (h : Program.summon world busy name arguments refused = .ok launched) :
    Answers world busy name arguments (.executed launched) := by
  cases Program.summons_of_summon h with
  | run hlocate hlaunch => exact .executed hlocate hlaunch (hplace _ hlocate _ hlaunch)

theorem answers_of_summon_error {fault : Fault}
    (h : Program.summon world busy name arguments refused = .error fault) :
    (Answers world busy name arguments .unknown ∧ fault = .programNotFound name) ∨
      ∃ failure, Answers world busy name arguments (.refused failure) ∧
        fault = refused failure := by
  cases Program.summons_of_summon h with
  | unknown hlocate => exact .inl ⟨.unknown hlocate, rfl⟩
  | refused hlocate hlaunch => exact .inr ⟨_, .refused hlocate hlaunch, rfl⟩

end

variable {settings : Settings} {world : World} {harness browser : Execution} {fault : Fault}

theorem answers_of_harnessRun (h : RunsWhatItFinds settings world)
    (hharness : harnessRun settings world = .ok harness) :
    ∃ log files, world.files.create world.directory settings.logFile = .ok (log, files) ∧
      Answers (world.withFiles files) (some log) settings.harness settings.harnessLine
        (.executed harness.launched) ∧
      harness.after = worldAfter harness.launched log (world.withFiles files) := by
  unfold harnessRun at hharness
  split at hharness
  · cases hharness
  · rename_i log files hlog
    obtain ⟨launched, hsummon, rfl⟩ := map_eq_ok hharness
    exact ⟨log, files, hlog, answers_of_summon (h.harness hlog) hsummon, rfl⟩

theorem answers_of_browserRun {log : Location} {files : FileTree}
    {launched : Program.Launch} (h : RunsWhatItFinds settings world)
    (hlog : world.files.create world.directory settings.logFile = .ok (log, files))
    (hharness : Answers (world.withFiles files) (some log) settings.harness settings.harnessLine
      (.executed launched))
    (hending : launched.behaviour.ending ≠ .exited 0) (hopen : settings.openOnFailure = true)
    (hbrowser : browserRun settings (worldAfter launched log (world.withFiles files)) =
      .ok browser) :
    Answers (worldAfter launched log (world.withFiles files)) none settings.browser
      settings.browserLine (.executed browser.launched) := by
  cases hharness with
  | executed hlocate hlaunch =>
      obtain ⟨viewer, hsummon, rfl⟩ := map_eq_ok hbrowser
      exact answers_of_summon (h.browser hlog hlocate hlaunch hending hopen) hsummon

theorem course_run (settings : Settings) (writer : Writer) (world : World)
    (h : RunsWhatItFinds settings world) :
    Course settings writer world (run settings writer world).account := by
  have hrun := unfolds_run settings writer world
  unfold Attempt.account
  generalize run settings writer world = attempt at hrun ⊢
  cases hrun with
  | logRefused hlog => exact .logRefused hlog
  | unstarted hlog hharness =>
      simp only [harnessRun, hlog] at hharness
      rcases answers_of_summon_error (map_eq_error hharness) with
        ⟨hunknown, rfl⟩ | ⟨failure, hrefused, rfl⟩
      · exact .unknown hlog hunknown
      · exact .refused hlog hrefused
  | @announced harness _ hharness _ hending =>
      obtain ⟨log, files, hlog, hanswer, -⟩ := answers_of_harnessRun h hharness
      obtain ⟨-, hverdict⟩ := announce_eq writer harness.after
      rw [Execution.calls_behind, Execution.verdict_behind, calls_cons_event, calls_announce,
        verdict_cons_event, hverdict]
      cases hwriter : writer.obstacle? with
      | none =>
          rw [Writer.received_of_obstacle?_eq_none hwriter]
          exact .passed hlog hanswer hending hwriter
      | some failure => exact .unannounced hlog hanswer hending hwriter
  | unopened hharness _ hending hclosed =>
      obtain ⟨log, files, hlog, hanswer, -⟩ := answers_of_harnessRun h hharness
      rw [Execution.calls_behind, Execution.verdict_behind]
      exact .failed hlog hanswer hending (.unopened hclosed)
  | unviewed hharness _ hending hopen _ hbrowser =>
      obtain ⟨log, files, hlog, hanswer, hafter⟩ := answers_of_harnessRun h hharness
      rw [Execution.calls_behind, Execution.verdict_behind]
      rw [hafter] at hbrowser
      rcases answers_of_summon_error (map_eq_error hbrowser) with
        ⟨hunknown, rfl⟩ | ⟨failure, hrefused, rfl⟩
      · exact .failed hlog hanswer hending (.unknown hopen hunknown)
      · exact .failed hlog hanswer hending (.refused hopen hrefused)
  | @opened harness browser _ _ _ hharness _ hending hopen _ hbrowser =>
      obtain ⟨log, files, hlog, hanswer, hafter⟩ := answers_of_harnessRun h hharness
      rw [Execution.calls_behind, Execution.verdict_behind, calls_cons_event, calls_cons_event,
        Execution.calls_attempt, verdict_cons_event, verdict_cons_event,
        Execution.verdict_attempt]
      have hviewer := answers_of_browserRun h hlog hanswer hending hopen (hafter ▸ hbrowser)
      refine .failed hlog hanswer hending ?_
      by_cases hviewed : browser.ending = .exited 0
      · rw [if_pos ((Ending.succeeded_iff _).mpr hviewed)]
        exact .viewed hopen hviewer hviewed
      · rw [if_neg (mt (Ending.succeeded_iff _).mp hviewed)]
        exact .failed hopen hviewer hviewed

/-! A course tells what was met, whatever the account that goes with it. -/

theorem runsWhatItFinds_of_course {settings : Settings} {writer : Writer} {world : World}
    {account : Account} (h : Course settings writer world account) :
    RunsWhatItFinds settings world := by
  constructor
  · intro log files hcreate
    cases h with
    | logRefused hlog => cases hlog.symm.trans hcreate
    | unknown hlog hharness
    | refused hlog hharness
    | passed hlog hharness
    | unannounced hlog hharness
    | failed hlog hharness =>
        cases hlog.symm.trans hcreate
        exact Program.nameRunsInPlace_of_answers hharness
  · intro log files path launched hcreate hlocate hlaunch hending hopen
    cases h with
    | logRefused hlog => cases hlog.symm.trans hcreate
    | unknown hlog hharness
    | refused hlog hharness =>
        cases hlog.symm.trans hcreate
        cases Program.answer_of_launch hharness hlocate hlaunch
    | passed hlog hharness hpassed
    | unannounced hlog hharness hpassed =>
        cases hlog.symm.trans hcreate
        cases Program.answer_of_launch hharness hlocate hlaunch
        exact absurd hpassed hending
    | failed hlog hharness hfailed hreaction =>
        cases hlog.symm.trans hcreate
        cases Program.answer_of_launch hharness hlocate hlaunch
        cases hreaction with
        | unopened hclosed => cases hclosed.symm.trans hopen
        | unknown _ hbrowser
        | refused _ hbrowser
        | failed _ hbrowser
        | viewed _ hbrowser =>
            exact Program.nameRunsInPlace_of_answers hbrowser

/-- A run takes its course, every program being run at the path that its name leads to, exactly if
the system runs what is found there. -/
theorem run_takes_course_iff (settings : Settings) (writer : Writer) (world : World) :
    Course settings writer world (run settings writer world).account ↔
      RunsWhatItFinds settings world :=
  ⟨runsWhatItFinds_of_course, course_run settings writer world⟩

/-- A script without its interpreter in the working directory, which the search path names first,
and a program of the same name in the directory that it names next. -/
def brokenScriptWorld : World where
  files := ((FileTree.empty.set [[0x68]] (.file 0o755 (.octets [0x23, 0x21, 0x69, 0x0A]))).set
    [[0x62]] .directory).set [[0x62], [0x68]] (.file 0o755 (.program { ending := .exited 1 }))
  environment := { searchPath := some [0x3A, 0x2F, 0x62] }

def brokenScriptSettings : Settings :=
  { Settings.ofConfig {} with harness := "h", logFile := [0x6C], openOnFailure := false }

def brokenScriptWorldLogged : World :=
  brokenScriptWorld.withFiles
    (brokenScriptWorld.files.set [[0x6C]] (.file FileTree.newMode (.octets [])))

theorem not_executes_brokenScript (arguments : List Octets) (launched : Program.Launch) :
    ¬ Program.Executes brokenScriptWorldLogged (some [[0x6C]]) [0x68] arguments launched := by
  have hcontent : Program.content brokenScriptWorldLogged (some [[0x6C]]) [0x68] =
      .ok (.octets [0x23, 0x21, 0x69, 0x0A]) := rfl
  have hread : Script.read? [0x23, 0x21, 0x69, 0x0A] = some ⟨[0x69], none⟩ := rfl
  have hnone : Program.content brokenScriptWorldLogged (some [[0x6C]]) [0x69] =
      .error .noEntry := rfl
  intro h
  cases h with
  | program h => cases hcontent.symm.trans h
  | script h hscript hinterpreter =>
      cases hcontent.symm.trans h
      cases hread.symm.trans hscript
      cases hinterpreter with
      | program h => cases hnone.symm.trans h
      | script h => cases hnone.symm.trans h

/-- The name leads to the script, but the program is run in its place. -/
theorem run_leaves_course_brokenScript :
    (run brokenScriptSettings {} brokenScriptWorld).account.calls =
        [([0x2F, 0x62, 0x2F, 0x68], [Octets.ofText "reftest"])] ∧
      ¬ Course brokenScriptSettings {} brokenScriptWorld
        (run brokenScriptSettings {} brokenScriptWorld).account := by
  refine ⟨rfl, fun h => ?_⟩
  have hlog : brokenScriptWorld.files.create brokenScriptWorld.directory
      brokenScriptSettings.logFile = .ok ([[0x6C]], brokenScriptWorldLogged.files) := rfl
  have hplace := (runsWhatItFinds_of_course h).harness hlog [0x68] rfl
    ⟨[0x2F, 0x62, 0x2F, 0x68], [Octets.ofText "reftest"], { ending := .exited 1 }⟩ rfl
  exact not_executes_brokenScript _ _ hplace

end Reftest.Run
