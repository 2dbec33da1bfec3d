import Reftest.Proofs.Folding
import Reftest.Proofs.Run.Executions

namespace Reftest.Run

/-- The harness as it is run, behind a fresh log, or the fault that keeps it from being run. -/
def harnessRun (settings : Settings) (world : World) : Except Fault Execution :=
  match world.files.create world.directory settings.logFile with
  | .error failure => .error (.logFile settings.logFile failure)
  | .ok (log, files) =>
    (Program.summon (world.withFiles files) (some log) settings.harness settings.harnessLine
      (.harnessLaunch settings.harness)).map fun launched =>
        ⟨launched, .file log, world.withFiles files⟩

def logged (settings : Settings) (world : World) : World :=
  match world.files.create world.directory settings.logFile with
  | .error _ => world
  | .ok (_, files) => world.withFiles files

def browserRun (settings : Settings) (world : World) : Except Fault Execution :=
  (Program.summon world none settings.browser settings.browserLine
    (.viewerLaunch settings.browser)).map fun launched => ⟨launched, .inherited, world⟩

def executions (settings : Settings) (world : World) : List Execution :=
  match harnessRun settings world with
  | .error _ => []
  | .ok harness =>
    harness ::
      if harness.ending ≠ .exited 0 ∧ settings.openOnFailure then
        (browserRun settings harness.after).toOption.toList
      else []

def Settings.warning (settings : Settings) (ending : Ending) : Log.Event :=
  ⟨.warn, .runner, "Harness failed (" ++ ending.describe ++ ")" ++ ", log written to " ++
    settings.logFile.shown⟩

/-- Everything that a run can come to. -/
inductive Unfolds (settings : Settings) (writer : Writer) (world : World) :
    Attempt Outcome → Prop
  | logRefused {failure : Failure}
      (hlog : world.files.create world.directory settings.logFile = .error failure) :
      Unfolds settings writer world ⟨.error (.logFile settings.logFile failure), world, []⟩
  | unstarted {log : Location} {files : FileTree} {fault : Fault} {event : Log.Event}
      (hlog : world.files.create world.directory settings.logFile = .ok (log, files))
      (hharness : harnessRun settings world = .error fault) (hevent : event.level = .debug) :
      Unfolds settings writer world ⟨.error fault, world.withFiles files, [.event event]⟩
  | announced {harness : Execution} {event : Log.Event}
      (hharness : harnessRun settings world = .ok harness) (hevent : event.level = .debug)
      (hending : harness.ending = .exited 0) :
      Unfolds settings writer world
        ⟨match writer.obstacle? with
          | none => .ok .passed
          | some failure => .error (.io failure),
        harness.after,
        .event event :: (harness.attempt.trace ++
          .event ⟨.info, .runner, "Harness passed"⟩ :: (announce writer harness.after).trace)⟩
  | unopened {harness : Execution} {event : Log.Event}
      (hharness : harnessRun settings world = .ok harness) (hevent : event.level = .debug)
      (hending : harness.ending ≠ .exited 0) (hclosed : settings.openOnFailure = false) :
      Unfolds settings writer world
        ⟨.ok (.failed harness.ending.code), harness.after,
        .event event :: (harness.attempt.trace ++ [.event (settings.warning harness.ending)])⟩
  | unviewed {harness : Execution} {event note search : Log.Event} {fault : Fault}
      (hharness : harnessRun settings world = .ok harness) (hevent : event.level = .debug)
      (hending : harness.ending ≠ .exited 0) (hopen : settings.openOnFailure = true)
      (hnote : note.level = .info) (hbrowser : browserRun settings harness.after = .error fault)
      (hsearch : search.level = .debug) (htopic : event.topic ≠ search.topic) :
      Unfolds settings writer world
        ⟨.error fault, harness.after,
        .event event :: (harness.attempt.trace ++ [.event note, .event search])⟩
  | opened {harness browser : Execution} {event note opening : Log.Event}
      (hharness : harnessRun settings world = .ok harness) (hevent : event.level = .debug)
      (hending : harness.ending ≠ .exited 0) (hopen : settings.openOnFailure = true)
      (hnote : note.level = .info) (hbrowser : browserRun settings harness.after = .ok browser)
      (hopening : opening.level = .debug) (htopic : event.topic ≠ opening.topic) :
      Unfolds settings writer world
        ⟨if browser.ending.succeeded then .ok (.failureViewed harness.ending.code)
          else .error (.viewerFailed settings.browser (browser.ending.code.map Int.ofNat)),
        browser.after,
        .event event :: (harness.attempt.trace ++
          .event note :: .event opening :: browser.attempt.trace)⟩

def ask (name : String) (arguments : List Octets) (outlet : Outlet) (refused : Failure → Fault)
    (topic : Log.Topic) (message : Octets → String) : Stage Ending := do
  let program ← find name
  Stage.tell .debug topic (message program)
  start program arguments outlet refused

section

variable {world : World} {name : String} {arguments : List Octets} {refused : Failure → Fault}

theorem ask_of_error (outlet : Outlet) {fault : Fault}
    (h : Program.summon world outlet.place? name arguments refused = .error fault)
    (topic : Log.Topic) (message : Octets → String) :
    ∃ event : Log.Event, event.level = .debug ∧ (event.topic = topic ∨ event.topic = .program) ∧
      ask name arguments outlet refused topic message world =
        ⟨.error fault, world, [.event event]⟩ := by
  unfold ask
  cases Program.summons_of_summon h with
  | unknown hlocate => exact ⟨_, rfl, .inr rfl, by simp [Stage.bind_apply, find, hlocate]; rfl⟩
  | @refused path failure hlocate hlaunch =>
      refine ⟨⟨.debug, topic, message path⟩, rfl, .inl rfl, ?_⟩
      simp [Stage.bind_apply, find_of_ok hlocate, Stage.done,
        start_of_error outlet refused hlaunch]

theorem ask_of_ok (outlet : Outlet) {launched : Program.Launch}
    (h : Program.summon world outlet.place? name arguments refused = .ok launched)
    (topic : Log.Topic) (message : Octets → String) :
    ∃ event : Log.Event, event.level = .debug ∧ event.topic = topic ∧
      ask name arguments outlet refused topic message world =
        ⟨.ok launched.behaviour.ending, (execute launched outlet world).world,
          .event event :: (execute launched outlet world).trace⟩ := by
  unfold ask
  cases Program.summons_of_summon h with
  | @run path launched hlocate hlaunch =>
      refine ⟨⟨.debug, topic, message path⟩, rfl, rfl, ?_⟩
      simp [Stage.bind_apply, find_of_ok hlocate, Stage.done, start_of_ok outlet refused hlaunch]

end

variable {settings : Settings} {writer : Writer} {world : World} {harness browser : Execution}
  {log : Location} {files : FileTree} {fault : Fault} {event : Log.Event}

theorem harnessEnding_eq (settings : Settings) :
    ∃ message : Octets → String,
      harnessEnding settings = createLog settings.logFile >>= fun log =>
        ask settings.harness settings.harnessLine (.file log) (.harnessLaunch settings.harness)
          .runner message :=
  ⟨_, rfl⟩

theorem openPage_apply (settings : Settings) (world : World) :
    ∃ message : Octets → String,
      openPage settings.browser settings.browserArguments settings.address world =
        (ask settings.browser settings.browserLine .inherited (.viewerLaunch settings.browser)
            .viewer message >>= fun ending =>
          if ending.succeeded then Stage.done ()
          else Stage.fail
            (.viewerFailed settings.browser (ending.code.map Int.ofNat))) world := by
  refine ⟨fun program => "Opening " ++ settings.address ++ " with " ++ program.shown, ?_⟩
  simp only [openPage, ask, Settings.browserLine, Stage.bind_apply, Stage.tell_apply]
  cases (find settings.browser world).result with
  | error fault => rfl
  | ok program =>
      dsimp only
      cases (start program _ .inherited (.viewerLaunch settings.browser)
        (find settings.browser world).world).result with
      | error fault => rfl
      | ok ending => simp

theorem harnessRun_of_logRefused {failure : Failure}
    (h : world.files.create world.directory settings.logFile = .error failure) :
    harnessRun settings world = .error (.logFile settings.logFile failure) := by
  simp only [harnessRun, h]

theorem harnessEnding_of_error
    (hlog : world.files.create world.directory settings.logFile = .ok (log, files))
    (h : harnessRun settings world = .error fault) :
    ∃ event : Log.Event, event.level = .debug ∧
      harnessEnding settings world = ⟨.error fault, world.withFiles files, [.event event]⟩ := by
  simp only [harnessRun, hlog] at h
  obtain ⟨message, hmessage⟩ := harnessEnding_eq settings
  obtain ⟨event, hevent, -, hask⟩ :=
    ask_of_error (.file log) (map_eq_error h) .runner message
  refine ⟨event, hevent, ?_⟩
  simp [hmessage, Stage.bind_apply, createLog_of_ok hlog, Stage.done, hask]

theorem harnessEnding_of_ok (h : harnessRun settings world = .ok harness) :
    ∃ event : Log.Event, event.level = .debug ∧ event.topic = .runner ∧
      harnessEnding settings world =
        ⟨.ok harness.ending, harness.after, .event event :: harness.attempt.trace⟩ := by
  unfold harnessRun at h
  split at h
  · cases h
  · rename_i log files hlog
    obtain ⟨launched, hsummon, rfl⟩ := map_eq_ok h
    obtain ⟨message, hmessage⟩ := harnessEnding_eq settings
    obtain ⟨event, hevent, htopic, hask⟩ := ask_of_ok (.file log) hsummon .runner message
    refine ⟨event, hevent, htopic, ?_⟩
    simp only [hmessage, Stage.bind_apply, createLog_of_ok hlog, Stage.done, hask,
      List.nil_append]
    rfl

theorem openPage_of_error (h : browserRun settings world = .error fault) :
    ∃ event : Log.Event, event.level = .debug ∧ event.topic ≠ .runner ∧
      openPage settings.browser settings.browserArguments settings.address world =
        ⟨.error fault, world, [.event event]⟩ := by
  obtain ⟨message, hmessage⟩ := openPage_apply settings world
  obtain ⟨event, hevent, htopic, hask⟩ :=
    ask_of_error .inherited (map_eq_error h) .viewer message
  refine ⟨event, hevent, ?_, ?_⟩
  · rcases htopic with htopic | htopic <;> simp [htopic]
  · simp only [hmessage, Stage.bind_apply, hask]

theorem openPage_of_ok (h : browserRun settings world = .ok browser) :
    ∃ event : Log.Event, event.level = .debug ∧ event.topic ≠ .runner ∧
      openPage settings.browser settings.browserArguments settings.address world =
        ⟨if browser.ending.succeeded then .ok ()
          else .error (.viewerFailed settings.browser (browser.ending.code.map Int.ofNat)),
        browser.after, .event event :: browser.attempt.trace⟩ := by
  obtain ⟨launched, hsummon, rfl⟩ := map_eq_ok h
  obtain ⟨message, hmessage⟩ := openPage_apply settings world
  obtain ⟨event, hevent, htopic, hask⟩ := ask_of_ok .inherited hsummon .viewer message
  refine ⟨event, hevent, by simp [htopic], ?_⟩
  simp only [hmessage, Stage.bind_apply, hask, Execution.ending]
  by_cases hending : launched.behaviour.ending.succeeded = true
  · simp only [hending, if_true, Stage.done, List.append_nil]
    rfl
  · simp only [hending]
    rfl

theorem reactToFailure_of_closed (hclosed : settings.openOnFailure = false)
    (ending : Ending) (world : World) :
    reactToFailure settings ending world =
      ⟨.ok (.failed ending.code), world, [.event (settings.warning ending)]⟩ := by
  simp [reactToFailure, hclosed, Stage.bind_apply, Settings.warning]

theorem reactToFailure_of_error (hopen : settings.openOnFailure = true)
    (h : browserRun settings world = .error fault)
    (ending : Ending) :
    ∃ note search : Log.Event, note.level = .info ∧ search.level = .debug ∧
      search.topic ≠ .runner ∧
      reactToFailure settings ending world =
        ⟨.error fault, world, [.event note, .event search]⟩ := by
  obtain ⟨search, hsearch, htopic, hpage⟩ := openPage_of_error h
  refine ⟨⟨.info, .runner, "Harness failed (" ++ ending.describe ++ ")" ++
    ", opening analyzer on " ++ settings.logFile.shown⟩, search, rfl, hsearch, htopic, ?_⟩
  simp [reactToFailure, hopen, Stage.bind_apply, hpage]

theorem reactToFailure_of_ok (hopen : settings.openOnFailure = true)
    (h : browserRun settings world = .ok browser)
    (ending : Ending) :
    ∃ note opening : Log.Event, note.level = .info ∧ opening.level = .debug ∧
      opening.topic ≠ .runner ∧
      reactToFailure settings ending world =
        ⟨if browser.ending.succeeded then .ok (.failureViewed ending.code)
          else .error (.viewerFailed settings.browser (browser.ending.code.map Int.ofNat)),
        browser.after, .event note :: .event opening :: browser.attempt.trace⟩ := by
  obtain ⟨opening, hopening, htopic, hpage⟩ := openPage_of_ok h
  refine ⟨⟨.info, .runner, "Harness failed (" ++ ending.describe ++ ")" ++
    ", opening analyzer on " ++ settings.logFile.shown⟩, opening, rfl, hopening, htopic, ?_⟩
  by_cases hending : browser.ending.succeeded = true
  · simp [reactToFailure, hopen, Stage.bind_apply, hpage, hending]
  · simp [reactToFailure, hopen, Stage.bind_apply, hpage, hending]

theorem world_announce (writer : Writer) (world : World) :
    (announce writer world).world = world := by
  obtain ⟨result, trace, hannounce, -⟩ := announce_cases writer
  rw [hannounce]

theorem run_of_passed (hran : harnessEnding settings world =
      ⟨.ok harness.ending, harness.after, .event event :: harness.attempt.trace⟩)
    (hending : harness.ending = .exited 0) :
    run settings writer world =
      ⟨match writer.obstacle? with
        | none => .ok .passed
        | some failure => .error (.io failure),
      harness.after,
      .event event :: (harness.attempt.trace ++
        .event ⟨.info, .runner, "Harness passed"⟩ ::
          (announce writer harness.after).trace)⟩ := by
  have hresult := (announce_eq writer harness.after).1
  simp only [run, Stage.bind_apply, hran, (Ending.succeeded_iff _).mpr hending, if_true,
    Stage.tell_apply, hresult, world_announce]
  cases writer.obstacle? <;> simp

theorem run_of_failed (hran : harnessEnding settings world =
      ⟨.ok harness.ending, harness.after, .event event :: harness.attempt.trace⟩)
    (hending : harness.ending ≠ .exited 0) :
    run settings writer world =
      let reaction := reactToFailure settings harness.ending harness.after
      ⟨reaction.result, reaction.world,
        .event event :: (harness.attempt.trace ++ reaction.trace)⟩ := by
  have hfailed : harness.ending.succeeded = false :=
    Bool.eq_false_iff.mpr fun h => hending ((Ending.succeeded_iff _).mp h)
  simp only [run, Stage.bind_apply, hran, hfailed, Bool.false_eq_true, if_false, List.cons_append]

theorem run_of_logRefused {failure : Failure}
    (hlog : world.files.create world.directory settings.logFile = .error failure)
    (writer : Writer) :
    run settings writer world = ⟨.error (.logFile settings.logFile failure), world, []⟩ := by
  simp [run, harnessEnding, Stage.bind_apply, createLog_of_error hlog]

/-- What a run comes to, in every world. -/
theorem unfolds_run (settings : Settings) (writer : Writer) (world : World) :
    Unfolds settings writer world (run settings writer world) := by
  cases hlog : world.files.create world.directory settings.logFile with
  | error failure =>
      rw [run_of_logRefused hlog]
      exact .logRefused hlog
  | ok created =>
      obtain ⟨log, files⟩ := created
      cases hharness : harnessRun settings world with
      | error fault =>
          obtain ⟨event, hevent, hfailed⟩ := harnessEnding_of_error hlog hharness
          have hrun : run settings writer world =
              ⟨.error fault, world.withFiles files, [.event event]⟩ := by
            simp [run, Stage.bind_apply, hfailed]
          rw [hrun]
          exact .unstarted hlog hharness hevent
      | ok harness =>
          obtain ⟨event, hevent, hrunner, hran⟩ := harnessEnding_of_ok hharness
          by_cases hending : harness.ending = .exited 0
          · rw [run_of_passed hran hending]
            exact .announced hharness hevent hending
          · rw [run_of_failed hran hending]
            cases hopen : settings.openOnFailure with
            | false =>
                rw [reactToFailure_of_closed hopen]
                exact .unopened hharness hevent hending hopen
            | true =>
                cases hbrowser : browserRun settings harness.after with
                | error fault =>
                    obtain ⟨note, search, hnote, hsearch, htopic, hreaction⟩ :=
                      reactToFailure_of_error hopen hbrowser harness.ending
                    rw [hreaction]
                    exact .unviewed hharness hevent hending hopen hnote hbrowser hsearch
                      (hrunner ▸ htopic.symm)
                | ok browser =>
                    obtain ⟨note, opening, hnote, hopening, htopic, hreaction⟩ :=
                      reactToFailure_of_ok hopen hbrowser harness.ending
                    rw [hreaction]
                    exact .opened hharness hevent hending hopen hnote hbrowser hopening
                      (hrunner ▸ htopic.symm)

/-! The world after a run, and the programs that were run until then. -/

theorem executions_of_error (h : harnessRun settings world = .error fault) :
    executions settings world = [] := by
  simp only [executions, h]

theorem executions_of_ok (h : harnessRun settings world = .ok harness) :
    executions settings world = harness ::
      if harness.ending ≠ .exited 0 ∧ settings.openOnFailure then
        (browserRun settings harness.after).toOption.toList
      else [] := by
  simp only [executions, h]

theorem executions_of_unopened (hharness : harnessRun settings world = .ok harness)
    (h : harness.ending = .exited 0 ∨ settings.openOnFailure = false) :
    executions settings world = [harness] := by
  rw [executions_of_ok hharness, if_neg]
  rintro ⟨hending, hopen⟩
  rcases h with hpassed | hclosed
  · exact hending hpassed
  · cases hclosed.symm.trans hopen

theorem executions_of_unviewed (hharness : harnessRun settings world = .ok harness)
    (hbrowser : browserRun settings harness.after = .error fault) :
    executions settings world = [harness] := by
  rw [executions_of_ok hharness, hbrowser]
  split <;> rfl

theorem executions_of_opened (hharness : harnessRun settings world = .ok harness)
    (hending : harness.ending ≠ .exited 0)
    (hopen : settings.openOnFailure = true)
    (hbrowser : browserRun settings harness.after = .ok browser) :
    executions settings world = [harness, browser] := by
  rw [executions_of_ok hharness, if_pos ⟨hending, hopen⟩, hbrowser]
  rfl

theorem harnessRun_eq_ok (h : harnessRun settings world = .ok harness) :
    ∃ log files, world.files.create world.directory settings.logFile = .ok (log, files) ∧
      harness.world = world.withFiles files ∧
      harness.written = files.append log harness.output := by
  unfold harnessRun at h
  split at h
  · cases h
  · rename_i log files hlog
    obtain ⟨launched, -, rfl⟩ := map_eq_ok h
    exact ⟨log, files, hlog, rfl, rfl⟩

theorem browserRun_eq_ok (h : browserRun settings world = .ok browser) :
    browser.world = world ∧ browser.written = world.files := by
  obtain ⟨launched, -, rfl⟩ := map_eq_ok h
  exact ⟨rfl, rfl⟩

@[simp] theorem calls_nil : Trace.calls [] = [] := rfl

theorem calls_run (settings : Settings) (writer : Writer) (world : World) :
    (run settings writer world).trace.calls =
      (executions settings world).map (·.launched.call) := by
  have h := unfolds_run settings writer world
  generalize run settings writer world = attempt at h ⊢
  cases h with
  | logRefused hlog =>
      rw [executions_of_error (harnessRun_of_logRefused hlog)]
      rfl
  | unstarted hlog hharness =>
      rw [executions_of_error hharness]
      rfl
  | announced hharness _ hending => simp [executions_of_unopened hharness (.inl hending)]
  | unopened hharness _ _ hclosed => simp [executions_of_unopened hharness (.inr hclosed)]
  | unviewed hharness _ _ _ _ hbrowser => simp [executions_of_unviewed hharness hbrowser]
  | opened hharness _ hending hopen _ hbrowser =>
      simp [executions_of_opened hharness hending hopen hbrowser]

/-- No event is told twice in a run, so the time at which it is told goes with the event. -/
theorem nodup_events_run (settings : Settings) (writer : Writer) (world : World) :
    (run settings writer world).trace.events.Nodup := by
  have hlevels : ∀ {first second : Log.Event} {level other : Log.Level}, first.level = level →
      second.level = other → level ≠ other → first ≠ second := by
    rintro first second _ _ rfl rfl hne rfl
    exact hne rfl
  have h := unfolds_run settings writer world
  generalize run settings writer world = attempt at h ⊢
  cases h with
  | logRefused => exact List.nodup_nil
  | unstarted => exact List.pairwise_singleton _ _
  | announced hharness hevent =>
      rw [Execution.events_behind, events_cons_event, events_announce]
      simpa using hlevels hevent rfl (by decide)
  | @unopened harness event _ hevent =>
      have hwarning : (settings.warning harness.ending).level = .warn := rfl
      rw [Execution.events_behind]
      simpa [Trace.events] using hlevels hevent hwarning (by decide)
  | @unviewed _ event note search _ _ hevent _ _ hnote _ hsearch htopic =>
      rw [Execution.events_behind, events_cons_event, events_cons_event]
      have hsame : event ≠ search := fun hsame => htopic (congrArg Log.Event.topic hsame)
      simpa [Trace.events] using ⟨⟨hlevels hevent hnote (by decide), hsame⟩,
        hlevels hnote hsearch (by decide)⟩
  | @opened _ browser event note opening _ hevent _ _ hnote _ hopening htopic =>
      rw [Execution.events_behind, events_cons_event, events_cons_event, Execution.events_attempt]
      have hsame : event ≠ opening := fun hsame => htopic (congrArg Log.Event.topic hsame)
      simpa using ⟨⟨hlevels hevent hnote (by decide), hsame⟩,
        hlevels hnote hopening (by decide)⟩

theorem world_run_of_error (hharness : harnessRun settings world = .error fault) (writer : Writer) :
    (run settings writer world).world = logged settings world := by
  have h := unfolds_run settings writer world
  generalize run settings writer world = attempt at h ⊢
  cases h with
  | logRefused hlog => simp only [logged, hlog]
  | unstarted hlog => simp only [logged, hlog]
  | announced h
  | unopened h
  | unviewed h
  | opened h => cases h.symm.trans hharness

theorem world_run_of_ok (hharness : harnessRun settings world = .ok harness) (writer : Writer) :
    (run settings writer world).world = harness.after ∨
      ∃ browser ∈ executions settings world, browserRun settings harness.after = .ok browser ∧
        (run settings writer world).world = browser.after := by
  have h := unfolds_run settings writer world
  generalize run settings writer world = attempt at h ⊢
  cases h with
  | logRefused hlog => cases (harnessRun_of_logRefused hlog).symm.trans hharness
  | unstarted _ h => cases h.symm.trans hharness
  | announced h
  | unopened h
  | unviewed h =>
      cases h.symm.trans hharness
      exact .inl rfl
  | opened h _ hending hopen _ hbrowser =>
      cases h.symm.trans hharness
      refine .inr ⟨_, ?_, hbrowser, rfl⟩
      simp [executions_of_opened hharness hending hopen hbrowser]

theorem harness_mem_executions (h : harnessRun settings world = .ok harness) :
    harness ∈ executions settings world := by
  rw [executions_of_ok h]
  exact List.mem_cons_self

/-- What holds once the log is made, and is kept by every program that is run, holds after the
run. -/
theorem run_invariant {P : World → Prop}
    (hstart : P (logged settings world))
    (hstep : ∀ execution ∈ executions settings world, P execution.world → P execution.after)
    (writer : Writer) : P (run settings writer world).world := by
  cases hharness : harnessRun settings world with
  | error fault =>
      rw [world_run_of_error hharness]
      exact hstart
  | ok harness =>
      obtain ⟨log, files, hlog, hworld, -⟩ := harnessRun_eq_ok hharness
      have hafter : P harness.after := by
        refine hstep harness (harness_mem_executions hharness) ?_
        rw [hworld]
        simpa only [logged, hlog] using hstart
      rcases world_run_of_ok hharness writer with hrun | ⟨browser, hmem, hbrowser, hrun⟩
      · rw [hrun]
        exact hafter
      · rw [hrun]
        refine hstep browser hmem ?_
        rw [(browserRun_eq_ok hbrowser).1]
        exact hafter

end Reftest.Run
