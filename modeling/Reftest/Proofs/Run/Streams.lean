import Reftest.Proofs.Run.Conclusion

namespace Reftest.Run

/-- What of the message and what of the programs reaches standard output, by the programs that are
run. -/
inductive Emits (announced : Octets) : List Execution → Octets → Octets → Prop
  | nothing : Emits announced [] [] []
  | passed {harness : Execution} (hending : harness.ending = .exited 0) :
      Emits announced [harness] announced []
  | failed {harness : Execution} (hending : harness.ending ≠ .exited 0) :
      Emits announced [harness] [] []
  | viewed {harness browser : Execution} (hending : harness.ending ≠ .exited 0) :
      Emits announced [harness, browser] [] browser.output

def Execution.consumed (execution : Execution) : Octets :=
  if execution.launched.behaviour.copiesInput then execution.world.input else []

/-- Programs take standard input one after the other, each what the one before it has left. -/
inductive HandsOn : Octets → List Execution → Octets → Prop
  | done (input : Octets) : HandsOn input [] input
  | next {execution : Execution} {rest : List Execution} {last : Octets}
      (htaken : execution.world.input = execution.consumed ++ execution.after.input)
      (hrest : HandsOn execution.after.input rest last) :
      HandsOn execution.world.input (execution :: rest) last

/-- A harness writes to the log, and nothing that it writes goes anywhere else. -/
inductive WritesLog (settings : Settings) (world : World) (harness : Execution) : Prop
  | intro (log : Location)
      (hcreates : world.files.Creates world.directory settings.logFile log)
      (houtlet : harness.outlet = .file log)
      (hwritten : harness.written =
        world.files.set log (.file (world.files.modeFor log) (.octets harness.output)))

variable {settings : Settings} {writer : Writer} {world : World} {harness browser : Execution}

theorem Emits.append_of_passed {announced verdict output : Octets}
    (h : Emits announced [harness] verdict output) (hending : harness.ending = .exited 0) :
    verdict ++ output = announced := by
  cases h with
  | passed => exact List.append_nil announced
  | failed hfailed => exact absurd hending hfailed

theorem harnessRun_outlet (h : harnessRun settings world = .ok harness) :
    ∃ log files, world.files.create world.directory settings.logFile = .ok (log, files) ∧
      harness.outlet = .file log := by
  unfold harnessRun at h
  split at h
  · cases h
  · rename_i log files hlog
    obtain ⟨launched, -, rfl⟩ := map_eq_ok h
    exact ⟨log, files, hlog, rfl⟩

theorem browserRun_outlet (h : browserRun settings world = .ok browser) :
    browser.outlet = .inherited := by
  obtain ⟨launched, -, rfl⟩ := map_eq_ok h
  rfl

theorem writesLog_of_harnessRun (h : harnessRun settings world = .ok harness) :
    WritesLog settings world harness := by
  obtain ⟨log, files, hlog, -, hwritten⟩ := harnessRun_eq_ok h
  obtain ⟨log', files', hlog', houtlet⟩ := harnessRun_outlet h
  cases hlog.symm.trans hlog'
  obtain ⟨-, hcreates, hfiles⟩ := FileTree.create_cases hlog
  refine ⟨log, hcreates, houtlet, ?_⟩
  rw [hwritten, hfiles, FileTree.append_of_octets (FileTree.lookup?_set_self _ _ _),
    FileTree.set_set, List.nil_append]

theorem output_cons_event (event : Log.Event) (trace : Trace) :
    Trace.output (.event event :: trace) = trace.output := rfl

theorem output_attempt (execution : Execution) :
    execution.attempt.trace.output = (execution.outlet.trace execution.output).output := by
  rw [Execution.attempt_eq]
  cases execution.outlet with
  | file place => rfl
  | inherited => rfl

theorem output_harness (h : harnessRun settings world = .ok harness) :
    harness.attempt.trace.output = [] := by
  obtain ⟨log, files, -, houtlet⟩ := harnessRun_outlet h
  rw [output_attempt, houtlet]
  rfl

theorem output_behind (h : harnessRun settings world = .ok harness) (event : Log.Event)
    (rest : Trace) :
    Trace.output (.event event :: (harness.attempt.trace ++ rest)) = rest.output := by
  rw [output_cons_event, Trace.output_append, output_harness h, List.nil_append]

theorem output_browser (h : browserRun settings world = .ok browser) :
    browser.attempt.trace.output = browser.output := by
  rw [output_attempt, browserRun_outlet h]
  exact List.append_nil _

theorem output_announce (writer : Writer) (world : World) :
    (announce writer world).trace.output = [] := by
  obtain ⟨result, trace, hannounce, htrace⟩ := announce_cases writer
  rw [hannounce]
  refine List.flatMap_eq_nil_iff.mpr fun happening hmem => ?_
  obtain rfl | ⟨octets, rfl⟩ := htrace happening hmem <;> rfl

theorem emits_run (settings : Settings) (writer : Writer) (world : World) :
    Emits writer.received (executions settings world) (run settings writer world).trace.verdict
      (run settings writer world).trace.output := by
  have h := unfolds_run settings writer world
  generalize run settings writer world = attempt at h ⊢
  cases h with
  | logRefused hlog =>
      rw [executions_of_error (harnessRun_of_logRefused hlog)]
      exact .nothing
  | unstarted _ hharness =>
      rw [executions_of_error hharness]
      exact .nothing
  | @announced harness _ hharness _ hending =>
      have hverdict := (announce_eq writer harness.after).2
      rw [executions_of_unopened hharness (.inl hending), Execution.verdict_behind,
        output_behind hharness,
        verdict_cons_event, output_cons_event, hverdict, output_announce]
      exact .passed hending
  | unopened hharness _ hending hclosed =>
      rw [executions_of_unopened hharness (.inr hclosed), Execution.verdict_behind,
        output_behind hharness]
      exact .failed hending
  | unviewed hharness _ hending _ _ hbrowser =>
      rw [executions_of_unviewed hharness hbrowser, Execution.verdict_behind,
        output_behind hharness]
      exact .failed hending
  | opened hharness _ hending hopen _ hbrowser =>
      rw [executions_of_opened hharness hending hopen hbrowser, Execution.verdict_behind,
        output_behind hharness, verdict_cons_event, verdict_cons_event, output_cons_event,
        output_cons_event, Execution.verdict_attempt, output_browser hbrowser]
      exact .viewed hending

theorem Emits.apart {announced verdict output : Octets} {executions : List Execution}
    (h : Emits announced executions verdict output) : verdict = [] ∨ output = [] := by
  cases h with
  | nothing => exact .inl rfl
  | passed => exact .inr rfl
  | failed => exact .inl rfl
  | viewed => exact .inl rfl

theorem input_after (execution : Execution) :
    execution.after.input =
      if execution.launched.behaviour.copiesInput then [] else execution.world.input := rfl

theorem consumed_append (execution : Execution) :
    execution.world.input = execution.consumed ++ execution.after.input := by
  rw [input_after, Execution.consumed]
  cases execution.launched.behaviour.copiesInput with
  | false => rfl
  | true => exact (List.append_nil _).symm

theorem input_harnessRun (h : harnessRun settings world = .ok harness) :
    harness.world.input = world.input := by
  obtain ⟨log, files, -, hworld, -⟩ := harnessRun_eq_ok h
  rw [hworld]
  rfl

theorem handsOn_harness (h : harnessRun settings world = .ok harness) {rest : List Execution}
    {last : Octets} (hrest : HandsOn harness.after.input rest last) :
    HandsOn world.input (harness :: rest) last := by
  rw [← input_harnessRun h]
  exact .next (consumed_append harness) hrest

theorem handsOn_browser (h : browserRun settings world = .ok browser) :
    HandsOn world.input [browser] browser.after.input := by
  have hinput : browser.world.input = world.input := by rw [(browserRun_eq_ok h).1]
  rw [← hinput]
  exact .next (consumed_append browser) (.done _)

theorem handsOn_run (settings : Settings) (writer : Writer) (world : World) :
    HandsOn world.input (executions settings world) (run settings writer world).world.input := by
  have h := unfolds_run settings writer world
  generalize run settings writer world = attempt at h ⊢
  cases h with
  | logRefused hlog =>
      rw [executions_of_error (harnessRun_of_logRefused hlog)]
      exact .done _
  | unstarted _ hharness =>
      rw [executions_of_error hharness]
      exact .done _
  | announced hharness _ hending =>
      rw [executions_of_unopened hharness (.inl hending)]
      exact handsOn_harness hharness (.done _)
  | unopened hharness _ hending hclosed =>
      rw [executions_of_unopened hharness (.inr hclosed)]
      exact handsOn_harness hharness (.done _)
  | unviewed hharness _ hending _ _ hbrowser =>
      rw [executions_of_unviewed hharness hbrowser]
      exact handsOn_harness hharness (.done _)
  | opened hharness _ hending hopen _ hbrowser =>
      rw [executions_of_opened hharness hending hopen hbrowser]
      exact handsOn_harness hharness (handsOn_browser hbrowser)

theorem HandsOn.conserved {first last : Octets} {executions : List Execution}
    (h : HandsOn first executions last) :
    first = executions.flatMap Execution.consumed ++ last := by
  induction h with
  | done input => rfl
  | next htaken _ ih => rw [htaken, ih, List.flatMap_cons, List.append_assoc]

end Reftest.Run
