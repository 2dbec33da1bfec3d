import Reftest.Proofs.Run.Unfolding

namespace Reftest.Run

inductive Conclusion where
  | faulted
  | passed
  | failed
  deriving DecidableEq, Repr

def Conclusion.ofResult : Except Fault Outcome → Conclusion
  | .error _ => .faulted
  | .ok .passed => .passed
  | .ok (.failureViewed _) => .failed
  | .ok (.failed _) => .failed

/-- The conclusion of a run by what becomes of its harness, of the message and of its browser.  A
log that cannot be made is one of the reasons for which the harness is not started. -/
inductive Concludes (settings : Settings) (writer : Writer) (world : World) : Conclusion → Prop
  | unstarted {fault : Fault} (hharness : harnessRun settings world = .error fault) :
      Concludes settings writer world .faulted
  | announced {harness : Execution} (hharness : harnessRun settings world = .ok harness)
      (hending : harness.ending = .exited 0) (hwriter : writer.obstacle? = none) :
      Concludes settings writer world .passed
  | unannounced {harness : Execution} {failure : Failure}
      (hharness : harnessRun settings world = .ok harness)
      (hending : harness.ending = .exited 0) (hwriter : writer.obstacle? = some failure) :
      Concludes settings writer world .faulted
  | unopened {harness : Execution} (hharness : harnessRun settings world = .ok harness)
      (hending : harness.ending ≠ .exited 0) (hclosed : settings.openOnFailure = false) :
      Concludes settings writer world .failed
  | unviewed {harness : Execution} {fault : Fault}
      (hharness : harnessRun settings world = .ok harness)
      (hending : harness.ending ≠ .exited 0) (hopen : settings.openOnFailure = true)
      (hbrowser : browserRun settings harness.after = .error fault) :
      Concludes settings writer world .faulted
  | viewerFailed {harness browser : Execution}
      (hharness : harnessRun settings world = .ok harness)
      (hending : harness.ending ≠ .exited 0) (hopen : settings.openOnFailure = true)
      (hbrowser : browserRun settings harness.after = .ok browser)
      (hviewer : browser.ending ≠ .exited 0) : Concludes settings writer world .faulted
  | viewed {harness browser : Execution} (hharness : harnessRun settings world = .ok harness)
      (hending : harness.ending ≠ .exited 0) (hopen : settings.openOnFailure = true)
      (hbrowser : browserRun settings harness.after = .ok browser)
      (hviewer : browser.ending = .exited 0) : Concludes settings writer world .failed

variable {settings : Settings} {writer : Writer} {world : World} {conclusion : Conclusion}

theorem concludes_run (settings : Settings) (writer : Writer) (world : World) :
    Concludes settings writer world (.ofResult (run settings writer world).result) := by
  have h := unfolds_run settings writer world
  generalize run settings writer world = attempt at h ⊢
  cases h with
  | logRefused hlog => exact .unstarted (harnessRun_of_logRefused hlog)
  | unstarted _ hharness => exact .unstarted hharness
  | announced hharness _ hending =>
      cases hwriter : writer.obstacle? with
      | none => exact .announced hharness hending hwriter
      | some failure => exact .unannounced hharness hending hwriter
  | unopened hharness _ hending hclosed => exact .unopened hharness hending hclosed
  | unviewed hharness _ hending hopen _ hbrowser =>
      exact .unviewed hharness hending hopen hbrowser
  | @opened harness browser _ _ _ hharness _ hending hopen _ hbrowser =>
      by_cases hviewer : browser.ending = .exited 0
      · simp only [(Ending.succeeded_iff _).mpr hviewer, if_true]
        exact .viewed hharness hending hopen hbrowser hviewer
      · simp only [mt (Ending.succeeded_iff _).mp hviewer]
        exact .viewerFailed hharness hending hopen hbrowser hviewer

theorem result_run (settings : Settings) (writer : Writer) (world : World) :
    (run settings writer world).result =
      match harnessRun settings world with
      | .error fault => .error fault
      | .ok harness =>
        if harness.ending = .exited 0 then
          match writer.obstacle? with
          | none => .ok .passed
          | some failure => .error (.io failure)
        else if settings.openOnFailure then
          match browserRun settings harness.after with
          | .error fault => .error fault
          | .ok browser =>
            if browser.ending.succeeded then .ok (.failureViewed harness.ending.code)
            else .error (.viewerFailed settings.browser (browser.ending.code.map Int.ofNat))
        else .ok (.failed harness.ending.code) := by
  have h := unfolds_run settings writer world
  generalize run settings writer world = attempt at h ⊢
  cases h with
  | logRefused hlog => simp [harnessRun_of_logRefused hlog]
  | unstarted _ hharness => simp [hharness]
  | announced hharness _ hending =>
      cases writer.obstacle? <;> simp [hharness, hending]
  | unopened hharness _ hending hclosed => simp [hharness, hending, hclosed]
  | unviewed hharness _ hending hopen _ hbrowser => simp [hharness, hending, hopen, hbrowser]
  | opened hharness _ hending hopen _ hbrowser => simp [hharness, hending, hopen, hbrowser]

theorem Concludes.ofResult_eq (h : Concludes settings writer world conclusion) :
    .ofResult (run settings writer world).result = conclusion := by
  rw [result_run]
  cases h with
  | unstarted hharness => simp only [hharness, Conclusion.ofResult]
  | announced hharness hending hwriter =>
      simp only [hharness, hending, hwriter, if_true, Conclusion.ofResult]
  | unannounced hharness hending hwriter =>
      simp only [hharness, hending, hwriter, if_true, Conclusion.ofResult]
  | unopened hharness hending hclosed =>
      simp [hharness, hending, hclosed, Conclusion.ofResult]
  | unviewed hharness hending hopen hbrowser =>
      simp [hharness, hending, hopen, hbrowser, Conclusion.ofResult]
  | viewerFailed hharness hending hopen hbrowser hviewer =>
      simp [hharness, hending, hopen, hbrowser, hviewer, Ending.succeeded_iff,
        Conclusion.ofResult]
  | viewed hharness hending hopen hbrowser hviewer =>
      simp [hharness, hending, hopen, hbrowser, hviewer, Ending.succeeded_iff,
        Conclusion.ofResult]

theorem concludes_iff :
    Concludes settings writer world conclusion ↔
      .ofResult (run settings writer world).result = conclusion := by
  constructor
  · exact Concludes.ofResult_eq
  · rintro rfl
    exact concludes_run settings writer world

theorem verdict_run_of_passed {harness : Execution}
    (hharness : harnessRun settings world = .ok harness) (hending : harness.ending = .exited 0) :
    (run settings writer world).trace.verdict = writer.received := by
  have h := unfolds_run settings writer world
  generalize run settings writer world = attempt at h ⊢
  cases h with
  | logRefused hlog => cases (harnessRun_of_logRefused hlog).symm.trans hharness
  | unstarted _ hfault => cases hfault.symm.trans hharness
  | announced hran =>
      cases hran.symm.trans hharness
      simp [Execution.attempt, (announce_eq writer harness.after).2]
  | unopened hran _ hfailed
  | unviewed hran _ hfailed
  | opened hran _ hfailed =>
      cases hran.symm.trans hharness
      exact absurd hending hfailed

def Trace.Unwritten (trace : Trace) : Prop :=
  ∀ happening ∈ trace, happening ≠ .flush ∧ ∀ octets, happening ≠ .verdict octets

theorem Trace.unwritten_nil : Unwritten [] := nofun

theorem Trace.Unwritten.event {trace : Trace} (h : trace.Unwritten) (event : Log.Event) :
    Unwritten (.event event :: trace) :=
  List.forall_mem_cons.mpr ⟨⟨nofun, nofun⟩, h⟩

theorem Trace.Unwritten.append {left right : Trace} (hleft : left.Unwritten)
    (hright : right.Unwritten) : Unwritten (left ++ right) :=
  List.forall_mem_append.mpr ⟨hleft, hright⟩

theorem unwritten_attempt (execution : Execution) : execution.attempt.trace.Unwritten := by
  have houtlet (octets : Octets) : (execution.outlet.trace octets).Unwritten := by
    cases execution.outlet with
    | file place => exact Trace.unwritten_nil
    | inherited => exact List.forall_mem_singleton.mpr ⟨nofun, nofun⟩
  rw [Execution.attempt_eq]
  refine List.forall_mem_cons.mpr ⟨⟨nofun, nofun⟩, (houtlet _).append ?_⟩
  exact List.forall_mem_singleton.mpr ⟨nofun, nofun⟩

theorem unwritten_run
    (h : ∀ harness, harnessRun settings world = .ok harness → harness.ending ≠ .exited 0)
    (writer : Writer) : (run settings writer world).trace.Unwritten := by
  have hrun := unfolds_run settings writer world
  generalize run settings writer world = attempt at hrun ⊢
  cases hrun with
  | logRefused => exact Trace.unwritten_nil
  | unstarted => exact Trace.unwritten_nil.event _
  | announced hharness _ hending => exact absurd hending (h _ hharness)
  | unopened => exact ((unwritten_attempt _).append (Trace.unwritten_nil.event _)).event _
  | unviewed =>
      exact ((unwritten_attempt _).append ((Trace.unwritten_nil.event _).event _)).event _
  | opened =>
      exact ((unwritten_attempt _).append (((unwritten_attempt _).event _).event _)).event _

end Reftest.Run
