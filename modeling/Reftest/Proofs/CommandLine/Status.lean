import Reftest.Proofs.CommandLine.Session
import Reftest.Proofs.Run.Conclusion

namespace Reftest

theorem ArgumentFault.isRequest_iff (fault : ArgumentFault) :
    fault.isRequest = true ↔ fault = .help ∨ fault = .version := by
  cases fault <;> simp [isRequest]

def Run.Conclusion.status (strict : Bool) : Conclusion → Nat
  | .faulted => 1
  | .passed => 0
  | .failed => if strict then 1 else 0

theorem Run.Conclusion.status_true_eq_zero_iff {conclusion : Conclusion} :
    conclusion.status true = 0 ↔ conclusion = .passed := by
  cases conclusion <;> simp [status]

namespace CommandLine

open Run (Settings Writer Conclusion Concludes)

variable {items : List Octets} {world : World} {writer : Writer} {arguments : Arguments}
  {base : Config}

/-- The ways in which a use of the command line ends, each with its status. -/
inductive Ends (items : List Octets) (world : World) (writer : Writer) : Nat → Prop
  | requested {fault : ArgumentFault} (hread : Arguments.read items = .error fault)
      (hrequest : fault = .help ∨ fault = .version) : Ends items world writer 0
  | misused {fault : ArgumentFault} (hread : Arguments.read items = .error fault)
      (hfault : ¬ (fault = .help ∨ fault = .version)) : Ends items world writer 2
  | unconfigured {arguments : Arguments} {fault : Fault}
      (hread : Arguments.read items = .ok arguments)
      (hbase : arguments.base world = .error fault) : Ends items world writer 1
  | ran {arguments : Arguments} {base : Config} {conclusion : Conclusion}
      (hread : Arguments.read items = .ok arguments) (hbase : arguments.base world = .ok base)
      (hrun : Concludes (.ofConfig (arguments.override base)) writer world conclusion) :
      Ends items world writer (conclusion.status (arguments.exitCode || base.run.exitCode))

/-- A harness that fails is to count, by the flag or by the settings of the chosen file. -/
def Strict (items : List Octets) (world : World) : Prop :=
  ∃ arguments, Arguments.read items = .ok arguments ∧
    (arguments.exitCode = true ∨
      ∃ base, arguments.base world = .ok base ∧ base.run.exitCode = true)

/-- The harness was started and passed, and the message of that was written. -/
structure Succeeds (items : List Octets) (world : World) (writer : Writer) (session : Session) :
    Prop where
  harness : ∃ settings harness, settings? items world = some settings ∧
    Run.harnessRun settings world = .ok harness ∧ harness.ending = .exited 0
  verdict : session.trace.verdict = Octets.ofText "All tests passed.\n"
  flushed : writer.flushFailure = none

/-- All that there is to the status of a use of the command line. -/
structure Tells (items : List Octets) (world : World) (writer : Writer) (session : Session) :
    Prop where
  ends : ∀ status, session.status = status ↔ Ends items world writer status
  bound : session.status = 0 ∨ session.status = 1 ∨ session.status = 2
  strict : Strict items world → (session.status = 0 ↔ Succeeds items world writer session)
  lenient : ¬ Strict items world → ∀ settings, settings? items world = some settings →
    Concludes settings writer world .failed → session.status = 0

theorem status_settled (display : Log.Display) (config : Config)
    (attempt : Run.Attempt Run.Outcome) :
    (settled display config attempt).status =
      (Conclusion.ofResult attempt.result).status config.run.exitCode := by
  obtain ⟨result, world, trace⟩ := attempt
  cases result with
  | error fault => rfl
  | ok outcome =>
      change config.exitStatus outcome = _
      rw [Config.exitStatus]
      cases outcome <;> rfl

theorem status_of_base (hread : Arguments.read items = .ok arguments)
    (hbase : arguments.base world = .ok base) :
    (useInto items world writer).status =
      (Conclusion.ofResult
          (Run.run (.ofConfig (arguments.override base)) writer world).result).status
        (arguments.exitCode || base.run.exitCode) := by
  have hexit : (arguments.override base).run.exitCode =
      (arguments.exitCode || base.run.exitCode) := Bool.or_comm _ _
  rw [useInto_of_base hread hbase, status_settled, hexit]

theorem Ends.status_eq {status : Nat} (h : Ends items world writer status) :
    (useInto items world writer).status = status := by
  cases h with
  | requested hread hrequest =>
      simp [useInto, hread, decline, ArgumentFault.status, ArgumentFault.isRequest_iff, hrequest]
  | misused hread hfault =>
      simp [useInto, hread, decline, ArgumentFault.status, ArgumentFault.isRequest_iff, hfault]
  | unconfigured hread hbase =>
      simp [useInto, hread, conclude, perform, Arguments.configInForce_eq, hbase, Except.map]
  | ran hread hbase hrun => rw [status_of_base hread hbase, hrun.ofResult_eq]

theorem exists_ends (items : List Octets) (world : World) (writer : Writer) :
    ∃ status, Ends items world writer status := by
  cases hread : Arguments.read items with
  | error fault =>
      by_cases hrequest : fault = .help ∨ fault = .version
      · exact ⟨0, .requested hread hrequest⟩
      · exact ⟨2, .misused hread hrequest⟩
  | ok arguments =>
      cases hbase : arguments.base world with
      | error fault => exact ⟨1, .unconfigured hread hbase⟩
      | ok base => exact ⟨_, .ran hread hbase (Run.concludes_run _ _ _)⟩

theorem status_eq_iff {status : Nat} :
    (useInto items world writer).status = status ↔ Ends items world writer status := by
  constructor
  · rintro rfl
    obtain ⟨status, h⟩ := exists_ends items world writer
    rw [h.status_eq]
    exact h
  · exact Ends.status_eq

theorem Ends.bound {status : Nat} (h : Ends items world writer status) :
    status = 0 ∨ status = 1 ∨ status = 2 := by
  cases h with
  | requested => simp
  | misused => simp
  | unconfigured => simp
  | @ran arguments base conclusion =>
      cases conclusion with
      | faulted => simp [Conclusion.status]
      | passed => simp [Conclusion.status]
      | failed =>
          rw [Conclusion.status]
          split <;> simp

theorem succeeds_iff {settings : Settings} (h : settings? items world = some settings) :
    Succeeds items world writer (useInto items world writer) ↔
      Concludes settings writer world .passed := by
  have htrace := (useInto_of_settings?_eq_some h writer).2
  constructor
  · rintro ⟨⟨settings', harness, hsettings, hharness, hending⟩, hverdict, hflushed⟩
    cases h.symm.trans hsettings
    rw [htrace, Run.verdict_run_of_passed hharness hending] at hverdict
    exact .announced hharness hending (Writer.obstacle?_eq_none_iff.mpr ⟨hverdict, hflushed⟩)
  · intro hpassed
    cases hpassed with
    | announced hharness hending hwriter =>
        obtain ⟨hreceived, hflushed⟩ := Writer.obstacle?_eq_none_iff.mp hwriter
        refine ⟨⟨settings, _, h, hharness, hending⟩, ?_, hflushed⟩
        rw [htrace, Run.verdict_run_of_passed hharness hending, hreceived, Run.message]

theorem status_eq_zero_iff_of_strict (h : Strict items world) :
    (useInto items world writer).status = 0 ↔
      Succeeds items world writer (useInto items world writer) := by
  obtain ⟨arguments, hread, hstrict⟩ := h
  cases hbase : arguments.base world with
  | error fault =>
      rw [(Ends.unconfigured hread hbase).status_eq]
      constructor
      · nofun
      · rintro ⟨⟨settings, harness, hsettings, -⟩, -⟩
        cases hsettings.symm.trans (settings?_of_unconfigured hread hbase)
  | ok base =>
      have hcount : (arguments.exitCode || base.run.exitCode) = true := by
        rcases hstrict with hflag | ⟨base', hbase', hsetting⟩
        · rw [hflag, Bool.true_or]
        · cases hbase.symm.trans hbase'
          rw [hsetting, Bool.or_true]
      rw [status_of_base hread hbase, hcount, Conclusion.status_true_eq_zero_iff,
        ← Run.concludes_iff]
      exact (succeeds_iff (settings?_of_base hread hbase)).symm

theorem status_eq_zero_of_failed {settings : Settings} (h : ¬ Strict items world)
    (hsettings : settings? items world = some settings)
    (hfailed : Concludes settings writer world .failed) :
    (useInto items world writer).status = 0 := by
  obtain ⟨arguments, base, hread, hbase, rfl⟩ := settings?_eq_some hsettings
  have hcount : (arguments.exitCode || base.run.exitCode) = false := by
    refine Bool.eq_false_iff.mpr fun hcount => h ⟨arguments, hread, ?_⟩
    rcases Bool.or_eq_true_iff.mp hcount with hflag | hsetting
    · exact .inl hflag
    · exact .inr ⟨base, hbase, hsetting⟩
  rw [(Ends.ran hread hbase hfailed).status_eq, hcount]
  rfl

theorem tells_useInto (items : List Octets) (world : World) (writer : Writer) :
    Tells items world writer (useInto items world writer) where
  ends _ := status_eq_iff
  bound := (status_eq_iff.mp rfl).bound
  strict := status_eq_zero_iff_of_strict
  lenient h _ hsettings hfailed := status_eq_zero_of_failed h hsettings hfailed

def failingWorld : World where
  files := FileTree.empty.set [Octets.ofText "headless.py"]
    (.file 0o755 (.program { ending := .exited 3 }))

/-- The status tells of the failure only if that is asked for. -/
theorem tells_useInto_failed :
    (¬ Strict [Octets.ofText "--no-open"] failingWorld ∧
      (useInto [Octets.ofText "--no-open"] failingWorld {}).status = 0) ∧
    (Strict [Octets.ofText "--no-open", Octets.ofText "--exit-code"] failingWorld ∧
      ¬ Succeeds [Octets.ofText "--no-open", Octets.ofText "--exit-code"] failingWorld {}
        (useInto [Octets.ofText "--no-open", Octets.ofText "--exit-code"] failingWorld {})) := by
  have hread : Arguments.read [Octets.ofText "--no-open"] = .ok { noOpen := true } := by rfl
  have hread' : Arguments.read [Octets.ofText "--no-open", Octets.ofText "--exit-code"] =
      .ok { noOpen := true, exitCode := true } := by rfl
  have hfailed : Concludes (.ofConfig (Arguments.override { noOpen := true } {})) {} failingWorld
      .failed := .unopened rfl (by decide) rfl
  have hlenient : ¬ Strict [Octets.ofText "--no-open"] failingWorld := by
    rintro ⟨arguments, h, hstrict⟩
    cases hread.symm.trans h
    rcases hstrict with hflag | ⟨base, hbase, hsetting⟩
    · cases hflag
    · cases hbase
      cases hsetting
  have hstrict : Strict [Octets.ofText "--no-open", Octets.ofText "--exit-code"] failingWorld :=
    ⟨_, hread', .inl rfl⟩
  refine ⟨⟨hlenient, (tells_useInto _ _ _).lenient hlenient _ rfl hfailed⟩, hstrict, ?_⟩
  have hstatus := ((tells_useInto _ _ _).ends 1).mpr (.ran hread' rfl hfailed)
  rw [← (tells_useInto _ _ _).strict hstrict, hstatus]
  decide

end CommandLine

end Reftest
