import Reftest.Proofs.CommandLine.Footprint
import Reftest.Proofs.CommandLine.Status
import Reftest.Proofs.Run.Streams

namespace Reftest

namespace Run.Trace

theorem standardOutput_of_apart {trace : Trace} (h : trace.verdict = [] ∨ trace.output = []) :
    trace.standardOutput = trace.verdict ++ trace.output := by
  induction trace with
  | nil => rfl
  | cons happening rest ih =>
      cases happening with
      | verdict octets =>
          have hrest : verdict rest = [] ∨ output rest = [] :=
            h.imp_left fun hnil => (List.append_eq_nil_iff.mp hnil).2
          calc octets ++ standardOutput rest
              = octets ++ (verdict rest ++ output rest) := by rw [ih hrest]
            _ = octets ++ verdict rest ++ output rest := (List.append_assoc ..).symm
      | output octets =>
          have hrest : verdict rest = [] ∨ output rest = [] :=
            h.imp_right fun hnil => (List.append_eq_nil_iff.mp hnil).2
          -- one of the two that would have to change places is empty
          have hswap : octets ++ verdict rest = verdict rest ++ octets := by
            cases h with
            | inl hverdict =>
                have hverdict : verdict rest = [] := hverdict
                rw [hverdict, List.append_nil, List.nil_append]
            | inr houtput =>
                have hoctets : octets = [] := (List.append_eq_nil_iff.mp houtput).1
                rw [hoctets, List.append_nil, List.nil_append]
          calc octets ++ standardOutput rest
              = octets ++ verdict rest ++ output rest := by rw [ih hrest, List.append_assoc]
            _ = verdict rest ++ (octets ++ output rest) := by rw [hswap, List.append_assoc]
      | event _
      | call _ _
      | complaint _
      | flush => exact ih h

end Run.Trace

namespace CommandLine

open Run (Writer Settings Execution)

variable {items : List Octets} {world : World}

def Requests (items : List Octets) : Prop :=
  Arguments.read items = .error .help ∨ Arguments.read items = .error .version

/-- Where everything goes that comes in and out by the standard streams. -/
structure Routes (items : List Octets) (world : World) (announced : Octets) (session : Session) :
    Prop where
  emits : Run.Emits announced (executions items world) session.trace.verdict session.trace.output
  output : ¬ Requests items → session.output = session.trace.verdict ++ session.trace.output
  calls : session.trace.calls = (executions items world).map (·.launched.call)
  harness : ∀ harness ∈ (executions items world).head?,
    ∃ settings, settings? items world = some settings ∧ Run.WritesLog settings world harness
  handsOn : Run.HandsOn world.input (executions items world) session.world.input
  conserved : world.input =
    (executions items world).flatMap Execution.consumed ++ session.world.input

theorem emits_useInto (items : List Octets) (world : World) (writer : Writer) :
    Run.Emits writer.received (executions items world) (useInto items world writer).trace.verdict
      (useInto items world writer).trace.output := by
  cases h : settings? items world with
  | none =>
      rw [executions_of_none h, (useInto_of_settings?_eq_none h writer).2]
      exact .nothing
  | some settings =>
      rw [executions_of_some h, (useInto_of_settings?_eq_some h writer).2]
      exact Run.emits_run settings writer world

theorem handsOn_useInto (items : List Octets) (world : World) (writer : Writer) :
    Run.HandsOn world.input (executions items world) (useInto items world writer).world.input := by
  cases h : settings? items world with
  | none =>
      rw [executions_of_none h, (useInto_of_settings?_eq_none h writer).1]
      exact .done _
  | some settings =>
      rw [executions_of_some h, (useInto_of_settings?_eq_some h writer).1]
      exact Run.handsOn_run settings writer world

theorem output_useInto (h : ¬ Requests items) (world : World) (writer : Writer) :
    (useInto items world writer).output = (useInto items world writer).trace.standardOutput := by
  unfold useInto
  cases hread : Arguments.read items with
  | error fault =>
      have hfault : ¬ fault.isRequest = true := by
        rw [ArgumentFault.isRequest_iff]
        rintro (rfl | rfl)
        · exact h (.inl hread)
        · exact h (.inr hread)
      exact if_neg hfault
  | ok arguments => rfl

theorem writesLog_of_head {harness : Execution} (h : harness ∈ (executions items world).head?) :
    ∃ settings, settings? items world = some settings ∧
      Run.WritesLog settings world harness := by
  cases hsettings : settings? items world with
  | none =>
      rw [executions_of_none hsettings] at h
      cases h
  | some settings =>
      refine ⟨settings, rfl, ?_⟩
      rw [executions_of_some hsettings] at h
      cases hharness : Run.harnessRun settings world with
      | error fault =>
          rw [Run.executions_of_error hharness] at h
          cases h
      | ok first =>
          rw [Run.executions_of_ok hharness] at h
          cases h
          exact Run.writesLog_of_harnessRun hharness

theorem routes_of_writer (items : List Octets) (world : World) (writer : Writer) :
    Routes items world writer.received (useInto items world writer) where
  emits := emits_useInto items world writer
  output h :=
    (output_useInto h world writer).trans
      (Run.Trace.standardOutput_of_apart (emits_useInto items world writer).apart)
  calls := calls_useInto items world writer
  harness _ := writesLog_of_head
  handsOn := handsOn_useInto items world writer
  conserved := (handsOn_useInto items world writer).conserved

/-- Where the streams of every use go, whatever takes what the program itself writes.  A standard
output that takes everything has the whole message. -/
theorem routes_useInto (items : List Octets) (world : World) :
    Routes items world (Octets.ofText "All tests passed.\n") (use items world) ∧
      ∀ writer, Routes items world writer.received (useInto items world writer) :=
  ⟨routes_of_writer items world {}, routes_of_writer items world⟩

def typedWorld : World where
  files := FileTree.empty.set [Octets.ofText "headless.py"]
    (.file 0o755 (.program { copiesInput := true }))
  input := Octets.ofText "typed\n"

theorem routes_useInto_typed :
    ¬ Requests [] ∧ (use [] typedWorld).output = Octets.ofText "All tests passed.\n" ∧
      (use [] typedWorld).world.input = [] := by
  have hread : Arguments.read [] = .ok {} := rfl
  have hrequests : ¬ Requests [] := by
    rintro (h | h) <;> cases hread.symm.trans h
  have hroutes := (routes_useInto [] typedWorld).1
  have hran : executions [] typedWorld = [_] := rfl
  have hemits := hroutes.emits
  have hconserved := hroutes.conserved
  rw [hran] at hemits hconserved
  refine ⟨hrequests, (hroutes.output hrequests).trans (hemits.append_of_passed rfl), ?_⟩
  exact List.append_cancel_left (hconserved.symm.trans (List.append_nil _).symm)

end CommandLine

end Reftest
