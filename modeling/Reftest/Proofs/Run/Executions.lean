import Reftest.Proofs.Files.Change
import Reftest.Proofs.Run.Stages

namespace Reftest

theorem Ending.succeeded_iff (ending : Ending) : ending.succeeded = true ↔ ending = .exited 0 := by
  simp [succeeded]

namespace Program

def summon (world : World) (busy : Option Location) (name : String) (arguments : List Octets)
    (refused : Failure → Fault) : Except Fault Launch :=
  match locate world (Octets.ofText name) with
  | .error _ => .error (.programNotFound name)
  | .ok path => (launch world busy path arguments).mapError refused

inductive Summons (world : World) (busy : Option Location) (name : String)
    (arguments : List Octets) (refused : Failure → Fault) : Except Fault Launch → Prop
  | unknown {failure : SearchFailure}
      (hlocate : locate world (Octets.ofText name) = .error failure) :
      Summons world busy name arguments refused (.error (.programNotFound name))
  | refused {path : Octets} {failure : Failure}
      (hlocate : locate world (Octets.ofText name) = .ok path)
      (hlaunch : launch world busy path arguments = .error failure) :
      Summons world busy name arguments refused (.error (refused failure))
  | run {path : Octets} {launched : Launch}
      (hlocate : locate world (Octets.ofText name) = .ok path)
      (hlaunch : launch world busy path arguments = .ok launched) :
      Summons world busy name arguments refused (.ok launched)

theorem summons_of_summon {world : World} {busy : Option Location} {name : String}
    {arguments : List Octets} {refused : Failure → Fault} {result : Except Fault Launch}
    (h : summon world busy name arguments refused = result) :
    Summons world busy name arguments refused result := by
  subst h
  unfold summon
  cases hlocate : locate world (Octets.ofText name) with
  | error failure => exact .unknown hlocate
  | ok path =>
      cases hlaunch : launch world busy path arguments with
      | error failure =>
          dsimp only
          rw [hlaunch]
          exact .refused hlocate hlaunch
      | ok launched =>
          dsimp only
          rw [hlaunch]
          exact .run hlocate hlaunch

end Program

namespace Run

structure Execution where
  launched : Program.Launch
  outlet : Outlet
  world : World

namespace Execution

def attempt (execution : Execution) : Attempt Ending :=
  execute execution.launched execution.outlet execution.world

def after (execution : Execution) : World :=
  execution.attempt.world

def ending (execution : Execution) : Ending :=
  execution.launched.behaviour.ending

def output (execution : Execution) : Octets :=
  let behaviour := execution.launched.behaviour
  let first := spoken behaviour execution.launched.arguments execution.world.input
  let world := execution.world.withFiles (execution.outlet.write execution.world.files first)
  first ++ (behaviour.shows.map (shownFile world)).getD []

def written (execution : Execution) : FileTree :=
  execution.outlet.write execution.world.files execution.output

def deleted? (execution : Execution) : Option Location :=
  execution.launched.behaviour.removes.bind
    (execution.written.removed? execution.world.directory)

end Execution

theorem Outlet.write_write (outlet : Outlet) (files : FileTree) (first second : Octets) :
    outlet.write (outlet.write files first) second = outlet.write files (first ++ second) := by
  cases outlet with
  | file place => exact FileTree.append_append files place first second
  | inherited => rfl

namespace Execution

theorem attempt_eq (execution : Execution) :
    execution.attempt = ⟨.ok execution.ending, execution.after,
      .call execution.launched.path execution.launched.arguments ::
        execution.outlet.trace execution.output ++
        [.complaint execution.launched.behaviour.complaint]⟩ := rfl

theorem files_after (execution : Execution) :
    execution.after.files =
      execution.deleted?.elim execution.written execution.written.erase := by
  have hwritten : execution.written = execution.outlet.write _ _ :=
    (Outlet.write_write execution.outlet execution.world.files _ _).symm
  unfold deleted?
  cases hremoves : execution.launched.behaviour.removes with
  | none =>
      simp only [after, attempt, execute, hremoves, World.withFiles, Option.bind_none,
        Option.elim_none]
      exact hwritten.symm
  | some path =>
      simp only [after, attempt, execute, hremoves, World.withFiles, Option.bind_some,
        ← FileTree.remove_eq]
      rw [hwritten]
      rfl

@[simp] theorem directory_after (execution : Execution) :
    execution.after.directory = execution.world.directory := rfl

@[simp] theorem environment_after (execution : Execution) :
    execution.after.environment = execution.world.environment := rfl

theorem lookup?_after_of_not_deleted (execution : Execution) {place : Location}
    (h : execution.deleted? ≠ some place) :
    execution.after.files.lookup? place = execution.written.lookup? place := by
  rw [files_after]
  cases hdeleted : execution.deleted? with
  | none => rfl
  | some other =>
      refine FileTree.lookup?_erase_of_ne _ ?_
      rintro rfl
      exact h hdeleted

theorem lookup?_after_deleted (execution : Execution) {place : Location}
    (hdeleted : execution.deleted? = some place) :
    execution.after.files.lookup? place = none := by
  rw [files_after, hdeleted]
  exact FileTree.lookup?_erase_self _ _

@[simp] theorem calls_attempt (execution : Execution) :
    execution.attempt.trace.calls = [execution.launched.call] :=
  calls_execute _ _ _

@[simp] theorem verdict_attempt (execution : Execution) :
    execution.attempt.trace.verdict = [] :=
  verdict_execute _ _ _

theorem events_attempt (execution : Execution) : execution.attempt.trace.events = [] :=
  events_execute _ _ _

theorem events_behind (execution : Execution) (event : Log.Event) (rest : Trace) :
    Trace.events (.event event :: (execution.attempt.trace ++ rest)) = event :: rest.events := by
  rw [events_cons_event, Trace.events_append, events_attempt, List.nil_append]

theorem calls_behind (execution : Execution) (event : Log.Event) (rest : Trace) :
    Trace.calls (.event event :: (execution.attempt.trace ++ rest)) =
      execution.launched.call :: rest.calls := by
  rw [calls_cons_event, Trace.calls_append, calls_attempt, List.singleton_append]

theorem verdict_behind (execution : Execution) (event : Log.Event) (rest : Trace) :
    Trace.verdict (.event event :: (execution.attempt.trace ++ rest)) = rest.verdict := by
  rw [verdict_cons_event, Trace.verdict_append, verdict_attempt, List.nil_append]

end Execution

end Run

end Reftest
