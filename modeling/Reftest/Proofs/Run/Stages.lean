import Reftest.Proofs.Program.Execution
import Reftest.Proofs.Run.Reception
import Reftest.Run.Outcome

namespace Reftest.Run

namespace Settings

def harnessLine (settings : Settings) : List Octets :=
  settings.harnessArguments.map Octets.ofText ++ [Octets.ofText settings.suite]

def browserLine (settings : Settings) : List Octets :=
  settings.browserArguments.map Octets.ofText ++ [Octets.ofText settings.address]

end Settings

theorem createLog_of_error {world : World} {path : Octets} {failure : Failure}
    (h : world.files.create world.directory path = .error failure) :
    createLog path world = Stage.fail (.logFile path failure) world := by
  simp [createLog, h]

theorem createLog_of_ok {world : World} {path : Octets} {log : Location} {files : FileTree}
    (h : world.files.create world.directory path = .ok (log, files)) :
    createLog path world = Stage.done log (world.withFiles files) := by
  simp [createLog, h]

theorem find_of_ok {world : World} {name : String} {path : Octets}
    (h : Program.locate world (Octets.ofText name) = .ok path) :
    find name world = Stage.done path world := by
  simp [find, h]

theorem start_of_error {world : World} {path : Octets} {arguments : List Octets}
    {failure : Failure} (outlet : Outlet) (refused : Failure → Fault)
    (h : Program.launch world outlet.place? path arguments = .error failure) :
    start path arguments outlet refused world = Stage.fail (refused failure) world := by
  simp [start, h]

theorem start_of_ok {world : World} {path : Octets} {arguments : List Octets}
    {launched : Program.Launch} (outlet : Outlet) (refused : Failure → Fault)
    (h : Program.launch world outlet.place? path arguments = .ok launched) :
    start path arguments outlet refused world = execute launched outlet world := by
  simp [start, h]

@[simp] theorem result_execute (launched : Program.Launch) (outlet : Outlet) (world : World) :
    (execute launched outlet world).result = .ok launched.behaviour.ending := rfl

@[simp] theorem calls_execute (launched : Program.Launch) (outlet : Outlet) (world : World) :
    (execute launched outlet world).trace.calls = [launched.call] := by
  cases outlet <;> rfl

@[simp] theorem verdict_execute (launched : Program.Launch) (outlet : Outlet) (world : World) :
    (execute launched outlet world).trace.verdict = [] := by
  cases outlet <;> rfl

theorem events_execute (launched : Program.Launch) (outlet : Outlet) (world : World) :
    (execute launched outlet world).trace.events = [] := by
  cases outlet <;> rfl

theorem events_cons_event (event : Log.Event) (trace : Trace) :
    Trace.events (.event event :: trace) = event :: trace.events := rfl

@[simp] theorem calls_cons_event (event : Log.Event) (trace : Trace) :
    Trace.calls (.event event :: trace) = trace.calls := rfl

@[simp] theorem verdict_cons_event (event : Log.Event) (trace : Trace) :
    Trace.verdict (.event event :: trace) = trace.verdict := rfl

theorem events_announce (writer : Writer) (world : World) :
    (announce writer world).trace.events = [] := by
  obtain ⟨result, trace, hannounce, htrace⟩ := announce_cases writer
  rw [hannounce]
  refine List.filterMap_eq_nil_iff.mpr fun happening hmem => ?_
  obtain rfl | ⟨octets, rfl⟩ := htrace happening hmem <;> rfl

@[simp] theorem calls_announce (writer : Writer) (world : World) :
    (announce writer world).trace.calls = [] := by
  obtain ⟨result, trace, hannounce, htrace⟩ := announce_cases writer
  rw [hannounce]
  refine List.filterMap_eq_nil_iff.mpr fun happening hmem => ?_
  obtain rfl | ⟨octets, rfl⟩ := htrace happening hmem <;> rfl

end Reftest.Run
