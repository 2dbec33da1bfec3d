import Reftest.Proofs.Files.Planting
import Reftest.Proofs.Run.Unfolding

namespace Reftest.Run

variable {settings : Settings} {world : World} {harness : Execution} {log : Location}
  {files : FileTree}

theorem grounded_after {execution : Execution} (h : execution.world.Grounded) :
    execution.after.Grounded := by
  have hwritten : execution.written.Stands execution.world.directory := by
    unfold Execution.written
    cases execution.outlet with
    | inherited => exact h
    | file place => exact FileTree.Stands.append h place execution.output
  unfold World.Grounded
  rw [execution.files_after, execution.directory_after]
  cases hdeleted : execution.deleted? with
  | none => exact hwritten
  | some place =>
      obtain ⟨path, -, hremoved⟩ := Option.bind_eq_some_iff.mp hdeleted
      exact hwritten.erase (FileTree.lookup?_of_removed? hremoved)

theorem grounded_withFiles (h : world.Grounded)
    (hlog : world.files.create world.directory settings.logFile = .ok (log, files)) :
    (world.withFiles files).Grounded :=
  FileTree.Stands.create h hlog

theorem grounded_harness (h : world.Grounded) (hharness : harnessRun settings world = .ok harness) :
    harness.after.Grounded := by
  obtain ⟨log, files, hlog, hworld, -⟩ := harnessRun_eq_ok hharness
  apply grounded_after
  rw [hworld]
  exact grounded_withFiles h hlog

theorem named_after {execution : Execution} (h : execution.world.files.Named) :
    execution.after.files.Named := by
  have hwritten : execution.written.Named := by
    unfold Execution.written
    cases execution.outlet with
    | inherited => exact h
    | file place => exact h.append place execution.output
  rw [execution.files_after]
  cases execution.deleted? with
  | none => exact hwritten
  | some place => exact hwritten.erase place

theorem settled_run (h : world.Settled) (settings : Settings) (writer : Writer) :
    (run settings writer world).world.Settled := by
  apply run_invariant
  · unfold logged
    split
    · exact h
    · exact ⟨h.named.create ‹_›, grounded_withFiles h.grounded ‹_›⟩
  · intro execution _ hbefore
    exact ⟨named_after hbefore.named, grounded_after hbefore.grounded⟩

/-- The worlds that come of a bare one by making and entering directories, by laying out files and
taking them away, and by runs. -/
inductive Reached : World → Prop
  | bare (environment : Environment) (input : Octets) :
      Reached { files := .empty, environment, input }
  | made {world : World} {names : List Octets} (h : Reached world) (root : Location)
      (hnames : ∀ name ∈ names, name ≠ []) :
      Reached (world.withFiles (world.files.descend root names).1)
  | entered {world : World} {directory : Location} (h : Reached world)
      (hdirectory : ∀ above, above <+: directory → above ≠ [] →
        world.files.lookup? above = some .directory) :
      Reached { world with directory }
  | planted {world : World} {names : List Octets} (h : Reached world) (root : Location)
      (hnonempty : names ≠ []) (hnames : ∀ name ∈ names, name ≠ []) (entry : Entry) :
      Reached (world.plant root names entry)
  | uprooted {world : World} (h : Reached world) (root : Location) (names : List Octets) :
      Reached (world.uproot root names)
  | ran {world : World} (h : Reached world) (settings : Settings) (writer : Writer) :
      Reached (run settings writer world).world

theorem Reached.settled (h : Reached world) : world.Settled := by
  induction h with
  | bare environment input => exact .bare environment input
  | made _ root hnames ih => exact ih.make root hnames
  | entered _ hdirectory ih => exact ih.enter hdirectory
  | planted _ root hnonempty hnames entry ih => exact ih.plant root hnonempty hnames entry
  | uprooted _ root names ih => exact ih.uproot root names
  | ran _ settings writer ih => exact settled_run ih settings writer

end Reftest.Run
