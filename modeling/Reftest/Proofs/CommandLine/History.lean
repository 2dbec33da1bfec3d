import Reftest.Proofs.CommandLine.Session
import Reftest.Proofs.Run.Log

/-!
The content of a log through all the runs that use it.  A run that makes the log leaves in it what
its own harness writes, and nothing from elsewhere; any other run leaves it as it was.
-/

namespace Reftest

open Run (Settings Writer)

inductive Use where
  | run (settings : Settings) (writer : Writer)
  | command (items : List Octets) (writer : Writer)

structure Episode where
  use : Use
  world : World

namespace Episode

def settings? (episode : Episode) : Option Settings :=
  match episode.use with
  | .run settings _ => some settings
  | .command items _ => CommandLine.settings? items episode.world

def after (episode : Episode) : World :=
  match episode.use with
  | .run settings writer => (Run.run settings writer episode.world).world
  | .command items writer => (CommandLine.useInto items episode.world writer).world

def leaves (episode : Episode) : Option Octets :=
  episode.settings?.bind fun settings => Run.leavesInLog settings episode.world

theorem after_of_none {episode : Episode} (h : episode.settings? = none) :
    episode.after = episode.world := by
  obtain ⟨use, world⟩ := episode
  cases use with
  | run settings writer => cases h
  | command items writer => exact (CommandLine.useInto_of_settings?_eq_none h writer).1

theorem after_of_some {episode : Episode} {settings : Settings}
    (h : episode.settings? = some settings) :
    ∃ writer, episode.after = (Run.run settings writer episode.world).world := by
  obtain ⟨use, world⟩ := episode
  cases use with
  | run settings writer =>
      cases h
      exact ⟨writer, rfl⟩
  | command items writer => exact ⟨writer, (CommandLine.useInto_of_settings?_eq_some h writer).1⟩

/-- An episode uses the log at a path, and none of the programs that it runs deletes the log or an
entry on the way there. -/
structure Uses (episode : Episode) (path : Octets) : Prop where
  logFile : ∀ settings, episode.settings? = some settings → settings.logFile = path
  spares : ∀ settings, episode.settings? = some settings →
    ∀ execution ∈ Run.executions settings episode.world, execution.Spares path

/-- The log holds some octets after an episode, on the way on which it was before. -/
structure Logs (episode : Episode) (path octets : Octets) : Prop where
  read : episode.after.read path = .ok octets
  way : ∃ log, episode.world.files.Creates episode.world.directory path log ∧
    ∀ place ∈ episode.world.files.route episode.world.directory path, place ≠ log →
      episode.after.files.lookup? place = episode.world.files.lookup? place

theorem after_of_leaves_eq_none {episode : Episode} (h : episode.leaves = none) :
    episode.after = episode.world := by
  unfold leaves at h
  cases hsettings : episode.settings? with
  | none => exact after_of_none hsettings
  | some settings =>
      rw [hsettings] at h
      obtain ⟨writer, hafter⟩ := after_of_some hsettings
      rw [hafter]
      exact Run.run_of_leavesInLog_eq_none h writer

theorem logs_of_leaves {episode : Episode} {path octets : Octets} (huses : episode.Uses path)
    (h : episode.leaves = some octets) : episode.Logs path octets := by
  obtain ⟨settings, hsettings, hleaves⟩ := Option.bind_eq_some_iff.mp h
  obtain ⟨writer, hafter⟩ := after_of_some hsettings
  have hpath := huses.logFile settings hsettings
  have hspares := huses.spares settings hsettings
  subst hpath
  obtain ⟨log, hcreates, hdirectory, hkeeps⟩ := Run.keeps_run hspares hleaves writer
  rw [← hafter] at hdirectory hkeeps
  refine ⟨?_, log, hcreates, hkeeps.others⟩
  rw [World.read, hdirectory]
  exact hkeeps.holds.read

theorem read_after {episode : Episode} {path : Octets} (huses : episode.Uses path) :
    episode.after.read path = episode.leaves.elim (episode.world.read path) .ok := by
  cases h : episode.leaves with
  | none => rw [after_of_leaves_eq_none h, Option.elim_none]
  | some octets => exact (logs_of_leaves huses h).read

end Episode

/-- Episodes one after the other.  The world may change between them, but not what there is to be
read at the path of the log. -/
inductive History (path : Octets) : World → List Episode → World → Prop
  | nil (world : World) : History path world [] world
  | cons {first last : World} {episode : Episode} {rest : List Episode}
      (hbetween : episode.world.read path = first.read path) (huses : episode.Uses path)
      (hrest : History path episode.after rest last) : History path first (episode :: rest) last

theorem uses_of_history {path : Octets} {first last : World} {episodes : List Episode}
    (h : History path first episodes last) : ∀ episode ∈ episodes, episode.Uses path := by
  induction h with
  | nil => simp
  | cons _ huses _ ih => exact List.forall_mem_cons.mpr ⟨huses, ih⟩

/-- After each episode the log is what the episode left in it, or what it was before; so it is in
the end what the last episode that made it left there. -/
theorem log_of_history {path : Octets} {first last : World} {episodes : List Episode}
    (h : History path first episodes last) :
    (∀ episode ∈ episodes,
      match episode.leaves with
      | none => episode.after = episode.world
      | some octets => episode.Logs path octets) ∧
    last.read path =
      episodes.foldl (fun held episode => episode.leaves.elim held .ok) (first.read path) := by
  constructor
  · intro episode hmem
    have huses := uses_of_history h episode hmem
    split
    · exact Episode.after_of_leaves_eq_none ‹_›
    · exact Episode.logs_of_leaves huses ‹_›
  -- on the history, with what there is to be read before its first episode
  · induction h with
    | nil => rfl
    | cons hbetween huses _ ih =>
        rw [List.foldl_cons, ← hbetween, ← Episode.read_after huses]
        exact ih

/-- The path of the log is a link into a directory.  The harness shows the log that it is writing,
and deletes a file that is not on the way to it. -/
def linkedLogWorld : World where
  files := (((FileTree.empty.set [[0x64]] .directory).set [[0x6C]] (.link [0x64, 0x2F, 0x66])).set
    [[0x68]] (.file 0o755 (.program
      { output := [0x41], shows := some [0x6C], removes := some [0x6B], ending := .killed }))).set
    [[0x6B]] (.file 0o644 (.octets []))

def linkedLogSettings (harness : String) : Settings :=
  { Settings.ofConfig {} with harness := harness, logFile := [0x6C], openOnFailure := false }

def firstEpisode : Episode := ⟨.run (linkedLogSettings "./h") {}, linkedLogWorld⟩

def refusedEpisode : Episode := ⟨.command [[0x2D, 0x2D, 0x78]] {}, firstEpisode.after⟩

def emptyEpisode : Episode := ⟨.run (linkedLogSettings "./x") {}, refusedEpisode.after⟩

theorem log_of_history_linkedLog :
    History [0x6C] linkedLogWorld [firstEpisode, refusedEpisode, emptyEpisode] emptyEpisode.after ∧
      firstEpisode.Logs [0x6C] [0x41, 0x41] ∧ refusedEpisode.after = firstEpisode.after ∧
      emptyEpisode.after.read [0x6C] = .ok [] := by
  have hfirst : firstEpisode.Uses [0x6C] := by
    constructor <;> intro settings h <;> cases h
    · rfl
    · decide
  have hrefused : refusedEpisode.Uses [0x6C] := by
    constructor <;> intro settings h <;> cases h
  have hempty : emptyEpisode.Uses [0x6C] := by
    constructor <;> intro settings h <;> cases h
    · rfl
    · decide
  have h : History [0x6C] linkedLogWorld [firstEpisode, refusedEpisode, emptyEpisode]
      emptyEpisode.after :=
    .cons rfl hfirst (.cons rfl hrefused (.cons rfl hempty (.nil _)))
  obtain ⟨heach, hlast⟩ := log_of_history h
  exact ⟨h, heach firstEpisode (by simp), heach refusedEpisode (by simp), hlast⟩

end Reftest
