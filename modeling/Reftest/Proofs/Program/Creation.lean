import Reftest.Proofs.Files.Walk
import Reftest.Proofs.Program.Resolution

namespace Reftest

namespace FileTree

variable {tree files : FileTree} {place : Location} {directory : Location} {path : Octets}

def runnableAt (tree : FileTree) (place : Location) : Bool :=
  (tree.file? place).any (runnable ·.1)

theorem isProgram_eq (tree : FileTree) (directory : Location) (path : Octets) :
    tree.isProgram directory path =
      (!Path.hasNul path && (tree.locate directory path).toOption.any tree.runnableAt) := by
  unfold isProgram
  cases tree.locate directory path with
  | error failure => rfl
  | ok place =>
      simp only [Except.toOption, Option.any_some, runnableAt]
      cases tree.file? place <;> rfl

theorem runnableAt_set (mode : Nat) (content : Content)
    (hmode : runnable mode = tree.runnableAt place) (other : Location) :
    (tree.set place (.file mode content)).runnableAt other = tree.runnableAt other := by
  by_cases hother : other = place
  · subst hother
    rw [← hmode]
    simp [runnableAt, file?]
  · simp only [runnableAt, file?, lookup?_set_of_ne _ _ hother]

theorem find_set (hfree : tree.lookup? place = none) (mode : Nat) (content : Content)
    {landing : Landing} (h : tree.find .find directory path = .ok landing) :
    (tree.set place (.file mode content)).find .find directory path =
      .ok (if landing = .vacant place then .entry place else landing) := by
  obtain ⟨hpath, hway⟩ := find_eq_ok.mp h
  exact find_eq_ok.mpr ⟨hpath, way_set_ok hfree mode content hway⟩

theorem find_set_error (hfree : tree.lookup? place = none) (mode : Nat) (content : Content)
    {failure : Failure} (h : tree.find .find directory path = .error failure) :
    ∃ failure', (tree.set place (.file mode content)).find .find directory path =
      .error failure' := by
  unfold find at h ⊢
  split at h
  · exact ⟨failure, by rw [if_pos ‹_›]; exact h⟩
  · rw [if_neg ‹_›]
    split at h
    · exact ⟨failure, by rw [if_pos ‹_›]; exact h⟩
    · rw [if_neg ‹_›]
      exact way_set_error hfree mode content h

theorem isProgram_set_free (hfree : tree.lookup? place = none) {mode : Nat}
    (hmode : runnable mode = false) (content : Content) (directory : Location) (path : Octets) :
    (tree.set place (.file mode content)).isProgram directory path =
      tree.isProgram directory path := by
  have hplace : tree.runnableAt place = false := by simp [runnableAt, file?, hfree]
  have hsame := runnableAt_set mode content (hmode.trans hplace.symm)
  rw [isProgram_eq, isProgram_eq]
  congr 1
  unfold locate
  cases hfind : tree.find .find directory path with
  | error failure =>
      obtain ⟨failure', hset⟩ := find_set_error hfree mode content hfind
      rw [hset]
      rfl
  | ok landing =>
      rw [find_set hfree mode content hfind]
      cases landing with
      | entry other => simpa [Except.toOption] using hsame other
      | vacant other =>
          by_cases hother : other = place
          · simpa [Except.toOption, hother, hplace] using hsame place
          · simp [Except.toOption, hother]

theorem isProgram_set_again {mode : Nat} {content : Content}
    (hfile : tree.lookup? place = some (.file mode content)) (content' : Content)
    (directory : Location) (path : Octets) :
    (tree.set place (.file mode content')).isProgram directory path =
      tree.isProgram directory path := by
  have hplace : runnable mode = tree.runnableAt place := by simp [runnableAt, file?, hfile]
  have halike := alike_set_file hfile mode content'
  rw [isProgram_eq, isProgram_eq, locate_congr fun other _ => halike other]
  simp only [funext (runnableAt_set mode content' hplace)]

/-- What becomes of a tree in which an empty file is made.  A new file may not be run, and one that
was there keeps its mode. -/
inductive Made (tree : FileTree) (place : Location) : FileTree → Prop
  | new {mode : Nat} (hfree : tree.lookup? place = none) (hmode : runnable mode = false) :
      Made tree place (tree.set place (.file mode (.octets [])))
  | emptied {mode : Nat} {content : Content}
      (hfile : tree.lookup? place = some (.file mode content)) :
      Made tree place (tree.set place (.file mode (.octets [])))

theorem made_of_create (h : tree.create directory path = .ok (place, files)) :
    tree.Made place files := by
  obtain ⟨-, hcreates, rfl⟩ := create_cases h
  cases hcreates with
  | anew hfind =>
      have hfree := lookup?_of_find_vacant hfind
      rw [modeFor_of_free hfree]
      exact .new hfree (by decide)
  | again _ hfile =>
      rw [modeFor_of_file hfile]
      exact .emptied hfile

theorem Made.isProgram_eq (h : tree.Made place files) (directory : Location) (path : Octets) :
    files.isProgram directory path = tree.isProgram directory path := by
  cases h with
  | new hfree hmode => exact isProgram_set_free hfree hmode _ _ _
  | emptied hfile => exact isProgram_set_again hfile _ _ _

theorem Made.locate_eq {target : Location} (h : tree.Made place files)
    (htarget : tree.locate directory path = .ok target) :
    files.locate directory path = .ok target := by
  cases h with
  | new hfree =>
      rw [locate_eq_ok] at htarget ⊢
      rw [find_set hfree _ _ htarget]
      simp
  | emptied hfile =>
      rw [locate_congr fun other _ => alike_set_file hfile _ _ other]
      exact htarget

end FileTree

namespace World

variable {world : World} {path : Octets} {place : Location} {files : FileTree}

theorem offers_create (h : world.files.create world.directory path = .ok (place, files))
    (other : Octets) : (world.withFiles files).Offers other ↔ world.Offers other := by
  rw [offers_iff, offers_iff,
    ← (FileTree.made_of_create h).isProgram_eq world.directory other]
  rfl

theorem leadsTo_create (h : world.files.create world.directory path = .ok (place, files))
    {other : Octets} {target : Location} (hother : world.LeadsTo other target) :
    (world.withFiles files).LeadsTo other target where
  plain := hother.plain
  denotes := by
    have htarget := FileTree.locate_eq_ok_iff.mpr hother.denotes
    exact FileTree.locate_eq_ok_iff.mp ((FileTree.made_of_create h).locate_eq htarget)

end World

namespace Program

theorem locate_create {world : World} {path : Octets} {place : Location} {files : FileTree}
    (h : world.files.create world.directory path = .ok (place, files)) (name : Octets) :
    locate (world.withFiles files) name = locate world name := by
  have hprogram : files.isProgram world.directory = world.files.isProgram world.directory :=
    funext ((FileTree.made_of_create h).isProgram_eq world.directory)
  unfold locate search
  simp only [World.withFiles, hprogram]

end Program

end Reftest
