import Reftest.Proofs.Files.Change
import Reftest.Proofs.Files.Segments
import Reftest.World

/-!
The places in a tree of files at which one can stand.  A way with a last step that leads to no
entry ends at such a place, and there is no file there.
-/

namespace Reftest

namespace FileTree

variable {tree files : FileTree} {here place directory : Location} {step path : Octets}
  {steps rest : List Octets} {links : Nat}

/-- A place for directories: the root, a directory, or where there was one that is gone. -/
inductive Ground (tree : FileTree) : Location → Prop
  | root (hfile : tree.file? [] = none) : Ground tree []
  | directory {place : Location} (hplace : tree.lookup? place = some .directory) :
      Ground tree place
  | gone {place : Location} (hgone : place.isGone = true) (hfile : tree.file? place = none) :
      Ground tree place

def Stands (tree : FileTree) (place : Location) : Prop :=
  ∀ above, above <+: place → tree.Ground above

theorem Ground.file?_eq_none (h : tree.Ground place) : tree.file? place = none := by
  cases h with
  | root hfile => exact hfile
  | directory hplace => simp [file?, hplace]
  | gone _ hfile => exact hfile

theorem Stands.file?_eq_none (h : tree.Stands place) : tree.file? place = none :=
  (h place List.prefix_rfl).file?_eq_none

theorem Stands.root (h : tree.Stands place) : tree.Stands [] :=
  fun above habove => h above (habove.trans List.nil_prefix)

theorem Stands.up (h : tree.Stands place) : tree.Stands place.dropLast :=
  fun above habove => h above (habove.trans (List.dropLast_prefix place))

theorem Stands.down (h : tree.Stands here)
    (hdirectory : tree.lookup? (here ++ [step]) = some .directory) :
    tree.Stands (here ++ [step]) := by
  intro above habove
  rcases List.prefix_concat_iff.mp habove with rfl | habove
  · exact .directory hdirectory
  · exact h above habove

theorem Stands.origin (h : tree.Stands directory) (path : Octets) :
    tree.Stands (Path.origin directory path) := by
  unfold Path.origin
  split
  · exact h.root
  · exact h

/-! Ways that end in a step to no entry. -/

def Lingers (steps : List Octets) : Prop :=
  ∀ last, steps.getLast? = some last → Path.Turns last

theorem Lingers.tail (h : Lingers (step :: rest)) : Lingers rest := by
  intro last hlast
  apply h
  rw [List.getLast?_cons, hlast, Option.getD_some]

theorem Lingers.tail_ne_nil (h : Lingers (step :: rest)) (hstep : ¬ Path.Turns step) :
    rest ≠ [] := by
  rintro rfl
  exact hstep (h step rfl)

theorem Lingers.append (h : Lingers rest) (hrest : rest ≠ []) (steps : List Octets) :
    Lingers (steps ++ rest) := by
  intro last hlast
  apply h
  rwa [List.getLast?_append, Option.or_of_isSome (List.getLast?_isSome.mpr hrest)] at hlast

inductive StandsIn (tree : FileTree) : Stretch → Prop
  | landed {place : Location} (hplace : tree.Stands place) :
      StandsIn tree (.landed (.entry place))
  | link {directory : Location} {target : Octets} {rest : List Octets}
      (hdirectory : tree.Stands directory) (hlingers : Lingers rest) (hrest : rest ≠ []) :
      StandsIn tree (.link directory target rest)

theorem Sought.not_turns (h : Sought here step) : ¬ Path.Turns step := by
  rintro (hempty | hdot | hdotDot)
  · exact h.ne_nil hempty
  · exact h.ne_dot hdot
  · exact h.ne_dotDot hdotDot

theorem standsIn_of_stretches {stretched : Stretch} (h : tree.Stretches here steps stretched)
    (hhere : tree.Stands here) (hsteps : Lingers steps) : tree.StandsIn stretched := by
  induction h with
  | done here => exact .landed hhere
  | stay _ _ ih => exact ih hhere hsteps.tail
  | up _ ih => exact ih hhere.up hsteps.tail
  | enter _ hentry _ ih => exact ih (hhere.down hentry) hsteps.tail
  | file hsought => exact absurd rfl (hsteps.tail_ne_nil hsought.not_turns)
  | vacant hsought => exact absurd rfl (hsteps.tail_ne_nil hsought.not_turns)
  | link rest hsought => exact .link hhere hsteps.tail (hsteps.tail_ne_nil hsought.not_turns)

theorem stands_of_way (hhere : tree.Stands here) (hsteps : Lingers steps) {landing : Landing}
    (h : tree.way .find links here steps = .ok landing) :
    ∃ place, landing = .entry place ∧ tree.Stands place := by
  fun_induction way tree .find links here steps with
  | case1 => cases h
  | case2 links here steps landing hstretch =>
      cases h
      cases standsIn_of_stretches (stretches_of_stretch hstretch) hhere hsteps with
      | landed hplace => exact ⟨_, rfl, hplace⟩
  | case3 => cases h
  | case4 here steps directory target rest hstretch links ih =>
      cases standsIn_of_stretches (stretches_of_stretch hstretch) hhere hsteps with
      | link hdirectory hlingers hrest =>
          exact ih (hdirectory.origin target) (hlingers.append hrest _) h

theorem not_isProgram_of_lingers (hdirectory : tree.Stands directory)
    (hsteps : Lingers (Path.steps path)) : tree.isProgram directory path = false := by
  unfold isProgram
  cases hlocate : tree.locate directory path with
  | error failure => simp
  | ok place =>
      unfold locate at hlocate
      split at hlocate
      · cases hlocate
      · cases hlocate
      · rename_i entry hfind
        cases hlocate
        obtain ⟨place, hplace, hstands⟩ :=
          stands_of_way (hdirectory.origin path) hsteps (find_eq_ok.mp hfind).2
        cases hplace
        simp [hstands.file?_eq_none]

theorem Ground.congr (h : tree.Ground here) (hlookup : files.lookup? here = tree.lookup? here) :
    files.Ground here := by
  have hsame : files.file? here = tree.file? here := by rw [file?, file?, hlookup]
  cases h with
  | root hfile => exact .root (hsame.trans hfile)
  | directory hplace => exact .directory (hlookup.trans hplace)
  | gone hgone hfile => exact .gone hgone (hsame.trans hfile)

theorem Ground.set_of_ne (h : tree.Ground here) (hne : here ≠ place) (entry : Entry) :
    (tree.set place entry).Ground here :=
  h.congr (lookup?_set_of_ne tree entry hne)

theorem Ground.ne_of_creates (h : tree.Ground here) (hcreates : tree.Creates directory path place) :
    here ≠ place := by
  rintro rfl
  cases hcreates with
  | again _ hfile => cases (file?_eq_some.mpr hfile).symm.trans h.file?_eq_none
  | anew hfind =>
      obtain ⟨above, name, hsought, hnamed, hfree⟩ := sought_of_way (find_eq_ok.mp hfind).2
      cases h with
      | root => simp at hnamed
      | directory hplace => cases hfree.symm.trans hplace
      | gone hgone => simp [Location.isGone, hnamed, hsought.ne_nil] at hgone

theorem Stands.create (h : tree.Stands here)
    (hcreate : tree.create directory path = .ok (place, files)) : files.Stands here := by
  obtain ⟨-, hcreates, rfl⟩ := create_cases hcreate
  exact fun above habove => (h above habove).set_of_ne ((h above habove).ne_of_creates hcreates) _

theorem Stands.append (h : tree.Stands here) (place : Location) (octets : Octets) :
    (tree.append place octets).Stands here := by
  by_cases hfile : ∃ mode before, tree.lookup? place = some (.file mode (.octets before))
  · obtain ⟨mode, before, hfile⟩ := hfile
    rw [append_of_octets hfile]
    intro above habove
    refine (h above habove).set_of_ne ?_ _
    rintro rfl
    cases (file?_eq_some.mpr hfile).symm.trans (h above habove).file?_eq_none
  · rw [append_of_not_octets hfile]
    exact h

theorem Ground.erase (h : tree.Ground here) (hplace : tree.lookup? place ≠ some .directory) :
    (tree.erase place).Ground here := by
  have hfile : (tree.erase place).file? here = none := by
    by_cases hne : here = place
    · simp [file?, hne]
    · simpa only [file?, lookup?_erase_of_ne tree hne] using h.file?_eq_none
  cases h with
  | root => exact .root hfile
  | gone hgone => exact .gone hgone hfile
  | directory hdirectory =>
      refine .directory ?_
      rw [lookup?_erase_of_ne]
      · exact hdirectory
      · rintro rfl
        exact hplace hdirectory

theorem Stands.erase (h : tree.Stands here) (hplace : tree.lookup? place ≠ some .directory) :
    (tree.erase place).Stands here :=
  fun above habove => (h above habove).erase hplace

theorem lookup?_of_removed? (h : tree.removed? directory path = some place) :
    tree.lookup? place ≠ some .directory := by
  unfold removed? at h
  split at h
  · cases h
  · obtain ⟨-, hkind⟩ := Option.filter_eq_some_iff.mp h
    intro hdirectory
    rw [hdirectory] at hkind
    cases hkind

end FileTree

/-- The working directory is a place to stand at, as it is in any system: it was entered as a
directory, and what becomes of it later leaves no file in its place or above it. -/
def World.Grounded (world : World) : Prop :=
  world.files.Stands world.directory

end Reftest
