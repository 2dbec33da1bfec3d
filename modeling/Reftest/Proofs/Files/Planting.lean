import Reftest.Proofs.Files.Ground

namespace Reftest

namespace FileTree

variable {tree files : FileTree} {here place directory : Location} {name path : Octets}
  {names : List Octets} {entry : Entry}

/-- Nothing lies where a directory goes on that has been taken away. -/
def Named (tree : FileTree) : Prop :=
  ∀ place : Location, place.isGone = true → tree.lookup? place = none

theorem named_empty : FileTree.empty.Named := fun _ _ => rfl

theorem isGone_append_singleton (here : Location) (hname : name ≠ []) :
    (here ++ [name]).isGone = false := by
  simp [Location.isGone, hname]

theorem Named.set (h : tree.Named) (hplace : place.isGone = false) (entry : Entry) :
    (tree.set place entry).Named := by
  intro other hother
  rw [lookup?_set_of_ne]
  · exact h other hother
  · rintro rfl
    cases hplace.symm.trans hother

theorem Named.erase (h : tree.Named) (place : Location) : (tree.erase place).Named := by
  intro other hother
  by_cases hne : other = place
  · rw [hne, lookup?_erase_self]
  · rw [lookup?_erase_of_ne tree hne, h other hother]

theorem Named.prune (h : tree.Named) (place : Location) : (tree.prune place).Named := by
  intro other hother
  by_cases hbelow : place <+: other
  · rw [lookup?_prune_of_isPrefixOf tree hbelow]
  · rw [lookup?_prune_of_not_isPrefixOf tree hbelow, h other hother]

theorem Named.isGone_eq_false (h : tree.Named) (hplace : tree.lookup? place = some entry) :
    place.isGone = false := by
  apply Bool.eq_false_iff.mpr
  intro hgone
  cases hplace.symm.trans (h place hgone)

theorem Named.append (h : tree.Named) (place : Location) (octets : Octets) :
    (tree.append place octets).Named := by
  by_cases hfile : ∃ mode before, tree.lookup? place = some (.file mode (.octets before))
  · obtain ⟨mode, before, hfile⟩ := hfile
    rw [append_of_octets hfile]
    exact h.set (h.isGone_eq_false hfile) _
  · rw [append_of_not_octets hfile]
    exact h

theorem Named.create (h : tree.Named)
    (hcreate : tree.create directory path = .ok (place, files)) : files.Named := by
  obtain ⟨-, hcreates, rfl⟩ := create_cases hcreate
  apply h.set
  cases hcreates with
  | again _ hfile => exact h.isGone_eq_false hfile
  | anew hfind =>
      obtain ⟨above, name, hsought, rfl, -⟩ := sought_of_way (find_eq_ok.mp hfind).2
      exact isGone_append_singleton above hsought.ne_nil

theorem Stands.not_isPrefixOf (h : tree.Stands directory) (hroot : place ≠ [])
    (hgone : place.isGone = false) (hplace : tree.lookup? place ≠ some .directory) :
    ¬ place <+: directory := by
  intro hbelow
  cases h place hbelow with
  | root => exact hroot rfl
  | directory hdirectory => exact hplace hdirectory
  | gone hgone' => cases hgone.symm.trans hgone'

theorem Stands.replace (h : tree.Stands directory) (hplace : ¬ place <+: directory)
    (entry : Entry) : ((tree.prune place).set place entry).Stands directory := by
  intro above habove
  have hbelow : ¬ place <+: above := fun hbelow => hplace (hbelow.trans habove)
  apply (h above habove).congr
  rw [lookup?_set_of_ne, lookup?_prune_of_not_isPrefixOf tree hbelow]
  rintro rfl
  exact hbelow List.prefix_rfl

theorem descend_invariant {P : FileTree → Prop}
    (hstep : ∀ tree here name, name ≠ [] → tree.lookup? (here ++ [name]) ≠ some .directory →
      P tree → P ((tree.prune (here ++ [name])).set (here ++ [name]) .directory))
    (hnames : ∀ name ∈ names, name ≠ []) (h : P tree) (here : Location) :
    P (tree.descend here names).1 := by
  induction names generalizing tree here with
  | nil => exact h
  | cons name rest ih =>
      have hname : name ≠ [] := hnames name List.mem_cons_self
      have hrest : ∀ name ∈ rest, name ≠ [] := fun other hmem =>
        hnames other (List.mem_cons_of_mem _ hmem)
      simp only [descend]
      split
      · exact ih hrest h _
      · split
        · exact ih hrest h _
        · rename_i target hlink
          split
          · exact ih hrest h _
          · refine ih hrest (hstep tree here name hname ?_ h) _
            rw [hlink]
            exact fun hdirectory => nomatch hdirectory
        · rename_i hdirectory hlink
          exact ih hrest (hstep tree here name hname hdirectory h) _

theorem Named.descend (h : tree.Named) (hnames : ∀ name ∈ names, name ≠ []) (here : Location) :
    (tree.descend here names).1.Named := by
  apply descend_invariant _ hnames h
  intro tree here name hname _ hnamed
  exact (hnamed.prune _).set (isGone_append_singleton here hname) _

theorem Stands.descend (h : tree.Stands directory) (hnames : ∀ name ∈ names, name ≠ [])
    (here : Location) : (tree.descend here names).1.Stands directory := by
  apply descend_invariant (P := fun tree => tree.Stands directory) _ hnames h
  intro tree here name hname hplace hstands
  apply hstands.replace
  exact hstands.not_isPrefixOf (by simp) (isGone_append_singleton here hname) hplace

theorem Ground.prune_of_not_isPrefixOf (h : tree.Ground here) (hplace : ¬ place <+: here) :
    (tree.prune place).Ground here :=
  h.congr (lookup?_prune_of_not_isPrefixOf tree hplace)

theorem Stands.prune_above (h : tree.Stands place.dropLast) :
    (tree.prune place).Stands place.dropLast := by
  intro above habove
  by_cases hplace : place <+: above
  · -- only the root is not below the directory that it is in
    have hlength : place.length ≤ place.length - 1 := by
      simpa only [List.length_dropLast] using (hplace.trans habove).length_le
    have hroot : place = [] := List.eq_nil_of_length_eq_zero (by omega)
    subst hroot
    rw [List.prefix_nil.mp habove]
    exact .root (by rw [file?, lookup?_prune_of_isPrefixOf tree List.prefix_rfl])
  · exact (h above habove).prune_of_not_isPrefixOf hplace

theorem Stands.below_gone (h : tree.Stands directory) (hnamed : tree.Named) (count : Nat) :
    tree.Stands (directory ++ List.replicate count []) := by
  induction count with
  | zero =>
      rw [List.replicate_zero, List.append_nil]
      exact h
  | succ count ih =>
      intro above habove
      rw [List.replicate_succ', ← List.append_assoc, List.prefix_concat_iff] at habove
      cases habove with
      | inl hwhole =>
          have hgone : Location.isGone above = true := by simp [Location.isGone, hwhole]
          exact .gone hgone (by simp only [file?, hnamed above hgone])
      | inr habove => exact ih above habove

theorem Stands.prune (h : tree.Stands directory) (hnamed : tree.Named) (place : Location) :
    (tree.prune place).Stands (directory.afterRemoval place) := by
  by_cases hplace : place <+: directory
  · have habove : (tree.prune place).Stands place.dropLast := by
      apply Stands.prune_above
      intro above habove
      exact h above (habove.trans ((List.dropLast_prefix place).trans hplace))
    rw [Location.afterRemoval, if_pos (List.isPrefixOf_iff_prefix.mpr hplace)]
    exact habove.below_gone (hnamed.prune place) _
  · rw [Location.afterRemoval_of_not_isPrefixOf hplace]
    intro above habove
    exact (h above habove).prune_of_not_isPrefixOf fun hbelow => hplace (hbelow.trans habove)

theorem Stands.set_free (h : tree.Stands directory) (hroot : place ≠ [])
    (hgone : place.isGone = false) (hplace : tree.lookup? place = none) (entry : Entry) :
    (tree.set place entry).Stands directory := by
  have hfree : ¬ place <+: directory := by
    apply h.not_isPrefixOf hroot hgone
    rw [hplace]
    exact fun hdirectory => nomatch hdirectory
  intro above habove
  apply (h above habove).set_of_ne
  rintro rfl
  exact hfree habove

end FileTree

structure World.Settled (world : World) : Prop where
  named : world.files.Named
  grounded : world.Grounded

namespace World.Settled

variable {world : World} {names : List Octets}

theorem bare (environment : Environment) (input : Octets) :
    Settled { files := .empty, environment, input } := by
  constructor
  · exact FileTree.named_empty
  · intro above habove
    rw [List.prefix_nil.mp habove]
    exact .root rfl

theorem make (h : world.Settled) (root : Location) (hnames : ∀ name ∈ names, name ≠ []) :
    (world.withFiles (world.files.descend root names).1).Settled where
  named := h.named.descend hnames root
  grounded := FileTree.Stands.descend h.grounded hnames root

theorem enter (h : world.Settled) {directory : Location}
    (hdirectory : ∀ above, above <+: directory → above ≠ [] →
      world.files.lookup? above = some .directory) :
    Settled { world with directory } where
  named := h.named
  grounded := by
    intro above habove
    by_cases hroot : above = []
    · rw [hroot]
      exact h.grounded.root [] List.prefix_rfl
    · exact .directory (hdirectory above habove hroot)

theorem clear (h : world.Settled) (place : Location) : (world.clear place).Settled where
  named := h.named.prune place
  grounded := FileTree.Stands.prune h.grounded h.named place

theorem plant (h : world.Settled) (root : Location) (hnonempty : names ≠ [])
    (hnames : ∀ name ∈ names, name ≠ []) (entry : Entry) :
    (world.plant root names entry).Settled := by
  have habove : ∀ name ∈ names.dropLast, name ≠ [] := fun name hmem =>
    hnames name ((List.dropLast_sublist names).subset hmem)
  have hlast : names.getLastD [] ≠ [] := by
    rw [List.getLastD_eq_getLast?, List.getLast?_eq_some_getLast hnonempty]
    exact hnames _ (List.getLast_mem hnonempty)
  let files := (world.files.descend root names.dropLast).1
  let place := (world.files.descend root names.dropLast).2 ++ [names.getLastD []]
  have hplace : place.isGone = false := FileTree.isGone_append_singleton _ hlast
  have hcleared := (h.make root habove).clear place
  constructor
  · exact hcleared.named.set hplace entry
  · apply FileTree.Stands.set_free hcleared.grounded (by simp [place]) hplace
    exact FileTree.lookup?_prune_of_isPrefixOf files List.prefix_rfl

theorem uproot (h : world.Settled) (root : Location) (names : List Octets) :
    (world.uproot root names).Settled := by
  unfold World.uproot
  split
  · exact h.clear _
  · exact h

end World.Settled

end Reftest
