import Reftest.Proofs.Files.Route

namespace Reftest.FileTree

variable {tree files : FileTree} {place : Location} {directory : Location} {path : Octets}

def modeFor (tree : FileTree) (place : Location) : Nat :=
  match tree.file? place with
  | some (mode, _) => mode
  | none => newMode

theorem file?_eq_some {mode : Nat} {content : Content} :
    tree.file? place = some (mode, content) ↔ tree.lookup? place = some (.file mode content) := by
  unfold file?
  split <;> simp_all

theorem find_eq_ok {purpose : Purpose} {landing : Landing} :
    tree.find purpose directory path = .ok landing ↔
      (path ≠ [] ∧ path.length < pathLimit) ∧
        tree.way purpose linkLimit (Path.origin directory path) (Path.steps path) =
          .ok landing := by
  unfold find
  split
  · simp_all
  · split
    · simp only [reduceCtorEq, false_iff]
      omega
    · rename_i hempty hlong
      simp only [ne_eq, hempty, not_false_eq_true, true_and, Nat.lt_of_not_le hlong]

theorem locate_eq_ok :
    tree.locate directory path = .ok place ↔
      tree.find .find directory path = .ok (.entry place) := by
  unfold locate
  split <;> simp [*]

theorem find_find_of_create {landing : Landing}
    (h : tree.find .create directory path = .ok landing) :
    tree.find .find directory path = .ok landing := by
  obtain ⟨hpath, hway⟩ := find_eq_ok.mp h
  exact find_eq_ok.mpr ⟨hpath, way_find_of_create hway⟩

theorem lookup?_of_find_vacant (h : tree.find .find directory path = .ok (.vacant place)) :
    tree.lookup? place = none :=
  lookup?_of_way_vacant (find_eq_ok.mp h).2

theorem modeFor_of_free (h : tree.lookup? place = none) : tree.modeFor place = newMode := by
  simp [modeFor, file?, h]

theorem modeFor_of_file {mode : Nat} {content : Content}
    (h : tree.lookup? place = some (.file mode content)) : tree.modeFor place = mode := by
  simp [modeFor, file?, h]

/-- How a file comes to be created: in a free place, or in place of what a file holds. -/
inductive Creates (tree : FileTree) (directory : Location) (path : Octets) (place : Location) :
    Prop
  | anew (hfind : tree.find .find directory path = .ok (.vacant place))
  | again {mode : Nat} {content : Content}
      (hfind : tree.find .find directory path = .ok (.entry place))
      (hfile : tree.lookup? place = some (.file mode content))

theorem create_cases (h : tree.create directory path = .ok (place, files)) :
    Path.hasNul path = false ∧ tree.Creates directory path place ∧
      files = tree.set place (.file (tree.modeFor place) (.octets [])) := by
  unfold create at h
  split at h
  · cases h
  · rename_i hnul
    refine ⟨Bool.eq_false_iff.mpr hnul, ?_⟩
    split at h
    · cases h
    · rename_i vacant hfind
      cases h
      have hfind := find_find_of_create hfind
      refine ⟨.anew hfind, ?_⟩
      simp [modeFor, file?, lookup?_of_find_vacant hfind]
    · rename_i entry hfind
      split at h
      · rename_i mode content hfile
        cases h
        refine ⟨.again (find_find_of_create hfind) (file?_eq_some.mp hfile), ?_⟩
        simp [modeFor, hfile]
      · cases h

theorem Creates.unique {other : Location} (h : tree.Creates directory path place)
    (hother : tree.Creates directory path other) : place = other := by
  cases h with
  | anew hfind =>
      cases hother with
      | anew hother =>
          cases hfind.symm.trans hother
          rfl
      | again hother => cases hfind.symm.trans hother
  | again hfind =>
      cases hother with
      | anew hother => cases hfind.symm.trans hother
      | again hother =>
          cases hfind.symm.trans hother
          rfl

theorem alike_set_file {mode : Nat} {content : Content}
    (h : tree.lookup? place = some (.file mode content)) (mode' : Nat) (content' : Content)
    (other : Location) :
    Entry.Alike (tree.lookup? other) ((tree.set place (.file mode' content')).lookup? other) := by
  by_cases hother : other = place
  · subst hother
    rw [h, lookup?_set_self]
    exact .file _ _ _ _
  · rw [lookup?_set_of_ne _ _ hother]
    exact .refl _

theorem Creates.leads (h : tree.Creates directory path place) (mode : Nat) (content : Content) :
    (tree.set place (.file mode content)).locate directory path = .ok place ∧
      (tree.set place (.file mode content)).route directory path = tree.route directory path := by
  cases h with
  | anew hfind =>
      obtain ⟨hpath, hway⟩ := find_eq_ok.mp hfind
      obtain ⟨hset, hplaces⟩ := way_set mode content hway
      refine ⟨?_, hplaces⟩
      simp only [locate, find_eq_ok.mpr ⟨hpath, hset⟩]
  | again hfind hfile =>
      have halike := alike_set_file hfile mode content
      refine ⟨?_, route_congr fun other _ => halike other⟩
      rw [locate_congr fun other _ => halike other]
      simp only [locate, hfind]

theorem append_of_octets {mode : Nat} {before : Octets}
    (h : tree.lookup? place = some (.file mode (.octets before))) (octets : Octets) :
    tree.append place octets = tree.set place (.file mode (.octets (before ++ octets))) := by
  simp only [append, h]

theorem append_of_not_octets
    (h : ¬ ∃ mode before, tree.lookup? place = some (.file mode (.octets before)))
    (octets : Octets) : tree.append place octets = tree := by
  unfold append
  split
  · exact absurd ⟨_, _, ‹_›⟩ h
  · rfl

theorem append_append (tree : FileTree) (place : Location) (first second : Octets) :
    (tree.append place first).append place second = tree.append place (first ++ second) := by
  by_cases h : ∃ mode before, tree.lookup? place = some (.file mode (.octets before))
  · obtain ⟨mode, before, hfile⟩ := h
    rw [append_of_octets hfile, append_of_octets (lookup?_set_self _ _ _), append_of_octets hfile,
      set_set, List.append_assoc]
  · rw [append_of_not_octets h, append_of_not_octets h, append_of_not_octets h]

def removed? (tree : FileTree) (directory : Location) (path : Octets) : Option Location :=
  if Path.hasNul path ∨ pathLimit ≤ path.length then none
  else (tree.nameplace? (Path.origin directory path) (Path.steps path)).filter fun place =>
    match tree.lookup? place with
    | some (.file _ _) => true
    | some (.link _) => true
    | _ => false

theorem remove_eq (tree : FileTree) (directory : Location) (path : Octets) :
    tree.remove directory path = (tree.removed? directory path).elim tree tree.erase := by
  unfold remove removed?
  split
  · rfl
  · split
    · simp [*]
    · rename_i place hplace
      rw [hplace, Option.filter_some]
      split <;> simp_all

theorem leads_erase (h : place ∉ tree.route directory path) :
    (tree.erase place).locate directory path = tree.locate directory path ∧
      (tree.erase place).route directory path = tree.route directory path := by
  have halike : ∀ other ∈ tree.route directory path,
      Entry.Alike (tree.lookup? other) ((tree.erase place).lookup? other) := by
    intro other hother
    have hne : other ≠ place := by
      rintro rfl
      exact h hother
    rw [lookup?_erase_of_ne tree hne]
    exact .refl _
  exact ⟨locate_congr halike, route_congr halike⟩

structure Holds (tree : FileTree) (directory : Location) (path : Octets) (place : Location)
    (octets : Octets) : Prop where
  noNul : Path.hasNul path = false
  leads : tree.locate directory path = .ok place
  file : ∃ mode, tree.lookup? place = some (.file mode (.octets octets))

theorem Holds.read {octets : Octets} (h : tree.Holds directory path place octets) :
    tree.read directory path = .ok octets := by
  obtain ⟨mode, hfile⟩ := h.file
  simp [FileTree.read, h.noNul, h.leads, file?_eq_some.mpr hfile, Content.read]

/-- What has become of a tree: a path leads to a file that holds some octets, on the same way as
before, and whatever else there was on this way is still there. -/
structure Keeps (before : FileTree) (directory : Location) (path : Octets) (place : Location)
    (octets : Octets) (after : FileTree) : Prop where
  holds : after.Holds directory path place octets
  route : after.route directory path = before.route directory path
  others : ∀ other ∈ before.route directory path, other ≠ place →
    after.lookup? other = before.lookup? other

variable {before after : FileTree} {octets : Octets}

theorem keeps_of_create (h : before.create directory path = .ok (place, after)) :
    before.Keeps directory path place [] after := by
  obtain ⟨hnul, hcreates, rfl⟩ := create_cases h
  obtain ⟨hleads, hroute⟩ := hcreates.leads (before.modeFor place) (.octets [])
  exact ⟨⟨hnul, hleads, _, lookup?_set_self _ _ _⟩, hroute,
    fun other _ hother => lookup?_set_of_ne _ _ hother⟩

theorem Keeps.append (h : before.Keeps directory path place octets after) (more : Octets) :
    before.Keeps directory path place (octets ++ more) (after.append place more) := by
  obtain ⟨mode, hfile⟩ := h.holds.file
  rw [append_of_octets hfile]
  have halike := alike_set_file hfile mode (.octets (octets ++ more))
  refine ⟨⟨h.holds.noNul, ?_, mode, lookup?_set_self _ _ _⟩, ?_, ?_⟩
  · rw [locate_congr fun other _ => halike other]
    exact h.holds.leads
  · rw [route_congr fun other _ => halike other]
    exact h.route
  · intro other hmem hother
    rw [lookup?_set_of_ne _ _ hother]
    exact h.others other hmem hother

theorem Keeps.erase {removed : Location} (h : before.Keeps directory path place octets after)
    (hroute : removed ∉ after.route directory path) (hplace : removed ≠ place) :
    before.Keeps directory path place octets (after.erase removed) := by
  obtain ⟨hleads, hsame⟩ := leads_erase hroute
  refine ⟨⟨h.holds.noNul, hleads.trans h.holds.leads, ?_⟩, hsame.trans h.route, ?_⟩
  · rw [lookup?_erase_of_ne _ hplace.symm]
    exact h.holds.file
  · intro other hmem hother
    have hne : other ≠ removed := by
      rintro rfl
      exact hroute (h.route ▸ hmem)
    rw [lookup?_erase_of_ne _ hne]
    exact h.others other hmem hother

end Reftest.FileTree
