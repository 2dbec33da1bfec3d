import Reftest.Proofs.Program.Execution
import Reftest.Proofs.Program.Resolution

/-!
A file that is open for writing, which cannot be run.  A path with a separator is refused for it.
Without a separator the system searches for the path, and it takes the entries of the search path
as they are written; so it stops at the file too, unless a tilde in an entry in front of it made a
difference.
-/

namespace Reftest

namespace Path

theorem dropEmpty_append_empty (front : List Octets) {back : List Octets} (hback : back ≠ []) :
    dropEmpty (front ++ [] :: back) = dropEmpty (front ++ back) := by
  induction front with
  | nil =>
      obtain ⟨first, rest, rfl⟩ := List.exists_cons_of_ne_nil hback
      simp [dropEmpty]
  | cons step front ih =>
      obtain ⟨next, rest, hrest⟩ := List.exists_cons_of_ne_nil
        (List.append_ne_nil_of_right_ne_nil front (List.cons_ne_nil [] back))
      obtain ⟨next', rest', hrest'⟩ := List.exists_cons_of_ne_nil
        (List.append_ne_nil_of_right_ne_nil front hback)
      rw [hrest, hrest'] at ih
      simp only [List.cons_append, hrest, hrest', dropEmpty, ih]

theorem steps_separator (front back : Octets) :
    steps (front ++ separator :: separator :: back) = steps (front ++ separator :: back) := by
  unfold steps
  rw [pieces_append_mark, pieces_mark, pieces_append_mark]
  exact dropEmpty_append_empty _ (pieces_ne_nil separator back)

end Path

namespace FileTree

variable {tree : FileTree} {place directory : Location}

theorem locate_separator {front back : Octets}
    (h : tree.locate directory (front ++ Path.separator :: Path.separator :: back) = .ok place) :
    tree.locate directory (front ++ Path.separator :: back) = .ok place := by
  rw [locate_eq_ok] at h ⊢
  obtain ⟨⟨-, hlength⟩, hway⟩ := find_eq_ok.mp h
  refine find_eq_ok.mpr ⟨⟨by simp, ?_⟩, ?_⟩
  · simp only [List.length_append, List.length_cons] at hlength ⊢
    omega
  · have horigin : Path.origin directory (front ++ Path.separator :: Path.separator :: back) =
        Path.origin directory (front ++ Path.separator :: back) := by
      cases front <;> rfl
    rwa [Path.steps_separator, horigin] at hway

end FileTree

namespace Program

variable {world : World} {busy : Location} {path name : Octets} {arguments : List Octets}

theorem content_of_busy (h : world.files.locate world.directory path = .ok busy) :
    ∃ failure, content world (some busy) path = .error failure := by
  simp only [content, h, if_true]
  split
  · exact ⟨_, rfl⟩
  · split <;> exact ⟨_, rfl⟩

theorem launchAt_of_content_error {opened : Option Location} {failure : Failure}
    (h : content world opened path = .error failure) (arguments : List Octets) :
    launchAt world opened arguments path = .error failure := by
  simp only [launchAt, h]

theorem not_executes_of_busy (h : world.files.locate world.directory path = .ok busy)
    (launched : Launch) : ¬ Executes world (some busy) path arguments launched := by
  obtain ⟨failure, hcontent⟩ := content_of_busy h
  intro hexecutes
  cases hexecutes with
  | program hprogram => cases hcontent.symm.trans hprogram
  | script hscript => cases hcontent.symm.trans hscript

theorem launchAt_of_offers (hoffers : world.Offers path)
    (h : world.files.locate world.directory path = .ok busy) (arguments : List Octets) :
    launchAt world (some busy) arguments path = .error .fileBusy := by
  obtain ⟨-, place, mode, inner, hplace, hfile, hmode⟩ := hoffers
  cases h.symm.trans hplace
  apply launchAt_of_content_error
  simp [content, h, FileTree.file?_eq_some.mpr hfile, hmode]

theorem launchAt_of_not_offers (hoffers : ¬ world.Offers path) (hnul : Path.hasNul path = false)
    (opened : Option Location) (arguments : List Octets) :
    ∃ failure, launchAt world opened arguments path = .error failure := by
  have hcontent : ∃ failure, content world opened path = .error failure := by
    cases hplace : world.files.locate world.directory path with
    | error failure => exact ⟨failure, by simp only [content, hplace]⟩
    | ok place =>
        cases hfile : world.files.file? place with
        | none => exact ⟨.permissionDenied, by simp only [content, hplace, hfile]⟩
        | some held =>
            obtain ⟨mode, inner⟩ := held
            have hmode : runnable mode = false := Bool.eq_false_iff.mpr fun hmode =>
              hoffers ⟨hnul, place, mode, inner, hplace, FileTree.file?_eq_some.mp hfile, hmode⟩
            exact ⟨.permissionDenied, by simp [content, hplace, hfile, hmode]⟩
  obtain ⟨failure, h⟩ := hcontent
  exact ⟨failure, launchAt_of_content_error h arguments⟩

theorem launchFirst_of_stop {opened : Option Location} {front : List Octets} {failure : Failure}
    (hfront : ∀ candidate ∈ front, ∃ failure,
      launchAt world opened arguments candidate = .error failure)
    (hpath : launchAt world opened arguments path = .error failure)
    (hstop : passesOn failure = false) (before : Failure) (rest : List Octets) :
    ∃ failure', launchFirst world opened arguments before (front ++ path :: rest) =
      .error failure' := by
  induction front generalizing before with
  | nil => exact ⟨failure, by simp [launchFirst, hpath, hstop]⟩
  | cons candidate front ih =>
      obtain ⟨failure', hcandidate⟩ := hfront candidate List.mem_cons_self
      cases hpasses : passesOn failure' with
      | false => exact ⟨failure', by simp [launchFirst, hcandidate, hpasses]⟩
      | true =>
          obtain ⟨failure'', hrest⟩ :=
            ih (fun other hother => hfront other (List.mem_cons_of_mem _ hother))
              (remaining before failure')
          exact ⟨failure'', by simpa [launchFirst, hcandidate, hpasses] using hrest⟩

def systemEntry (entry : Octets) : Octets :=
  if pathLimit ≤ entry.length then [] else entry

theorem systemEntries_append_empty (front back : List Octets) :
    ∃ rest, systemEntries (front ++ [] :: back) = front.map systemEntry ++ [] :: rest := by
  induction front with
  | nil =>
      cases back with
      | nil => exact ⟨[], rfl⟩
      | cons next back => exact ⟨systemEntries (next :: back), rfl⟩
  | cons entry front ih =>
      obtain ⟨rest, hrest⟩ := ih
      obtain ⟨next, others, hothers⟩ := List.exists_cons_of_ne_nil
        (List.append_ne_nil_of_right_ne_nil front (List.cons_ne_nil [] back))
      rw [hothers] at hrest
      refine ⟨rest, ?_⟩
      rw [List.cons_append, hothers, systemEntries, hrest]
      · rfl
      · simp

/-- The system and the program take the entries of the search path in the same way: none begins
with a tilde, and none has a NUL in it, which no variable of an environment could have. -/
def Plain (environment : Environment) : Prop :=
  ∀ searchPath, environment.searchPath = some searchPath →
    ∀ entry ∈ pieces entrySeparator searchPath,
      Path.hasNul entry = false ∧ expandHome (tildeHome environment) entry = entry

theorem Plain.entries_eq {environment : Environment} (h : Plain environment) {searchPath : Octets}
    (hsearch : environment.searchPath = some searchPath) :
    entries (tildeHome environment) searchPath = pieces entrySeparator searchPath := by
  unfold entries
  exact (List.map_congr_left fun entry hentry => (h searchPath hsearch entry hentry).2).trans
    (List.map_id _)

theorem not_offers_of_join {entry : Octets} (hentry : entry ≠ [])
    (hrelative : Path.isAbsolute name = false) (h : ¬ world.Offers (Path.join entry name)) :
    ¬ world.Offers (entry ++ Path.separator :: name) := by
  unfold Path.join at h
  rw [if_neg (by rw [hrelative]; decide)] at h
  split at h
  · rename_i hlast
    obtain ⟨front, rfl⟩ := List.getLast?_eq_some_iff.mp (hlast.resolve_left hentry)
    rw [List.append_assoc, List.singleton_append] at h ⊢
    rintro ⟨hnul, place, mode, inner, hplace, hfile, hmode⟩
    refine h ⟨?_, place, mode, inner, FileTree.locate_separator hplace, hfile, hmode⟩
    simpa [Path.hasNul] using hnul
  · exact h

theorem join_nil (hrelative : Path.isAbsolute name = false) : Path.join [] name = name := by
  unfold Path.join
  rw [if_neg (by rw [hrelative]; decide), if_pos (.inl rfl), List.nil_append]

theorem isAbsolute_eq_false_of_not_directed (h : ¬ Path.Directed name) :
    Path.isAbsolute name = false :=
  Bool.eq_false_iff.mpr fun habsolute => h (.inl (Path.isAbsolute_iff.mp habsolute))

theorem exists_empty_of_leads {name : String} (h : Leads world name (.ok path))
    (hbare : Path.separator ∉ path) :
    path = Octets.ofText name ∧ Path.isAbsolute path = false ∧ world.Offers path ∧
      ∃ searchPath front back, world.environment.searchPath = some searchPath ∧
        entries (tildeHome world.environment) searchPath = front ++ [] :: back ∧
        ∀ entry ∈ front, entry ≠ [] ∧ ¬ world.Offers (Path.join entry path) := by
  cases h with
  | given hdirected =>
      exact absurd (separator_mem_of_namesDirectory (Path.namesDirectory_iff.mpr hdirected)) hbare
  | found hname hsearch hdirectories hfound =>
      obtain ⟨front, directory, back, rfl, rfl, hoffers, hfront⟩ := hfound
      have hentries := directories_iff.mp hdirectories
      have hdirectory : directory = [] := Decidable.byContradiction fun hdirectory =>
        hbare (separator_mem_join hdirectory _)
      have hrelative := isAbsolute_eq_false_of_not_directed hname
      subst hdirectory
      rw [join_nil hrelative] at hoffers ⊢
      refine ⟨rfl, hrelative, hoffers, _, front, back, hsearch, hentries, ?_⟩
      intro entry hentry
      refine ⟨?_, hfront entry hentry⟩
      rintro rfl
      exact hfront [] hentry ((join_nil hrelative).symm ▸ hoffers)

theorem launch_of_busy {name : String} (hplain : Plain world.environment)
    (hpath : Leads world name (.ok path))
    (hbusy : world.files.locate world.directory path = .ok busy) (arguments : List Octets) :
    ∃ failure, launch world (some busy) path arguments = .error failure := by
  by_cases hnul : (Path.hasNul path || arguments.any Path.hasNul) = true
  · exact ⟨.nulInCommand, by rw [launch, if_pos hnul]⟩
  · rw [launch, if_neg hnul]
    by_cases hseparator : path.contains Path.separator = true
    · obtain ⟨failure, hcontent⟩ := content_of_busy hbusy
      exact ⟨failure, by rw [if_pos hseparator, launchAt_of_content_error hcontent]⟩
    · rw [if_neg hseparator]
      obtain ⟨-, hrelative, hoffers, searchPath, front, back, hsearch, hentries, hfront⟩ :=
        exists_empty_of_leads hpath fun hmem => hseparator (List.contains_iff_mem.mpr hmem)
      rw [hplain.entries_eq hsearch] at hentries
      obtain ⟨rest, hrest⟩ := systemEntries_append_empty front back
      have hstop := launchAt_of_offers hoffers hbusy arguments
      simp only [hsearch, Option.getD_some, systemCandidates, hentries, hrest, List.map_append,
        List.map_cons, if_true, List.map_map]
      refine launchFirst_of_stop ?_ hstop (by decide) _ _
      intro candidate hcandidate
      obtain ⟨entry, hentry, rfl⟩ := List.mem_map.mp hcandidate
      obtain ⟨hnonempty, hmissing⟩ := hfront entry hentry
      by_cases hlong : pathLimit ≤ entry.length
      · exact ⟨.fileBusy, by simpa [systemEntry, hlong] using hstop⟩
      · have hentryNul : Path.hasNul entry = false :=
          (hplain searchPath hsearch entry (by simp [hentries, hentry])).1
        have hcandidateNul : Path.hasNul (entry ++ Path.separator :: path) = false := by
          simp only [Path.hasNul, List.contains_append, List.contains_cons, Bool.or_eq_false_iff]
          exact ⟨hentryNul, by decide, hoffers.1⟩
        simpa [systemEntry, hlong, hnonempty] using
          launchAt_of_not_offers (not_offers_of_join hnonempty hrelative hmissing) hcandidateNul
            (some busy) arguments

end Program

end Reftest
