import Reftest.Files.Access

namespace Reftest.FileTree

structure Sought (here : Location) (step : Octets) : Prop where
  ne_nil : step ≠ []
  ne_dot : step ≠ Path.dot
  ne_dotDot : step ≠ Path.dotDot
  present : here.isGone = false
  length_le : step.length ≤ nameLimit

/-- The names are followed one after the other, up to the end or to the first link. -/
inductive Stretches (tree : FileTree) : (here : Location) → List Octets → Stretch → Prop
  | done (here : Location) : Stretches tree here [] (.landed (.entry here))
  | stay {here : Location} {step : Octets} {rest : List Octets} {stretched : Stretch}
      (hstay : step = [] ∨ step = Path.dot) (h : Stretches tree here rest stretched) :
      Stretches tree here (step :: rest) stretched
  | up {here : Location} {rest : List Octets} {stretched : Stretch}
      (h : Stretches tree here.dropLast rest stretched) :
      Stretches tree here (Path.dotDot :: rest) stretched
  | enter {here : Location} {step : Octets} {rest : List Octets} {stretched : Stretch}
      (hsought : Sought here step) (hentry : tree.lookup? (here ++ [step]) = some .directory)
      (h : Stretches tree (here ++ [step]) rest stretched) :
      Stretches tree here (step :: rest) stretched
  | file {here : Location} {step : Octets} {mode : Nat} {content : Content}
      (hsought : Sought here step)
      (hentry : tree.lookup? (here ++ [step]) = some (.file mode content)) :
      Stretches tree here [step] (.landed (.entry (here ++ [step])))
  | vacant {here : Location} {step : Octets} (hsought : Sought here step)
      (hentry : tree.lookup? (here ++ [step]) = none) :
      Stretches tree here [step] (.landed (.vacant (here ++ [step])))
  | link {here : Location} {step target : Octets} (rest : List Octets)
      (hsought : Sought here step)
      (hentry : tree.lookup? (here ++ [step]) = some (.link target)) :
      Stretches tree here (step :: rest) (.link here target rest)

variable {tree : FileTree} {here : Location} {step : Octets} {steps rest : List Octets}
  {stretched : Stretch}

theorem stretch_stay (hstay : step = [] ∨ step = Path.dot) (rest : List Octets) :
    tree.stretch .find here (step :: rest) = tree.stretch .find here rest := by
  rw [stretch, if_pos hstay]

theorem stretch_up (rest : List Octets) :
    tree.stretch .find here (Path.dotDot :: rest) = tree.stretch .find here.dropLast rest := by
  rw [stretch, if_neg (by decide), if_pos rfl]

theorem Sought.stretch_eq (h : Sought here step) (rest : List Octets) :
    tree.stretch .find here (step :: rest) =
      match tree.lookup? (here ++ [step]) with
      | none => if rest = [] then .ok (.landed (.vacant (here ++ [step]))) else .error .noEntry
      | some .directory => tree.stretch .find (here ++ [step]) rest
      | some (.file _ _) =>
        if rest = [] then .ok (.landed (.entry (here ++ [step]))) else .error .notDirectory
      | some (.link target) => .ok (.link here target rest) := by
  have hstay : ¬ (step = [] ∨ step = Path.dot) := not_or.mpr ⟨h.ne_nil, h.ne_dot⟩
  have hlong : ¬ nameLimit < step.length := Nat.not_lt.mpr h.length_le
  rw [stretch, if_neg hstay, if_neg h.ne_dotDot, if_neg (by simp), if_neg (by simp [h.present])]
  exact if_neg hlong

theorem stretch_cons_cases (h : tree.stretch .find here (step :: rest) = .ok stretched) :
    (step = [] ∨ step = Path.dot) ∨ step = Path.dotDot ∨ Sought here step := by
  by_cases hstay : step = [] ∨ step = Path.dot
  · exact .inl hstay
  · by_cases hup : step = Path.dotDot
    · exact .inr (.inl hup)
    · rw [stretch, if_neg hstay, if_neg hup, if_neg (by simp)] at h
      split at h
      · cases h
      · rename_i hgone
        split at h
        · cases h
        · rename_i hlong
          obtain ⟨hnil, hdot⟩ := not_or.mp hstay
          exact .inr (.inr ⟨hnil, hdot, hup, Bool.eq_false_iff.mpr hgone, Nat.le_of_not_lt hlong⟩)

theorem stretches_of_stretch (h : tree.stretch .find here steps = .ok stretched) :
    tree.Stretches here steps stretched := by
  induction steps generalizing here with
  | nil =>
      cases h
      exact .done here
  | cons step rest ih =>
      rcases stretch_cons_cases h with hstay | rfl | hsought
      · rw [stretch_stay hstay] at h
        exact .stay hstay (ih h)
      · rw [stretch_up] at h
        exact .up (ih h)
      · rw [hsought.stretch_eq] at h
        split at h
        · split at h
          · subst_vars
            cases h
            exact .vacant hsought ‹_›
          · cases h
        · exact .enter hsought ‹_› (ih h)
        · split at h
          · subst_vars
            cases h
            exact .file hsought ‹_›
          · cases h
        · cases h
          exact .link rest hsought ‹_›

theorem Stretches.stretch_eq (h : tree.Stretches here steps stretched) :
    tree.stretch .find here steps = .ok stretched := by
  induction h with
  | done here => rw [stretch]
  | stay hstay h ih => rw [stretch_stay hstay, ih]
  | up h ih => rw [stretch_up, ih]
  | enter hsought hentry h ih => rw [hsought.stretch_eq, hentry]; exact ih
  | file hsought hentry => rw [hsought.stretch_eq, hentry]; rfl
  | vacant hsought hentry => rw [hsought.stretch_eq, hentry]; rfl
  | link rest hsought hentry => rw [hsought.stretch_eq, hentry]

variable {place : Location}

theorem Stretches.vacant_sought (h : tree.Stretches here steps (.landed (.vacant place))) :
    ∃ directory name, Sought directory name ∧ place = directory ++ [name] ∧
      tree.lookup? place = none := by
  generalize hstretched : Stretch.landed (.vacant place) = stretched at h
  induction h with
  | done => cases hstretched
  | stay _ _ ih => exact ih hstretched
  | up _ ih => exact ih hstretched
  | enter _ _ _ ih => exact ih hstretched
  | file => cases hstretched
  | vacant hsought hentry =>
      cases hstretched
      exact ⟨_, _, hsought, rfl, hentry⟩
  | link => cases hstretched

theorem lookup?_set_of_free (hfree : tree.lookup? place = none) (entry : Entry)
    {other : Location} {found : Entry} (h : tree.lookup? other = some found) :
    (tree.set place entry).lookup? other = some found := by
  rw [lookup?_set_of_ne, h]
  rintro rfl
  cases hfree.symm.trans h

theorem Stretches.set (h : tree.Stretches here steps stretched)
    (hfree : tree.lookup? place = none) (mode : Nat) (content : Content) :
    (tree.set place (.file mode content)).Stretches here steps
      (if stretched = .landed (.vacant place) then .landed (.entry place) else stretched) := by
  induction h with
  | done here =>
      rw [if_neg (by simp)]
      exact .done here
  | stay hstay h ih => exact .stay hstay ih
  | up h ih => exact .up ih
  | enter hsought hentry h ih => exact .enter hsought (lookup?_set_of_free hfree _ hentry) ih
  | file hsought hentry =>
      rw [if_neg (by simp)]
      exact .file hsought (lookup?_set_of_free hfree _ hentry)
  | @vacant here step hsought hentry =>
      by_cases hplace : here ++ [step] = place
      · subst hplace
        rw [if_pos rfl]
        exact .file hsought (lookup?_set_self _ _ _)
      · rw [if_neg (by simpa using hplace)]
        exact .vacant hsought ((lookup?_set_of_ne _ _ hplace).trans hentry)
  | link rest hsought hentry =>
      rw [if_neg (by simp)]
      exact .link rest hsought (lookup?_set_of_free hfree _ hentry)

theorem lookup?_of_set {entry : Entry} {other : Location} {found : Option Entry}
    (h : (tree.set place entry).lookup? other = found) (hfound : found ≠ some entry) :
    tree.lookup? other = found := by
  rw [← h, lookup?_set_of_ne]
  rintro rfl
  exact hfound (h.symm.trans (lookup?_set_self _ _ _))

theorem Stretches.of_set {mode : Nat} {content : Content}
    (h : (tree.set place (.file mode content)).Stretches here steps stretched)
    (hfree : tree.lookup? place = none) : ∃ before, tree.Stretches here steps before := by
  induction h with
  | done here => exact ⟨_, .done here⟩
  | stay hstay h ih =>
      obtain ⟨before, hbefore⟩ := ih
      exact ⟨before, .stay hstay hbefore⟩
  | up h ih =>
      obtain ⟨before, hbefore⟩ := ih
      exact ⟨before, .up hbefore⟩
  | enter hsought hentry h ih =>
      obtain ⟨before, hbefore⟩ := ih
      exact ⟨before, .enter hsought (lookup?_of_set hentry (by simp)) hbefore⟩
  | @file here step _ _ hsought hentry =>
      by_cases hplace : here ++ [step] = place
      · exact ⟨_, .vacant hsought (hplace ▸ hfree)⟩
      · exact ⟨_, .file hsought ((lookup?_set_of_ne _ _ hplace).symm.trans hentry)⟩
  | vacant hsought hentry => exact ⟨_, .vacant hsought (lookup?_of_set hentry (by simp))⟩
  | link rest hsought hentry =>
      exact ⟨_, .link rest hsought (lookup?_of_set hentry (by simp))⟩

end Reftest.FileTree
