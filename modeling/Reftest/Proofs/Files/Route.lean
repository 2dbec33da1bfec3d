import Reftest.Proofs.Files.Stretch

/-!
The places that are looked at on the way along a path.  Where the path leads depends on nothing but
these places, and on no content and no mode even there.
-/

namespace Reftest

/-- What is at two places looks the same to a way, which sees no mode and no content. -/
inductive Entry.Alike : Option Entry → Option Entry → Prop
  | none : Alike none none
  | directory : Alike (some .directory) (some .directory)
  | file (mode mode' : Nat) (content content' : Content) :
      Alike (some (.file mode content)) (some (.file mode' content'))
  | link (target : Octets) : Alike (some (.link target)) (some (.link target))

namespace Entry.Alike

theorem refl (entry : Option Entry) : Alike entry entry := by
  cases entry with
  | none => exact .none
  | some entry =>
      cases entry with
      | directory => exact .directory
      | file mode content => exact .file mode mode content content
      | link target => exact .link target

end Entry.Alike

namespace FileTree

def stretchPlaces (tree : FileTree) (here : Location) : List Octets → List Location
  | [] => []
  | step :: rest =>
    if step = [] ∨ step = Path.dot then tree.stretchPlaces here rest
    else if step = Path.dotDot then tree.stretchPlaces here.dropLast rest
    else
      let place := here ++ [step]
      match tree.lookup? place with
      | some .directory => place :: tree.stretchPlaces place rest
      | _ => [place]

def wayPlaces (tree : FileTree) (links : Nat) (here : Location) (steps : List Octets) :
    List Location :=
  tree.stretchPlaces here steps ++
    match tree.stretch .find here steps with
    | .ok (.link directory target rest) =>
      match links with
      | 0 => []
      | links + 1 =>
        tree.wayPlaces links (Path.origin directory target) (Path.steps target ++ rest)
    | _ => []

/-- The places of the entries that a path goes through, and of what it leads to. -/
def route (tree : FileTree) (directory : Location) (path : Octets) : List Location :=
  tree.wayPlaces linkLimit (Path.origin directory path) (Path.steps path)

variable {tree other : FileTree} {purpose : Purpose} {here place : Location}
  {steps : List Octets} {links : Nat} {directory : Location} {path : Octets}

theorem stretch_congr
    (h : ∀ place ∈ tree.stretchPlaces here steps,
      Entry.Alike (tree.lookup? place) (other.lookup? place)) :
    other.stretch purpose here steps = tree.stretch purpose here steps ∧
      other.stretchPlaces here steps = tree.stretchPlaces here steps := by
  induction steps generalizing here with
  | nil => exact ⟨rfl, rfl⟩
  | cons step rest ih =>
      simp only [stretch, stretchPlaces] at h ⊢
      by_cases hstay : step = [] ∨ step = Path.dot
      · simp only [if_pos hstay] at h ⊢
        exact ih h
      · by_cases hup : step = Path.dotDot
        · simp only [if_neg hstay, if_pos hup] at h ⊢
          exact ih h
        · simp only [if_neg hstay, if_neg hup] at h ⊢
          have halike : Entry.Alike (tree.lookup? (here ++ [step]))
              (other.lookup? (here ++ [step])) := by
            apply h
            split <;> exact List.mem_cons_self
          revert h
          generalize tree.lookup? (here ++ [step]) = left at halike ⊢
          generalize other.lookup? (here ++ [step]) = right at halike ⊢
          intro h
          cases halike with
          | directory =>
              obtain ⟨hstretch, hplaces⟩ := ih fun place hplace =>
                h place (List.mem_cons_of_mem _ hplace)
              exact ⟨by rw [hstretch], by rw [hplaces]⟩
          | none => exact ⟨rfl, rfl⟩
          | file => exact ⟨rfl, rfl⟩
          | link => exact ⟨rfl, rfl⟩

theorem stretch_create (tree : FileTree) (here : Location) (steps : List Octets) :
    tree.stretch .create here steps = .error .isDirectory ∨
      tree.stretch .create here steps = tree.stretch .find here steps := by
  induction steps generalizing here with
  | nil => exact .inr rfl
  | cons step rest ih =>
      simp only [stretch]
      split
      · exact ih here
      · split
        · exact ih here.dropLast
        · by_cases hlast : rest = [[]]
          · simp [hlast]
          · simp only [hlast, and_false, if_false]
            split
            · exact .inr rfl
            · split
              · exact .inr rfl
              · split
                · exact .inr rfl
                · exact ih _
                · exact .inr rfl
                · exact .inr rfl

theorem stretch_find_of_ok {stretched : Stretch}
    (h : tree.stretch purpose here steps = .ok stretched) :
    tree.stretch .find here steps = .ok stretched := by
  cases purpose with
  | find => exact h
  | create =>
      rcases tree.stretch_create here steps with herror | hsame
      · cases herror.symm.trans h
      · exact hsame.symm.trans h

theorem stretch_congr_of_way (purpose : Purpose)
    (h : ∀ place ∈ tree.wayPlaces links here steps,
      Entry.Alike (tree.lookup? place) (other.lookup? place)) :
    other.stretch purpose here steps = tree.stretch purpose here steps ∧
      other.stretchPlaces here steps = tree.stretchPlaces here steps := by
  unfold wayPlaces at h
  exact stretch_congr fun place hplace => h place (List.mem_append_left _ hplace)

theorem mem_wayPlaces_of_link {target : Octets} {rest : List Octets}
    (hstretch : tree.stretch .find here steps = .ok (.link directory target rest))
    (h : place ∈ tree.wayPlaces links (Path.origin directory target) (Path.steps target ++ rest)) :
    place ∈ tree.wayPlaces (links + 1) here steps := by
  unfold wayPlaces
  rw [hstretch]
  exact List.mem_append_right _ h

theorem way_congr
    (h : ∀ place ∈ tree.wayPlaces links here steps,
      Entry.Alike (tree.lookup? place) (other.lookup? place)) :
    other.way purpose links here steps = tree.way purpose links here steps := by
  fun_induction way tree purpose links here steps with
  | case1 links here steps failure hstretch =>
      rw [way, (stretch_congr_of_way _ h).1, hstretch]
  | case2 links here steps landing hstretch =>
      rw [way, (stretch_congr_of_way _ h).1, hstretch]
  | case3 here steps directory target rest hstretch =>
      rw [way, (stretch_congr_of_way _ h).1, hstretch]
  | case4 here steps directory target rest hstretch links ih =>
      rw [way, (stretch_congr_of_way _ h).1, hstretch]
      exact ih fun place hplace =>
        h place (mem_wayPlaces_of_link (stretch_find_of_ok hstretch) hplace)

theorem wayPlaces_congr
    (h : ∀ place ∈ tree.wayPlaces links here steps,
      Entry.Alike (tree.lookup? place) (other.lookup? place)) :
    other.wayPlaces links here steps = tree.wayPlaces links here steps := by
  obtain ⟨hstretch, hplaces⟩ := stretch_congr_of_way .find h
  fun_induction way tree .find links here steps with
  | case1 links here steps failure hfailure =>
      unfold wayPlaces
      rw [hstretch, hplaces, hfailure]
  | case2 links here steps landing hlanding =>
      unfold wayPlaces
      rw [hstretch, hplaces, hlanding]
  | case3 here steps directory target rest hlink =>
      unfold wayPlaces
      rw [hstretch, hplaces, hlink]
  | case4 here steps directory target rest hlink links ih =>
      have hrest := fun place hplace => h place (mem_wayPlaces_of_link hlink hplace)
      obtain ⟨hnext, hnextPlaces⟩ := stretch_congr_of_way .find hrest
      unfold wayPlaces
      rw [hstretch, hplaces, hlink]
      exact congrArg _ (ih hrest hnext hnextPlaces)

theorem find_congr
    (h : ∀ place ∈ tree.route directory path,
      Entry.Alike (tree.lookup? place) (other.lookup? place)) :
    other.find purpose directory path = tree.find purpose directory path := by
  unfold find
  rw [way_congr h]

theorem locate_congr
    (h : ∀ place ∈ tree.route directory path,
      Entry.Alike (tree.lookup? place) (other.lookup? place)) :
    other.locate directory path = tree.locate directory path := by
  unfold locate
  rw [find_congr h]

theorem route_congr
    (h : ∀ place ∈ tree.route directory path,
      Entry.Alike (tree.lookup? place) (other.lookup? place)) :
    other.route directory path = tree.route directory path :=
  wayPlaces_congr h

/-! A free place that a way ends at, before and after something is put there. -/

theorem sought_of_way (h : tree.way purpose links here steps = .ok (.vacant place)) :
    ∃ directory name, Sought directory name ∧ place = directory ++ [name] ∧
      tree.lookup? place = none := by
  fun_induction way tree purpose links here steps with
  | case1 => cases h
  | case2 links here steps landing hstretch =>
      cases h
      exact (stretches_of_stretch (stretch_find_of_ok hstretch)).vacant_sought
  | case3 => cases h
  | case4 here steps directory target rest hstretch links ih => exact ih h

theorem lookup?_of_way_vacant (h : tree.way purpose links here steps = .ok (.vacant place)) :
    tree.lookup? place = none := by
  obtain ⟨_, _, -, -, hfree⟩ := sought_of_way h
  exact hfree

theorem stretchPlaces_set (hfree : tree.lookup? place = none) (mode : Nat) (content : Content) :
    (tree.set place (.file mode content)).stretchPlaces here steps =
      tree.stretchPlaces here steps := by
  induction steps generalizing here with
  | nil => rfl
  | cons step rest ih =>
      simp only [stretchPlaces, ih]
      by_cases hplace : here ++ [step] = place
      · simp only [hplace, lookup?_set_self, hfree]
      · rw [lookup?_set_of_ne _ _ hplace]

theorem stretch_set (hfree : tree.lookup? place = none) (mode : Nat) (content : Content)
    {stretched : Stretch} (h : tree.stretch .find here steps = .ok stretched) :
    (tree.set place (.file mode content)).stretch .find here steps =
      .ok (if stretched = .landed (.vacant place) then .landed (.entry place) else stretched) :=
  ((stretches_of_stretch h).set hfree mode content).stretch_eq

theorem stretch_set_error (hfree : tree.lookup? place = none) (mode : Nat) (content : Content)
    {failure : Failure} (h : tree.stretch .find here steps = .error failure) :
    ∃ failure', (tree.set place (.file mode content)).stretch .find here steps =
      .error failure' := by
  cases hset : (tree.set place (.file mode content)).stretch .find here steps with
  | error failure' => exact ⟨failure', rfl⟩
  | ok stretched =>
      obtain ⟨before, hbefore⟩ := (stretches_of_stretch hset).of_set hfree
      cases h.symm.trans hbefore.stretch_eq

theorem way_set_error (hfree : tree.lookup? place = none) (mode : Nat) (content : Content)
    {failure : Failure} (h : tree.way .find links here steps = .error failure) :
    ∃ failure', (tree.set place (.file mode content)).way .find links here steps =
      .error failure' := by
  fun_induction way tree .find links here steps with
  | case1 links here steps failure hstretch =>
      obtain ⟨failure', hset⟩ := stretch_set_error hfree mode content hstretch
      exact ⟨failure', by rw [way, hset]⟩
  | case2 => cases h
  | case3 here steps directory target rest hstretch =>
      refine ⟨.tooManyLinks, ?_⟩
      rw [way, stretch_set hfree mode content hstretch]
      simp
  | case4 here steps directory target rest hstretch links ih =>
      obtain ⟨failure', hset⟩ := ih h
      refine ⟨failure', ?_⟩
      rw [way, stretch_set hfree mode content hstretch]
      simpa using hset

theorem way_set_ok (hfree : tree.lookup? place = none) (mode : Nat) (content : Content)
    {landing : Landing} (h : tree.way .find links here steps = .ok landing) :
    (tree.set place (.file mode content)).way .find links here steps =
      .ok (if landing = .vacant place then .entry place else landing) := by
  fun_induction way tree .find links here steps with
  | case1 => cases h
  | case2 links here steps landing hstretch =>
      cases h
      rw [way, stretch_set hfree mode content hstretch]
      by_cases hlanding : landing = .vacant place <;> simp [hlanding]
  | case3 => cases h
  | case4 here steps directory target rest hstretch links ih =>
      rw [way, stretch_set hfree mode content hstretch]
      simpa using ih h

theorem wayPlaces_set (hfree : tree.lookup? place = none) (mode : Nat) (content : Content)
    {landing : Landing} (h : tree.way .find links here steps = .ok landing) :
    (tree.set place (.file mode content)).wayPlaces links here steps =
      tree.wayPlaces links here steps := by
  fun_induction way tree .find links here steps with
  | case1 => cases h
  | case2 links here steps landing hstretch =>
      cases h
      unfold wayPlaces
      rw [stretchPlaces_set hfree, stretch_set hfree mode content hstretch, hstretch]
      by_cases hlanding : landing = .vacant place <;> simp [hlanding]
  | case3 => cases h
  | case4 here steps directory target rest hstretch links ih =>
      unfold wayPlaces
      rw [stretchPlaces_set hfree, stretch_set hfree mode content hstretch, hstretch]
      exact congrArg _ (ih h)

theorem way_set (mode : Nat) (content : Content)
    (h : tree.way .find links here steps = .ok (.vacant place)) :
    (tree.set place (.file mode content)).way .find links here steps = .ok (.entry place) ∧
      (tree.set place (.file mode content)).wayPlaces links here steps =
        tree.wayPlaces links here steps := by
  have hfree := lookup?_of_way_vacant h
  refine ⟨?_, wayPlaces_set hfree mode content h⟩
  rw [way_set_ok hfree mode content h, if_pos rfl]

theorem way_find_of_create {landing : Landing}
    (h : tree.way .create links here steps = .ok landing) :
    tree.way .find links here steps = .ok landing := by
  fun_induction way tree .create links here steps with
  | case1 => cases h
  | case2 links here steps landing hstretch =>
      cases h
      rw [way, stretch_find_of_ok hstretch]
  | case3 => cases h
  | case4 here steps directory target rest hstretch links ih =>
      rw [way, stretch_find_of_ok hstretch]
      exact ih h

end FileTree

end Reftest
