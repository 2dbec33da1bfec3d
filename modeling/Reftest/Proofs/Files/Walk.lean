import Reftest.Proofs.Files.Change
import Reftest.Proofs.Text.Encoding
import Reftest.World

namespace Reftest

namespace FileTree

/-- The names on a way are followed one after the other, through so many links at the most. -/
inductive Walks (tree : FileTree) : (links : Nat) → (here : Location) → List Octets →
    (place : Location) → Prop where
  | done (links : Nat) (here : Location) : Walks tree links here [] here
  | stay {links : Nat} {here place : Location} {step : Octets} {rest : List Octets}
      (hstay : step = [] ∨ step = Path.dot) (h : Walks tree links here rest place) :
      Walks tree links here (step :: rest) place
  | up {links : Nat} {here place : Location} {rest : List Octets}
      (h : Walks tree links here.dropLast rest place) :
      Walks tree links here (Path.dotDot :: rest) place
  | enter {links : Nat} {here place : Location} {step : Octets} {rest : List Octets}
      (hsought : Sought here step) (hentry : tree.lookup? (here ++ [step]) = some .directory)
      (h : Walks tree links (here ++ [step]) rest place) :
      Walks tree links here (step :: rest) place
  | file {links : Nat} {here : Location} {step : Octets} {mode : Nat} {content : Content}
      (hsought : Sought here step)
      (hentry : tree.lookup? (here ++ [step]) = some (.file mode content)) :
      Walks tree links here [step] (here ++ [step])
  | link {links : Nat} {here place : Location} {step target : Octets} {rest : List Octets}
      (hsought : Sought here step)
      (hentry : tree.lookup? (here ++ [step]) = some (.link target))
      (h : Walks tree links (Path.origin here target) (Path.steps target ++ rest) place) :
      Walks tree (links + 1) here (step :: rest) place

variable {tree : FileTree} {here place directory : Location} {step path : Octets}
  {rest steps : List Octets} {links : Nat}

theorem walks_of_landed (h : tree.Stretches here steps (.landed (.entry place)))
    (links : Nat) : tree.Walks links here steps place := by
  -- a stretch follows no link, so that any number of them will do
  generalize hstretched : Stretch.landed (.entry place) = stretched at h
  induction h with
  | done here =>
      cases hstretched
      exact .done links _
  | stay hstay _ ih => exact .stay hstay (ih hstretched)
  | up _ ih => exact .up (ih hstretched)
  | enter hsought hentry _ ih => exact .enter hsought hentry (ih hstretched)
  | file hsought hentry =>
      cases hstretched
      exact .file hsought hentry
  | vacant => cases hstretched
  | link => cases hstretched

theorem walks_of_link {target : Octets}
    (hlink : tree.Stretches here steps (.link directory target rest))
    (h : tree.Walks links (Path.origin directory target) (Path.steps target ++ rest) place) :
    tree.Walks (links + 1) here steps place := by
  generalize hstretched : Stretch.link directory target rest = stretched at hlink
  induction hlink with
  | done => cases hstretched
  | stay hstay _ ih => exact .stay hstay (ih hstretched)
  | up _ ih => exact .up (ih hstretched)
  | enter hsought hentry _ ih => exact .enter hsought hentry (ih hstretched)
  | file => cases hstretched
  | vacant => cases hstretched
  | link rest hsought hentry =>
      cases hstretched
      exact .link hsought hentry h

theorem walks_of_way (h : tree.way .find links here steps = .ok (.entry place)) :
    tree.Walks links here steps place := by
  fun_induction way tree .find links here steps with
  | case1 => cases h
  | case2 links here steps landing hlanded =>
      cases h
      exact walks_of_landed (stretches_of_stretch hlanded) links
  | case3 => cases h
  | case4 here steps directory target rest hlink links ih =>
      exact walks_of_link (stretches_of_stretch hlink) (ih h)

theorem way_congr_stretch {here' : Location} {steps' : List Octets}
    (h : tree.stretch .find here steps = tree.stretch .find here' steps') (links : Nat) :
    tree.way .find links here steps = tree.way .find links here' steps' := by
  cases links with
  | zero => rw [way, way, h]
  | succ links => rw [way, way, h]

theorem Walks.way_eq (h : tree.Walks links here steps place) :
    tree.way .find links here steps = .ok (.entry place) := by
  induction h with
  | done links here => rw [way, stretch]
  | stay hstay h ih => rw [way_congr_stretch (stretch_stay hstay _), ih]
  | up h ih => rw [way_congr_stretch (stretch_up _), ih]
  | enter hsought hentry h ih =>
      refine (way_congr_stretch ?_ _).trans ih
      rw [hsought.stretch_eq, hentry]
  | file hsought hentry => rw [way, hsought.stretch_eq, hentry]; rfl
  | link hsought hentry h ih => rw [way, hsought.stretch_eq, hentry]; exact ih

structure Denotes (tree : FileTree) (directory : Location) (path : Octets) (place : Location) :
    Prop where
  ne_nil : path ≠ []
  length_lt : path.length < pathLimit
  walks : tree.Walks linkLimit (Path.origin directory path) (Path.steps path) place

theorem locate_eq_ok_iff : tree.locate directory path = .ok place ↔
    tree.Denotes directory path place := by
  rw [locate_eq_ok, find_eq_ok]
  constructor
  · rintro ⟨⟨hnil, hlength⟩, hway⟩
    exact ⟨hnil, hlength, walks_of_way hway⟩
  · rintro ⟨hnil, hlength, hwalks⟩
    exact ⟨⟨hnil, hlength⟩, hwalks.way_eq⟩

end FileTree

namespace World

variable {world other : World} {path : Octets} {place : Location}

/-- A path leads to an entry at a place.  None leads anywhere that has a NUL in it. -/
structure LeadsTo (world : World) (path : Octets) (place : Location) : Prop where
  plain : Path.hasNul path = false
  denotes : world.files.Denotes world.directory path place

theorem exists?_iff : world.exists? path = true ↔ ∃ place, world.LeadsTo path place := by
  rw [exists?, FileTree.exists?, Bool.and_eq_true, Bool.not_eq_true']
  constructor
  · rintro ⟨hplain, hlocate⟩
    cases h : world.files.locate world.directory path with
    | error failure =>
        rw [h] at hlocate
        cases hlocate
    | ok place => exact ⟨place, hplain, FileTree.locate_eq_ok_iff.mp h⟩
  · rintro ⟨place, hplain, hdenotes⟩
    rw [FileTree.locate_eq_ok_iff.mpr hdenotes]
    exact ⟨hplain, rfl⟩

theorem exists?_eq_false (h : ∀ place, ¬ world.LeadsTo path place) : world.exists? path = false :=
  Bool.eq_false_iff.mpr fun hthere => not_exists.mpr h (exists?_iff.mp hthere)

/-- The places that have a part in what is found under a path: those of the entries on its way, and
the one that it leads to. -/
inductive Consults (world : World) (path : Octets) : Location → Prop where
  | way {place : Location} (h : place ∈ world.files.route world.directory path) :
      Consults world path place
  | target {place : Location} (h : world.LeadsTo path place) : Consults world path place

/-- The path sets out from the same place in another world, and meets the same entries there. -/
structure SameAlong (path : Octets) (world other : World) : Prop where
  origin : Path.origin other.directory path = Path.origin world.directory path
  entries : ∀ place, world.Consults path place →
    other.files.lookup? place = world.files.lookup? place
  objection : other.objection = world.objection

theorem SameAlong.locate_eq (h : SameAlong path world other) :
    other.files.locate other.directory path = world.files.locate world.directory path := by
  have hsame : other.files.locate world.directory path =
      world.files.locate world.directory path := by
    refine FileTree.locate_congr fun place hplace => ?_
    rw [h.entries place (.way hplace)]
    exact .refl _
  rw [← hsame]
  unfold FileTree.locate FileTree.find
  rw [h.origin]

end World

end Reftest
