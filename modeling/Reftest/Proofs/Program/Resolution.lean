import Mathlib.Data.List.Forall2
import Reftest.Proofs.Files.Ground
import Reftest.Run.Execute

namespace Reftest

/-- There is a file at a path, behind any links, and it may be run. -/
def World.Offers (world : World) (path : Octets) : Prop :=
  Path.hasNul path = false ∧
    ∃ place mode content, world.files.locate world.directory path = .ok place ∧
      world.files.lookup? place = some (.file mode content) ∧ runnable mode = true

theorem World.offers_iff {world : World} {path : Octets} :
    world.Offers path ↔ world.files.isProgram world.directory path = true := by
  unfold Offers FileTree.isProgram
  rw [Bool.and_eq_true, Bool.not_eq_true']
  apply and_congr_right
  intro _
  cases world.files.locate world.directory path with
  | error failure => simp
  | ok place =>
      simp only [FileTree.file?]
      split
      · rename_i mode content hfile
        split at hfile <;> simp_all
      · rename_i hfile
        split at hfile <;> simp_all

namespace Program

variable {world : World} {name : String} {octets path searchPath : Octets}
  {directories : List Octets}

/-- The directory that an entry of the search path stands for: one in the home directory if its
first part is a tilde, and else the entry itself. -/
inductive StandsFor (home : Octets) : (entry directory : Octets) → Prop
  | tilde {entry : Octets} {later : List Octets}
      (hentry : entry.splitOn '/'.toUInt8 = Octets.ofText "~" :: later) :
      StandsFor home entry
        ((later.filter fun part => part ≠ [] ∧ part ≠ Octets.ofText ".").foldl Path.join home)
  | itself {entry : Octets}
      (hentry : (entry.splitOn '/'.toUInt8).head? ≠ some (Octets.ofText "~")) :
      StandsFor home entry entry

/-- The directories of a search path in their order.  Its entries have colons between them. -/
def Directories (environment : Environment) (searchPath : Octets) : List Octets → Prop :=
  List.Forall₂ (StandsFor (environment.home.getD [])) (searchPath.splitOn ':'.toUInt8)

/-- The first of some directories, in order, in which a name is that of a program. -/
def FoundIn (world : World) (name : Octets) (directories : List Octets) (path : Octets) : Prop :=
  ∃ before directory after, directories = before ++ directory :: after ∧
    path = Path.join directory name ∧ world.Offers path ∧
    ∀ earlier ∈ before, ¬ world.Offers (Path.join earlier name)

/-- All that a name can lead to. -/
inductive Leads (world : World) (name : String) : Except Fault Octets → Prop
  | given (hdirected : Path.Directed (Octets.ofText name)) :
      Leads world name (.ok (Octets.ofText name))
  | found {searchPath path : Octets} (hbare : ¬ Path.Directed (Octets.ofText name))
      {directories : List Octets} (hsearch : world.environment.searchPath = some searchPath)
      (hdirectories : Directories world.environment searchPath directories)
      (hfound : FoundIn world (Octets.ofText name) directories path) :
      Leads world name (.ok path)
  | unset (hbare : ¬ Path.Directed (Octets.ofText name))
      (hsearch : world.environment.searchPath = none) :
      Leads world name (.error (.programNotFound name))
  | missing {searchPath : Octets} (hbare : ¬ Path.Directed (Octets.ofText name))
      {directories : List Octets} (hsearch : world.environment.searchPath = some searchPath)
      (hdirectories : Directories world.environment searchPath directories)
      (hmissing : ∀ directory ∈ directories,
        ¬ world.Offers (Path.join directory (Octets.ofText name))) :
      Leads world name (.error (.programNotFound name))

theorem expandHome_of_first {home entry first : Octets} {later : List Octets}
    (h : pieces Path.separator entry = first :: later) (hfirst : first ≠ tilde) :
    expandHome home entry = entry := by
  unfold expandHome
  split
  · rfl
  · rename_i habsolute
    split
    · rename_i part rest hparts
      refine if_neg fun hpart => hfirst ?_
      rw [Path.parts, h] at hparts
      dsimp only at hparts
      by_cases hempty : first = []
      · -- only an absolute path has parts behind an empty first segment
        have hhead : entry = [] := by
          obtain ⟨after, hentry, -, hafter⟩ := beginsWith_iff.mpr (congrArg List.head? h)
          subst hempty
          rcases hafter with hnil | hmark
          · rw [hentry, hnil, List.nil_append]
          · rw [List.nil_append] at hentry
            exact absurd (Path.isAbsolute_iff.mpr (hentry ▸ hmark)) habsolute
        subst hhead
        cases h
        cases hparts
      · rw [if_neg hempty] at hparts
        exact (List.cons.inj hparts).1.trans hpart
    · rfl

theorem expandHome_of_tilde {home entry : Octets} {later : List Octets}
    (h : pieces Path.separator entry = tilde :: later) :
    expandHome home entry =
      (later.filter fun part => part ≠ [] ∧ part ≠ Path.dot).foldl Path.join home := by
  obtain ⟨after, hentry, -, -⟩ := beginsWith_iff.mpr (congrArg List.head? h)
  have hrelative : Path.isAbsolute entry = false := by rw [hentry]; rfl
  have hparts : Path.parts entry =
      tilde :: later.filter fun part => part ≠ [] ∧ part ≠ Path.dot := by
    rw [Path.parts, h]
    rfl
  rw [expandHome, hrelative, hparts]
  rfl

theorem standsFor_iff {home entry directory : Octets} :
    StandsFor home entry directory ↔ expandHome home entry = directory := by
  have hsplit : entry.splitOn '/'.toUInt8 = pieces Path.separator entry :=
    (pieces_eq_splitOn _ _).symm
  constructor
  · intro h
    cases h with
    | tilde hentry => exact expandHome_of_tilde (hsplit ▸ hentry)
    | itself hentry =>
        rw [hsplit] at hentry
        obtain ⟨first, later, h⟩ :=
          List.exists_cons_of_ne_nil (pieces_ne_nil Path.separator entry)
        rw [h] at hentry
        exact expandHome_of_first h fun hfirst => hentry (congrArg some hfirst)
  · rintro rfl
    obtain ⟨first, later, h⟩ := List.exists_cons_of_ne_nil (pieces_ne_nil Path.separator entry)
    by_cases hfirst : first = tilde
    · subst hfirst
      rw [expandHome_of_tilde h]
      exact .tilde (hsplit.trans h)
    · rw [expandHome_of_first h hfirst]
      refine .itself fun hhead => hfirst ?_
      rw [hsplit, h] at hhead
      exact Option.some.inj hhead

theorem directories_iff {environment : Environment} :
    Directories environment searchPath directories ↔
      entries (tildeHome environment) searchPath = directories := by
  have hsplit : searchPath.splitOn ':'.toUInt8 = pieces entrySeparator searchPath :=
    (pieces_eq_splitOn _ _).symm
  rw [Directories, hsplit, entries, ← List.forall₂_eq_eq_eq, List.forall₂_map_left_iff]
  exact ⟨fun h => h.imp fun _ _ => standsFor_iff.mp, fun h => h.imp fun _ _ => standsFor_iff.mpr⟩

theorem foundIn_iff :
    FoundIn world octets directories path ↔
      (directories.map (Path.join · octets)).find? (world.files.isProgram world.directory) =
        some path := by
  rw [List.find?_eq_some_iff_append]
  constructor
  · intro h
    obtain ⟨before, directory, after, rfl, rfl, hoffers, hbefore⟩ := h
    refine ⟨World.offers_iff.mp hoffers, before.map (Path.join · octets),
      after.map (Path.join · octets), by simp, ?_⟩
    intro candidate hcandidate
    obtain ⟨earlier, hearlier, rfl⟩ := List.mem_map.mp hcandidate
    simpa [World.offers_iff] using hbefore earlier hearlier
  · intro h
    obtain ⟨hprogram, before, after, hmap, hbefore⟩ := h
    obtain ⟨front, back, rfl, rfl, hback⟩ := List.map_eq_append_iff.mp hmap
    obtain ⟨directory, rest, rfl, rfl, -⟩ := List.map_eq_cons_iff.mp hback
    refine ⟨front, directory, rest, rfl, rfl, World.offers_iff.mpr hprogram, ?_⟩
    intro earlier hearlier
    simpa [World.offers_iff] using hbefore _ (List.mem_map_of_mem hearlier)

theorem find?_eq_none_iff :
    (directories.map (Path.join · octets)).find? (world.files.isProgram world.directory) = none ↔
      ∀ directory ∈ directories, ¬ world.Offers (Path.join directory octets) := by
  simp [World.offers_iff]

theorem locate_of_directed (world : World) (h : Path.Directed octets) :
    locate world octets = .ok octets :=
  if_pos (Path.namesDirectory_iff.mpr h)

theorem locate_of_not_directed (world : World) (h : ¬ Path.Directed octets) :
    locate world octets = search world octets :=
  if_neg (mt Path.namesDirectory_iff.mp h)

theorem find_of_directed (world : World) (h : Path.Directed (Octets.ofText name)) :
    Run.find name world = Run.Stage.done (Octets.ofText name) world := by
  simp only [Run.find, locate_of_directed world h]

theorem world_find (name : String) (world : World) : (Run.find name world).world = world := by
  unfold Run.find
  split <;> rfl

theorem leads_find (name : String) (world : World) :
    Leads world name (Run.find name world).result := by
  by_cases hdirected : Path.Directed (Octets.ofText name)
  · rw [find_of_directed world hdirected]
    exact .given hdirected
  · unfold Run.find
    rw [locate_of_not_directed world hdirected]
    unfold search
    cases hsearch : world.environment.searchPath with
    | none => exact .unset hdirected hsearch
    | some searchPath =>
        simp only [candidates]
        split
        · rename_i path hpath
          split at hpath
          · cases hpath
            exact .found hdirected hsearch (directories_iff.mpr rfl) (foundIn_iff.mpr ‹_›)
          · cases hpath
        · rename_i failure hfailure
          split at hfailure
          · cases hfailure
          · exact .missing hdirected hsearch (directories_iff.mpr rfl)
              (find?_eq_none_iff.mp ‹_›)

theorem leads_of_locate (h : locate world (Octets.ofText name) = .ok path) :
    Leads world name (.ok path) := by
  have hleads := leads_find name world
  unfold Run.find at hleads
  rwa [h] at hleads

theorem Leads.result_find {result : Except Fault Octets} (h : Leads world name result) :
    (Run.find name world).result = result := by
  cases h with
  | given hdirected =>
      rw [find_of_directed world hdirected]
      rfl
  | found hbare hsearch hdirectories hfound =>
      simp only [Run.find, locate_of_not_directed world hbare, search, hsearch, candidates,
        directories_iff.mp hdirectories, foundIn_iff.mp hfound]
      rfl
  | unset hbare hsearch =>
      simp only [Run.find, locate_of_not_directed world hbare, search, hsearch]
  | missing hbare hsearch hdirectories hmissing =>
      simp only [Run.find, locate_of_not_directed world hbare, search, hsearch, candidates,
        directories_iff.mp hdirectories, find?_eq_none_iff.mpr hmissing]

theorem not_offers_of_undirected (hworld : world.Grounded) (h : Path.Undirected octets)
    (directory : Octets) : ¬ world.Offers (Path.join directory octets) := by
  have hrelative : Path.isAbsolute octets = false :=
    Bool.eq_false_iff.mpr fun habsolute => h.not_directed (.inl (Path.isAbsolute_iff.mp habsolute))
  rw [World.offers_iff, FileTree.not_isProgram_of_lingers hworld]
  · decide
  · intro last hlast
    rw [Path.getLast?_steps_join directory hrelative] at hlast
    exact h.turns hlast

theorem leads_of_undirected (hworld : world.Grounded)
    (h : Path.Undirected (Octets.ofText name)) :
    Leads world name (.error (.programNotFound name)) := by
  cases hsearch : world.environment.searchPath with
  | none => exact .unset h.not_directed hsearch
  | some searchPath =>
      apply Leads.missing h.not_directed hsearch (directories_iff.mpr rfl)
      intro directory _
      exact not_offers_of_undirected hworld h directory

/-- All that there is to say of a name: where it leads in each world, when it leads to itself in
all of them, and when it leads nowhere.  One with a separator leads to nothing but itself. -/
structure Resolution (name : String) : Prop where
  leads : ∀ world result, (Run.find name world).result = result ↔ Leads world name result
  unchanged : ∀ world, (Run.find name world).world = world
  given : (∀ world, (Run.find name world).result = .ok (Octets.ofText name)) ↔
    Path.Directed (Octets.ofText name)
  unfound : Path.Undirected (Octets.ofText name) → ∀ world, world.Grounded →
    (Run.find name world).result = .error (.programNotFound name)
  separated : Path.separator ∈ Octets.ofText name → ∀ world path, world.Grounded →
    (Run.find name world).result = .ok path → path = Octets.ofText name

theorem resolution_find (name : String) : Resolution name where
  leads world result := by
    constructor
    · intro h
      rw [← h]
      exact leads_find name world
    · exact Leads.result_find
  unchanged := world_find name
  given := by
    constructor
    · intro h
      apply Decidable.byContradiction
      intro hbare
      -- without a search path there is nothing that a bare name could lead to
      have hunset : Leads { files := .empty } name (.error (.programNotFound name)) :=
        .unset hbare rfl
      cases (h { files := .empty }).symm.trans hunset.result_find
    · intro hdirected world
      exact (Leads.given hdirected).result_find
  unfound h world hworld := (leads_of_undirected hworld h).result_find
  separated hseparator world path hworld h := by
    by_cases hdirected : Path.Directed (Octets.ofText name)
    · cases h.symm.trans (Leads.given hdirected).result_find
      rfl
    · have hundirected : Path.Undirected (Octets.ofText name) :=
        .inr (.inr (.inr ⟨hseparator, hdirected⟩))
      cases h.symm.trans (leads_of_undirected hworld hundirected).result_find

/-- In the first directory of the search path the name is that of a file that may not be run.  It is
that of a program in the second, which lies in the home directory. -/
def homeWorld : World where
  files := ((((FileTree.empty.set [[0x6D]] .directory).set [[0x6D], [0x62]] .directory).set
    [[0x6D], [0x62], [0x68]] (.file 0o755 (.program {}))).set [[0x6F]] .directory).set
      [[0x6F], [0x68]] (.file 0o644 (.program {}))
  environment :=
    { searchPath := some (Octets.ofText "/o:~/./b:/n"), home := some (Octets.ofText "/m") }

theorem resolution_find_home :
    (Run.find "h" homeWorld).result = .ok (Octets.ofText "/m/b/h") := by
  have hbare : ¬ Path.Directed (Octets.ofText "h") := by decide
  have hsplit : (Octets.ofText "~/./b").splitOn '/'.toUInt8 =
      [Octets.ofText "~", Octets.ofText ".", Octets.ofText "b"] := rfl
  have hdirectories : Directories homeWorld.environment (Octets.ofText "/o:~/./b:/n")
      [Octets.ofText "/o", Octets.ofText "/m/b", Octets.ofText "/n"] :=
    .cons (.itself (by decide)) (.cons (.tilde hsplit) (.cons (.itself (by decide)) .nil))
  have hoffers : homeWorld.Offers (Octets.ofText "/m/b/h") := ⟨rfl, _, _, _, rfl, rfl, rfl⟩
  have hwithout : ¬ homeWorld.Offers (Octets.ofText "/o/h") := by
    rintro ⟨-, place, mode, content, hplace, hfile, hmode⟩
    cases hplace
    cases hfile
    cases hmode
  have hfound : FoundIn homeWorld (Octets.ofText "h")
      [Octets.ofText "/o", Octets.ofText "/m/b", Octets.ofText "/n"]
      (Octets.ofText "/m/b/h") := by
    refine ⟨[Octets.ofText "/o"], Octets.ofText "/m/b", [Octets.ofText "/n"], rfl, rfl, hoffers, ?_⟩
    intro earlier hearlier
    cases List.mem_singleton.mp hearlier
    exact hwithout
  exact ((resolution_find "h").leads homeWorld _).mpr (.found hbare rfl hdirectories hfound)

end Program

end Reftest
