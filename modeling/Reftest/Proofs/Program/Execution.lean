import Reftest.Program.Launch

/-!
What it means that the file at a path is run.  The system is given a path, but it looks for one
without a separator along the search path once more, so it need not run the file that is there.
-/

namespace Reftest.Program

/-- The file at a path is run with some arguments: it is a program, or a script whose interpreter
is run on it. -/
inductive Executes (world : World) (busy : Option Location) :
    Octets → List Octets → Launch → Prop
  | program {path : Octets} {arguments : List Octets} {behaviour : Behaviour}
      (hcontent : content world busy path = .ok (.program behaviour)) :
      Executes world busy path arguments ⟨path, arguments, behaviour⟩
  | script {path octets : Octets} {arguments : List Octets} {script : Script}
      {launched : Launch}
      (hcontent : content world busy path = .ok (.octets octets))
      (hscript : Script.read? octets = some script)
      (hinterpreter : Executes world busy script.interpreter
        (script.argument.toList ++ path :: arguments) launched) :
      Executes world busy path arguments launched

/-- Whatever the system runs for a path is the file at that path. -/
def RunsInPlace (world : World) (busy : Option Location) (path : Octets)
    (arguments : List Octets) : Prop :=
  ∀ launched, launch world busy path arguments = .ok launched →
    Executes world busy path arguments launched

theorem content_of_interpreterContent {world : World} {busy : Option Location} {script : Script}
    {inner : Content} (h : interpreterContent world busy script = .ok inner) :
    content world busy script.interpreter = .ok inner := by
  unfold interpreterContent at h
  split at h
  · cases h
  · exact h

theorem executes_of_interpret {world : World} {busy : Option Location} {scripts : Nat}
    {inner : Content} {path : Octets} {arguments : List Octets} {launched : Launch}
    (hcontent : content world busy path = .ok inner)
    (h : interpret world busy scripts inner path arguments = .ok launched) :
    Executes world busy path arguments launched := by
  induction scripts generalizing inner path arguments with
  | zero =>
      cases inner with
      | program behaviour => cases h
      | octets octets =>
          simp only [interpret] at h
          split at h
          · cases h
          · split at h
            · cases h
            · cases h
            · rename_i hscripts
              cases hscripts
  | succ scripts ih =>
      cases inner with
      | program behaviour =>
          cases h
          exact .program hcontent
      | octets octets =>
          simp only [interpret] at h
          split at h
          · cases h
          · rename_i script hscript
            split at h
            · cases h
            · cases h
            · rename_i inner _ hinner hscripts
              cases hscripts
              exact .script hcontent hscript
                (ih (content_of_interpreterContent hinner) h)

theorem executes_of_launchAt {world : World} {busy : Option Location} {path : Octets}
    {arguments : List Octets} {launched : Launch}
    (h : launchAt world busy arguments path = .ok launched) :
    Executes world busy path arguments launched := by
  unfold launchAt at h
  split at h
  · cases h
  · rename_i inner hcontent
    split at h
    · exact executes_of_interpret hcontent h
    · cases h

theorem runsInPlace_of_separator {path : Octets} (h : Path.separator ∈ path) (world : World)
    (busy : Option Location) (arguments : List Octets) :
    RunsInPlace world busy path arguments := by
  intro launched hlaunch
  unfold launch at hlaunch
  split at hlaunch
  · cases hlaunch
  · rw [if_pos (by simpa using h)] at hlaunch
    exact executes_of_launchAt hlaunch

/-! What is run depends on nothing of a world but its files, the working directory and the search
path. -/

section

variable {world other : World} {busy : Option Location}

theorem content_congr (hfiles : other.files = world.files)
    (hdirectory : other.directory = world.directory) (busy : Option Location) (path : Octets) :
    content other busy path = content world busy path := by
  rw [content, content, hfiles, hdirectory]

theorem interpret_congr (hfiles : other.files = world.files)
    (hdirectory : other.directory = world.directory) (busy : Option Location) (scripts : Nat)
    (inner : Content) (path : Octets) (arguments : List Octets) :
    interpret other busy scripts inner path arguments =
      interpret world busy scripts inner path arguments := by
  have hinterpreter (script : Script) :
      interpreterContent other busy script = interpreterContent world busy script := by
    rw [interpreterContent, interpreterContent, content_congr hfiles hdirectory]
  induction scripts generalizing inner path arguments with
  | zero =>
      cases inner with
      | program behaviour => rfl
      | octets octets =>
          simp only [interpret, hinterpreter]
          cases Script.read? octets with
          | none => rfl
          | some script =>
              dsimp only
              cases interpreterContent world busy script <;> rfl
  | succ scripts ih =>
      cases inner with
      | program behaviour => rfl
      | octets octets =>
          simp only [interpret, hinterpreter]
          cases Script.read? octets with
          | none => rfl
          | some script =>
              dsimp only
              cases interpreterContent world busy script with
              | error failure => rfl
              | ok next => exact ih next _ _

theorem launchAt_congr (hfiles : other.files = world.files)
    (hdirectory : other.directory = world.directory) (busy : Option Location)
    (arguments : List Octets) (path : Octets) :
    launchAt other busy arguments path = launchAt world busy arguments path := by
  simp only [launchAt, content_congr hfiles hdirectory, interpret_congr hfiles hdirectory]

theorem launchFirst_congr (hfiles : other.files = world.files)
    (hdirectory : other.directory = world.directory) (busy : Option Location)
    (arguments : List Octets) (before : Failure) (paths : List Octets) :
    launchFirst other busy arguments before paths =
      launchFirst world busy arguments before paths := by
  induction paths generalizing before with
  | nil => rfl
  | cons path rest ih => simp only [launchFirst, launchAt_congr hfiles hdirectory, ih]

theorem launch_congr (hfiles : other.files = world.files)
    (hdirectory : other.directory = world.directory)
    (hpath : other.environment.searchPath = world.environment.searchPath)
    (busy : Option Location) (program : Octets) (arguments : List Octets) :
    launch other busy program arguments = launch world busy program arguments := by
  simp only [launch, launchAt_congr hfiles hdirectory, launchFirst_congr hfiles hdirectory, hpath]

end

/-! A search path without empty entries leads to paths with a separator only. -/

theorem separator_mem_of_isAbsolute {path : Octets} (h : Path.isAbsolute path = true) :
    Path.separator ∈ path := by
  cases path with
  | nil => simp [Path.isAbsolute] at h
  | cons first rest =>
      have hfirst : first = Path.separator := by simpa [Path.isAbsolute] using h
      simp [hfirst]

theorem separator_mem_of_namesDirectory {name : Octets} (h : Path.namesDirectory name = true) :
    Path.separator ∈ name := by
  refine Decidable.byContradiction fun hnone => ?_
  have hrelative : Path.isAbsolute name = false := by
    rw [Bool.eq_false_iff]
    exact fun habsolute => hnone (separator_mem_of_isAbsolute habsolute)
  have hparts : (Path.parts name).length ≤ 1 := by
    simp only [Path.parts, pieces_of_not_mem hnone]
    split <;> simp
  simp only [Path.namesDirectory, hrelative, Bool.false_or, decide_eq_true_eq] at h
  omega

theorem separator_mem_join {base : Octets} (h : base ≠ []) (path : Octets) :
    Path.separator ∈ Path.join base path := by
  unfold Path.join
  split
  · exact separator_mem_of_isAbsolute ‹_›
  · split
    · rename_i hlast
      have hlast := hlast.resolve_left h
      exact List.mem_append_left _ (List.mem_of_getLast? hlast)
    · simp

theorem separator_mem_of_locate {world : World} {name path : Octets}
    (hentries : ∀ searchPath, world.environment.searchPath = some searchPath →
      [] ∉ entries (tildeHome world.environment) searchPath)
    (h : locate world name = .ok path) : Path.separator ∈ path := by
  unfold locate at h
  split at h
  · cases h
    exact separator_mem_of_namesDirectory ‹_›
  · unfold search at h
    split at h
    · cases h
    · rename_i searchPath hsearchPath
      split at h
      · rename_i found hfound
        cases h
        obtain ⟨entry, hentry, rfl⟩ := List.mem_map.mp (List.mem_of_find?_eq_some hfound)
        refine separator_mem_join ?_ name
        rintro rfl
        exact hentries searchPath hsearchPath hentry
      · cases h

def Launch.call (launched : Launch) : Octets × List Octets :=
  (launched.path, launched.arguments)

inductive Answer where
  | unknown
  | refused (failure : Failure)
  | executed (launched : Launch)

/-- A wish is answered as it should be: the name leads to no path, or the system refuses to run
the path it leads to, or the file at this path is run. -/
inductive Answers (world : World) (busy : Option Location) (name : String)
    (arguments : List Octets) : Answer → Prop
  | unknown {failure : SearchFailure}
      (hlocate : locate world (Octets.ofText name) = .error failure) :
      Answers world busy name arguments .unknown
  | refused {path : Octets} {failure : Failure}
      (hlocate : locate world (Octets.ofText name) = .ok path)
      (hlaunch : launch world busy path arguments = .error failure) :
      Answers world busy name arguments (.refused failure)
  | executed {path : Octets} {launched : Launch}
      (hlocate : locate world (Octets.ofText name) = .ok path)
      (hlaunch : launch world busy path arguments = .ok launched)
      (hplace : Executes world busy path arguments launched) :
      Answers world busy name arguments (.executed launched)

def NameRunsInPlace (world : World) (busy : Option Location) (name : String)
    (arguments : List Octets) : Prop :=
  ∀ path, locate world (Octets.ofText name) = .ok path → RunsInPlace world busy path arguments

theorem nameRunsInPlace_of_entries (world : World)
    (hentries : ∀ searchPath, world.environment.searchPath = some searchPath →
      [] ∉ entries (tildeHome world.environment) searchPath)
    (busy : Option Location) (name : String) (arguments : List Octets) :
    NameRunsInPlace world busy name arguments :=
  fun _ hlocate =>
    runsInPlace_of_separator (separator_mem_of_locate hentries hlocate) world busy arguments

theorem nameRunsInPlace_of_answers {world : World} {busy : Option Location} {name : String}
    {arguments : List Octets} {answer : Answer} (h : Answers world busy name arguments answer) :
    NameRunsInPlace world busy name arguments := by
  intro path hpath launched hlaunched
  cases h with
  | unknown hlocate => cases hlocate.symm.trans hpath
  | refused hlocate hlaunch =>
      cases hlocate.symm.trans hpath
      cases hlaunch.symm.trans hlaunched
  | executed hlocate hlaunch hplace =>
      cases hlocate.symm.trans hpath
      cases hlaunch.symm.trans hlaunched
      exact hplace

theorem answer_of_launch {world : World} {busy : Option Location} {name : String}
    {arguments : List Octets} {answer : Answer} {path : Octets} {launched : Launch}
    (h : Answers world busy name arguments answer)
    (hpath : locate world (Octets.ofText name) = .ok path)
    (hlaunched : launch world busy path arguments = .ok launched) :
    answer = .executed launched := by
  cases h with
  | unknown hlocate => cases hlocate.symm.trans hpath
  | refused hlocate hlaunch =>
      cases hlocate.symm.trans hpath
      cases hlaunch.symm.trans hlaunched
  | executed hlocate hlaunch hplace =>
      cases hlocate.symm.trans hpath
      cases hlaunch.symm.trans hlaunched
      rfl

end Reftest.Program
