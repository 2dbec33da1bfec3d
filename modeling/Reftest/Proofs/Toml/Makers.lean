import Reftest.Proofs.Toml.Provenance

namespace Reftest.Toml

section

variable (pairs : List Assignment)

inductive PairedBy : List Step → Node → Prop where
  | intro {front back : List Assignment} {parents : Key} {part : KeyPart} {value : Node}
      {entries : Entries} (hpairs : pairs = front ++ ⟨parents ++ [part], value⟩ :: back)
      (hfront : Entries.assignAll [] front = some entries) :
      PairedBy (entries.pathTo parents part) value

inductive LedThroughBy : List Step → Span → Prop where
  | intro {front back : List Assignment} {parents rest : Key} {part : KeyPart} {value : Node}
      {entries : Entries} (hpairs : pairs = front ++ ⟨parents ++ part :: rest, value⟩ :: back)
      (hfront : Entries.assignAll [] front = some entries) (hrest : rest ≠ [])
      (hlacks : entries.Lacks parents part) : LedThroughBy (entries.pathTo parents part) part.span

def pairMakers : Provenance where
  value := PairedBy pairs
  dotted := LedThroughBy pairs
  implied := fun _ _ => False
  header := fun _ _ => False

end

theorem Entries.assignAll_append {entries middle : Entries} {left right : List Assignment}
    (h : entries.assignAll left = some middle) :
    entries.assignAll (left ++ right) = middle.assignAll right := by
  unfold assignAll at h ⊢
  rw [List.foldlM_append, h]
  rfl

theorem Entries.assignAll_traced {done rest : List Assignment} {entries result : Entries}
    (hdone : Entries.assignAll [] done = some entries)
    (h : entries.Traced (pairMakers (done ++ rest)) [])
    (hvalues : ∀ pair ∈ rest, pair.value.IsValue)
    (hrest : entries.assignAll rest = some result) :
    result.Traced (pairMakers (done ++ rest)) [] := by
  -- Each pair moves from `rest` to the end of `done`, so the makers stay the same.
  induction rest generalizing done entries with
  | nil =>
      obtain rfl := Option.some.inj hrest
      exact h
  | cons pair rest ih =>
      obtain ⟨key, value⟩ := pair
      rw [assignAll, List.foldlM_cons] at hrest
      obtain ⟨next, hnext, hrest⟩ := Option.bind_eq_some_iff.mp hrest
      have hvalue := hvalues _ List.mem_cons_self
      have htraced : next.Traced (pairMakers (done ++ ⟨key, value⟩ :: rest)) [] := by
        refine assign_traced ⟨?_, ?_⟩ h hnext
        · rintro parents part rfl
          exact .value hvalue (.intro rfl hdone)
        · rintro parents part others rfl hothers hlacks
          exact .intro rfl hdone hothers hlacks
      have hdone' : Entries.assignAll [] (done ++ [⟨key, value⟩]) = some next := by
        rw [assignAll_append hdone, assignAll, List.foldlM_cons, hnext]
        rfl
      rw [List.append_cons] at htraced ⊢
      exact ih hdone' htraced (fun other hother => hvalues other (List.mem_cons_of_mem _ hother))
        hrest

def Assembly.context (assembly : Assembly) : List Step :=
  match assembly.header with
  | none => []
  | some header => assembly.closed.opened header

def Header.over (header : Header) : List Entry → Header
  | .assignment _ assignment :: back => (header.reach assignment.value.span.stop).over back
  | _ => header

/-- An entry in its place among others, with what those in front of it come to. -/
structure Stage (entries front : List Entry) (entry : Entry) (back : List Entry)
    (assembly : Assembly) : Prop where
  split : entries = front ++ entry :: back
  made : Assembly.empty.addAll front = .ok assembly

section

variable (entries : List Entry)

inductive AssignedBy : List Step → Node → Prop where
  | intro {front back : List Entry} {mark : Mark} {parents : Key} {part : KeyPart} {value : Node}
      {assembly : Assembly}
      (h : Stage entries front (.assignment mark ⟨parents ++ [part], value⟩) back assembly) :
      AssignedBy (assembly.context ++ assembly.current.pathTo parents part) value

inductive DottedBy : List Step → Span → Prop where
  | intro {front back : List Entry} {mark : Mark} {parents rest : Key} {part : KeyPart}
      {value : Node} {assembly : Assembly}
      (h : Stage entries front (.assignment mark ⟨parents ++ part :: rest, value⟩) back assembly)
      (hrest : rest ≠ []) (hlacks : assembly.current.Lacks parents part) :
      DottedBy (assembly.context ++ assembly.current.pathTo parents part) part.span

inductive ImpliedBy : List Step → Span → Prop where
  | intro {front back : List Entry} {header : Header} {parents rest : Key} {part : KeyPart}
      {assembly : Assembly} (h : Stage entries front (.header header) back assembly)
      (hpath : header.path = parents ++ part :: rest) (hrest : rest ≠ [])
      (hlacks : assembly.close.Lacks parents part) :
      ImpliedBy (assembly.close.pathTo parents part) part.span

inductive HeadedBy : List Step → Span → Prop where
  | intro {front back : List Entry} {header : Header} {assembly : Assembly}
      (h : Stage entries front (.header header) back assembly) :
      HeadedBy (assembly.close.opened header) (header.over back).span

def makers : Provenance where
  value := AssignedBy entries
  dotted := DottedBy entries
  implied := ImpliedBy entries
  header := HeadedBy entries

end

theorem Entries.opened_congr (entries : Entries) {header header' : Header}
    (hpath : header.path = header'.path) (helement : header.element = header'.element) :
    entries.opened header = entries.opened header' := by
  rw [opened, opened, hpath, helement]

namespace Assembly

theorem addAll_append_singleton {assembly middle next : Assembly} {done : List Entry}
    {entry : Entry} (h : assembly.addAll done = .ok middle) (hadd : middle.add? entry = some next) :
    assembly.addAll (done ++ [entry]) = .ok next := by
  induction done generalizing assembly with
  | nil =>
      obtain rfl := Except.ok.inj h
      simp only [List.nil_append, addAll, hadd]
  | cons first done ih =>
      rw [addAll] at h
      rw [List.cons_append, addAll]
      cases hfirst : assembly.add? first with
      | none =>
          rw [hfirst] at h
          cases h
      | some assembly =>
          rw [hfirst] at h
          exact ih h

structure Traced (done rest : List Entry) (assembly : Assembly) : Prop where
  made : empty.addAll done = .ok assembly
  closed : assembly.closed.Traced (makers (done ++ rest)) []
  current : assembly.current.Traced (makers (done ++ rest)) assembly.context
  header : ∀ header, assembly.header = some header →
    ∃ front opened back before, Stage (done ++ rest) front (.header opened) back before ∧
      before.close = assembly.closed ∧ opened.path = header.path ∧
      opened.element = header.element ∧ (opened.over back).span = (header.over rest).span

variable {assembly next : Assembly} {done rest : List Entry}

theorem traced_empty (rest : List Entry) : Traced [] rest empty where
  made := rfl
  closed := Entries.traced_nil _ _
  current := Entries.traced_nil _ _
  header := by
    intro header hheader
    cases hheader

theorem Traced.close (h : assembly.Traced done rest)
    (hrest : ∀ header : Header, header.over rest = header) :
    assembly.close.Traced (makers (done ++ rest)) [] := by
  have hcurrent := h.current
  unfold context at hcurrent
  unfold Assembly.close
  cases hheader : assembly.header with
  | none =>
      rw [hheader] at hcurrent
      exact hcurrent
  | some header =>
      obtain ⟨front, opened, back, before, hstage, hclosed, hpath, helement, hspan⟩ :=
        h.header header hheader
      rw [hheader] at hcurrent
      -- No assignment follows, so the table has reached the span that its header gives it.
      rw [hrest header] at hspan
      dsimp only at hcurrent ⊢
      cases hclose : Entries.close? header assembly.current assembly.closed with
      | none => exact h.closed
      | some result =>
          refine Entries.close?_traced ?_ ?_ hcurrent h.closed hclose
          · intro parents part others hparts hlacks
            have hnil : header.path ≠ [] := by
              intro hnil
              rw [hnil] at hparts
              cases parents <;> cases hparts
            have hwhole : opened.path = parents ++ part :: (others ++ [header.path.getLast hnil]) :=
              calc
                opened.path = header.path.dropLast ++ [header.path.getLast hnil] := by
                  rw [hpath, List.dropLast_concat_getLast hnil]
                _ = parents ++ part :: (others ++ [header.path.getLast hnil]) := by
                  rw [hparts, List.append_assoc, List.cons_append]
            rw [← hclosed] at hlacks ⊢
            exact .intro hstage hwhole (List.append_ne_nil_of_right_ne_nil _ (List.cons_ne_nil _ _))
              hlacks
          · rw [← hclosed, ← hspan, ← Entries.opened_congr before.close hpath helement]
            exact .intro hstage

theorem Traced.add_header {header : Header} (h : assembly.Traced done (.header header :: rest))
    (hadd : assembly.add? (.header header) = some next) :
    next.Traced (done ++ [.header header]) rest := by
  have hclose := h.close fun _ => rfl
  have hentries : done ++ .header header :: rest = (done ++ [.header header]) ++ rest :=
    List.append_cons done (.header header) rest
  have hstage : Stage (done ++ .header header :: rest) done (.header header) rest assembly :=
    ⟨rfl, h.made⟩
  have hmade := addAll_append_singleton h.made hadd
  obtain ⟨current, hopen, hnext⟩ := Option.bind_eq_some_iff.mp hadd
  obtain rfl := Option.some.inj hnext
  rw [hentries] at hclose hstage
  refine ⟨hmade, hclose, Entries.open?_traced hclose hopen, ?_⟩
  intro opened hopened
  obtain rfl := Option.some.inj hopened
  exact ⟨done, header, rest, assembly, hstage, rfl, rfl, rfl, rfl⟩

theorem Traced.add_assignment {mark : Mark} {assignment : Assignment}
    (h : assembly.Traced done (.assignment mark assignment :: rest))
    (hvalue : assignment.value.IsValue)
    (hadd : assembly.add? (.assignment mark assignment) = some next) :
    next.Traced (done ++ [.assignment mark assignment]) rest := by
  have hentries : done ++ .assignment mark assignment :: rest =
      (done ++ [.assignment mark assignment]) ++ rest :=
    List.append_cons done (.assignment mark assignment) rest
  have hstage : Stage (done ++ .assignment mark assignment :: rest) done
      (.assignment mark assignment) rest assembly := ⟨rfl, h.made⟩
  have hmade := addAll_append_singleton h.made hadd
  have hclosed := h.closed
  have hheader := h.header
  obtain ⟨current, hassign, hnext⟩ := Option.bind_eq_some_iff.mp hadd
  obtain rfl := Option.some.inj hnext
  have hcurrent : current.Traced (makers (done ++ .assignment mark assignment :: rest))
      assembly.context := by
    refine Entries.assign_traced ⟨?_, ?_⟩ h.current hassign
    · intro parents part hkey
      obtain ⟨key, value⟩ := assignment
      obtain rfl : key = parents ++ [part] := hkey
      exact .value hvalue (.intro hstage)
    · intro parents part others hkey hothers hlacks
      obtain ⟨key, value⟩ := assignment
      obtain rfl : key = parents ++ part :: others := hkey
      exact .intro hstage hothers hlacks
  rw [hentries] at hclosed hcurrent hheader
  have hcontext : Assembly.context { assembly with
      header := assembly.header.map (·.reach assignment.value.span.stop), current } =
      assembly.context := by
    unfold context
    cases assembly.header with
    | none => rfl
    | some header => rfl
  refine ⟨hmade, hclosed, ?_, ?_⟩
  · rw [hcontext]
    exact hcurrent
  · intro reached hreached
    obtain ⟨header, hsome, rfl⟩ := Option.map_eq_some_iff.mp hreached
    exact hheader header hsome

theorem Traced.addAll {result : Assembly} (h : assembly.Traced done rest)
    (hvalues : ∀ mark assignment, .assignment mark assignment ∈ rest → assignment.value.IsValue)
    (hadd : assembly.addAll rest = .ok result) : result.Traced (done ++ rest) [] := by
  induction rest generalizing assembly done with
  | nil =>
      obtain rfl := Except.ok.inj hadd
      rw [List.append_nil]
      exact h
  | cons entry rest ih =>
      rw [Assembly.addAll] at hadd
      split at hadd
      · rename_i next hnext
        rw [List.append_cons]
        refine ih ?_ (fun mark assignment hmem =>
          hvalues mark assignment (List.mem_cons_of_mem _ hmem)) hadd
        cases entry with
        | header header => exact h.add_header hnext
        | assignment mark assignment =>
            exact h.add_assignment (hvalues mark assignment List.mem_cons_self) hnext
      · cases hadd

end Assembly

end Reftest.Toml
