import Reftest.Files.Path

namespace Reftest

section

variable {α : Type} [DecidableEq α] {mark item : α} {items segment : List α}

def BeginsWith (mark : α) (items segment : List α) : Prop :=
  ∃ after, items = segment ++ after ∧ mark ∉ segment ∧ (after = [] ∨ after.head? = some mark)

def HasLaterSegment (mark : α) (items segment : List α) : Prop :=
  ∃ before after, items = before ++ mark :: after ∧ BeginsWith mark after segment

section

omit [DecidableEq α]

theorem beginsWith_nil : BeginsWith mark [] segment ↔ segment = [] := by
  constructor
  · intro h
    obtain ⟨after, hitems, -, -⟩ := h
    exact (List.append_eq_nil_iff.mp hitems.symm).1
  · intro h
    subst h
    exact ⟨[], rfl, List.not_mem_nil, .inl rfl⟩

theorem beginsWith_mark : BeginsWith mark (mark :: items) segment ↔ segment = [] := by
  constructor
  · intro h
    obtain ⟨after, hitems, hfree, -⟩ := h
    cases segment with
    | nil => rfl
    | cons first segment =>
        cases hitems
        exact absurd List.mem_cons_self hfree
  · intro h
    subst h
    exact ⟨mark :: items, rfl, List.not_mem_nil, .inr rfl⟩

theorem beginsWith_cons (hitem : item ≠ mark) :
    BeginsWith mark (item :: items) segment ↔
      ∃ rest, segment = item :: rest ∧ BeginsWith mark items rest := by
  constructor
  · intro h
    obtain ⟨after, hitems, hfree, hafter⟩ := h
    cases segment with
    | nil =>
        cases hitems
        cases hafter with
        | inl hnil => cases hnil
        | inr hhead => exact absurd (Option.some.inj hhead) hitem
    | cons first rest =>
        cases hitems
        exact ⟨rest, rfl, after, rfl, fun hmem => hfree (List.mem_cons_of_mem _ hmem), hafter⟩
  · intro h
    obtain ⟨rest, rfl, after, rfl, hfree, hafter⟩ := h
    refine ⟨after, rfl, ?_, hafter⟩
    rw [List.mem_cons, not_or]
    exact ⟨hitem.symm, hfree⟩

end

theorem beginsWith_iff :
    BeginsWith mark items segment ↔ (pieces mark items).head? = some segment := by
  induction items generalizing segment with
  | nil =>
      rw [beginsWith_nil, pieces_nil, List.head?_cons, Option.some.injEq]
      exact eq_comm
  | cons item rest ih =>
      by_cases hmark : item = mark
      · subst hmark
        rw [beginsWith_mark, pieces_mark, List.head?_cons, Option.some.injEq]
        exact eq_comm
      · obtain ⟨first, others, hrest⟩ := List.exists_cons_of_ne_nil (pieces_ne_nil mark rest)
        simp only [beginsWith_cons hmark, ih, pieces, hmark, if_false, hrest, List.head?_cons,
          Option.some.injEq]
        constructor
        · rintro ⟨_, rfl, rfl⟩
          rfl
        · rintro rfl
          exact ⟨first, rfl, rfl⟩

omit [DecidableEq α] in
theorem hasLaterSegment_cons :
    HasLaterSegment mark (item :: items) segment ↔
      (item = mark ∧ BeginsWith mark items segment) ∨ HasLaterSegment mark items segment := by
  constructor
  · rintro ⟨before, after, hitems, hafter⟩
    cases before with
    | nil =>
        cases hitems
        exact .inl ⟨rfl, hafter⟩
    | cons first before =>
        cases hitems
        exact .inr ⟨before, after, rfl, hafter⟩
  · rintro (⟨rfl, hitems⟩ | ⟨before, after, rfl, hafter⟩)
    · exact ⟨[], items, rfl, hitems⟩
    · exact ⟨item :: before, after, rfl, hafter⟩

theorem hasLaterSegment_iff :
    HasLaterSegment mark items segment ↔ segment ∈ (pieces mark items).tail := by
  induction items with
  | nil =>
      constructor
      · rintro ⟨before, after, hitems, -⟩
        exact absurd hitems.symm (List.append_ne_nil_of_right_ne_nil _ (List.cons_ne_nil _ _))
      · intro h
        cases h
  | cons item rest ih =>
      obtain ⟨first, others, hrest⟩ := List.exists_cons_of_ne_nil (pieces_ne_nil mark rest)
      rw [hasLaterSegment_cons, ih, beginsWith_iff, hrest]
      by_cases hmark : item = mark
      · simp [pieces, hmark, hrest, eq_comm]
      · simp [pieces, hmark, hrest]

theorem pieces_eq_splitOn (mark : α) (items : List α) : pieces mark items = items.splitOn mark := by
  rw [List.splitOn_eq_splitOnP]
  induction items with
  | nil => rfl
  | cons item rest ih =>
      rw [List.splitOnP_cons_eq_if_modifyHead, ← ih, pieces]
      by_cases hmark : item = mark
      · simp [hmark]
      · obtain ⟨first, others, hrest⟩ := List.exists_cons_of_ne_nil (pieces_ne_nil mark rest)
        simp [hmark, hrest]

theorem getLast?_pieces_append (left right : List α) :
    (pieces mark (left ++ mark :: right)).getLast? = (pieces mark right).getLast? := by
  rw [pieces_append_mark, List.getLast?_append]
  exact Option.or_of_isSome (List.getLast?_isSome.mpr (pieces_ne_nil mark right))

end

namespace Path

/-- A path that says where to look: it begins at the root, or it leads on behind its first
separator. -/
def Directed (path : Octets) : Prop :=
  path.head? = some separator ∨
    ∃ segment, HasLaterSegment separator path segment ∧ segment ≠ [] ∧ segment ≠ dot

theorem isAbsolute_iff {path : Octets} :
    isAbsolute path = true ↔ path.head? = some separator := by
  simp [isAbsolute]

theorem one_lt_length_parts_iff {path : Octets} (hrelative : path.head? ≠ some separator) :
    1 < (parts path).length ↔
      ∃ segment, HasLaterSegment separator path segment ∧ segment ≠ [] ∧ segment ≠ dot := by
  simp only [hasLaterSegment_iff]
  obtain ⟨first, rest, hpieces⟩ := List.exists_cons_of_ne_nil (pieces_ne_nil separator path)
  have hfirst : first = [] → rest = [] := by
    rintro rfl
    cases path with
    | nil =>
        cases hpieces
        rfl
    | cons octet path =>
        have hbegins : BeginsWith separator (octet :: path) [] :=
          beginsWith_iff.mpr (by rw [hpieces, List.head?_cons])
        obtain ⟨after, rfl, -, hafter⟩ := hbegins
        rcases hafter with hnil | hmark
        · cases hnil
        · exact absurd hmark hrelative
  simp only [parts, hpieces, List.tail_cons]
  by_cases hempty : first = []
  · simp [hempty, hfirst hempty]
  · simp [hempty, List.length_pos_iff_exists_mem, List.mem_filter]

theorem namesDirectory_iff {path : Octets} : namesDirectory path = true ↔ Directed path := by
  unfold namesDirectory Directed
  rw [Bool.or_eq_true, isAbsolute_iff, decide_eq_true_eq]
  by_cases habsolute : path.head? = some separator
  · simp [habsolute]
  · simp only [habsolute, false_or]
    exact one_lt_length_parts_iff habsolute

instance (path : Octets) : Decidable (Directed path) :=
  decidable_of_iff _ namesDirectory_iff

def Turns (step : Octets) : Prop :=
  step = [] ∨ step = dot ∨ step = dotDot

/-- A path that could only lead to a directory, although it does not say where to look. -/
def Undirected (path : Octets) : Prop :=
  path = [] ∨ path = dot ∨ path = dotDot ∨ (separator ∈ path ∧ ¬ Directed path)

theorem Undirected.not_directed {path : Octets} (h : Undirected path) : ¬ Directed path := by
  rcases h with rfl | rfl | rfl | h
  · decide
  · decide
  · decide
  · exact h.2

theorem Undirected.turns {path last : Octets} (h : Undirected path)
    (hlast : (pieces separator path).getLast? = some last) : Turns last := by
  have hwhole : separator ∉ path → last = path := by
    intro hfree
    rw [pieces_of_not_mem hfree] at hlast
    exact (Option.some.inj hlast).symm
  rcases h with rfl | rfl | rfl | ⟨hmem, hbare⟩
  · exact .inl (hwhole (by decide))
  · exact .inr (.inl (hwhole (by decide)))
  · exact .inr (.inr (hwhole (by decide)))
  · obtain ⟨left, right, rfl⟩ := List.append_of_mem hmem
    have hlater : last ∈ (pieces separator (left ++ separator :: right)).tail := by
      rw [getLast?_pieces_append] at hlast
      rw [pieces_append_mark, List.tail_append_of_ne_nil (pieces_ne_nil separator left)]
      exact List.mem_append_right _ (List.mem_of_getLast? hlast)
    by_cases hempty : last = []
    · exact .inl hempty
    · by_cases hdot : last = dot
      · exact .inr (.inl hdot)
      · exact absurd (.inr ⟨last, hasLaterSegment_iff.mpr hlater, hempty, hdot⟩) hbare

theorem getLast?_dropEmpty (steps : List Octets) : (dropEmpty steps).getLast? = steps.getLast? := by
  fun_induction dropEmpty steps with
  | case1 => rfl
  | case2 last => rfl
  | case3 rest hrest ih => rw [ih, List.getLast?_cons_of_ne_nil hrest]
  | case4 step rest hrest hstep ih => rw [List.getLast?_cons, List.getLast?_cons, ih]

theorem getLast?_steps_join (base : Octets) {path : Octets} (hrelative : isAbsolute path = false) :
    (steps (join base path)).getLast? = (pieces separator path).getLast? := by
  unfold steps
  rw [getLast?_dropEmpty]
  unfold join
  rw [if_neg (by rw [hrelative]; decide)]
  split
  · rename_i hbase
    rcases hbase with rfl | hlast
    · rw [List.nil_append]
    · obtain ⟨front, rfl⟩ := List.getLast?_eq_some_iff.mp hlast
      rw [List.append_assoc, List.singleton_append, getLast?_pieces_append]
  · rw [getLast?_pieces_append]

end Path

end Reftest
