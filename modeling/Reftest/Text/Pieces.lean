namespace Reftest

/-- What stands before, between and after the marks; always at least one piece. -/
def pieces [DecidableEq α] (mark : α) : List α → List (List α)
  | [] => [[]]
  | item :: rest =>
    if item = mark then [] :: pieces mark rest
    else match pieces mark rest with
      | [] => [[item]]
      | first :: others => (item :: first) :: others

@[simp] theorem pieces_nil [DecidableEq α] (mark : α) : pieces mark [] = [[]] := rfl

@[simp] theorem pieces_mark [DecidableEq α] (mark : α) (rest : List α) :
    pieces mark (mark :: rest) = [] :: pieces mark rest := by
  simp [pieces]

theorem pieces_ne_nil [DecidableEq α] (mark : α) (items : List α) : pieces mark items ≠ [] := by
  cases items with
  | nil => simp
  | cons item rest =>
      simp only [pieces]
      split
      · simp
      · split <;> simp

theorem pieces_of_not_mem [DecidableEq α] {mark : α} {items : List α} (h : mark ∉ items) :
    pieces mark items = [items] := by
  induction items with
  | nil => rfl
  | cons item rest ih =>
      rw [List.mem_cons, not_or] at h
      simp [pieces, Ne.symm h.1, ih h.2]

theorem pieces_append_mark [DecidableEq α] (mark : α) (left right : List α) :
    pieces mark (left ++ mark :: right) = pieces mark left ++ pieces mark right := by
  induction left with
  | nil => simp
  | cons item rest ih =>
      simp only [List.cons_append, pieces, ih]
      split
      · simp
      · have hrest := pieces_ne_nil mark rest
        cases h : pieces mark rest with
        | nil => exact absurd h hrest
        | cons first others => simp

end Reftest
