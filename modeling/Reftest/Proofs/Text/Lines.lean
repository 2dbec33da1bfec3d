import Reftest.Text.Pieces
import Reftest.Toml.Position

namespace Reftest

theorem exists_pieces_eq [DecidableEq α] (mark : α) (items : List α) :
    ∃ others, pieces mark items = items.takeWhile (· ≠ mark) :: others := by
  induction items with
  | nil => exact ⟨[], rfl⟩
  | cons item rest ih =>
      obtain ⟨others, ih⟩ := ih
      by_cases hitem : item = mark
      · subst hitem
        exact ⟨pieces item rest, by simp⟩
      · exact ⟨others, by simp [pieces, hitem, ih]⟩

theorem takeWhile_append_of_not_mem [DecidableEq α] {mark : α} {left : List α} (h : mark ∉ left)
    (right : List α) :
    (left ++ right).takeWhile (· ≠ mark) = left ++ right.takeWhile (· ≠ mark) := by
  refine List.takeWhile_append_of_pos fun item hitem => decide_eq_true ?_
  rintro rfl
  exact h hitem

namespace Toml.Mark

theorem exists_lines (before : List Char) :
    ∃ lines : List (List Char), ∃ start : List Char,
      before = lines.flatMap (· ++ ['\n']) ++ start ∧ lines.length = before.count '\n' ∧
      start = (before.reverse.takeWhile (· ≠ '\n')).reverse ∧ '\n' ∉ start ∧
      ∀ rest, pieces '\n' (before ++ rest) = lines ++ pieces '\n' (start ++ rest) := by
  -- on the reversed text, as each further character either closes the last line or goes on with it
  generalize hreverse : before.reverse = reversed
  obtain rfl : before = reversed.reverse := by rw [← hreverse, List.reverse_reverse]
  clear hreverse
  induction reversed with
  | nil => exact ⟨[], [], rfl, rfl, rfl, List.not_mem_nil, fun _ => rfl⟩
  | cons c reversed ih =>
      obtain ⟨lines, start, hbefore, hlength, hstart, hmem, hpieces⟩ := ih
      rw [List.reverse_cons]
      by_cases hc : c = '\n'
      · subst hc
        refine ⟨lines ++ [start], [], ?_, ?_, ?_, List.not_mem_nil, ?_⟩
        · rw [hbefore, List.flatMap_append, List.flatMap_singleton, List.append_assoc,
            List.append_nil]
        · rw [List.length_append, hlength, List.count_append]
          rfl
        · rw [List.takeWhile_cons_of_neg (by decide)]
          rfl
        · intro rest
          rw [List.append_assoc, List.singleton_append, hpieces, pieces_append_mark,
            pieces_of_not_mem hmem, List.append_assoc, List.nil_append]
      · refine ⟨lines, start ++ [c], ?_, ?_, ?_, ?_, ?_⟩
        · rw [hbefore, List.append_assoc]
        · rw [hlength, List.count_append, List.count_singleton, if_neg (by simpa using hc)]
          rfl
        · rw [List.takeWhile_cons_of_pos (by simpa using hc), List.reverse_cons, hstart]
        · intro hline
          rcases List.mem_append.mp hline with hline | hline
          · exact hmem hline
          · exact hc (List.mem_singleton.mp hline).symm
        · intro rest
          rw [List.append_assoc, hpieces, List.append_assoc]

section

variable (front rest : List Char)

theorem before_append : before (front ++ rest) rest.length = front := by
  rw [before, List.length_append, Nat.add_sub_cancel, List.take_left']
  rfl

theorem after_append : after (front ++ rest) rest.length = rest := by
  rw [after, List.length_append, Nat.add_sub_cancel, List.drop_left']
  rfl

theorem place_of_mark (c : Char) (more : List Char) (hc : c ≠ '\n') :
    ∃ lines others : List (List Char), ∃ start line : List Char,
      pieces '\n' (front ++ c :: more) = lines ++ (start ++ c :: line) :: others ∧
      front = lines.flatMap (· ++ ['\n']) ++ start ∧
      Mark.line (front ++ c :: more) (c :: more).length = lines.length + 1 ∧
      column (front ++ c :: more) (c :: more).length = start.length + 1 ∧
      lineText (front ++ c :: more) (c :: more).length = start ++ c :: line := by
  obtain ⟨lines, start, hfront, hlength, hstart, hmem, hpieces⟩ := exists_lines front
  obtain ⟨others, hothers⟩ := exists_pieces_eq '\n' (start ++ c :: more)
  have hline : (c :: more).takeWhile (· ≠ '\n') = c :: more.takeWhile (· ≠ '\n') :=
    List.takeWhile_cons_of_pos (by simpa using hc)
  refine ⟨lines, others, start, more.takeWhile (· ≠ '\n'), ?_, hfront, ?_, ?_, ?_⟩
  · rw [hpieces, hothers, takeWhile_append_of_not_mem hmem, hline]
  · rw [Mark.line, before_append, hlength]
  · rw [column, lineStart, before_append, ← hstart]
  · rw [lineText, lineStart, before_append, after_append, ← hstart, hline]

end

theorem line_feed_not_mem_lineText (text : List Char) (mark : Mark) :
    '\n' ∉ lineText text mark := by
  have hall : ∀ rest : List Char, '\n' ∉ rest.takeWhile (· ≠ '\n') := by
    intro rest hmem
    exact absurd (List.all_eq_true.mp List.all_takeWhile _ hmem) (by decide)
  intro hmem
  rcases List.mem_append.mp hmem with hmem | hmem
  · exact hall _ (List.mem_reverse.mp hmem)
  · exact hall _ hmem

end Toml.Mark

end Reftest
