import Reftest.Proofs.Config.Excerpt
import Reftest.Proofs.Toml.Stops

namespace Reftest

namespace Toml

/-- A line, without its line feed, that says nothing: there are blanks in it and perhaps a
comment.  The line may end in a carriage return. -/
inductive Silent : List Char → Prop where
  | blank {blanks ending : List Char} (hblanks : ∀ c ∈ blanks, isBlank c = true)
      (hending : ending = [] ∨ ending = ['\r']) : Silent (blanks ++ ending)
  | comment {blanks comment ending : List Char} (hblanks : ∀ c ∈ blanks, isBlank c = true)
      (hcomment : ∀ c ∈ comment, isCommentChar c = true)
      (hending : ending = [] ∨ ending = ['\r']) : Silent (blanks ++ '#' :: (comment ++ ending))

def written (lines : List (List Char)) : List Char :=
  lines.flatMap (· ++ ['\n'])

namespace Mark

section

variable {text : List Char} {mark : Mark} (front : List Char) (h : mark ≤ text.length)

include h

theorem before_front : before (front ++ text) mark = front ++ before text mark := by
  rw [before, before, List.length_append, Nat.add_sub_assoc h, List.take_length_add_append]

theorem after_front : after (front ++ text) mark = after text mark := by
  rw [after, after, List.length_append, Nat.add_sub_assoc h, List.drop_length_add_append]

theorem line_front : line (front ++ text) mark = line text mark + front.count '\n' := by
  rw [line, line, before_front front h, List.count_append]
  omega

end

variable {text : List Char} {mark : Mark} (lines : List (List Char)) (h : mark ≤ text.length)

include h

theorem lineStart_written : lineStart (written lines ++ text) mark = lineStart text mark := by
  rw [lineStart, lineStart, before_front _ h, List.reverse_append]
  congr 1
  rcases List.eq_nil_or_concat lines with rfl | ⟨lines, line, rfl⟩
  · rw [written, List.flatMap_nil, List.reverse_nil, List.append_nil]
  · rw [written, List.concat_eq_append, List.flatMap_append, List.flatMap_singleton,
      List.reverse_append, List.reverse_append]
    exact takeWhile_append_stop (by decide) _ _

theorem column_written : column (written lines ++ text) mark = column text mark := by
  rw [column, column, lineStart_written lines h]

theorem lineText_written : lineText (written lines ++ text) mark = lineText text mark := by
  rw [lineText, lineText, lineStart_written lines h, after_front _ h]

end Mark

theorem content_front {text : List Char} {span : Span} (front : List Char)
    (h : span.start ≤ text.length) : span.content (front ++ text) = span.content text := by
  rw [Span.content, Span.content, Mark.after_front front h]

section

variable {line : List Char} {lines : List (List Char)} {text : List Char}

theorem skipBlanks_front {blanks : List Char} (hblanks : ∀ c ∈ blanks, isBlank c = true)
    (rest : List Char) : skipBlanks (blanks ++ rest) = skipBlanks rest :=
  List.dropWhile_append_of_pos hblanks

theorem skipComment_front {comment : List Char} (hcomment : ∀ c ∈ comment, isCommentChar c = true)
    (rest : List Char) : skipComment (comment ++ rest) = skipComment rest :=
  List.dropWhile_append_of_pos hcomment

theorem endLine_comment {comment rest : List Char}
    (h : lineEnd? (skipComment comment) = some rest) :
    endLine ('#' :: comment) = .ok rest := by
  have hblanks : skipBlanks ('#' :: comment) = '#' :: comment := rfl
  cases hrest : skipComment comment with
  | nil =>
      rw [hrest] at h
      cases h
  | cons c more =>
      rw [hrest] at h
      simp only [endLine, hblanks, hrest, h]

theorem Silent.opens (h : Silent line) (rest : List Char) :
    ∃ c more, skipBlanks (line ++ '\n' :: rest) = c :: more ∧ (c = '#' ∨ c = '\n' ∨ c = '\r') ∧
      endLine (c :: more) = .ok rest := by
  cases h with
  | blank hblanks hending =>
      rw [List.append_assoc, skipBlanks_front hblanks]
      rcases hending with rfl | rfl
      · exact ⟨'\n', rest, rfl, by decide, rfl⟩
      · exact ⟨'\r', '\n' :: rest, rfl, by decide, rfl⟩
  | @comment blanks comment ending hblanks hcomment hending =>
      rw [List.append_assoc, skipBlanks_front hblanks]
      refine ⟨'#', comment ++ ending ++ '\n' :: rest, rfl, by decide, endLine_comment ?_⟩
      rw [List.append_assoc, skipComment_front hcomment]
      rcases hending with rfl | rfl
      · rfl
      · rfl

theorem readAll_silent (h : Silent line) (rest : List Char) :
    Entry.readAll (line ++ '\n' :: rest) = Entry.readAll rest := by
  obtain ⟨c, more, hblanks, hopens, hend⟩ := h.opens rest
  have hlength : rest.length < (line ++ '\n' :: rest).length := by
    rw [List.length_append, List.length_cons]
    omega
  rw [Entry.readAll, hblanks]
  simp only [if_pos hopens, hend, if_pos hlength]

theorem readAll_written (hlines : ∀ line ∈ lines, Silent line) (text : List Char) :
    Entry.readAll (written lines ++ text) = Entry.readAll text := by
  induction lines with
  | nil => rfl
  | cons line lines ih =>
      obtain ⟨hline, hlines⟩ := List.forall_mem_cons.mp hlines
      calc Entry.readAll (written (line :: lines) ++ text)
          = Entry.readAll (line ++ '\n' :: (written lines ++ text)) := by
            simp [written]
        _ = Entry.readAll (written lines ++ text) := readAll_silent hline _
        _ = Entry.readAll text := ih hlines

theorem Silent.line_feed_not_mem (h : Silent line) : '\n' ∉ line := by
  have hblank : ∀ blanks : List Char, (∀ c ∈ blanks, isBlank c = true) → '\n' ∉ blanks :=
    fun blanks hblanks hmem => absurd (hblanks _ hmem) (by decide)
  have hreturn : ∀ ending : List Char, ending = [] ∨ ending = ['\r'] → '\n' ∉ ending := by
    rintro ending (rfl | rfl)
    · decide
    · decide
  cases h with
  | blank hblanks hending =>
      rw [List.mem_append, not_or]
      exact ⟨hblank _ hblanks, hreturn _ hending⟩
  | @comment blanks comment ending hblanks hcomment hending =>
      have hremark : '\n' ∉ comment := fun hmem => absurd (hcomment _ hmem) (by decide)
      simp [hblank _ hblanks, hremark, hreturn _ hending]

theorem count_written (hlines : ∀ line ∈ lines, Silent line) :
    (written lines).count '\n' = lines.length := by
  induction lines with
  | nil => rfl
  | cons line lines ih =>
      obtain ⟨hline, hlines⟩ := List.forall_mem_cons.mp hlines
      have hnone := List.count_eq_zero.mpr hline.line_feed_not_mem
      calc (written (line :: lines)).count '\n'
          = line.count '\n' + 1 + (written lines).count '\n' := by
            simp [written, Nat.add_assoc, Nat.add_comm 1]
        _ = lines.length + 1 := by rw [hnone, ih hlines]; omega

theorem Silent.head?_ne (h : Silent line) (rest : List Char) :
    (line ++ '\n' :: rest).head? ≠ some byteOrderMark := by
  intro hhead
  obtain ⟨more, hmore⟩ := List.head?_eq_some_iff.mp hhead
  obtain ⟨c, more', hblanks, hopens, -⟩ := h.opens rest
  rw [hmore, skipBlanks_cons (by decide)] at hblanks
  obtain ⟨rfl, -⟩ := List.cons.inj hblanks
  exact absurd hopens (by decide)

theorem skipByteOrderMark_of_ne (h : text.head? ≠ some byteOrderMark) :
    skipByteOrderMark text = text := by
  cases text with
  | nil => rfl
  | cons c text => exact if_neg fun hc => h (congrArg some hc)

theorem readDocument_written (hlines : ∀ line ∈ lines, Silent line)
    (htext : text.head? ≠ some byteOrderMark) :
    readDocument (written lines ++ text) = readDocument text := by
  have hfront : (written lines ++ text).head? ≠ some byteOrderMark := by
    cases lines with
    | nil => exact htext
    | cons line lines =>
        have happend :
            written (line :: lines) ++ text = line ++ '\n' :: (written lines ++ text) := by
          simp [written]
        rw [happend]
        exact (hlines line List.mem_cons_self).head?_ne _
  unfold readDocument
  rw [skipByteOrderMark_of_ne hfront, skipByteOrderMark_of_ne htext, readAll_written hlines]

end

end Toml

namespace Config

def Diagnostic.below (count : Nat) : Diagnostic → Diagnostic
  | .malformed line => .malformed (line + count)
  | .illTyped excerpt found expected =>
    .illTyped { excerpt with line := excerpt.line + count } found expected

section

variable {lines : List (List Char)} {text : List Char}

theorem ofStop_written (hlines : ∀ line ∈ lines, Toml.Silent line) {mark : Toml.Mark}
    (h : Toml.readDocument text = .error mark) :
    Diagnostic.ofStop (Toml.written lines ++ text) mark =
      (Diagnostic.ofStop text mark).below lines.length := by
  have hmark : max mark 1 ≤ text.length := by
    have hstop := (Toml.stopsIn_readDocument text).le h
    have hne : text ≠ [] := by
      rintro rfl
      rw [Toml.readDocument, Toml.skipByteOrderMark, Toml.readAll_nil] at h
      cases h
    exact Nat.max_le.mpr ⟨hstop, List.length_pos_iff.mpr hne⟩
  rw [Diagnostic.ofStop, Toml.Mark.stopLine, Toml.Mark.line_front _ hmark,
    Toml.count_written hlines]
  rfl

theorem ofSpan_written (hlines : ∀ line ∈ lines, Toml.Silent line) {span : Toml.Span}
    (h : span.start ≤ text.length) :
    Excerpt.ofSpan (Toml.written lines ++ text) span =
      { Excerpt.ofSpan text span with
        line := (Excerpt.ofSpan text span).line + lines.length } := by
  simp only [Excerpt.ofSpan, Toml.Mark.line_front _ h, Toml.count_written hlines,
    Toml.Mark.column_written lines h, Toml.Mark.lineText_written lines h,
    Toml.content_front _ h]

theorem start_le_of_mismatch {document : Toml.Entries} {mismatch : Mismatch}
    (hread : Toml.readDocument text = .ok document) (h : decode document = .error mismatch) :
    mismatch.span.start ≤ text.length := by
  have hoffends := decode_offends (readable_of_laid (Toml.laid_of_readDocument hread)) h
  obtain ⟨path, node, expected, hat, rfl⟩ := path_of_offends hoffends
  obtain ⟨source, below, -, hcovers⟩ := Toml.source_of_at? hread hat
  exact hcovers.start ▸ hcovers.suffix.length_le

end

/-- Lines that say nothing, put in front of a document, leave its settings as they are, and a report
of it too but for the number of the line. -/
theorem ofText_behind_lines {lines : List (List Char)} (hlines : ∀ line ∈ lines, Toml.Silent line)
    {text : String} (htext : text.toList.head? ≠ some Toml.byteOrderMark) :
    ofText (String.ofList (Toml.written lines ++ text.toList)) =
      (ofText text).mapError (Diagnostic.below lines.length) := by
  unfold ofText
  rw [String.toList_ofList, Toml.readDocument_written hlines htext]
  cases hread : Toml.readDocument text.toList with
  | error mark => exact congrArg Except.error (ofStop_written hlines hread)
  | ok document =>
      dsimp only
      cases hdecode : decode document with
      | ok config => rfl
      | error mismatch =>
          have hstart := start_le_of_mismatch hread hdecode
          refine congrArg Except.error ?_
          rw [Diagnostic.ofMismatch, ofSpan_written hlines hstart]
          rfl

theorem ofText_behind_lines_comments :
    (∀ line ∈ [[], ['#', 'ä', '\r'], ['\t', '#', 'x']], Toml.Silent line) ∧
      "[harness]\nsuite = 3\n".toList.head? ≠ some Toml.byteOrderMark ∧
      ofText (String.ofList (Toml.written [[], ['#', 'ä', '\r'], ['\t', '#', 'x']] ++
          "[harness]\nsuite = 3\n".toList)) =
        .error (.illTyped ⟨5, 9, "suite = 3".toList, 1⟩ (.integer 3) .string) := by
  have hlines : ∀ line ∈ [[], ['#', 'ä', '\r'], ['\t', '#', 'x']], Toml.Silent line := by
    have hnone : ∀ c ∈ [], Toml.isBlank c = true := List.forall_mem_nil _
    have htab : ∀ c ∈ ['\t'], Toml.isBlank c = true := List.forall_mem_singleton.mpr rfl
    have humlaut : ∀ c ∈ ['ä'], Toml.isCommentChar c = true := List.forall_mem_singleton.mpr rfl
    have hletter : ∀ c ∈ ['x'], Toml.isCommentChar c = true := List.forall_mem_singleton.mpr rfl
    intro line hline
    simp only [List.mem_cons, List.not_mem_nil, or_false] at hline
    rcases hline with rfl | rfl | rfl
    · exact .blank hnone (.inl rfl)
    · exact .comment hnone humlaut (.inr rfl)
    · exact .comment htab hletter (.inl rfl)
  have htext : "[harness]\nsuite = 3\n".toList.head? ≠ some Toml.byteOrderMark := by decide
  have hreport : ofText "[harness]\nsuite = 3\n" =
      .error (.illTyped ⟨2, 9, "suite = 3".toList, 1⟩ (.integer 3) .string) := by
    decide +kernel
  refine ⟨hlines, htext, ?_⟩
  rw [ofText_behind_lines hlines htext, hreport]
  rfl

end Config

end Reftest
