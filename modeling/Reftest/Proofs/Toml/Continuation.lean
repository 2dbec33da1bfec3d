import Reftest.Proofs.Toml.Extent
import Reftest.Proofs.Toml.Shift
import Reftest.Proofs.Toml.Steps

/-!
What a reader makes of a value does not depend on what follows the value, as long as that cannot be
taken for more of it.
-/

namespace Reftest.Toml

/-- What may follow a value: a comma, a closing bracket, the end of a line, or a blank in front of a
closing brace. -/
inductive Ends : List Char → Prop where
  | comma (more : List Char) : Ends (',' :: more)
  | bracket (more : List Char) : Ends (']' :: more)
  | line (more : List Char) : Ends ('\n' :: more)
  | brace (more : List Char) : Ends (' ' :: '}' :: more)

theorem skipBlanks_append {text : List Char} (h : skipBlanks text ≠ []) (suffix : List Char) :
    skipBlanks (text ++ suffix) = skipBlanks text ++ suffix := by
  unfold skipBlanks at h ⊢
  rw [List.dropWhile_append, if_neg]
  rw [List.isEmpty_iff]
  exact h

theorem lineEnd?_append {text rest : List Char} (h : lineEnd? text = some rest)
    (suffix : List Char) : lineEnd? (text ++ suffix) = some (rest ++ suffix) := by
  unfold lineEnd? at h
  split at h
  · obtain rfl := Option.some.inj h
    rfl
  · obtain rfl := Option.some.inj h
    rfl
  · cases h

theorem lineEnd?_cons_cons (c c' : Char) (rest : List Char) :
    lineEnd? (c :: c' :: rest) =
      if c = '\n' then some (c' :: rest)
      else if c = '\r' ∧ c' = '\n' then some rest
      else none := by
  unfold lineEnd?
  split <;> simp_all

theorem skipGapFrom_cons {c : Char} (hline : c ≠ '\n') (hreturn : c ≠ '\r') (commented : Bool)
    (rest : List Char) : skipGapFrom commented (c :: rest) =
      if commented then
        if isCommentChar c then skipGapFrom true rest else stopAt (c :: rest)
      else if isBlank c then skipGapFrom false rest
      else if c = '#' then skipGapFrom true rest
      else .ok (c :: rest) := by
  rw [skipGapFrom]
  · simp only [hreturn, if_false]
  · exact hline
  · exact fun _ hc => (hreturn hc).elim

theorem ne_return_of_isCommentChar {c : Char} (h : isCommentChar c = true) : c ≠ '\r' := by
  rintro rfl
  cases h

theorem ne_return_of_isBlank {c : Char} (h : isBlank c = true) : c ≠ '\r' := by
  rintro rfl
  cases h

theorem skipGapFrom_append {commented : Bool} {text rest : List Char}
    (h : skipGapFrom commented text = .ok rest) (hrest : rest ≠ []) (suffix : List Char) :
    skipGapFrom commented (text ++ suffix) = .ok (rest ++ suffix) := by
  fun_induction skipGapFrom commented text with
  | case1 => cases h
  | case2 => exact absurd (Except.ok.inj h).symm hrest
  | case3 commented rest' ih => exact ih h
  | case4 commented rest' ih => exact ih h
  | case5 c rest' hline hreturn hcomment ih =>
      rw [List.cons_append, skipGapFrom_cons hline (ne_return_of_isCommentChar hcomment),
        if_pos rfl, if_pos hcomment]
      exact ih h
  | case6 => cases h
  | case7 commented c rest' hline hreturn hcommented hblank ih =>
      rw [List.cons_append, skipGapFrom_cons hline (ne_return_of_isBlank hblank),
        if_neg hcommented, if_pos hblank]
      exact ih h
  | case8 commented rest' hcommented hline hreturn hblank ih =>
      rw [List.cons_append, skipGapFrom_cons (by decide) (by decide), if_neg hcommented]
      exact ih h
  | case9 => cases h
  | case10 commented c rest' hline hreturn hcommented hblank hmark hreturn' =>
      obtain rfl := Except.ok.inj h
      rw [List.cons_append, skipGapFrom_cons hline hreturn', if_neg hcommented, if_neg hblank,
        if_neg hmark]

namespace Quotation

theorem prepend_append {chars text rest suffix : List Char}
    {outcome outcome' : Except Mark (List Char × List Char)}
    (h : prepend chars outcome = .ok (text, rest))
    (hnext : ∀ text', outcome = .ok (text', rest) → outcome' = .ok (text', rest ++ suffix)) :
    prepend chars outcome' = .ok (text, rest ++ suffix) := by
  obtain ⟨text', rfl⟩ := prepend_eq_ok h
  rw [hnext text' rfl, prepend_ok]
  obtain ⟨rfl, -⟩ := Prod.mk.inj (Except.ok.inj h)
  rfl

theorem readCodePoint_append {count : Nat} {text rest : List Char} {c : Char}
    (h : readCodePoint count text = .ok (c, rest)) (suffix : List Char) :
    readCodePoint count (text ++ suffix) = .ok (c, rest ++ suffix) := by
  unfold readCodePoint at h ⊢
  split at h
  · cases h
  · rename_i hlong
    have hcount : count ≤ text.length := by omega
    rw [if_neg (by rw [List.length_append]; omega), List.take_append_of_le_length hcount,
      List.drop_append_of_le_length hcount]
    cases hcode : codePoint? (text.take count) with
    | none =>
        rw [hcode] at h
        cases h
    | some c' =>
        rw [hcode] at h
        obtain ⟨rfl, rfl⟩ := Prod.mk.inj (Except.ok.inj h)
        rfl

theorem escape_append {text rest : List Char} {c : Char} (h : escape text = .ok (c, rest))
    (suffix : List Char) : escape (text ++ suffix) = .ok (c, rest ++ suffix) := by
  fun_cases escape text <;> grind [escape, readCodePoint_append, stopAt]

theorem basic_append {text chars rest : List Char} (h : basic text = .ok (chars, rest))
    (suffix : List Char) : basic (text ++ suffix) = .ok (chars, rest ++ suffix) := by
  fun_induction basic text generalizing chars with
  | case1 => cases h
  | case2 rest' =>
      obtain ⟨rfl, rfl⟩ := Prod.mk.inj (Except.ok.inj h)
      rw [List.cons_append, basic]
  | case3 rest' c rest'' hescape ih =>
      rw [List.cons_append, basic_of_escape (escape_append hescape suffix)]
      exact prepend_append h fun _ => ih
  | case4 => cases h
  | case5 c rest' hmark hslash hplain ih =>
      rw [List.cons_append, basic_of_isPlain hplain hmark hslash]
      exact prepend_append h fun _ => ih
  | case6 => cases h

theorem literal_append {text chars rest : List Char} (h : literal text = .ok (chars, rest))
    (suffix : List Char) : literal (text ++ suffix) = .ok (chars, rest ++ suffix) := by
  fun_induction literal text generalizing chars with
  | case1 => cases h
  | case2 rest' =>
      obtain ⟨rfl, rfl⟩ := Prod.mk.inj (Except.ok.inj h)
      rw [List.cons_append, literal]
  | case3 c rest' hmark hplain ih =>
      rw [List.cons_append, literal, if_pos hplain]
      · exact prepend_append h fun _ => ih
      · exact hmark
  | case4 => cases h

/-! Strings over several lines: no line end is cut off, as three quotation marks have to follow. -/

theorem length_of_basicLines_ok {marks : Nat} {text : List Char} {result : List Char × List Char}
    (h : basicLines marks text = .ok result) : 3 ≤ marks + text.length := by
  fun_induction basicLines marks text generalizing result <;>
    grind [→ prepend_eq_ok, stopAt, → length_of_joinLines?, → length_of_escape]

theorem length_of_literalLines_ok {marks : Nat} {text : List Char}
    {result : List Char × List Char} (h : literalLines marks text = .ok result) :
    3 ≤ marks + text.length := by
  fun_induction literalLines marks text generalizing result <;> grind [→ prepend_eq_ok, stopAt]

theorem skipBlankLines_append {text : List Char} (h : 2 ≤ (skipBlankLines text).length)
    (suffix : List Char) : skipBlankLines (text ++ suffix) = skipBlankLines text ++ suffix := by
  fun_induction skipBlankLines text with
  | case1 => cases h
  | case2 rest ih => exact ih h
  | case3 rest ih => exact ih h
  | case4 c rest hline hreturn hblank ih =>
      rw [List.cons_append, skipBlankLines, if_pos hblank]
      · exact ih h
      · exact hline
      · exact fun _ hc => absurd hc (ne_return_of_isBlank hblank)
  | case5 c rest hline hreturn hblank =>
      rw [List.cons_append, skipBlankLines, if_neg hblank]
      · exact hline
      · intro more hc hmore
        cases rest with
        | nil => exact absurd h (by simp)
        | cons next rest => exact hreturn rest hc (by rw [(List.cons.inj hmore).1])

theorem joinLines?_append {text rest : List Char} (h : joinLines? text = some rest)
    (hrest : 2 ≤ rest.length) (suffix : List Char) :
    joinLines? (text ++ suffix) = some (rest ++ suffix) := by
  obtain ⟨ended, hended, rfl⟩ := Option.map_eq_some_iff.mp h
  have hne : skipBlanks text ≠ [] := by
    intro hnil
    rw [hnil] at hended
    cases hended
  rw [joinLines?, skipBlanks_append hne, lineEnd?_append hended, Option.map_some,
    skipBlankLines_append hrest]

theorem joinLines?_of_escape {text rest : List Char} {c : Char} (h : escape text = .ok (c, rest)) :
    joinLines? text = none := by
  unfold escape at h
  split at h
  all_goals first | rfl | cases h

theorem openLines_append {text : List Char} (h : 2 ≤ (openLines text).length)
    (suffix : List Char) : openLines (text ++ suffix) = openLines text ++ suffix := by
  unfold openLines at h ⊢
  cases hline : lineEnd? text with
  | some rest => rw [lineEnd?_append hline, Option.getD_some, Option.getD_some]
  | none =>
      rw [hline, Option.getD_none] at h
      obtain ⟨c, c', rest, rfl⟩ : ∃ c c' rest, text = c :: c' :: rest := by
        match text, h with
        | c :: c' :: rest, _ => exact ⟨c, c', rest, rfl⟩
      have hnone : lineEnd? (c :: c' :: (rest ++ suffix)) = none := by
        rw [lineEnd?_cons_cons] at hline ⊢
        split at hline
        · cases hline
        · rename_i hfirst
          split at hline
          · cases hline
          · rename_i hboth
            rw [if_neg hfirst, if_neg hboth]
      rw [List.cons_append, List.cons_append, hnone, Option.getD_none, Option.getD_none]
      rfl

theorem close_append {mark c : Char} (hc : c ≠ mark) (text more : List Char) :
    close mark (text ++ c :: more) = ((close mark text).1, (close mark text).2 ++ c :: more) := by
  cases text with
  | nil => cases more <;> simp [close, hc]
  | cons first text =>
      cases text with
      | nil => by_cases hfirst : first = mark <;> simp [close, hfirst, hc]
      | cons second text =>
          by_cases hfirst : first = mark <;> by_cases hsecond : second = mark <;>
            simp [close, hfirst, hsecond]

/-! Equations of strings over several lines, for the branches that a text can go on in. -/

theorem basicLines_of_joinLines? {marks : Nat} {text rest : List Char}
    (h : joinLines? text = some rest) : basicLines marks ('\\' :: text) =
      prepend (List.replicate marks '"') (basicLines 0 rest) := by
  rw [basicLines]
  split
  · rename_i heq
    obtain rfl := Option.some.inj (h.symm.trans heq)
    rfl
  · rename_i heq
    cases h.symm.trans heq

theorem basicLines_of_escape {marks : Nat} {text rest : List Char} {c : Char}
    (h : escape text = .ok (c, rest)) : basicLines marks ('\\' :: text) =
      prepend (List.replicate marks '"' ++ [c]) (basicLines 0 rest) := by
  rw [basicLines]
  split
  · rename_i heq
    cases (joinLines?_of_escape h).symm.trans heq
  · split
    · rename_i heq
      obtain ⟨rfl, rfl⟩ := Prod.mk.inj (Except.ok.inj (h.symm.trans heq))
      rfl
    · rename_i heq
      cases h.symm.trans heq

theorem ne_of_isPlain {c other : Char} (h : isPlain c = true) (hother : isPlain other = false) :
    c ≠ other := by
  rintro rfl
  rw [h] at hother
  cases hother

theorem basicLines_of_isPlain {marks : Nat} {c : Char} (h : isPlain c = true) (hmark : c ≠ '"')
    (hslash : c ≠ '\\') (rest : List Char) : basicLines marks (c :: rest) =
      prepend (List.replicate marks '"' ++ [c]) (basicLines 0 rest) := by
  rw [basicLines]
  · rw [if_pos h]
  · exact hmark
  · exact hslash
  · exact ne_of_isPlain h (by decide)
  · exact fun _ hc => absurd hc (ne_of_isPlain h (by decide))

theorem literalLines_of_isPlain {marks : Nat} {c : Char} (h : isPlain c = true) (hmark : c ≠ '\'')
    (rest : List Char) : literalLines marks (c :: rest) =
      prepend (List.replicate marks '\'' ++ [c]) (literalLines 0 rest) := by
  rw [literalLines]
  · rw [if_pos h]
  · exact hmark
  · exact ne_of_isPlain h (by decide)
  · exact fun _ hc => absurd hc (ne_of_isPlain h (by decide))

theorem basicLines_append {marks : Nat} {text chars rest : List Char}
    (h : basicLines marks text = .ok (chars, rest)) {c : Char} (hc : c ≠ '"') (more : List Char) :
    basicLines marks (text ++ c :: more) = .ok (chars, rest ++ c :: more) := by
  fun_induction basicLines marks text generalizing chars with
  | case1 => cases h
  | case2 marks rest' hmarks ih =>
      rw [List.cons_append, basicLines, if_pos hmarks]
      exact ih h
  | case3 marks rest' hmarks =>
      rw [List.cons_append, basicLines, if_neg hmarks, close_append hc]
      obtain ⟨rfl, rfl⟩ := Prod.mk.inj (Except.ok.inj h)
      rfl
  | case4 marks rest' rest'' hjoin ih =>
      obtain ⟨text', hlines⟩ := prepend_eq_ok h
      have hlength := length_of_basicLines_ok hlines
      rw [List.cons_append, basicLines_of_joinLines? (joinLines?_append hjoin (by omega) _)]
      exact prepend_append h fun _ => ih
  | case5 marks rest' hjoin c' rest'' hescape ih =>
      rw [List.cons_append, basicLines_of_escape (escape_append hescape _)]
      exact prepend_append h fun _ => ih
  | case6 => cases h
  | case7 marks rest' ih =>
      rw [List.cons_append, basicLines]
      exact prepend_append h fun _ => ih
  | case8 marks rest' ih =>
      rw [List.cons_append, List.cons_append, basicLines]
      exact prepend_append h fun _ => ih
  | case9 marks c' rest' hmark hslash hline hreturn hplain ih =>
      rw [List.cons_append, basicLines_of_isPlain hplain hmark hslash]
      exact prepend_append h fun _ => ih
  | case10 => cases h

theorem literalLines_append {marks : Nat} {text chars rest : List Char}
    (h : literalLines marks text = .ok (chars, rest)) {c : Char} (hc : c ≠ '\'')
    (more : List Char) :
    literalLines marks (text ++ c :: more) = .ok (chars, rest ++ c :: more) := by
  fun_induction literalLines marks text generalizing chars with
  | case1 => cases h
  | case2 marks rest' hmarks ih =>
      rw [List.cons_append, literalLines, if_pos hmarks]
      exact ih h
  | case3 marks rest' hmarks =>
      rw [List.cons_append, literalLines, if_neg hmarks, close_append hc]
      obtain ⟨rfl, rfl⟩ := Prod.mk.inj (Except.ok.inj h)
      rfl
  | case4 marks rest' ih =>
      rw [List.cons_append, literalLines]
      exact prepend_append h fun _ => ih
  | case5 marks rest' ih =>
      rw [List.cons_append, List.cons_append, literalLines]
      exact prepend_append h fun _ => ih
  | case6 marks c' rest' hmark hline hreturn hplain ih =>
      rw [List.cons_append, literalLines_of_isPlain hplain hmark]
      exact prepend_append h fun _ => ih
  | case7 => cases h

end Quotation

def Inert (c : Char) : Prop :=
  c ∈ [',', ']', '\n', ' ']

instance (c : Char) : Decidable (Inert c) :=
  inferInstanceAs (Decidable (_ ∈ _))

theorem Inert.ne {c other : Char} (h : Inert c) (hother : ¬ Inert other) : c ≠ other := by
  rintro rfl
  exact hother h

theorem Inert.eq_false {p : Char → Bool} {c : Char} (h : Inert c)
    (hp : [',', ']', '\n', ' '].any p = false) : p c = false :=
  Bool.eq_false_iff.mpr (List.any_eq_false.mp hp c h)

def isUnbroken (word : List Char) : Bool :=
  word.all fun c => !List.contains [',', ']', '\n', ' '] c

theorem isUnbroken_iff {word : List Char} : isUnbroken word = true ↔ ∀ c ∈ word, ¬ Inert c := by
  simp [isUnbroken, Inert]

theorem dropWhile_append_stop {p : Char → Bool} {c : Char} (hc : p c = false)
    (text more : List Char) :
    (text ++ c :: more).dropWhile p = text.dropWhile p ++ c :: more := by
  induction text with
  | nil => rw [List.nil_append, List.dropWhile_cons_of_neg (by rw [hc]; decide)]; rfl
  | cons first text ih =>
      by_cases hfirst : p first = true
      · rw [List.cons_append, List.dropWhile_cons_of_pos hfirst,
          List.dropWhile_cons_of_pos hfirst, ih]
      · rw [List.cons_append, List.dropWhile_cons_of_neg hfirst, List.dropWhile_cons_of_neg hfirst]
        rfl

theorem takeWhile_append_stop {p : Char → Bool} {c : Char} (hc : p c = false)
    (text more : List Char) : (text ++ c :: more).takeWhile p = text.takeWhile p := by
  induction text with
  | nil => exact List.takeWhile_cons_of_neg (by rw [hc]; decide)
  | cons first text ih =>
      by_cases hfirst : p first = true
      · rw [List.cons_append, List.takeWhile_cons_of_pos hfirst,
          List.takeWhile_cons_of_pos hfirst, ih]
      · rw [List.cons_append, List.takeWhile_cons_of_neg hfirst, List.takeWhile_cons_of_neg hfirst]

theorem Inert.opens_of_append {c : Char} (hc : Inert c) (word : List Char)
    {text more rest : List Char} (hword : isUnbroken word = true)
    (h : text ++ c :: more = word ++ rest) :
    ∃ rest', text = word ++ rest' := by
  rcases List.append_eq_append_iff.mp h with ⟨behind, rfl, hmore⟩ | ⟨behind, rfl, -⟩
  · cases behind with
    | nil => exact ⟨[], by simp⟩
    | cons first behind =>
        obtain ⟨rfl, -⟩ := List.cons.inj hmore
        exact absurd hc (isUnbroken_iff.mp hword c (by simp))
  · exact ⟨behind, rfl⟩

namespace Number

theorem moreDigits_cons {isDigit : Char → Bool} {c : Char} (hc : c ≠ '_') (rest : List Char) :
    moreDigits isDigit (c :: rest) =
      if isDigit c then
        match moreDigits isDigit rest with
        | .ok (digits, rest) => .ok (c :: digits, rest)
        | .error mark => .error mark
      else .ok ([], c :: rest) := by
  rw [moreDigits.eq_def]
  split
  · rename_i heq
    exact absurd (List.cons.inj heq).1 hc
  · rename_i heq
    exact absurd (List.cons.inj heq).1 hc
  · rename_i heq
    obtain ⟨rfl, rfl⟩ := List.cons.inj heq
    rfl
  · rename_i heq
    cases heq

theorem ne_score {c : Char} {rest : List Char}
    (hmore : ∀ (next : Char) (more : List Char), c = '_' → rest = next :: more → False)
    (hlast : c = '_' → rest = [] → False) : c ≠ '_' := by
  intro hc
  cases rest with
  | nil => exact hlast hc rfl
  | cons next more => exact hmore next more hc rfl

theorem integer_append {n : Int} {text rest : List Char} {scalar : Scalar}
    (h : integer n text = .ok (scalar, rest)) (suffix : List Char) :
    integer n (text ++ suffix) = .ok (scalar, rest ++ suffix) := by
  unfold integer at h ⊢
  split at h
  · rename_i hrange
    obtain ⟨rfl, rfl⟩ := Prod.mk.inj (Except.ok.inj h)
    rw [if_pos hrange]
  · cases h

section

variable {c : Char} (hc : Inert c) (more : List Char)

include hc

theorem moreDigits_append {isDigit : Char → Bool} (hdigit : isDigit c = false)
    {text digits rest : List Char} (h : moreDigits isDigit text = .ok (digits, rest)) :
    moreDigits isDigit (text ++ c :: more) = .ok (digits, rest ++ c :: more) := by
  fun_induction moreDigits isDigit text generalizing digits with
  | case1 c' rest' hdigit' digits' rest'' hmore ih =>
      obtain ⟨rfl, rfl⟩ := Prod.mk.inj (Except.ok.inj h)
      rw [List.cons_append, List.cons_append, moreDigits, if_pos hdigit', ih hmore]
  | case2 => cases h
  | case3 => cases h
  | case4 => cases h
  | case5 c' rest' hnext hlast hdigit' digits' rest'' hmore ih =>
      obtain ⟨rfl, rfl⟩ := Prod.mk.inj (Except.ok.inj h)
      rw [List.cons_append, moreDigits_cons (ne_score hnext hlast), if_pos hdigit', ih hmore]
  | case6 => cases h
  | case7 c' rest' hnext hlast hdigit' =>
      obtain ⟨rfl, rfl⟩ := Prod.mk.inj (Except.ok.inj h)
      rw [List.cons_append, moreDigits_cons (ne_score hnext hlast), if_neg hdigit']
  | case8 =>
      obtain ⟨rfl, rfl⟩ := Prod.mk.inj (Except.ok.inj h)
      rw [List.nil_append, moreDigits_cons (hc.ne (by decide)), if_neg (by rw [hdigit]; decide)]

theorem readDigits_append {isDigit : Char → Bool} (hdigit : isDigit c = false)
    {text digits rest : List Char} (h : readDigits isDigit text = .ok (digits, rest)) :
    readDigits isDigit (text ++ c :: more) = .ok (digits, rest ++ c :: more) := by
  unfold readDigits at h
  split at h
  · split at h
    · rename_i first text hfirst
      obtain ⟨⟨digits', rest'⟩, hmore, hresult⟩ := map_eq_ok h
      obtain ⟨rfl, rfl⟩ := Prod.mk.inj hresult
      rw [List.cons_append, readDigits, if_pos hfirst, moreDigits_append hc more hdigit hmore]
      rfl
    · cases h
  · cases h

theorem readDecimalDigits_append {text digits rest : List Char}
    (h : readDigits Char.isDigit text = .ok (digits, rest)) :
    readDigits Char.isDigit (text ++ c :: more) = .ok (digits, rest ++ c :: more) :=
  readDigits_append hc more (hc.eq_false (by decide)) h

theorem readWhole_append {text digits rest : List Char}
    (h : readWhole text = .ok (digits, rest)) :
    readWhole (text ++ c :: more) = .ok (digits, rest ++ c :: more) := by
  unfold readWhole at h
  split at h
  · obtain ⟨rfl, rfl⟩ := Prod.mk.inj (Except.ok.inj h)
    rfl
  · rename_i hzero
    have hread := readDecimalDigits_append hc more h
    unfold readWhole
    split
    · rename_i rest' heq
      cases text with
      | nil => cases h
      | cons first text =>
          obtain ⟨rfl, -⟩ := List.cons.inj heq
          exact absurd rfl (hzero text)
    · exact hread

theorem sign_append (text : List Char) :
    sign (text ++ c :: more) = ((sign text).1, (sign text).2 ++ c :: more) := by
  have hnone : ∀ first text, first ≠ '-' → first ≠ '+' →
      sign (first :: text) = (false, first :: text) := by
    intro first text hminus hplus
    rw [sign]
    · exact fun _ heq => hminus (List.cons.inj heq).1
    · exact fun _ heq => hplus (List.cons.inj heq).1
  cases text with
  | nil =>
      rw [List.nil_append, hnone c more (hc.ne (by decide)) (hc.ne (by decide))]
      rfl
  | cons first text =>
      by_cases hminus : first = '-'
      · rw [hminus]
        rfl
      · by_cases hplus : first = '+'
        · rw [hplus]
          rfl
        · rw [List.cons_append, hnone _ _ hminus hplus, hnone _ _ hminus hplus]
          rfl

theorem readBased_append {base : Nat} {isDigit : Char → Bool} (hdigit : isDigit c = false)
    {text rest : List Char} {scalar : Scalar}
    (h : readBased base isDigit text = .ok (scalar, rest)) :
    readBased base isDigit (text ++ c :: more) = .ok (scalar, rest ++ c :: more) := by
  obtain ⟨⟨digits, rest'⟩, hdigits, h⟩ := bind_eq_ok h
  rw [readBased, readDigits_append hc more hdigit hdigits]
  exact integer_append h _

theorem readExponent_append {text rest : List Char} {exponent : Int}
    (h : readExponent text = .ok (exponent, rest)) :
    readExponent (text ++ c :: more) = .ok (exponent, rest ++ c :: more) := by
  have hexponent : isExponentMark c = false := hc.eq_false (by decide)
  unfold readExponent at h
  split at h
  · obtain ⟨rfl, rfl⟩ := Prod.mk.inj (Except.ok.inj h)
    rw [List.nil_append, readExponent, hexponent]
    rfl
  · rename_i first text
    split at h
    · rename_i hfirst
      obtain ⟨⟨digits, rest'⟩, hdigits, h⟩ := bind_eq_ok h
      have hdigits : readDigits Char.isDigit (sign text).2 = .ok (digits, rest') := hdigits
      have h : Except.ok (signed (sign text).1 (value 10 digits), rest') =
          Except.ok (exponent, rest) := h
      obtain ⟨rfl, rfl⟩ := Prod.mk.inj (Except.ok.inj h)
      rw [List.cons_append, readExponent, if_pos hfirst, sign_append hc]
      dsimp only
      rw [readDecimalDigits_append hc more hdigits]
      rfl
    · rename_i hfirst
      obtain ⟨rfl, rfl⟩ := Prod.mk.inj (Except.ok.inj h)
      rw [List.cons_append, readExponent, if_neg hfirst]

theorem readFraction_append {text digits rest : List Char}
    (h : readFraction text = .ok (digits, rest)) :
    readFraction (text ++ c :: more) = .ok (digits, rest ++ c :: more) := by
  unfold readFraction at h
  split at h
  · exact readDecimalDigits_append hc more h
  · rename_i hpoint
    obtain ⟨rfl, rfl⟩ := Prod.mk.inj (Except.ok.inj h)
    unfold readFraction
    split
    · rename_i heq
      cases text with
      | nil => exact absurd (List.cons.inj heq).1 (hc.ne (by decide))
      | cons first text =>
          obtain ⟨rfl, -⟩ := List.cons.inj heq
          exact absurd rfl (hpoint text)
    · rfl

theorem readDecimal_append {negative : Bool} {whole text rest : List Char} {scalar : Scalar}
    (h : readDecimal negative whole text = .ok (scalar, rest)) :
    readDecimal negative whole (text ++ c :: more) = .ok (scalar, rest ++ c :: more) := by
  obtain ⟨⟨fraction, rest'⟩, hfraction, h⟩ := bind_eq_ok h
  obtain ⟨⟨exponent, rest''⟩, hexponent, h⟩ := bind_eq_ok h
  rw [readDecimal, readFraction_append hc more hfraction]
  change (readExponent (rest' ++ c :: more) >>= _) = _
  rw [readExponent_append hc more hexponent]
  dsimp only at h
  split at h
  · cases h
  · rename_i hfinite
    obtain ⟨rfl, rfl⟩ := Prod.mk.inj (Except.ok.inj h)
    simp only [bind, Except.bind, hfinite, if_false]
    rfl

theorem opensDecimal_append (text : List Char) :
    opensDecimal (text ++ c :: more) = opensDecimal text := by
  cases text with
  | nil => exact hc.eq_false (p := fun c => c = '.' || isExponentMark c) (by decide)
  | cons first text => rfl

theorem read_append {text rest : List Char} {scalar : Scalar}
    (h : read text = .ok (scalar, rest)) :
    read (text ++ c :: more) = .ok (scalar, rest ++ c :: more) := by
  unfold read at h
  split at h
  · exact readBased_append hc more (hc.eq_false (by decide)) h
  · exact readBased_append hc more (hc.eq_false (by decide)) h
  · exact readBased_append hc more (hc.eq_false (by decide)) h
  · rename_i hhex hoctal hbinary
    unfold read
    split
    · rename_i heq
      obtain ⟨rest', rfl⟩ := hc.opens_of_append ['0', 'x'] (by decide) heq
      exact absurd rfl (hhex rest')
    · rename_i heq
      obtain ⟨rest', rfl⟩ := hc.opens_of_append ['0', 'o'] (by decide) heq
      exact absurd rfl (hoctal rest')
    · rename_i heq
      obtain ⟨rest', rfl⟩ := hc.opens_of_append ['0', 'b'] (by decide) heq
      exact absurd rfl (hbinary rest')
    · rw [sign_append hc]
      dsimp only at h ⊢
      generalize (sign text).2 = unsigned at h ⊢
      split at h
      · obtain ⟨rfl, rfl⟩ := Prod.mk.inj (Except.ok.inj h)
        rfl
      · obtain ⟨rfl, rfl⟩ := Prod.mk.inj (Except.ok.inj h)
        rfl
      · rename_i hinf hnan
        split
        · rename_i heq
          obtain ⟨rest', rfl⟩ := hc.opens_of_append ['i', 'n', 'f'] (by decide) heq
          exact absurd rfl (hinf rest')
        · rename_i heq
          obtain ⟨rest', rfl⟩ := hc.opens_of_append ['n', 'a', 'n'] (by decide) heq
          exact absurd rfl (hnan rest')
        · obtain ⟨⟨whole, rest'⟩, hwhole, h⟩ := bind_eq_ok h
          rw [readWhole_append hc more hwhole]
          change (if opensDecimal (rest' ++ c :: more) = true then _ else _) = _
          rw [opensDecimal_append hc]
          dsimp only at h
          split at h
          · rename_i hdecimal
            rw [if_pos hdecimal]
            exact readDecimal_append hc more h
          · rename_i hdecimal
            rw [if_neg hdecimal]
            exact integer_append h _

end

end Number

namespace DateTime

theorem readTwoDigits_append {low high n : Nat} {text rest : List Char}
    (h : readTwoDigits low high text = .ok (n, rest)) (suffix : List Char) :
    readTwoDigits low high (text ++ suffix) = .ok (n, rest ++ suffix) := by
  unfold readTwoDigits at h
  split at h
  · dsimp only at h
    split at h
    · rename_i hdigits
      obtain ⟨rfl, rfl⟩ := Prod.mk.inj (Except.ok.inj h)
      rw [List.cons_append, List.cons_append, readTwoDigits, if_pos hdigits]
    · cases h
  · cases h

theorem skipSymbol_append {symbol : Char} {text rest : List Char}
    (h : skipSymbol symbol text = .ok rest) (suffix : List Char) :
    skipSymbol symbol (text ++ suffix) = .ok (rest ++ suffix) := by
  unfold skipSymbol at h
  split at h
  · split at h
    · rename_i hsymbol
      obtain rfl := Except.ok.inj h
      rw [List.cons_append, skipSymbol, if_pos hsymbol]
    · cases h
  · cases h

theorem skipDate_append {text rest : List Char} (h : skipDate text = .ok rest)
    (suffix : List Char) : skipDate (text ++ suffix) = .ok (rest ++ suffix) := by
  obtain ⟨⟨century, rest₁⟩, hcentury, h⟩ := bind_eq_ok h
  obtain ⟨⟨year, rest₂⟩, hyear, h⟩ := bind_eq_ok h
  obtain ⟨rest₃, hdash, h⟩ := bind_eq_ok h
  obtain ⟨⟨month, rest₄⟩, hmonth, h⟩ := bind_eq_ok h
  obtain ⟨rest₅, hdash', h⟩ := bind_eq_ok h
  obtain ⟨⟨day, rest₆⟩, hday, h⟩ := bind_eq_ok h
  obtain rfl := Except.ok.inj h
  simp only [skipDate, readTwoDigits_append hcentury, readTwoDigits_append hyear,
    skipSymbol_append hdash, readTwoDigits_append hmonth, skipSymbol_append hdash',
    readTwoDigits_append hday, bind, Except.bind]
  rfl

theorem opensDate_iff {text : List Char} :
    opensDate text = true ↔ ∃ c₁ c₂ c₃ c₄ rest, text = c₁ :: c₂ :: c₃ :: c₄ :: '-' :: rest ∧
      ∀ c ∈ [c₁, c₂, c₃, c₄], c.isDigit = true := by
  unfold opensDate
  split
  · rename_i c₁ c₂ c₃ c₄ rest
    rw [List.all_eq_true]
    constructor
    · intro h
      exact ⟨c₁, c₂, c₃, c₄, rest, rfl, h⟩
    · rintro ⟨c₁', c₂', c₃', c₄', rest', heq, h⟩
      cases heq
      exact h
  · rename_i hother
    constructor
    · intro h
      cases h
    · rintro ⟨c₁, c₂, c₃, c₄, rest, rfl, -⟩
      exact (hother _ _ _ _ _ rfl).elim

theorem opensTime_iff {text : List Char} :
    opensTime text = true ↔ ∃ c c' rest, text = c :: c' :: ':' :: rest ∧ c.isDigit = true ∧
      c'.isDigit = true ∧ (c.toNat - 48) * 10 + (c'.toNat - 48) ≤ 23 := by
  unfold opensTime
  constructor
  · intro h
    split at h
    · rename_i hread
      unfold readTwoDigits at hread
      split at hread
      · dsimp only at hread
        split at hread
        · rename_i hdigits
          obtain ⟨-, rfl⟩ := Prod.mk.inj (Except.ok.inj hread)
          exact ⟨_, _, _, rfl, hdigits.1, hdigits.2.1, hdigits.2.2.2⟩
        · cases hread
      · cases hread
    · cases h
  · rintro ⟨c, c', rest, rfl, hc, hc', hhour⟩
    rw [readTwoDigits, if_pos ⟨hc, hc', Nat.zero_le _, hhour⟩]
    rfl

theorem not_inert_of_isDigit {c : Char} (h : c.isDigit = true) : ¬ Inert c := by
  intro hc
  have hdigit : c.isDigit = false := hc.eq_false (by decide)
  rw [h] at hdigit
  cases hdigit

section

variable {c : Char} (hc : Inert c) (more : List Char)

include hc

theorem opensDate_append (text : List Char) : opensDate (text ++ c :: more) = opensDate text := by
  rw [Bool.eq_iff_iff, opensDate_iff, opensDate_iff]
  constructor
  · rintro ⟨c₁, c₂, c₃, c₄, rest, heq, hdigits⟩
    have hword : isUnbroken [c₁, c₂, c₃, c₄, '-'] = true := by
      rw [isUnbroken_iff]
      intro other hother
      have hother : other ∈ [c₁, c₂, c₃, c₄] ++ ['-'] := hother
      rcases List.mem_append.mp hother with hother | hother
      · exact not_inert_of_isDigit (hdigits other hother)
      · rw [List.mem_singleton.mp hother]
        decide
    obtain ⟨rest', rfl⟩ := hc.opens_of_append [c₁, c₂, c₃, c₄, '-'] hword heq
    exact ⟨c₁, c₂, c₃, c₄, rest', rfl, hdigits⟩
  · rintro ⟨c₁, c₂, c₃, c₄, rest, rfl, hdigits⟩
    exact ⟨c₁, c₂, c₃, c₄, rest ++ c :: more, rfl, hdigits⟩

theorem opensTime_append (text : List Char) : opensTime (text ++ c :: more) = opensTime text := by
  rw [Bool.eq_iff_iff, opensTime_iff, opensTime_iff]
  constructor
  · rintro ⟨c₁, c₂, rest, heq, hc₁, hc₂, hhour⟩
    have hword : isUnbroken [c₁, c₂, ':'] = true := by
      rw [isUnbroken_iff]
      simp only [List.forall_mem_cons]
      exact ⟨not_inert_of_isDigit hc₁, not_inert_of_isDigit hc₂, by decide,
        fun _ h => absurd h List.not_mem_nil⟩
    obtain ⟨rest', rfl⟩ := hc.opens_of_append [c₁, c₂, ':'] hword heq
    exact ⟨c₁, c₂, rest', rfl, hc₁, hc₂, hhour⟩
  · rintro ⟨c₁, c₂, rest, rfl, hc₁, hc₂, hhour⟩
    exact ⟨c₁, c₂, rest ++ c :: more, rfl, hc₁, hc₂, hhour⟩

theorem skipFraction_append (text : List Char) :
    skipFraction (text ++ c :: more) = skipFraction text ++ c :: more := by
  have hdigit : c.isDigit = false := hc.eq_false (by decide)
  have hpoint : c ≠ '.' := hc.ne (by decide)
  match text with
  | [] => simp [skipFraction, hpoint]
  | [first] =>
    by_cases hfirst : first = '.'
    · simp [skipFraction, hfirst, hdigit]
    · simp [skipFraction, hfirst]
  | first :: second :: rest =>
    by_cases hfirst : first = '.'
    · simp only [skipFraction, hfirst, List.cons_append]
      split
      · exact dropWhile_append_stop hdigit rest more
      · rfl
    · simp [skipFraction, hfirst]

theorem skipTime_append {text rest : List Char} (h : skipTime text = .ok rest) :
    skipTime (text ++ c :: more) = .ok (rest ++ c :: more) := by
  obtain ⟨⟨hour, rest₁⟩, hhour, h⟩ := bind_eq_ok h
  obtain ⟨rest₂, hcolon, h⟩ := bind_eq_ok h
  obtain ⟨⟨minute, rest₃⟩, hminute, h⟩ := bind_eq_ok h
  obtain ⟨rest₄, hcolon', h⟩ := bind_eq_ok h
  obtain ⟨⟨second, rest₅⟩, hsecond, h⟩ := bind_eq_ok h
  obtain rfl := Except.ok.inj h
  simp only [skipTime, readTwoDigits_append hhour, skipSymbol_append hcolon,
    readTwoDigits_append hminute, skipSymbol_append hcolon', readTwoDigits_append hsecond, bind,
    Except.bind, skipFraction_append hc]
  rfl

theorem skipOffset_append {text rest : List Char} (h : skipOffset text = .ok rest) :
    skipOffset (text ++ c :: more) = .ok (rest ++ c :: more) := by
  unfold skipOffset at h
  split at h
  · obtain rfl := Except.ok.inj h
    have hzone : ¬ (c = 'Z' ∨ c = 'z') := by
      rintro (rfl | rfl)
      · exact absurd hc (by decide)
      · exact absurd hc (by decide)
    have hsign : ¬ (c = '+' ∨ c = '-') := by
      rintro (rfl | rfl)
      · exact absurd hc (by decide)
      · exact absurd hc (by decide)
    rw [List.nil_append, skipOffset, if_neg hzone, if_neg hsign]
  · split at h
    · rename_i hzone
      obtain rfl := Except.ok.inj h
      rw [List.cons_append, skipOffset, if_pos hzone]
    · rename_i hzone
      split at h
      · rename_i hsign
        obtain ⟨⟨hour, rest₁⟩, hhour, h⟩ := bind_eq_ok h
        obtain ⟨rest₂, hcolon, h⟩ := bind_eq_ok h
        obtain ⟨⟨minute, rest₃⟩, hminute, h⟩ := bind_eq_ok h
        obtain rfl := Except.ok.inj h
        rw [List.cons_append, skipOffset, if_neg hzone, if_pos hsign]
        simp only [readTwoDigits_append hhour, skipSymbol_append hcolon,
          readTwoDigits_append hminute, bind, Except.bind]
        rfl
      · rename_i hsign
        obtain rfl := Except.ok.inj h
        rw [List.cons_append, skipOffset, if_neg hzone, if_neg hsign]

theorem skip_append (htime : (isTimeMark c && opensTime more) = false) {text rest : List Char}
    (h : skip text = .ok rest) : skip (text ++ c :: more) = .ok (rest ++ c :: more) := by
  unfold skip at h ⊢
  rw [opensDate_append hc]
  split at h
  · rename_i hdate
    rw [if_pos hdate]
    cases hread : skipDate text with
    | error mark =>
        rw [hread] at h
        cases h
    | ok after =>
        rw [hread] at h
        rw [skipDate_append hread]
        cases after with
        | nil =>
            obtain rfl := Except.ok.inj h
            dsimp only [List.nil_append]
            rw [htime]
            rfl
        | cons first after =>
            dsimp only [List.cons_append] at h ⊢
            rw [opensTime_append hc]
            split at h
            · rename_i hopens
              obtain ⟨rest₁, htime, h⟩ := bind_eq_ok h
              rw [if_pos hopens, skipTime_append hc more htime]
              exact skipOffset_append hc more h
            · rename_i hopens
              obtain rfl := Except.ok.inj h
              rw [if_neg hopens]
              rfl
  · rename_i hdate
    rw [if_neg hdate]
    exact skipTime_append hc more h

end

end DateTime

end Reftest.Toml
