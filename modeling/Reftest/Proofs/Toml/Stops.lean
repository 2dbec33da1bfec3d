import Reftest.Proofs.Toml.Source

/-!
Where a reading stops.  A reader that stops does so in the text that it was given, so what stands in
front of a text has no part in the place where its reading stops.
-/

namespace Reftest.Toml

variable {α β : Type} {text rest : List Char} {outcome : Except Mark α}

def StopsIn (text : List Char) : Except Mark α → Prop
  | .ok _ => True
  | .error mark => mark ≤ text.length

theorem stopsIn_ok (text : List Char) (value : α) : StopsIn text (.ok value) :=
  trivial

theorem stopsIn_stopAt (h : rest <:+ text) : StopsIn text (stopAt rest : Except Mark α) :=
  h.length_le

namespace StopsIn

theorem of_suffix (h : StopsIn rest outcome) (hsuffix : rest <:+ text) : StopsIn text outcome := by
  cases outcome with
  | ok value => exact trivial
  | error mark => exact Nat.le_trans h hsuffix.length_le

theorem le {mark : Mark} (h : StopsIn text outcome) (hstop : outcome = .error mark) :
    mark ≤ text.length := by
  subst hstop
  exact h

theorem error {mark : Mark} (h : StopsIn text outcome) (hstop : outcome = .error mark) :
    StopsIn text (.error mark : Except Mark β) :=
  h.le hstop

theorem bind {next : α → Except Mark β} (hfirst : StopsIn text outcome)
    (hnext : ∀ value, outcome = .ok value → StopsIn text (next value)) :
    StopsIn text (outcome >>= next) := by
  cases outcome with
  | ok value => exact hnext value rfl
  | error mark => exact hfirst

theorem bind_ok {next : α → Except Mark β} (h : StopsIn text outcome)
    (hnext : ∀ value, ∃ result, next value = .ok result) : StopsIn text (outcome >>= next) := by
  refine h.bind ?_
  intro value hvalue
  obtain ⟨result, hresult⟩ := hnext value
  rw [hresult]
  exact stopsIn_ok text result

theorem map (h : StopsIn text outcome) (f : α → β) : StopsIn text (outcome.map f) := by
  cases outcome with
  | ok value => exact trivial
  | error mark => exact h

end StopsIn

theorem stopsIn_skipGapFrom (commented : Bool) (text : List Char) :
    StopsIn text (skipGapFrom commented text) := by
  fun_induction skipGapFrom commented text with
  | case1 => exact stopsIn_stopAt (List.suffix_refl _)
  | case2 => exact stopsIn_ok _ _
  | case3 commented rest ih => exact ih.of_suffix (List.suffix_cons _ _)
  | case4 commented rest ih => exact ih.of_suffix (List.suffix_append ['\r', '\n'] rest)
  | case5 c rest hline hreturn hcomment ih => exact ih.of_suffix (List.suffix_cons _ _)
  | case6 => exact stopsIn_stopAt (List.suffix_refl _)
  | case7 commented c rest hline hreturn hcommented hblank ih =>
      exact ih.of_suffix (List.suffix_cons _ _)
  | case8 commented rest hcommented hline hreturn hblank ih =>
      exact ih.of_suffix (List.suffix_cons _ _)
  | case9 => exact stopsIn_stopAt (List.suffix_refl _)
  | case10 => exact stopsIn_ok _ _

theorem stopsIn_skipGap (text : List Char) : StopsIn text (skipGap text) :=
  stopsIn_skipGapFrom false text

theorem stopsIn_endLine (text : List Char) : StopsIn text (endLine text) := by
  have hblanks := suffix_skipBlanks text
  unfold endLine
  dsimp only
  split
  · exact stopsIn_ok _ _
  · split
    · exact stopsIn_ok _ _
    · refine stopsIn_stopAt ?_
      split
      · rename_i comment hcomment
        rw [hcomment] at hblanks
        exact (List.dropWhile_suffix _).trans ((List.suffix_cons '#' comment).trans hblanks)
      · exact hblanks

namespace Quotation

theorem stopsIn_prepend (chars : List Char) {outcome : Except Mark (List Char × List Char)}
    (h : StopsIn text outcome) : StopsIn text (prepend chars outcome) := by
  cases outcome with
  | ok result => exact trivial
  | error mark => exact h

theorem stopsIn_readCodePoint (count : Nat) (text : List Char) :
    StopsIn text (readCodePoint count text) := by
  unfold readCodePoint
  split
  · exact stopsIn_stopAt (List.suffix_refl _)
  · split
    · exact stopsIn_ok _ _
    · exact stopsIn_stopAt (List.suffix_refl _)

theorem stopsIn_escape (text : List Char) : StopsIn text (escape text) := by
  unfold escape
  split
  case h_1 => exact stopsIn_stopAt (List.suffix_refl _)
  case h_9 => exact (stopsIn_readCodePoint 4 _).of_suffix (List.suffix_cons _ _)
  case h_10 => exact (stopsIn_readCodePoint 8 _).of_suffix (List.suffix_cons _ _)
  case h_11 => exact stopsIn_stopAt (List.suffix_cons _ _)
  all_goals exact stopsIn_ok _ _

theorem stopsIn_basic (text : List Char) : StopsIn text (basic text) := by
  fun_induction basic text with
  | case1 => exact stopsIn_stopAt (List.suffix_refl _)
  | case2 => exact stopsIn_ok _ _
  | case3 rest c behind hescape ih =>
      have hbehind := (behind_of_escape hescape).suffix
      exact stopsIn_prepend _ (ih.of_suffix (hbehind.trans (List.suffix_cons _ _)))
  | case4 rest mark hescape =>
      exact ((stopsIn_escape rest).of_suffix (List.suffix_cons _ _)).error hescape
  | case5 c rest hquote hslash hplain ih =>
      exact stopsIn_prepend _ (ih.of_suffix (List.suffix_cons _ _))
  | case6 => exact stopsIn_stopAt (List.suffix_refl _)

theorem stopsIn_literal (text : List Char) : StopsIn text (literal text) := by
  fun_induction literal text with
  | case1 => exact stopsIn_stopAt (List.suffix_refl _)
  | case2 => exact stopsIn_ok _ _
  | case3 c rest hquote hplain ih =>
      exact stopsIn_prepend _ (ih.of_suffix (List.suffix_cons _ _))
  | case4 => exact stopsIn_stopAt (List.suffix_refl _)

theorem stopsIn_basicLines (marks : Nat) (text : List Char) :
    StopsIn text (basicLines marks text) := by
  fun_induction basicLines marks text with
  | case1 => exact stopsIn_stopAt (List.suffix_refl _)
  | case2 marks rest hmarks ih => exact ih.of_suffix (List.suffix_cons _ _)
  | case3 => exact stopsIn_ok _ _
  | case4 marks rest behind hjoin ih =>
      have hbehind := suffix_of_joinLines? hjoin
      exact stopsIn_prepend _ (ih.of_suffix (hbehind.trans (List.suffix_cons _ _)))
  | case5 marks rest hjoin c behind hescape ih =>
      have hbehind := (behind_of_escape hescape).suffix
      exact stopsIn_prepend _ (ih.of_suffix (hbehind.trans (List.suffix_cons _ _)))
  | case6 marks rest hjoin mark hescape =>
      exact ((stopsIn_escape rest).of_suffix (List.suffix_cons _ _)).error hescape
  | case7 marks rest ih => exact stopsIn_prepend _ (ih.of_suffix (List.suffix_cons _ _))
  | case8 marks rest ih =>
      exact stopsIn_prepend _ (ih.of_suffix (List.suffix_append ['\r', '\n'] rest))
  | case9 marks c rest hmark hslash hline hreturn hplain ih =>
      exact stopsIn_prepend _ (ih.of_suffix (List.suffix_cons _ _))
  | case10 => exact stopsIn_stopAt (List.suffix_refl _)

theorem stopsIn_literalLines (marks : Nat) (text : List Char) :
    StopsIn text (literalLines marks text) := by
  fun_induction literalLines marks text with
  | case1 => exact stopsIn_stopAt (List.suffix_refl _)
  | case2 marks rest hmarks ih => exact ih.of_suffix (List.suffix_cons _ _)
  | case3 => exact stopsIn_ok _ _
  | case4 marks rest ih => exact stopsIn_prepend _ (ih.of_suffix (List.suffix_cons _ _))
  | case5 marks rest ih =>
      exact stopsIn_prepend _ (ih.of_suffix (List.suffix_append ['\r', '\n'] rest))
  | case6 marks c rest hmark hline hreturn hplain ih =>
      exact stopsIn_prepend _ (ih.of_suffix (List.suffix_cons _ _))
  | case7 => exact stopsIn_stopAt (List.suffix_refl _)

end Quotation

namespace Number

theorem stopsIn_moreDigits (isDigit : Char → Bool) (text : List Char) :
    StopsIn text (moreDigits isDigit text) := by
  fun_induction moreDigits isDigit text with
  | case1 => exact stopsIn_ok _ _
  | case2 c rest hdigit mark hmore ih =>
      exact (ih.of_suffix (List.suffix_append ['_', c] rest)).error hmore
  | case3 c rest hdigit => exact stopsIn_stopAt (List.suffix_cons _ _)
  | case4 => exact stopsIn_stopAt List.nil_suffix
  | case5 => exact stopsIn_ok _ _
  | case6 c rest hscore hone hdigit mark hmore ih =>
      exact (ih.of_suffix (List.suffix_cons _ _)).error hmore
  | case7 => exact stopsIn_ok _ _
  | case8 => exact stopsIn_ok _ _

theorem stopsIn_readDigits (isDigit : Char → Bool) (text : List Char) :
    StopsIn text (readDigits isDigit text) := by
  unfold readDigits
  split
  · split
    · exact ((stopsIn_moreDigits isDigit _).of_suffix (List.suffix_cons _ _)).map _
    · exact stopsIn_stopAt (List.suffix_refl _)
  · exact stopsIn_stopAt (List.suffix_refl _)

theorem stopsIn_readWhole (text : List Char) : StopsIn text (readWhole text) := by
  unfold readWhole
  split
  · exact stopsIn_ok _ _
  · exact stopsIn_readDigits _ _

theorem stopsIn_integer (n : Int) (text : List Char) : StopsIn text (integer n text) := by
  unfold integer
  split
  · exact stopsIn_ok _ _
  · exact stopsIn_stopAt (List.suffix_refl _)

theorem stopsIn_readBased (base : Nat) (isDigit : Char → Bool) (text : List Char) :
    StopsIn text (readBased base isDigit text) := by
  refine (stopsIn_readDigits isDigit text).bind ?_
  rintro ⟨digits, rest⟩ hdigits
  exact (stopsIn_integer _ rest).of_suffix (behind_of_readDigits hdigits).suffix

theorem stopsIn_readExponent (text : List Char) : StopsIn text (readExponent text) := by
  unfold readExponent
  split
  · exact stopsIn_ok _ _
  · rename_i c text
    split
    · have hsign := (suffix_sign text).trans (List.suffix_cons c text)
      exact ((stopsIn_readDigits Char.isDigit _).of_suffix hsign).bind_ok fun _ => ⟨_, rfl⟩
    · exact stopsIn_ok _ _

theorem stopsIn_readFraction (text : List Char) : StopsIn text (readFraction text) := by
  unfold readFraction
  split
  · exact (stopsIn_readDigits Char.isDigit _).of_suffix (List.suffix_cons _ _)
  · exact stopsIn_ok _ _

theorem stopsIn_readDecimal (negative : Bool) (whole text : List Char) :
    StopsIn text (readDecimal negative whole text) := by
  refine (stopsIn_readFraction text).bind ?_
  rintro ⟨fraction, rest⟩ hfraction
  have hrest := suffix_of_readFraction hfraction
  refine ((stopsIn_readExponent rest).of_suffix hrest).bind ?_
  rintro ⟨exponent, behind⟩ hexponent
  have hbehind := (suffix_of_readExponent hexponent).trans hrest
  dsimp only
  split
  · exact stopsIn_stopAt hbehind
  · exact stopsIn_ok _ _

theorem stopsIn_read (text : List Char) : StopsIn text (read text) := by
  unfold read
  split
  · exact (stopsIn_readBased _ _ _).of_suffix (List.suffix_append ['0', 'x'] _)
  · exact (stopsIn_readBased _ _ _).of_suffix (List.suffix_append ['0', 'o'] _)
  · exact (stopsIn_readBased _ _ _).of_suffix (List.suffix_append ['0', 'b'] _)
  · refine StopsIn.of_suffix ?_ (suffix_sign text)
    dsimp only
    split
    · exact stopsIn_ok _ _
    · exact stopsIn_ok _ _
    · refine (stopsIn_readWhole _).bind ?_
      rintro ⟨whole, rest⟩ hwhole
      have hrest := (behind_of_readWhole hwhole).suffix
      dsimp only
      split
      · exact (stopsIn_readDecimal _ _ rest).of_suffix hrest
      · exact (stopsIn_integer _ rest).of_suffix hrest

end Number

namespace DateTime

theorem stopsIn_readTwoDigits (low high : Nat) (text : List Char) :
    StopsIn text (readTwoDigits low high text) := by
  unfold readTwoDigits
  split
  · dsimp only
    split
    · exact stopsIn_ok _ _
    · exact stopsIn_stopAt (List.suffix_refl _)
  · exact stopsIn_stopAt (List.suffix_refl _)

theorem stopsIn_skipSymbol (symbol : Char) (text : List Char) :
    StopsIn text (skipSymbol symbol text) := by
  unfold skipSymbol
  split
  · split
    · exact stopsIn_ok _ _
    · exact stopsIn_stopAt (List.suffix_refl _)
  · exact stopsIn_stopAt (List.suffix_refl _)

theorem stopsIn_twoDigits {low high : Nat} {next : Nat × List Char → Except Mark α}
    (hnext : ∀ n rest, rest <:+ text → StopsIn text (next (n, rest))) (hrest : rest <:+ text) :
    StopsIn text (readTwoDigits low high rest >>= next) := by
  refine ((stopsIn_readTwoDigits low high rest).of_suffix hrest).bind ?_
  rintro ⟨n, behind⟩ hread
  exact hnext n behind ((behind_of_readTwoDigits hread).suffix.trans hrest)

theorem stopsIn_symbol {symbol : Char} {next : List Char → Except Mark α}
    (hnext : ∀ rest, rest <:+ text → StopsIn text (next rest)) (hrest : rest <:+ text) :
    StopsIn text (skipSymbol symbol rest >>= next) := by
  refine ((stopsIn_skipSymbol symbol rest).of_suffix hrest).bind ?_
  intro behind hskip
  exact hnext behind ((suffix_of_skipSymbol hskip).trans hrest)

theorem stopsIn_skipDate (text : List Char) : StopsIn text (skipDate text) := by
  refine stopsIn_twoDigits (fun century rest h => ?_) (List.suffix_refl text)
  refine stopsIn_twoDigits (fun year rest h => ?_) h
  refine stopsIn_symbol (fun rest h => ?_) h
  refine stopsIn_twoDigits (fun month rest h => ?_) h
  refine stopsIn_symbol (fun rest h => ?_) h
  exact stopsIn_twoDigits (fun day rest h => stopsIn_ok _ _) h

theorem stopsIn_skipTime (text : List Char) : StopsIn text (skipTime text) := by
  refine stopsIn_twoDigits (fun hour rest h => ?_) (List.suffix_refl text)
  refine stopsIn_symbol (fun rest h => ?_) h
  refine stopsIn_twoDigits (fun minute rest h => ?_) h
  refine stopsIn_symbol (fun rest h => ?_) h
  exact stopsIn_twoDigits (fun second rest h => stopsIn_ok _ _) h

theorem stopsIn_skipOffset (text : List Char) : StopsIn text (skipOffset text) := by
  unfold skipOffset
  split
  · exact stopsIn_ok _ _
  · rename_i c rest
    split
    · exact stopsIn_ok _ _
    · split
      · refine stopsIn_twoDigits (fun hour rest h => ?_) (List.suffix_cons c rest)
        refine stopsIn_symbol (fun rest h => ?_) h
        exact stopsIn_twoDigits (fun minute rest h => stopsIn_ok _ _) h
      · exact stopsIn_ok _ _

theorem stopsIn_skip (text : List Char) : StopsIn text (skip text) := by
  unfold skip
  split
  · split
    · rename_i mark hdate
      exact (stopsIn_skipDate text).error hdate
    · exact stopsIn_ok _ _
    · rename_i c rest hdate
      have hrest := (List.suffix_cons c rest).trans (behind_of_skipDate hdate).suffix
      split
      · refine ((stopsIn_skipTime rest).of_suffix hrest).bind ?_
        intro behind htime
        exact (stopsIn_skipOffset behind).of_suffix ((behind_of_skipTime htime).suffix.trans hrest)
      · exact stopsIn_ok _ _
  · exact stopsIn_skipTime text

end DateTime

theorem stopsIn_readWord (text : List Char) : StopsIn text (readWord text) := by
  unfold readWord
  split
  · exact stopsIn_ok _ _
  · exact stopsIn_ok _ _
  · split
    · exact (DateTime.stopsIn_skip text).map _
    · exact Number.stopsIn_read text

theorem stopsIn_readScalar (text : List Char) : StopsIn text (readScalar text) := by
  unfold readScalar
  split
  · rename_i inner
    have hinner :=
      (Quotation.suffix_openLines inner).trans (List.suffix_append ['"', '"', '"'] inner)
    exact ((Quotation.stopsIn_basicLines 0 _).of_suffix hinner).map _
  · exact ((Quotation.stopsIn_basic _).of_suffix (List.suffix_cons _ _)).map _
  · rename_i inner
    have hinner :=
      (Quotation.suffix_openLines inner).trans (List.suffix_append ['\'', '\'', '\''] inner)
    exact ((Quotation.stopsIn_literalLines 0 _).of_suffix hinner).map _
  · exact ((Quotation.stopsIn_literal _).of_suffix (List.suffix_cons _ _)).map _
  · exact stopsIn_readWord _

theorem stopsIn_read? (text : List Char) : StopsIn text (KeyPart.read? text) := by
  unfold KeyPart.read?
  split
  · exact ((Quotation.stopsIn_basic _).of_suffix (List.suffix_cons _ _)).bind_ok fun _ => ⟨_, rfl⟩
  · exact ((Quotation.stopsIn_literal _).of_suffix (List.suffix_cons _ _)).bind_ok fun _ => ⟨_, rfl⟩
  · dsimp only
    split
    · exact stopsIn_ok _ _
    · exact stopsIn_ok _ _

theorem stopsIn_readParts (text : List Char) : StopsIn text (Key.readParts text) := by
  fun_induction Key.readParts text with
  | case1 text mark hpart =>
      exact ((stopsIn_read? _).of_suffix (suffix_skipBlanks text)).error hpart
  | case2 => exact stopsIn_ok _ _
  | case3 text part behind hpart more hdot hlt mark hparts ih =>
      have hmore := (List.suffix_cons '.' more).trans (hdot ▸ suffix_of_part hpart)
      exact (ih.of_suffix hmore).error hparts
  | case4 => exact stopsIn_ok _ _
  | case5 => exact stopsIn_ok _ _
  | case6 => exact stopsIn_ok _ _
  | case7 => exact stopsIn_ok _ _

theorem stopsIn_readKey (text : List Char) : StopsIn text (Key.read text) := by
  unfold Key.read
  split
  · rename_i mark hparts
    exact (stopsIn_readParts text).error hparts
  · split
    · exact stopsIn_ok _ _
    · exact stopsIn_ok _ _

/-! Arrays and inline tables, given a reader for the values inside them. -/

section

variable {value : Reader Node}

theorem stopsIn_readItems (hspans : ReadsSpans value) (hvalue : ∀ text, StopsIn text (value text))
    (text : List Char) : StopsIn text (readItems value text) := by
  fun_induction readItems value text with
  | case1 text mark hgap => exact (stopsIn_skipGap text).error hgap
  | case2 => exact stopsIn_ok _ _
  | case3 text start hopen hgap mark hitem =>
      exact ((hvalue start).of_suffix (suffix_of_skipGap hgap)).error hitem
  | case4 text start hopen hgap item behind hitem mark hmark =>
      exact stopsIn_stopAt (suffix_of_skipGap hgap)
  | case5 => exact stopsIn_ok _ _
  | case6 text start hopen hgap item behind hitem more hcomma hlt mark hitems ih =>
      exact (ih.of_suffix (suffix_of_item hspans hgap hitem hcomma)).error hitems
  | case7 => exact stopsIn_ok _ _
  | case8 text start hopen hgap item behind hitem more hcomma hlt =>
      exact stopsIn_stopAt (suffix_of_item hspans hgap hitem hcomma)
  | case9 text start hopen hgap item behind hitem rest hclose hcomma hgap' =>
      have hbehind := (hspans _ _ _ hitem).1.suffix.trans (suffix_of_skipGap hgap)
      exact stopsIn_stopAt ((suffix_of_skipGap hgap').trans hbehind)

theorem stopsIn_readAssigned (hvalue : ∀ text, StopsIn text (value text)) (key : Key)
    (text : List Char) : StopsIn text (readAssigned value key text) := by
  unfold readAssigned
  split
  · rename_i rest
    have hrest := (suffix_skipBlanks rest).trans (List.suffix_cons '=' rest)
    exact ((hvalue _).of_suffix hrest).bind_ok fun _ => ⟨_, rfl⟩
  · exact stopsIn_stopAt (List.suffix_refl _)

theorem stopsIn_readPairs (hspans : ReadsSpans value) (hvalue : ∀ text, StopsIn text (value text))
    (text : List Char) : StopsIn text (readPairs value text) := by
  fun_induction readPairs value text with
  | case1 text mark hkey => exact (stopsIn_readKey text).error hkey
  | case2 => exact stopsIn_ok _ _
  | case3 text key middle hne hkey mark hpair =>
      have hstops := (stopsIn_readAssigned hvalue key middle).of_suffix (suffix_of_readKey hkey)
      exact hstops.error hpair
  | case4 text key middle hne hkey pair more hpair hlt mark hpairs ih =>
      have hmore := (suffix_of_readAssigned hspans hpair).trans (suffix_of_readKey hkey)
      exact (ih.of_suffix ((List.suffix_cons ',' more).trans hmore)).error hpairs
  | case5 => exact stopsIn_ok _ _
  | case6 => exact stopsIn_ok _ _
  | case7 text key middle hne hkey pair more hpair hlt =>
      have hmore := (suffix_of_readAssigned hspans hpair).trans (suffix_of_readKey hkey)
      exact stopsIn_stopAt ((List.suffix_cons ',' more).trans hmore)
  | case8 => exact stopsIn_ok _ _

theorem stopsIn_readInline (hspans : ReadsSpans value) (hvalue : ∀ text, StopsIn text (value text))
    (text : List Char) : StopsIn text (readInline value text) := by
  refine (stopsIn_readPairs hspans hvalue text).bind ?_
  rintro ⟨pairs, rest⟩ hpairs
  have hrest := (readPairs_eq_ok hpairs).suffix hspans
  dsimp only
  split
  · exact stopsIn_stopAt (List.suffix_refl _)
  · split
    · exact stopsIn_ok _ _
    · exact stopsIn_stopAt ((suffix_skipBlanks rest).trans hrest)

end

theorem stopsIn_readValue (depth : Nat) (text : List Char) :
    StopsIn text (readValue depth text) := by
  induction depth generalizing text with
  | zero =>
      unfold readValue
      split
      · exact stopsIn_stopAt (List.suffix_cons _ _)
      · exact stopsIn_stopAt (List.suffix_cons _ _)
      · exact (stopsIn_readScalar text).bind_ok fun _ => ⟨_, rfl⟩
  | succ depth ih =>
      have hspans := readsSpans_readValue depth
      unfold readValue
      split
      · exact ((stopsIn_readItems hspans ih _).of_suffix (List.suffix_cons _ _)).bind_ok
          fun _ => ⟨_, rfl⟩
      · exact ((stopsIn_readInline hspans ih _).of_suffix (List.suffix_cons _ _)).bind_ok
          fun _ => ⟨_, rfl⟩
      · exact (stopsIn_readScalar text).bind_ok fun _ => ⟨_, rfl⟩

theorem stopsIn_readHeader (start : Mark) (element : Bool) (text : List Char) :
    StopsIn text (Entry.readHeader start element text) := by
  refine (stopsIn_readKey text).bind ?_
  rintro ⟨path, rest⟩ hpath
  have hrest := suffix_of_readKey hpath
  dsimp only
  split
  · exact stopsIn_stopAt (List.suffix_refl _)
  · split
    · rename_i behind
      have hbehind := (List.suffix_cons ']' behind).trans hrest
      split
      · split
        · exact stopsIn_ok _ _
        · exact stopsIn_stopAt hbehind
      · exact stopsIn_ok _ _
    · exact stopsIn_stopAt hrest

theorem stopsIn_line (entry : Entry) (hrest : rest <:+ text) :
    StopsIn text (endLine rest >>= fun behind => pure (entry, behind)) :=
  ((stopsIn_endLine rest).of_suffix hrest).bind_ok fun _ => ⟨_, rfl⟩

theorem suffix_of_readHeader {start : Mark} {element : Bool} {header : Header}
    (h : Entry.readHeader start element text = .ok (header, rest)) : rest <:+ text := by
  obtain ⟨middle, hkey, hbehind, -⟩ := readHeader_eq_ok h
  exact hbehind.suffix.trans (suffix_of_readKey hkey)

theorem stopsIn_readEntry (text : List Char) : StopsIn text (Entry.read text) := by
  unfold Entry.read
  dsimp only
  split
  · rename_i inner
    have hinner := List.suffix_append ['[', '['] inner
    refine ((stopsIn_readHeader _ true inner).of_suffix hinner).bind ?_
    rintro ⟨header, rest⟩ hheader
    exact stopsIn_line _ ((suffix_of_readHeader hheader).trans hinner)
  · rename_i inner hsingle
    have hinner := List.suffix_cons '[' inner
    refine ((stopsIn_readHeader _ false inner).of_suffix hinner).bind ?_
    rintro ⟨header, rest⟩ hheader
    exact stopsIn_line _ ((suffix_of_readHeader hheader).trans hinner)
  · refine (stopsIn_readKey text).bind ?_
    rintro ⟨key, rest⟩ hkey
    have hrest := suffix_of_readKey hkey
    dsimp only
    split
    · exact stopsIn_stopAt (List.suffix_refl _)
    · have hvalue := stopsIn_readAssigned (stopsIn_readValue depthLimit) key rest
      refine (hvalue.of_suffix hrest).bind ?_
      rintro ⟨assigned, behind⟩ hassigned
      have hbehind := suffix_of_readAssigned (readsSpans_readValue depthLimit) hassigned
      exact stopsIn_line _ (hbehind.trans hrest)

theorem start_of_readEntry {entry : Entry} (h : Entry.read text = .ok (entry, rest)) :
    entry.start = text.length := by
  obtain ⟨header, inner, behind, rfl, hheader, -⟩ | ⟨assigned, middle, behind, rfl, -, -, -⟩ :=
    readEntry_cases h
  · exact congrArg Span.start hheader.span
  · rfl

theorem readAll_stopsIn (text : List Char) :
    (∀ entry ∈ (Entry.readAll text).1, entry.start ≤ text.length) ∧
      ∀ mark ∈ (Entry.readAll text).2, mark ≤ text.length := by
  have hblanks := suffix_skipBlanks text
  fun_induction Entry.readAll text with
  | case1 => simp
  | case2 text c cs hplace hline mark hend =>
      rw [hplace] at hblanks
      have hmark := ((stopsIn_endLine (c :: cs)).of_suffix hblanks).le hend
      simpa using hmark
  | case3 text c cs hplace hline rest hend hlt ih =>
      obtain ⟨hentries, hstop⟩ := ih (suffix_skipBlanks rest)
      exact ⟨fun entry hentry => Nat.le_trans (hentries entry hentry) (Nat.le_of_lt hlt),
        fun mark hmark => Nat.le_trans (hstop mark hmark) (Nat.le_of_lt hlt)⟩
  | case4 => simp
  | case5 text c cs hplace hline mark hentry =>
      rw [hplace] at hblanks
      have hmark := ((stopsIn_readEntry (c :: cs)).of_suffix hblanks).le hentry
      simpa using hmark
  | case6 text c cs hplace hline entry rest hentry hlt entries stop hall ih =>
      rw [hplace] at hblanks
      obtain ⟨hentries, hstop⟩ := ih (suffix_skipBlanks rest)
      rw [hall] at hentries hstop
      refine ⟨List.forall_mem_cons.mpr ⟨?_, ?_⟩, ?_⟩
      · rw [start_of_readEntry hentry]
        exact hblanks.length_le
      · exact fun other hother => Nat.le_trans (hentries other hother) (Nat.le_of_lt hlt)
      · exact fun mark hmark => Nat.le_trans (hstop mark hmark) (Nat.le_of_lt hlt)
  | case7 text c cs hplace hline entry rest hentry hlt =>
      rw [hplace] at hblanks
      have hstart : entry.start ≤ text.length := by
        rw [start_of_readEntry hentry]
        exact hblanks.length_le
      simpa using hstart

theorem start_of_addAll {assembly : Assembly} {entries : List Entry} {mark : Mark}
    (h : assembly.addAll entries = .error mark) : ∃ entry ∈ entries, entry.start = mark := by
  induction entries generalizing assembly with
  | nil => cases h
  | cons entry entries ih =>
      rw [Assembly.addAll] at h
      split at h
      · obtain ⟨other, hother, hstart⟩ := ih h
        exact ⟨other, List.mem_cons_of_mem _ hother, hstart⟩
      · exact ⟨entry, List.mem_cons_self, Except.error.inj h⟩

theorem stopsIn_readDocument (text : List Char) : StopsIn text (readDocument text) := by
  obtain ⟨hentries, hstop⟩ := readAll_stopsIn (skipByteOrderMark text)
  refine StopsIn.of_suffix ?_ (suffix_skipByteOrderMark text)
  unfold readDocument
  dsimp only
  refine StopsIn.bind ?_ ?_
  · cases hadd : Assembly.empty.addAll (Entry.readAll (skipByteOrderMark text)).1 with
    | ok assembly => exact stopsIn_ok _ _
    | error mark =>
        obtain ⟨entry, hentry, rfl⟩ := start_of_addAll hadd
        exact hentries entry hentry
  · intro assembly hassembly
    split
    · rename_i mark hmark
      exact hstop mark hmark
    · exact stopsIn_ok _ _

end Reftest.Toml
