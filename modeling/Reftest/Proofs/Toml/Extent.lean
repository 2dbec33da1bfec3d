import Reftest.Proofs.Folding
import Reftest.Toml.Entry

namespace Reftest.Toml

/-- What is left of a text behind one character of it at least. -/
def Behind (rest text : List Char) : Prop :=
  ∃ c more, text = c :: more ∧ rest <:+ more

theorem behind_cons {rest more : List Char} (c : Char) (h : rest <:+ more) :
    Behind rest (c :: more) :=
  ⟨c, more, rfl, h⟩

namespace Behind

variable {rest middle text : List Char}

theorem suffix (h : Behind rest text) : rest <:+ text := by
  obtain ⟨c, more, rfl, h⟩ := h
  exact h.trans (List.suffix_cons c more)

theorem length_lt (h : Behind rest text) : rest.length < text.length := by
  obtain ⟨c, more, rfl, h⟩ := h
  exact Nat.lt_succ_of_le h.length_le

theorem of_suffix (h : Behind rest middle) (hmiddle : middle <:+ text) : Behind rest text := by
  obtain ⟨c, more, rfl, h⟩ := h
  obtain ⟨taken, rfl⟩ := hmiddle
  cases taken with
  | nil => exact behind_cons c h
  | cons first taken =>
      exact behind_cons first (h.trans ⟨taken ++ [c], List.append_cons taken c more ▸ rfl⟩)

theorem trans_suffix (h : Behind middle text) (hrest : rest <:+ middle) : Behind rest text := by
  obtain ⟨c, more, rfl, h⟩ := h
  exact behind_cons c (hrest.trans h)

end Behind

theorem suffix_skipBlanks (text : List Char) : skipBlanks text <:+ text :=
  List.dropWhile_suffix _

theorem behind_of_lineEnd? {text rest : List Char} (h : lineEnd? text = some rest) :
    Behind rest text := by
  unfold lineEnd? at h
  split at h
  · obtain rfl := Option.some.inj h
    exact behind_cons _ (List.suffix_refl _)
  · obtain rfl := Option.some.inj h
    exact behind_cons _ (List.suffix_cons _ _)
  · cases h

theorem suffix_of_skipGapFrom {commented : Bool} {text rest : List Char}
    (h : skipGapFrom commented text = .ok rest) : rest <:+ text := by
  fun_induction skipGapFrom commented text with
  | case1 => cases h
  | case2 => exact Except.ok.inj h ▸ List.suffix_refl _
  | case3 commented rest' ih => exact (ih h).trans (List.suffix_cons _ _)
  | case4 commented rest' ih =>
      exact (ih h).trans ((List.suffix_cons _ _).trans (List.suffix_cons _ _))
  | case5 c rest' hline hreturn hcomment ih => exact (ih h).trans (List.suffix_cons _ _)
  | case6 => cases h
  | case7 commented c rest' hline hreturn hcommented hblank ih =>
      exact (ih h).trans (List.suffix_cons _ _)
  | case8 commented rest' hcommented hline hreturn hblank ih =>
      exact (ih h).trans (List.suffix_cons _ _)
  | case9 => cases h
  | case10 => exact Except.ok.inj h ▸ List.suffix_refl _

theorem suffix_of_skipGap {text rest : List Char} (h : skipGap text = .ok rest) : rest <:+ text :=
  suffix_of_skipGapFrom h

theorem behind_of_endLine {text rest : List Char} (h : endLine text = .ok rest) :
    rest = [] ∨ Behind rest text := by
  have hblanks := suffix_skipBlanks text
  unfold endLine at h
  dsimp only at h
  split at h
  · exact Or.inl (Except.ok.inj h).symm
  · split at h
    · rename_i rest' hend
      obtain rfl := Except.ok.inj h
      refine Or.inr ((behind_of_lineEnd? hend).of_suffix ?_)
      split
      · rename_i comment hcomment
        rw [hcomment] at hblanks
        exact (List.dropWhile_suffix _).trans ((List.suffix_cons '#' comment).trans hblanks)
      · exact hblanks
    · cases h

namespace Quotation

theorem prepend_eq_ok {chars text rest : List Char}
    {outcome : Except Mark (List Char × List Char)} (h : prepend chars outcome = .ok (text, rest)) :
    ∃ text', outcome = .ok (text', rest) := by
  cases outcome with
  | error mark => cases h
  | ok result =>
      obtain ⟨text', rest'⟩ := result
      obtain ⟨-, rfl⟩ := Prod.mk.inj (Except.ok.inj h)
      exact ⟨text', rfl⟩

theorem suffix_of_readCodePoint {count : Nat} {text rest : List Char} {c : Char}
    (h : readCodePoint count text = .ok (c, rest)) : rest <:+ text := by
  unfold readCodePoint at h
  split at h
  · cases h
  · split at h
    · obtain ⟨-, rfl⟩ := Prod.mk.inj (Except.ok.inj h)
      exact List.drop_suffix count text
    · cases h

theorem behind_of_escape {text rest : List Char} {c : Char} (h : escape text = .ok (c, rest)) :
    Behind rest text := by
  unfold escape at h
  split at h
  case h_9 => exact behind_cons _ (suffix_of_readCodePoint h)
  case h_10 => exact behind_cons _ (suffix_of_readCodePoint h)
  case h_1 => cases h
  case h_11 => cases h
  all_goals
    obtain ⟨-, rfl⟩ := Prod.mk.inj (Except.ok.inj h)
    exact behind_cons _ (List.suffix_refl _)

theorem suffix_of_basic {text chars rest : List Char} (h : basic text = .ok (chars, rest)) :
    rest <:+ text := by
  fun_induction basic text generalizing chars with
  | case1 => cases h
  | case2 rest' =>
      obtain ⟨-, rfl⟩ := Prod.mk.inj (Except.ok.inj h)
      exact List.suffix_cons _ _
  | case3 rest' c rest'' hescape ih =>
      obtain ⟨text', h⟩ := prepend_eq_ok h
      exact (ih h).trans ((behind_of_escape hescape).suffix.trans (List.suffix_cons _ _))
  | case4 => cases h
  | case5 c rest' hquote hslash hplain ih =>
      obtain ⟨text', h⟩ := prepend_eq_ok h
      exact (ih h).trans (List.suffix_cons _ _)
  | case6 => cases h

theorem suffix_of_literal {text chars rest : List Char} (h : literal text = .ok (chars, rest)) :
    rest <:+ text := by
  fun_induction literal text generalizing chars with
  | case1 => cases h
  | case2 rest' =>
      obtain ⟨-, rfl⟩ := Prod.mk.inj (Except.ok.inj h)
      exact List.suffix_cons _ _
  | case3 c rest' hquote hplain ih =>
      obtain ⟨text', h⟩ := prepend_eq_ok h
      exact (ih h).trans (List.suffix_cons _ _)
  | case4 => cases h

theorem suffix_close (mark : Char) (text : List Char) : (close mark text).2 <:+ text := by
  fun_cases close mark text with
  | case1 => exact (List.suffix_cons _ _).trans (List.suffix_cons _ _)
  | case2 => exact List.suffix_cons _ _
  | case3 => exact List.suffix_refl _
  | case4 => exact List.suffix_cons _ _
  | case5 => exact List.suffix_refl _
  | case6 => exact List.suffix_refl _

theorem suffix_skipBlankLines (text : List Char) : skipBlankLines text <:+ text := by
  fun_induction skipBlankLines text with
  | case1 => exact List.suffix_refl _
  | case2 rest ih => exact ih.trans (List.suffix_cons _ _)
  | case3 rest ih => exact ih.trans ((List.suffix_cons _ _).trans (List.suffix_cons _ _))
  | case4 c rest hline hreturn hblank ih => exact ih.trans (List.suffix_cons _ _)
  | case5 => exact List.suffix_refl _

theorem suffix_of_joinLines? {text rest : List Char} (h : joinLines? text = some rest) :
    rest <:+ text := by
  obtain ⟨ended, hended, rfl⟩ := Option.map_eq_some_iff.mp h
  exact (suffix_skipBlankLines ended).trans
    ((behind_of_lineEnd? hended).suffix.trans (suffix_skipBlanks text))

theorem suffix_of_basicLines {marks : Nat} {text chars rest : List Char}
    (h : basicLines marks text = .ok (chars, rest)) : rest <:+ text := by
  fun_induction basicLines marks text generalizing chars with
  | case1 => cases h
  | case2 marks rest' hmarks ih => exact (ih h).trans (List.suffix_cons _ _)
  | case3 marks rest' hmarks =>
      have hrest : (close '"' rest').2 = rest := congrArg Prod.snd (Except.ok.inj h)
      exact hrest ▸ (suffix_close _ rest').trans (List.suffix_cons _ _)
  | case4 marks rest' rest'' hjoin ih =>
      obtain ⟨text', h⟩ := prepend_eq_ok h
      exact (ih h).trans ((suffix_of_joinLines? hjoin).trans (List.suffix_cons _ _))
  | case5 marks rest' hjoin c rest'' hescape ih =>
      obtain ⟨text', h⟩ := prepend_eq_ok h
      exact (ih h).trans ((behind_of_escape hescape).suffix.trans (List.suffix_cons _ _))
  | case6 => cases h
  | case7 marks rest' ih =>
      obtain ⟨text', h⟩ := prepend_eq_ok h
      exact (ih h).trans (List.suffix_cons _ _)
  | case8 marks rest' ih =>
      obtain ⟨text', h⟩ := prepend_eq_ok h
      exact (ih h).trans ((List.suffix_cons _ _).trans (List.suffix_cons _ _))
  | case9 marks c rest' hmark hslash hline hreturn hplain ih =>
      obtain ⟨text', h⟩ := prepend_eq_ok h
      exact (ih h).trans (List.suffix_cons _ _)
  | case10 => cases h

theorem suffix_of_literalLines {marks : Nat} {text chars rest : List Char}
    (h : literalLines marks text = .ok (chars, rest)) : rest <:+ text := by
  fun_induction literalLines marks text generalizing chars with
  | case1 => cases h
  | case2 marks rest' hmarks ih => exact (ih h).trans (List.suffix_cons _ _)
  | case3 marks rest' hmarks =>
      have hrest : (close '\'' rest').2 = rest := congrArg Prod.snd (Except.ok.inj h)
      exact hrest ▸ (suffix_close _ rest').trans (List.suffix_cons _ _)
  | case4 marks rest' ih =>
      obtain ⟨text', h⟩ := prepend_eq_ok h
      exact (ih h).trans (List.suffix_cons _ _)
  | case5 marks rest' ih =>
      obtain ⟨text', h⟩ := prepend_eq_ok h
      exact (ih h).trans ((List.suffix_cons _ _).trans (List.suffix_cons _ _))
  | case6 marks c rest' hmark hline hreturn hplain ih =>
      obtain ⟨text', h⟩ := prepend_eq_ok h
      exact (ih h).trans (List.suffix_cons _ _)
  | case7 => cases h

theorem suffix_openLines (text : List Char) : openLines text <:+ text := by
  unfold openLines
  cases hline : lineEnd? text with
  | none => exact List.suffix_refl text
  | some rest => exact (behind_of_lineEnd? hline).suffix

end Quotation

namespace Number

theorem suffix_of_moreDigits {isDigit : Char → Bool} {text digits rest : List Char}
    (h : moreDigits isDigit text = .ok (digits, rest)) : rest <:+ text := by
  fun_induction moreDigits isDigit text generalizing digits rest with
  | case1 c rest' hdigit digits' behind hmore ih =>
      obtain ⟨-, rfl⟩ := Prod.mk.inj (Except.ok.inj h)
      exact (ih hmore).trans ((List.suffix_cons _ _).trans (List.suffix_cons _ _))
  | case2 => cases h
  | case3 => cases h
  | case4 => cases h
  | case5 c rest' hscore hone hdigit digits' behind hmore ih =>
      obtain ⟨-, rfl⟩ := Prod.mk.inj (Except.ok.inj h)
      exact (ih hmore).trans (List.suffix_cons _ _)
  | case6 => cases h
  | case7 =>
      obtain ⟨-, rfl⟩ := Prod.mk.inj (Except.ok.inj h)
      exact List.suffix_refl _
  | case8 =>
      obtain ⟨-, rfl⟩ := Prod.mk.inj (Except.ok.inj h)
      exact List.suffix_refl _

theorem behind_of_readDigits {isDigit : Char → Bool} {text digits rest : List Char}
    (h : readDigits isDigit text = .ok (digits, rest)) : Behind rest text := by
  unfold readDigits at h
  split at h
  · split at h
    · obtain ⟨⟨digits', rest'⟩, hmore, hresult⟩ := map_eq_ok h
      obtain ⟨-, rfl⟩ := Prod.mk.inj hresult
      exact behind_cons _ (suffix_of_moreDigits hmore)
    · cases h
  · cases h

theorem behind_of_readWhole {text digits rest : List Char}
    (h : readWhole text = .ok (digits, rest)) : Behind rest text := by
  unfold readWhole at h
  split at h
  · obtain ⟨-, rfl⟩ := Prod.mk.inj (Except.ok.inj h)
    exact behind_cons _ (List.suffix_refl _)
  · exact behind_of_readDigits h

theorem suffix_sign (text : List Char) : (sign text).2 <:+ text := by
  fun_cases sign text with
  | case1 => exact List.suffix_cons _ _
  | case2 => exact List.suffix_cons _ _
  | case3 => exact List.suffix_refl _

theorem rest_of_integer {n : Int} {text rest : List Char} {scalar : Scalar}
    (h : integer n text = .ok (scalar, rest)) : rest = text := by
  unfold integer at h
  split at h
  · obtain ⟨-, rfl⟩ := Prod.mk.inj (Except.ok.inj h)
    rfl
  · cases h

theorem behind_of_readBased {base : Nat} {isDigit : Char → Bool} {text rest : List Char}
    {scalar : Scalar} (h : readBased base isDigit text = .ok (scalar, rest)) :
    Behind rest text := by
  obtain ⟨⟨digits, rest'⟩, hdigits, h⟩ := bind_eq_ok h
  rw [rest_of_integer h]
  exact behind_of_readDigits hdigits

theorem suffix_of_readExponent {text rest : List Char} {exponent : Int}
    (h : readExponent text = .ok (exponent, rest)) : rest <:+ text := by
  unfold readExponent at h
  split at h
  · obtain ⟨-, rfl⟩ := Prod.mk.inj (Except.ok.inj h)
    exact List.suffix_refl _
  · rename_i c text
    split at h
    · obtain ⟨⟨digits, rest'⟩, hdigits, h⟩ := bind_eq_ok h
      obtain ⟨-, rfl⟩ := Prod.mk.inj (Except.ok.inj h)
      exact (behind_of_readDigits hdigits).suffix.trans
        ((suffix_sign text).trans (List.suffix_cons _ _))
    · obtain ⟨-, rfl⟩ := Prod.mk.inj (Except.ok.inj h)
      exact List.suffix_refl _

theorem suffix_of_readFraction {text digits rest : List Char}
    (h : readFraction text = .ok (digits, rest)) : rest <:+ text := by
  unfold readFraction at h
  split at h
  · exact (behind_of_readDigits h).suffix.trans (List.suffix_cons _ _)
  · obtain ⟨-, rfl⟩ := Prod.mk.inj (Except.ok.inj h)
    exact List.suffix_refl _

theorem suffix_of_readDecimal {negative : Bool} {whole text rest : List Char} {scalar : Scalar}
    (h : readDecimal negative whole text = .ok (scalar, rest)) : rest <:+ text := by
  obtain ⟨⟨fraction, rest'⟩, hfraction, h⟩ := bind_eq_ok h
  obtain ⟨⟨exponent, rest''⟩, hexponent, h⟩ := bind_eq_ok h
  dsimp only at h
  split at h
  · cases h
  · obtain ⟨-, rfl⟩ := Prod.mk.inj (Except.ok.inj h)
    exact (suffix_of_readExponent hexponent).trans (suffix_of_readFraction hfraction)

theorem behind_of_read {text rest : List Char} {scalar : Scalar}
    (h : read text = .ok (scalar, rest)) : Behind rest text := by
  unfold read at h
  split at h
  · exact ((behind_of_readBased h).of_suffix (List.suffix_cons _ _)).of_suffix
      (List.suffix_cons _ _)
  · exact ((behind_of_readBased h).of_suffix (List.suffix_cons _ _)).of_suffix
      (List.suffix_cons _ _)
  · exact ((behind_of_readBased h).of_suffix (List.suffix_cons _ _)).of_suffix
      (List.suffix_cons _ _)
  · have hsign := suffix_sign text
    dsimp only at h
    generalize (sign text).2 = unsigned at h hsign
    refine Behind.of_suffix ?_ hsign
    split at h
    · obtain ⟨-, rfl⟩ := Prod.mk.inj (Except.ok.inj h)
      exact behind_cons _ ((List.suffix_cons _ _).trans (List.suffix_cons _ _))
    · obtain ⟨-, rfl⟩ := Prod.mk.inj (Except.ok.inj h)
      exact behind_cons _ ((List.suffix_cons _ _).trans (List.suffix_cons _ _))
    · obtain ⟨⟨whole, rest'⟩, hwhole, h⟩ := bind_eq_ok h
      have hbehind := behind_of_readWhole hwhole
      dsimp only at h
      split at h
      · exact hbehind.trans_suffix (suffix_of_readDecimal h)
      · rw [rest_of_integer h]
        exact hbehind

end Number

namespace DateTime

theorem behind_of_readTwoDigits {low high n : Nat} {text rest : List Char}
    (h : readTwoDigits low high text = .ok (n, rest)) : Behind rest text := by
  unfold readTwoDigits at h
  split at h
  · dsimp only at h
    split at h
    · obtain ⟨-, rfl⟩ := Prod.mk.inj (Except.ok.inj h)
      exact behind_cons _ (List.suffix_cons _ _)
    · cases h
  · cases h

theorem suffix_of_skipSymbol {symbol : Char} {text rest : List Char}
    (h : skipSymbol symbol text = .ok rest) : rest <:+ text := by
  unfold skipSymbol at h
  split at h
  · split at h
    · obtain rfl := Except.ok.inj h
      exact List.suffix_cons _ _
    · cases h
  · cases h

theorem behind_of_skipDate {text rest : List Char} (h : skipDate text = .ok rest) :
    Behind rest text := by
  obtain ⟨⟨century, rest₁⟩, hcentury, h⟩ := bind_eq_ok h
  obtain ⟨⟨year, rest₂⟩, hyear, h⟩ := bind_eq_ok h
  obtain ⟨rest₃, hdash, h⟩ := bind_eq_ok h
  obtain ⟨⟨month, rest₄⟩, hmonth, h⟩ := bind_eq_ok h
  obtain ⟨rest₅, hdash', h⟩ := bind_eq_ok h
  obtain ⟨⟨day, rest₆⟩, hday, h⟩ := bind_eq_ok h
  obtain rfl := Except.ok.inj h
  have h₂ := (behind_of_readTwoDigits hcentury).trans_suffix (behind_of_readTwoDigits hyear).suffix
  have h₃ := h₂.trans_suffix (suffix_of_skipSymbol hdash)
  have h₄ := h₃.trans_suffix (behind_of_readTwoDigits hmonth).suffix
  have h₅ := h₄.trans_suffix (suffix_of_skipSymbol hdash')
  exact h₅.trans_suffix (behind_of_readTwoDigits hday).suffix

theorem suffix_skipFraction (text : List Char) : skipFraction text <:+ text := by
  unfold skipFraction
  split
  · rename_i c rest
    split
    · exact (List.dropWhile_suffix _).trans
        ((List.suffix_cons c rest).trans (List.suffix_cons _ _))
    · exact List.suffix_refl _
  · exact List.suffix_refl _

theorem behind_of_skipTime {text rest : List Char} (h : skipTime text = .ok rest) :
    Behind rest text := by
  obtain ⟨⟨hour, rest₁⟩, hhour, h⟩ := bind_eq_ok h
  obtain ⟨rest₂, hcolon, h⟩ := bind_eq_ok h
  obtain ⟨⟨minute, rest₃⟩, hminute, h⟩ := bind_eq_ok h
  obtain ⟨rest₄, hcolon', h⟩ := bind_eq_ok h
  obtain ⟨⟨second, rest₅⟩, hsecond, h⟩ := bind_eq_ok h
  obtain rfl := Except.ok.inj h
  have h₂ := (behind_of_readTwoDigits hhour).trans_suffix (suffix_of_skipSymbol hcolon)
  have h₃ := h₂.trans_suffix (behind_of_readTwoDigits hminute).suffix
  have h₄ := h₃.trans_suffix (suffix_of_skipSymbol hcolon')
  have h₅ := h₄.trans_suffix (behind_of_readTwoDigits hsecond).suffix
  exact h₅.trans_suffix (suffix_skipFraction rest₅)

theorem suffix_of_skipOffset {text rest : List Char} (h : skipOffset text = .ok rest) :
    rest <:+ text := by
  unfold skipOffset at h
  split at h
  · obtain rfl := Except.ok.inj h
    exact List.suffix_refl _
  · split at h
    · obtain rfl := Except.ok.inj h
      exact List.suffix_cons _ _
    · split at h
      · obtain ⟨⟨hour, rest₁⟩, hhour, h⟩ := bind_eq_ok h
        obtain ⟨rest₂, hcolon, h⟩ := bind_eq_ok h
        obtain ⟨⟨minute, rest₃⟩, hminute, h⟩ := bind_eq_ok h
        obtain rfl := Except.ok.inj h
        have h₂ := (suffix_of_skipSymbol hcolon).trans (behind_of_readTwoDigits hhour).suffix
        exact ((behind_of_readTwoDigits hminute).suffix.trans h₂).trans (List.suffix_cons _ _)
      · obtain rfl := Except.ok.inj h
        exact List.suffix_refl _

theorem behind_of_skip {text rest : List Char} (h : skip text = .ok rest) : Behind rest text := by
  unfold skip at h
  split at h
  · cases hdate : skipDate text with
    | error mark =>
        rw [hdate] at h
        cases h
    | ok after =>
        rw [hdate] at h
        have hbehind := behind_of_skipDate hdate
        cases after with
        | nil =>
            obtain rfl := Except.ok.inj h
            exact hbehind
        | cons c after =>
            dsimp only at h
            split at h
            · obtain ⟨rest₁, htime, h⟩ := bind_eq_ok h
              have h₁ := (behind_of_skipTime htime).suffix.trans (List.suffix_cons c after)
              exact hbehind.trans_suffix ((suffix_of_skipOffset h).trans h₁)
            · obtain rfl := Except.ok.inj h
              exact hbehind
  · exact behind_of_skipTime h

end DateTime

theorem behind_of_readWord {text rest : List Char} {scalar : Scalar}
    (h : readWord text = .ok (scalar, rest)) : Behind rest text := by
  unfold readWord at h
  split at h
  · obtain ⟨-, rfl⟩ := Prod.mk.inj (Except.ok.inj h)
    exact behind_cons _ (List.suffix_append ['r', 'u', 'e'] _)
  · obtain ⟨-, rfl⟩ := Prod.mk.inj (Except.ok.inj h)
    exact behind_cons _ (List.suffix_append ['a', 'l', 's', 'e'] _)
  · split at h
    · obtain ⟨rest', hskip, hresult⟩ := map_eq_ok h
      obtain ⟨-, rfl⟩ := Prod.mk.inj hresult
      exact DateTime.behind_of_skip hskip
    · exact Number.behind_of_read h

theorem string_eq_ok {outcome : Except Mark (List Char × List Char)} {scalar : Scalar}
    {rest : List Char} (h : readScalar.string outcome = .ok (scalar, rest)) :
    ∃ chars, outcome = .ok (chars, rest) := by
  obtain ⟨⟨chars, rest'⟩, houtcome, hresult⟩ := map_eq_ok h
  obtain ⟨-, rfl⟩ := Prod.mk.inj hresult
  exact ⟨chars, houtcome⟩

theorem behind_of_readScalar {text rest : List Char} {scalar : Scalar}
    (h : readScalar text = .ok (scalar, rest)) : Behind rest text := by
  unfold readScalar at h
  split at h
  · rename_i inner
    obtain ⟨chars, hlines⟩ := string_eq_ok h
    have hinner := (Quotation.suffix_of_basicLines hlines).trans (Quotation.suffix_openLines inner)
    exact behind_cons _ (hinner.trans (List.suffix_append ['"', '"'] _))
  · obtain ⟨chars, hbasic⟩ := string_eq_ok h
    exact behind_cons _ (Quotation.suffix_of_basic hbasic)
  · rename_i inner
    obtain ⟨chars, hlines⟩ := string_eq_ok h
    have hinner :=
      (Quotation.suffix_of_literalLines hlines).trans (Quotation.suffix_openLines inner)
    exact behind_cons _ (hinner.trans (List.suffix_append ['\'', '\''] _))
  · obtain ⟨chars, hliteral⟩ := string_eq_ok h
    exact behind_cons _ (Quotation.suffix_of_literal hliteral)
  · exact behind_of_readWord h

def KeyPart.start (part : KeyPart) : Nat :=
  part.span.start

theorem span_of_read? {text rest : List Char} {part : KeyPart}
    (h : KeyPart.read? text = .ok (some (part, rest))) :
    part.span = ⟨text.length, rest.length⟩ ∧ Behind rest text := by
  unfold KeyPart.read? at h
  split at h
  · obtain ⟨⟨name, rest'⟩, hname, h⟩ := bind_eq_ok h
    obtain ⟨rfl, rfl⟩ := Prod.mk.inj (Option.some.inj (Except.ok.inj h))
    exact ⟨rfl, behind_cons _ (Quotation.suffix_of_basic hname)⟩
  · obtain ⟨⟨name, rest'⟩, hname, h⟩ := bind_eq_ok h
    obtain ⟨rfl, rfl⟩ := Prod.mk.inj (Option.some.inj (Except.ok.inj h))
    exact ⟨rfl, behind_cons _ (Quotation.suffix_of_literal hname)⟩
  · dsimp only at h
    split at h
    · cases Except.ok.inj h
    · rename_i hname
      obtain ⟨rfl, rfl⟩ := Prod.mk.inj (Option.some.inj (Except.ok.inj h))
      refine ⟨rfl, ?_⟩
      cases text with
      | nil => exact absurd rfl hname
      | cons c text =>
          by_cases hbare : isBareChar c = true
          · rw [List.dropWhile_cons_of_pos hbare]
            exact behind_cons c (List.dropWhile_suffix _)
          · rw [List.takeWhile_cons_of_neg hbare] at hname
            exact absurd rfl hname

end Reftest.Toml
