import Reftest.Proofs.Config.Listing

namespace Reftest.Config.Layout

open Toml

theorem digit?_digitChar : ∀ d < 16, Hexadecimal.digit? (Nat.digitChar d) = some d := by
  decide

theorem codePoint?_fourDigits {c : Char} (h : c.toNat < 65536) :
    Quotation.codePoint? (fourDigits c.toNat) = some c := by
  have hdigits : (fourDigits c.toNat).mapM Hexadecimal.digit? =
      some ([12, 8, 4, 0].map fun shift => c.toNat >>> shift % 16) := by
    simp [fourDigits, digit?_digitChar _ (Nat.mod_lt _ _)]
  have hvalue : ([12, 8, 4, 0].map fun shift => c.toNat >>> shift % 16).foldl
      (fun code value => code * 16 + value) 0 = c.toNat := by
    simp only [List.map_cons, List.map_nil, List.foldl_cons, List.foldl_nil,
      Nat.shiftRight_eq_div_pow]
    omega
  rw [Quotation.codePoint?, hdigits]
  change Hexadecimal.character? (List.foldl _ 0 _) = some c
  have hvalid : c.toNat.isValidChar := c.valid
  rw [hvalue, Hexadecimal.character?, if_pos hvalid, Char.ofNat_toNat]

theorem readCodePoint_fourDigits {c : Char} (h : c.toNat < 65536) (rest : List Char) :
    Quotation.readCodePoint 4 (fourDigits c.toNat ++ rest) = .ok (c, rest) := by
  have hlength : (fourDigits c.toNat).length = 4 := rfl
  have hlong : ¬ (fourDigits c.toNat ++ rest).length < 4 := by
    rw [List.length_append]
    omega
  rw [Quotation.readCodePoint, if_neg hlong, ← hlength, List.take_left, List.drop_left,
    codePoint?_fourDigits h]

theorem lt_of_isControl {c : Char} (h : isControl c = true) : c.toNat < 65536 := by
  simp only [isControl, Bool.or_eq_true, Bool.and_eq_true, decide_eq_true_eq] at h
  omega

theorem isPlain_of_not_isControl {c : Char} (h : ¬ isControl c = true) :
    Quotation.isPlain c = true := by
  simp only [isControl, Bool.or_eq_true, Bool.and_eq_true, decide_eq_true_eq] at h
  have hspace : ' ' ≤ c := by
    change (0x20 : Nat) ≤ c.toNat
    omega
  have hdelete : c ≠ '\x7f' := by
    rintro rfl
    exact h (by decide)
  simp [Quotation.isPlain, hspace, hdelete]

theorem basic_escapeChar (c : Char) (rest : List Char) :
    Quotation.basic (escapeChar c ++ rest) = Quotation.prepend [c] (Quotation.basic rest) := by
  unfold escapeChar
  split
  · rename_i hquoted
    apply Quotation.basic_of_escape
    rcases hquoted with rfl | rfl
    · rfl
    · rfl
  · rename_i hquoted
    obtain ⟨hmark, hslash⟩ := not_or.mp hquoted
    split
    · rename_i hcontrol
      apply Quotation.basic_of_escape
      exact readCodePoint_fourDigits (lt_of_isControl hcontrol) rest
    · rename_i hcontrol
      exact Quotation.basic_of_isPlain (isPlain_of_not_isControl hcontrol) hmark hslash rest

theorem basic_flatMap (value rest : List Char) :
    Quotation.basic (value.flatMap escapeChar ++ '"' :: rest) = .ok (value, rest) := by
  induction value with
  | nil => rw [List.flatMap_nil, List.nil_append, Quotation.basic]
  | cons c value ih =>
      rw [List.flatMap_cons, List.append_assoc, basic_escapeChar, ih, Quotation.prepend_ok,
        List.singleton_append]

theorem head_escapeChar (c : Char) : ∃ first more, escapeChar c = first :: more ∧ first ≠ '"' := by
  unfold escapeChar
  split
  · exact ⟨'\\', [c], rfl, by decide⟩
  · rename_i hquoted
    split
    · exact ⟨'\\', 'u' :: fourDigits c.toNat, rfl, by decide⟩
    · exact ⟨c, [], rfl, fun heq => hquoted (Or.inl heq)⟩

theorem not_lines {value rest : List Char} (h : rest.head? ≠ some '"') (more : List Char) :
    value.flatMap escapeChar ++ '"' :: rest ≠ '"' :: '"' :: more := by
  intro heq
  cases value with
  | nil =>
      rw [List.flatMap_nil, List.nil_append] at heq
      rw [(List.cons.inj heq).2] at h
      exact h rfl
  | cons c value =>
      obtain ⟨first, others, hescape, hfirst⟩ := head_escapeChar c
      rw [List.flatMap_cons, hescape] at heq
      exact hfirst (List.cons.inj heq).1

theorem text_append (value : String) (rest : List Char) :
    text value ++ rest = '"' :: (value.toList.flatMap escapeChar ++ '"' :: rest) := by
  rw [text, List.append_assoc]
  rfl

theorem readScalar_text (value : String) {rest : List Char} (h : rest.head? ≠ some '"') :
    readScalar (text value ++ rest) = .ok (.string value, rest) := by
  rw [text_append, readScalar_basic (not_lines h), basic_flatMap]
  change Except.ok (Scalar.string (String.ofList value.toList), rest) = _
  rw [String.ofList_toList]

theorem readScalar_flag (value : Bool) (rest : List Char) :
    readScalar (flag value ++ rest) = .ok (.boolean value, rest) := by
  cases value with
  | false => rfl
  | true => rfl

theorem readValue_text (depth : Nat) (value : String) {rest : List Char}
    (h : rest.head? ≠ some '"') :
    ∃ node, readValue depth (text value ++ rest) = .ok (node, rest) ∧ IsText node value := by
  have harray : (text value ++ rest).head? ≠ some '[' := by simp [text]
  have htable : (text value ++ rest).head? ≠ some '{' := by simp [text]
  exact ⟨_, readValue_scalar depth harray htable (readScalar_text value h), _, rfl⟩

theorem readValue_flag (depth : Nat) (value : Bool) (rest : List Char) :
    ∃ node, readValue depth (flag value ++ rest) = .ok (node, rest) ∧ IsFlag node value := by
  have hscalar := readScalar_flag value rest
  cases value with
  | false =>
      have hvalue := readValue_scalar depth (by simp [flag]) (by simp [flag]) hscalar
      exact ⟨_, hvalue, _, rfl⟩
  | true =>
      have hvalue := readValue_scalar depth (by simp [flag]) (by simp [flag]) hscalar
      exact ⟨_, hvalue, _, rfl⟩

def quoted (value : String) : Piece :=
  ⟨text value, .scalar ⟨(text value).length, 0⟩ (.string value)⟩

theorem writes_text (depth : Nat) (value : String) :
    Writes depth (quoted value).text (quoted value).node := by
  have hend : ([] : List Char).head? ≠ some '"' := by simp
  have hread := readScalar_text value hend
  rw [List.append_nil] at hread
  exact writes_of_readValue (Nat.le_refl depth)
    (readValue_scalar depth (by simp [text]) (by simp [text]) hread)

theorem Moved.isText {values : List String} {items : List Node}
    (h : Moved (values.map fun value => (quoted value).node) items) :
    items.length = values.length ∧ ∀ pair ∈ items.zip values, IsText pair.1 pair.2 := by
  refine ⟨h.length_eq.symm.trans (List.length_map _), ?_⟩
  induction values generalizing items with
  | nil =>
      obtain _ | _ := h
      intro pair hpair
      cases hpair
  | cons value values ih =>
      obtain _ | ⟨width, h⟩ := h
      intro pair hpair
      rcases List.mem_cons.mp hpair with rfl | hpair
      · exact ⟨_, rfl⟩
      · exact ih h pair hpair

theorem readValue_texts (depth : Nat) (values : List String) (rest : List Char) :
    ∃ node, readValue (depth + 1) (texts values ++ rest) = .ok (node, rest) ∧
      IsTexts node values := by
  have hjoin : Piece.join (values.map quoted) = [',', ' '].intercalate (values.map text) := by
    rw [Piece.join, List.map_map]
    rfl
  have happend : texts values ++ rest =
      '[' :: (Piece.join (values.map quoted) ++ ']' :: rest) := by
    rw [texts, hjoin, List.append_assoc]
    rfl
  obtain ⟨span, items, hvalue, hmoved⟩ := readValue_pieces
    (List.forall_mem_map.mpr fun value _ => writes_text depth value) rest
  rw [List.map_map] at hmoved
  rw [happend]
  exact ⟨_, hvalue, items, rfl, hmoved.isText⟩

end Reftest.Config.Layout
