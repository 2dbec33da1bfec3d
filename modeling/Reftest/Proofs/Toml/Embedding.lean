import Reftest.Proofs.Toml.Continuation
import Reftest.Proofs.Toml.Reading

namespace Reftest.Toml

theorem Ends.exists_cons {suffix : List Char} (h : Ends suffix) :
    ∃ c more, suffix = c :: more ∧ Inert c ∧
      (DateTime.isTimeMark c && DateTime.opensTime more) = false := by
  cases h with
  | comma more => exact ⟨',', more, rfl, by decide, rfl⟩
  | bracket more => exact ⟨']', more, rfl, by decide, rfl⟩
  | line more => exact ⟨'\n', more, rfl, by decide, rfl⟩
  | brace more =>
      refine ⟨' ', '}' :: more, rfl, by decide, ?_⟩
      rw [Bool.and_eq_false_iff, ← Bool.not_eq_true, ← Bool.not_eq_true, DateTime.opensTime_iff]
      right
      rintro ⟨c, c', rest, heq, hdigit, -⟩
      obtain ⟨rfl, -⟩ := List.cons.inj heq
      cases hdigit

theorem readWord_eq {text : List Char} (htrue : ∀ rest, text ≠ ['t', 'r', 'u', 'e'] ++ rest)
    (hfalse : ∀ rest, text ≠ ['f', 'a', 'l', 's', 'e'] ++ rest) :
    readWord text =
      if DateTime.opensDate text || DateTime.opensTime text then
        (DateTime.skip text).map fun rest => (.datetime, rest)
      else Number.read text := by
  rw [readWord]
  · exact fun rest => htrue rest
  · exact fun rest => hfalse rest

theorem readWord_append {suffix : List Char} (hends : Ends suffix) {text rest : List Char}
    {scalar : Scalar} (h : readWord text = .ok (scalar, rest)) :
    readWord (text ++ suffix) = .ok (scalar, rest ++ suffix) := by
  obtain ⟨c, more, rfl, hc, htime⟩ := hends.exists_cons
  unfold readWord at h
  split at h
  · obtain ⟨rfl, rfl⟩ := Prod.mk.inj (Except.ok.inj h)
    rfl
  · obtain ⟨rfl, rfl⟩ := Prod.mk.inj (Except.ok.inj h)
    rfl
  · rename_i htrue hfalse
    have htrue' : ∀ rest, text ++ c :: more ≠ ['t', 'r', 'u', 'e'] ++ rest := by
      intro rest heq
      obtain ⟨rest', rfl⟩ := hc.opens_of_append ['t', 'r', 'u', 'e'] (by decide) heq
      exact htrue rest' rfl
    have hfalse' : ∀ rest, text ++ c :: more ≠ ['f', 'a', 'l', 's', 'e'] ++ rest := by
      intro rest heq
      obtain ⟨rest', rfl⟩ := hc.opens_of_append ['f', 'a', 'l', 's', 'e'] (by decide) heq
      exact hfalse rest' rfl
    rw [readWord_eq htrue' hfalse', DateTime.opensDate_append hc, DateTime.opensTime_append hc]
    split at h
    · rename_i hdate
      obtain ⟨rest', hskip, hresult⟩ := map_eq_ok h
      obtain ⟨rfl, rfl⟩ := Prod.mk.inj hresult
      rw [if_pos hdate, DateTime.skip_append hc more htime hskip]
      rfl
    · rename_i hdate
      rw [if_neg hdate]
      exact Number.read_append hc more h

theorem string_append {suffix : List Char} {outcome outcome' : Except Mark (List Char × List Char)}
    {rest : List Char} {scalar : Scalar} (h : readScalar.string outcome = .ok (scalar, rest))
    (happend : ∀ chars, outcome = .ok (chars, rest) → outcome' = .ok (chars, rest ++ suffix)) :
    readScalar.string outcome' = .ok (scalar, rest ++ suffix) := by
  obtain ⟨⟨chars, rest'⟩, houtcome, hresult⟩ := map_eq_ok h
  obtain ⟨rfl, rfl⟩ := Prod.mk.inj hresult
  rw [happend chars houtcome]
  rfl

theorem readScalar_append {suffix : List Char} (hends : Ends suffix) {text rest : List Char}
    {scalar : Scalar} (h : readScalar text = .ok (scalar, rest)) :
    readScalar (text ++ suffix) = .ok (scalar, rest ++ suffix) := by
  obtain ⟨c, more, rfl, hc, -⟩ := hends.exists_cons
  have hquote : c ≠ '"' := hc.ne (by decide)
  have hapostrophe : c ≠ '\'' := hc.ne (by decide)
  have hopens : ∀ word : List Char, isUnbroken word = true →
      (∀ rest', text ≠ word ++ rest') → ∀ rest', text ++ c :: more ≠ word ++ rest' := by
    intro word hword hnot rest' heq
    obtain ⟨rest'', rfl⟩ := hc.opens_of_append word hword heq
    exact hnot rest'' rfl
  unfold readScalar at h
  split at h
  · rename_i inner
    refine string_append h fun chars hlines => ?_
    have hlong := Quotation.length_of_basicLines_ok hlines
    change Quotation.basicLines 0 (Quotation.openLines (inner ++ c :: more)) = _
    rw [Quotation.openLines_append (by omega)]
    exact Quotation.basicLines_append hlines hquote more
  · rename_i inner hlines
    have hlines' := hopens ['"', '"', '"'] (by decide) fun rest' heq =>
      hlines rest' (List.cons.inj heq).2
    rw [List.cons_append, readScalar]
    · exact string_append h fun chars hbasic => Quotation.basic_append hbasic _
    · exact fun rest' heq => hlines' rest' (congrArg (List.cons '"') heq)
  · rename_i inner
    refine string_append h fun chars hlines => ?_
    have hlong := Quotation.length_of_literalLines_ok hlines
    change Quotation.literalLines 0 (Quotation.openLines (inner ++ c :: more)) = _
    rw [Quotation.openLines_append (by omega)]
    exact Quotation.literalLines_append hlines hapostrophe more
  · rename_i inner hlines
    have hlines' := hopens ['\'', '\'', '\''] (by decide) fun rest' heq =>
      hlines rest' (List.cons.inj heq).2
    rw [List.cons_append, readScalar]
    · exact string_append h fun chars hliteral => Quotation.literal_append hliteral _
    · exact fun rest' heq => hlines' rest' (congrArg (List.cons '\'') heq)
  · rename_i hbasicLines hbasic hliteralLines hliteral
    rw [readScalar]
    · exact readWord_append hends h
    · exact hopens ['"', '"', '"'] (by decide) hbasicLines
    · exact hopens ['"'] (by decide) hbasic
    · exact hopens ['\'', '\'', '\''] (by decide) hliteralLines
    · exact hopens ['\''] (by decide) hliteral

theorem between_append (text name rest suffix : List Char) :
    KeyPart.between (text ++ suffix) name (rest ++ suffix) =
      (KeyPart.between text name rest).shift suffix.length := by
  simp only [KeyPart.between, KeyPart.shift, Span.shift, List.length_append]

theorem read?_bare_eq {text : List Char} (hquote : ∀ inner, text ≠ '"' :: inner)
    (hapostrophe : ∀ inner, text ≠ '\'' :: inner) :
    KeyPart.read? text =
      if (text.takeWhile isBareChar).isEmpty then .ok none
      else .ok (some (KeyPart.between text (text.takeWhile isBareChar)
        (text.dropWhile isBareChar), text.dropWhile isBareChar)) := by
  rw [KeyPart.read?]
  · exact hquote
  · exact hapostrophe

theorem read?_append {c : Char} (hc : Inert c) (more : List Char) {text rest : List Char}
    {part : KeyPart} (h : KeyPart.read? text = .ok (some (part, rest))) :
    KeyPart.read? (text ++ c :: more) =
      .ok (some (part.shift (c :: more).length, rest ++ c :: more)) := by
  have hbare : isBareChar c = false := hc.eq_false (by decide)
  unfold KeyPart.read? at h
  split at h
  · rename_i inner
    obtain ⟨⟨name, rest'⟩, hbasic, h⟩ := bind_eq_ok h
    obtain ⟨rfl, rfl⟩ := Prod.mk.inj (Option.some.inj (Except.ok.inj h))
    rw [← between_append, List.cons_append, KeyPart.read?, Quotation.basic_append hbasic]
    rfl
  · rename_i inner
    obtain ⟨⟨name, rest'⟩, hliteral, h⟩ := bind_eq_ok h
    obtain ⟨rfl, rfl⟩ := Prod.mk.inj (Option.some.inj (Except.ok.inj h))
    rw [← between_append, List.cons_append, KeyPart.read?, Quotation.literal_append hliteral]
    rfl
  · rename_i hquote hapostrophe
    dsimp only at h
    split at h
    · cases h
    · rename_i hne
      obtain ⟨rfl, rfl⟩ := Prod.mk.inj (Option.some.inj (Except.ok.inj h))
      rw [read?_bare_eq, takeWhile_append_stop hbare, dropWhile_append_stop hbare, if_neg hne,
        between_append]
      · intro inner heq
        obtain ⟨rest', rfl⟩ := hc.opens_of_append ['"'] (by decide) heq
        exact hquote rest' rfl
      · intro inner heq
        obtain ⟨rest', rfl⟩ := hc.opens_of_append ['\''] (by decide) heq
        exact hapostrophe rest' rfl

theorem skipBlanks_ne_nil_of_read? {text rest : List Char} {part : KeyPart}
    (h : KeyPart.read? (skipBlanks text) = .ok (some (part, rest))) : skipBlanks text ≠ [] := by
  intro hnil
  have hlength := (span_of_read? h).2.length_lt
  rw [hnil] at hlength
  exact Nat.not_lt_zero _ hlength

theorem skipBlanks_append_of_cons {text : List Char} {c : Char} {rest : List Char}
    (h : skipBlanks text = c :: rest) (suffix : List Char) :
    skipBlanks (text ++ suffix) = c :: (rest ++ suffix) := by
  rw [skipBlanks_append (h ▸ List.cons_ne_nil c rest), h]
  rfl

theorem length_append_lt {more text : List Char} (h : more.length < text.length)
    (suffix : List Char) : (more ++ suffix).length < (text ++ suffix).length := by
  rw [List.length_append, List.length_append]
  exact Nat.add_lt_add_right h suffix.length

theorem readParts_append {c : Char} (hc : Inert c) (more : List Char) {text behind rest : List Char}
    {key : Key} (hne : key ≠ []) (h : TakesParts text key behind) (hbehind : behind = '=' :: rest) :
    Key.readParts (text ++ c :: more) =
      .ok (key.shift (c :: more).length, '=' :: (rest ++ c :: more)) := by
  induction h with
  | none text => exact absurd rfl hne
  | last hpart =>
      have hblanks := skipBlanks_append_of_cons hbehind (c :: more)
      rw [← hblanks]
      refine readParts_last ?_ fun more' hdot => ?_
      · rw [skipBlanks_append (skipBlanks_ne_nil_of_read? hpart)]
        exact read?_append hc more hpart
      · rw [hblanks] at hdot
        cases (List.cons.inj hdot).1
  | more hpart hdot hlt hkey ih =>
      refine readParts_more ?_ (skipBlanks_append_of_cons hdot _) (length_append_lt hlt _)
        (List.cons_ne_nil _ _) (ih (List.cons_ne_nil _ _) hbehind)
      rw [skipBlanks_append (skipBlanks_ne_nil_of_read? hpart)]
      exact read?_append hc more hpart

theorem readKey_append {c : Char} (hc : Inert c) (more : List Char) {text rest : List Char}
    {key : Key} (hne : key ≠ []) (h : Key.read text = .ok (key, '=' :: rest)) :
    Key.read (text ++ c :: more) =
      .ok (key.shift (c :: more).length, '=' :: (rest ++ c :: more)) := by
  obtain ⟨hparts, hlimit⟩ := readKey_eq_ok h
  refine readKey_of_readParts (readParts_append hc more hne hparts rfl) ?_
  rw [Key.shift, List.length_map]
  exact hlimit

theorem readKey_brace {text rest : List Char} (h : skipBlanks text = '}' :: rest) :
    Key.read text = .ok ([], text) := by
  have hparts : Key.readParts text = .ok ([], text) := by
    rw [Key.readParts, h]
    rfl
  exact readKey_of_readParts hparts (by decide)

def Extends (suffix : List Char) (value value' : Reader Node) : Prop :=
  ∀ text node rest, value text = .ok (node, rest) →
    value' (text ++ suffix) = .ok (node.shift suffix.length, rest ++ suffix)

section

variable {suffix : List Char} {value value' : Reader Node}

theorem skipGap_append {text rest : List Char} (h : skipGap text = .ok rest) (hrest : rest ≠ [])
    (suffix : List Char) : skipGap (text ++ suffix) = .ok (rest ++ suffix) :=
  skipGapFrom_append h hrest suffix

theorem head?_append_ne {text : List Char} (hne : text ≠ []) {c : Char}
    (h : ∀ inner, text ≠ c :: inner) : (text ++ suffix).head? ≠ some c := by
  obtain ⟨first, text, rfl⟩ := List.exists_cons_of_ne_nil hne
  intro hhead
  exact h text (congrArg (· :: text) (Option.some.inj hhead))

theorem ne_nil_of_reads (hlaid : ReadsLaid value) {text rest : List Char} {node : Node}
    (h : value text = .ok (node, rest)) : text ≠ [] := by
  rintro rfl
  exact Nat.not_lt_zero _ (hlaid _ _ _ h).2.2

variable (hlaid : ReadsLaid value) (hvalue : Extends suffix value value')

include hlaid hvalue

theorem readItems_append {text rest : List Char} {items : List Node}
    (h : TakesItems value text items rest) :
    readItems value' (text ++ suffix) =
      .ok (items.map (Node.shift suffix.length), rest ++ suffix) := by
  induction h with
  | none hclose => exact readItems_none (skipGap_append hclose (List.cons_ne_nil _ _) suffix)
  | last hgap hopen hitem hclose =>
      have hstart := ne_nil_of_reads hlaid hitem
      exact readItems_last (skipGap_append hgap hstart suffix) (head?_append_ne hstart hopen)
        (hvalue _ _ _ hitem) (skipGap_append hclose (List.cons_ne_nil _ _) suffix)
  | more hgap hopen hitem hcomma hlt hitems ih =>
      have hstart := ne_nil_of_reads hlaid hitem
      exact readItems_more (skipGap_append hgap hstart suffix) (head?_append_ne hstart hopen)
        (hvalue _ _ _ hitem) (skipGap_append hcomma (List.cons_ne_nil _ _) suffix)
        (length_append_lt hlt suffix) ih

theorem readAssigned_append {key : Key} {text rest : List Char} {pair : Assignment}
    (h : readAssigned value key text = .ok (pair, rest)) (hrest : skipBlanks rest ≠ []) :
    readAssigned value' (key.shift suffix.length) (text ++ suffix) =
      .ok (pair.shift suffix.length, rest ++ suffix) := by
  obtain ⟨more, below, rfl, hnode, rfl, rfl⟩ := readAssigned_eq_ok h
  have hbelow : skipBlanks below ≠ [] := fun hnil => hrest (congrArg skipBlanks hnil)
  have hnode' : value' (skipBlanks (more ++ suffix)) =
      .ok (pair.value.shift suffix.length, below ++ suffix) := by
    rw [skipBlanks_append (ne_nil_of_reads hlaid hnode)]
    exact hvalue _ _ _ hnode
  rw [List.cons_append, readAssigned_equals _ hnode', skipBlanks_append hbelow]
  rfl

theorem readPair_append (hends : Ends suffix) {text middle rest : List Char} {key : Key}
    {pair : Assignment} (hne : key ≠ []) (hkey : Key.read text = .ok (key, middle))
    (hpair : readAssigned value key middle = .ok (pair, rest)) (hrest : skipBlanks rest ≠ []) :
    Key.read (text ++ suffix) = .ok (key.shift suffix.length, middle ++ suffix) ∧
      readAssigned value' (key.shift suffix.length) (middle ++ suffix) =
        .ok (pair.shift suffix.length, rest ++ suffix) := by
  refine ⟨?_, readAssigned_append hlaid hvalue hpair hrest⟩
  obtain ⟨c, more, rfl, hc, -⟩ := hends.exists_cons
  obtain ⟨behind, below, rfl, -⟩ := readAssigned_eq_ok hpair
  exact readKey_append hc more hne hkey

theorem readPairs_append (hends : Ends suffix) {text rest behind : List Char}
    {pairs : List Assignment} (h : TakesPairs value text pairs rest)
    (hclose : skipBlanks rest = '}' :: behind) :
    readPairs value' (text ++ suffix) =
      .ok (pairs.map (Assignment.shift suffix.length), rest ++ suffix) := by
  induction h with
  | none hkey => exact readPairs_none (readKey_brace (skipBlanks_append_of_cons hclose suffix))
  | last hne hkey hpair =>
      have hblanks : skipBlanks _ ≠ [] := hclose ▸ List.cons_ne_nil _ _
      obtain ⟨hkey', hpair'⟩ := readPair_append hlaid hvalue hends hne hkey hpair hblanks
      refine readPairs_last hkey' (fun hnil => hne (List.map_eq_nil_iff.mp hnil)) hpair'
        (head?_append_ne (fun hnil => hblanks (congrArg skipBlanks hnil)) ?_)
      rintro inner rfl
      cases (List.cons.inj hclose).1
  | more hne hkey hpair hlt hpairs ih =>
      obtain ⟨hkey', hpair'⟩ := readPair_append hlaid hvalue hends hne hkey hpair
        (List.cons_ne_nil ',' _)
      exact readPairs_more hkey' (fun hnil => hne (List.map_eq_nil_iff.mp hnil)) hpair'
        (length_append_lt hlt suffix) (List.cons_ne_nil _ _) (ih hclose)

theorem readInline_append (hends : Ends suffix) {text rest : List Char} {entries : Entries}
    (h : readInline value text = .ok (entries, rest)) :
    readInline value' (text ++ suffix) = .ok (entries.shift suffix.length, rest ++ suffix) := by
  obtain ⟨pairs, middle, hpairs, hassign, hclose⟩ := readInline_eq_ok h
  have hassign' := Entries.assignAll_shift suffix.length [] pairs
  rw [hassign] at hassign'
  exact readInline_brace (readPairs_append hlaid hvalue hends (readPairs_eq_ok hpairs) hclose)
    hassign' (skipBlanks_append_of_cons hclose suffix)

end

/-! Values: by induction on the depth to which they are nested. -/

theorem shift_between (text rest suffix : List Char) :
    Span.shift suffix.length ⟨text.length, rest.length⟩ =
      ⟨(text ++ suffix).length, (rest ++ suffix).length⟩ := by
  rw [Span.shift, List.length_append, List.length_append]

theorem extends_scalar {suffix : List Char} (hends : Ends suffix) (depth : Nat)
    {text rest : List Char} {scalar : Scalar} (harray : ∀ inner, text ≠ '[' :: inner)
    (htable : ∀ inner, text ≠ '{' :: inner) (h : readScalar text = .ok (scalar, rest)) :
    readValue depth (text ++ suffix) =
      .ok (Node.shift suffix.length (.scalar ⟨text.length, rest.length⟩ scalar),
        rest ++ suffix) := by
  have hne : text ≠ [] := by
    rintro rfl
    exact Nat.not_lt_zero _ (behind_of_readScalar h).length_lt
  rw [Node.shift_scalar, shift_between]
  exact readValue_scalar depth (head?_append_ne hne harray) (head?_append_ne hne htable)
    (readScalar_append hends h)

/-- A value is read in front of what may follow it as it is read alone, also where deeper nesting is
allowed. -/
theorem extends_readValue {suffix : List Char} (hends : Ends suffix) {depth depth' : Nat}
    (hdepth : depth ≤ depth') : Extends suffix (readValue depth) (readValue depth') := by
  induction depth generalizing depth' with
  | zero =>
      intro text node rest h
      obtain ⟨_, _, _, _, hless, -⟩ | ⟨_, _, _, _, hless, -⟩ |
        ⟨scalar, harray, htable, hscalar, rfl⟩ := readValue_cases h
      · cases hless
      · cases hless
      · exact extends_scalar hends depth' harray htable hscalar
  | succ depth ih =>
      obtain ⟨depth', rfl⟩ := Nat.exists_eq_add_of_lt hdepth
      have hinner := ih (Nat.le_add_right depth depth')
      have hlaid := readsLaid_readValue depth
      intro text node rest h
      obtain ⟨inner, less, items, rfl, hless, hitems, rfl⟩ |
        ⟨inner, less, entries, rfl, hless, hentries, rfl⟩ |
        ⟨scalar, harray, htable, hscalar, rfl⟩ := readValue_cases h
      · obtain rfl := Nat.succ.inj hless
        rw [Node.shift_array, shift_between]
        exact readValue_array (readItems_append hlaid hinner (readItems_eq_ok hitems))
      · obtain rfl := Nat.succ.inj hless
        rw [Node.shift_table, shift_between]
        exact readValue_inline (readInline_append hlaid hinner hends hentries)
      · exact extends_scalar hends _ harray htable hscalar

def Leads (c : Char) : Prop :=
  c ∉ [' ', '\t', '\n', '\r', '#', ']']

instance (c : Char) : Decidable (Leads c) :=
  inferInstanceAs (Decidable (_ ∉ _))

theorem Leads.ne {c other : Char} (h : Leads c) (hother : ¬ Leads other) : c ≠ other := by
  rintro rfl
  exact hother h

theorem Leads.isBlank {c : Char} (h : Leads c) : isBlank c = false := by
  simp [Toml.isBlank, h.ne (by decide : ¬ Leads ' '), h.ne (by decide : ¬ Leads '\t')]

theorem Leads.skipGap {c : Char} (h : Leads c) (more : List Char) :
    skipGap (c :: more) = .ok (c :: more) := by
  rw [Toml.skipGap, skipGapFrom_cons (h.ne (by decide)) (h.ne (by decide)), if_neg (by decide),
    if_neg (by rw [h.isBlank]; decide), if_neg (h.ne (by decide))]

theorem readWord_fails {c : Char} (hdigit : c.isDigit = false)
    (hother : c ∉ ['t', 'f', '+', '-', 'i', 'n']) (rest : List Char) :
    readWord (c :: rest) = stopAt (c :: rest) := by
  simp only [List.mem_cons, List.not_mem_nil, or_false, not_or] at hother
  obtain ⟨htrue, hfalse, hplus, hminus, hinf, hnan⟩ := hother
  have hzero : c ≠ '0' := by
    rintro rfl
    cases hdigit
  have hdate : DateTime.opensDate (c :: rest) = false := by
    rw [← Bool.not_eq_true, DateTime.opensDate_iff]
    rintro ⟨c₁, c₂, c₃, c₄, rest', heq, hdigits⟩
    rw [(List.cons.inj heq).1, hdigits c₁ List.mem_cons_self] at hdigit
    cases hdigit
  have htime : DateTime.opensTime (c :: rest) = false := by
    rw [← Bool.not_eq_true, DateTime.opensTime_iff]
    rintro ⟨c₁, c₂, rest', heq, hfirst, -⟩
    rw [(List.cons.inj heq).1, hfirst] at hdigit
    cases hdigit
  have hsign : Number.sign (c :: rest) = (false, c :: rest) := by
    rw [Number.sign]
    · exact fun _ heq => hminus (List.cons.inj heq).1
    · exact fun _ heq => hplus (List.cons.inj heq).1
  have hwhole : Number.readWhole (c :: rest) = stopAt (c :: rest) := by
    rw [Number.readWhole, Number.readDigits, if_neg (by rw [hdigit]; decide)]
    exact fun _ heq => hzero (List.cons.inj heq).1
  have hnumber : Number.read (c :: rest) = stopAt (c :: rest) := by
    rw [Number.read, hsign]
    · dsimp only
      split
      · rename_i heq
        exact absurd (List.cons.inj heq).1 hinf
      · rename_i heq
        exact absurd (List.cons.inj heq).1 hnan
      · rw [hwhole]
        rfl
    all_goals exact fun _ heq => hzero (List.cons.inj heq).1
  rw [readWord_eq, hdate, htime, hnumber]
  · rfl
  · exact fun _ heq => htrue (List.cons.inj heq).1
  · exact fun _ heq => hfalse (List.cons.inj heq).1

theorem leads_of_readWord {c : Char} {more rest : List Char} {scalar : Scalar}
    (h : readWord (c :: more) = .ok (scalar, rest)) : Leads c := by
  intro hgap
  have hfails : readWord (c :: more) = stopAt (c :: more) := by
    simp only [List.mem_cons, List.not_mem_nil, or_false] at hgap
    apply readWord_fails
    · rcases hgap with rfl | rfl | rfl | rfl | rfl | rfl
      all_goals decide
    · rcases hgap with rfl | rfl | rfl | rfl | rfl | rfl
      all_goals decide
  rw [hfails] at h
  cases h

theorem leads_of_readScalar {c : Char} {more rest : List Char} {scalar : Scalar}
    (h : readScalar (c :: more) = .ok (scalar, rest)) : Leads c := by
  by_cases hquote : c = '"'
  · subst hquote
    decide
  · by_cases hapostrophe : c = '\''
    · subst hapostrophe
      decide
    · rw [readScalar] at h
      · exact leads_of_readWord h
      · exact fun _ heq => hquote (List.cons.inj heq).1
      · exact fun _ heq => hquote (List.cons.inj heq).1
      · exact fun _ heq => hapostrophe (List.cons.inj heq).1
      · exact fun _ heq => hapostrophe (List.cons.inj heq).1

theorem leads_of_readValue {depth : Nat} {text rest : List Char} {node : Node}
    (h : readValue depth text = .ok (node, rest)) : ∃ c more, text = c :: more ∧ Leads c := by
  obtain ⟨c, more, rfl⟩ := List.exists_cons_of_ne_nil
    (ne_nil_of_reads (readsLaid_readValue depth) h)
  refine ⟨c, more, rfl, ?_⟩
  by_cases harray : c = '['
  · subst harray
    decide
  · by_cases htable : c = '{'
    · subst htable
      decide
    · rw [readValue] at h
      · obtain ⟨⟨scalar, rest'⟩, hscalar, -⟩ := bind_eq_ok h
        exact leads_of_readScalar hscalar
      · exact fun _ heq => harray (List.cons.inj heq).1
      · exact fun _ heq => htable (List.cons.inj heq).1

end Reftest.Toml
