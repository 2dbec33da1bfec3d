import Reftest.Proofs.Toml.Extent

namespace Reftest.Toml

/-- The parts of a key, each but the last with a dot behind it. -/
inductive TakesParts : List Char → Key → List Char → Prop where
  | none (text : List Char) : TakesParts text [] text
  | last {text behind : List Char} {part : KeyPart}
      (hpart : KeyPart.read? (skipBlanks text) = .ok (some (part, behind))) :
      TakesParts text [part] (skipBlanks behind)
  | more {text behind more rest : List Char} {part next : KeyPart} {key : Key}
      (hpart : KeyPart.read? (skipBlanks text) = .ok (some (part, behind)))
      (hdot : skipBlanks behind = '.' :: more) (hlt : more.length < text.length)
      (hkey : TakesParts more (next :: key) rest) : TakesParts text (part :: next :: key) rest

theorem readParts_eq_ok {text rest : List Char} {key : Key}
    (h : Key.readParts text = .ok (key, rest)) : TakesParts text key rest := by
  fun_induction Key.readParts text generalizing key rest with
  | case1 => cases h
  | case2 text hnone =>
      obtain ⟨rfl, rfl⟩ := Prod.mk.inj (Except.ok.inj h)
      exact .none text
  | case3 => cases h
  | case4 text part behind hpart more hdot hlt rest' hparts ih =>
      obtain ⟨rfl, rfl⟩ := Prod.mk.inj (Except.ok.inj h)
      exact hdot ▸ .last hpart
  | case5 text part behind hpart more hdot hlt key' rest' hne hparts ih =>
      obtain ⟨rfl, rfl⟩ := Prod.mk.inj (Except.ok.inj h)
      obtain ⟨next, key, rfl⟩ := List.exists_cons_of_ne_nil fun hnil => hne hnil
      exact .more hpart hdot hlt (ih hparts)
  | case6 text part behind hpart more hdot hlt =>
      obtain ⟨rfl, rfl⟩ := Prod.mk.inj (Except.ok.inj h)
      exact hdot ▸ .last hpart
  | case7 text part behind hpart hdot =>
      obtain ⟨rfl, rfl⟩ := Prod.mk.inj (Except.ok.inj h)
      exact .last hpart

theorem readKey_eq_ok {text rest : List Char} {key : Key} (h : Key.read text = .ok (key, rest)) :
    TakesParts text key rest ∧ key.length < Key.partLimit := by
  unfold Key.read at h
  split at h
  · cases h
  · rename_i key' rest' hparts
    split at h
    · rename_i hlimit
      obtain ⟨rfl, rfl⟩ := Prod.mk.inj (Except.ok.inj h)
      exact ⟨readParts_eq_ok hparts, hlimit⟩
    · obtain ⟨rfl, rfl⟩ := Prod.mk.inj (Except.ok.inj h)
      exact ⟨.none text, by decide⟩

theorem suffix_of_part {text behind : List Char} {part : KeyPart}
    (h : KeyPart.read? (skipBlanks text) = .ok (some (part, behind))) :
    skipBlanks behind <:+ text :=
  (suffix_skipBlanks behind).trans
    ((span_of_read? h).2.suffix.trans (suffix_skipBlanks text))

theorem TakesParts.suffix {text rest : List Char} {key : Key} (h : TakesParts text key rest) :
    rest <:+ text := by
  induction h with
  | none text => exact List.suffix_refl text
  | last hpart => exact suffix_of_part hpart
  | more hpart hdot hlt hkey ih =>
      exact ih.trans ((List.suffix_cons '.' _).trans (hdot ▸ suffix_of_part hpart))

theorem suffix_of_readKey {text rest : List Char} {key : Key}
    (h : Key.read text = .ok (key, rest)) : rest <:+ text :=
  (readKey_eq_ok h).1.suffix

section

variable {value : Reader Node} {text rest : List Char}

inductive TakesItems (value : Reader Node) : List Char → List Node → List Char → Prop where
  | none {text rest : List Char} (hclose : skipGap text = .ok (']' :: rest)) :
      TakesItems value text [] rest
  | last {text start behind rest : List Char} {item : Node} (hgap : skipGap text = .ok start)
      (hopen : ∀ inner, start ≠ ']' :: inner) (hitem : value start = .ok (item, behind))
      (hclose : skipGap behind = .ok (']' :: rest)) : TakesItems value text [item] rest
  | more {text start behind more rest : List Char} {item : Node} {items : List Node}
      (hgap : skipGap text = .ok start) (hopen : ∀ inner, start ≠ ']' :: inner)
      (hitem : value start = .ok (item, behind)) (hcomma : skipGap behind = .ok (',' :: more))
      (hlt : more.length < text.length) (hitems : TakesItems value more items rest) :
      TakesItems value text (item :: items) rest

theorem readItems_eq_ok {items : List Node} (h : readItems value text = .ok (items, rest)) :
    TakesItems value text items rest := by
  fun_induction readItems value text generalizing items rest with
  | case1 => cases h
  | case2 text behind hclose =>
      obtain ⟨rfl, rfl⟩ := Prod.mk.inj (Except.ok.inj h)
      exact .none hclose
  | case3 => cases h
  | case4 => cases h
  | case5 text start hopen hgap item behind hitem rest' hclose =>
      obtain ⟨rfl, rfl⟩ := Prod.mk.inj (Except.ok.inj h)
      exact .last hgap hopen hitem hclose
  | case6 => cases h
  | case7 text start hopen hgap item behind hitem more hcomma hlt items' rest' hitems ih =>
      obtain ⟨rfl, rfl⟩ := Prod.mk.inj (Except.ok.inj h)
      exact .more hgap hopen hitem hcomma hlt (ih hitems)
  | case8 => cases h
  | case9 => cases h

theorem readAssigned_eq_ok {key : Key} {pair : Assignment}
    (h : readAssigned value key text = .ok (pair, rest)) :
    ∃ more below, text = '=' :: more ∧ value (skipBlanks more) = .ok (pair.value, below) ∧
      pair.key = key ∧ rest = skipBlanks below := by
  unfold readAssigned at h
  split at h
  · rename_i more
    obtain ⟨⟨node, below⟩, hnode, h⟩ := bind_eq_ok h
    obtain ⟨rfl, rfl⟩ := Prod.mk.inj (Except.ok.inj h)
    exact ⟨more, below, rfl, hnode, rfl, rfl⟩
  · cases h

inductive TakesPairs (value : Reader Node) : List Char → List Assignment → List Char → Prop where
  | none {text rest : List Char} (hkey : Key.read text = .ok ([], rest)) :
      TakesPairs value text [] text
  | last {text middle rest : List Char} {pair : Assignment} (hne : pair.key ≠ [])
      (hkey : Key.read text = .ok (pair.key, middle))
      (hpair : readAssigned value pair.key middle = .ok (pair, rest)) :
      TakesPairs value text [pair] rest
  | more {text middle more rest : List Char} {pair next : Assignment} {pairs : List Assignment}
      (hne : pair.key ≠ []) (hkey : Key.read text = .ok (pair.key, middle))
      (hpair : readAssigned value pair.key middle = .ok (pair, ',' :: more))
      (hlt : more.length < text.length) (hpairs : TakesPairs value more (next :: pairs) rest) :
      TakesPairs value text (pair :: next :: pairs) rest

theorem readPairs_eq_ok {pairs : List Assignment} (h : readPairs value text = .ok (pairs, rest)) :
    TakesPairs value text pairs rest := by
  fun_induction readPairs value text generalizing pairs rest with
  | case1 => cases h
  | case2 text behind hkey =>
      obtain ⟨rfl, rfl⟩ := Prod.mk.inj (Except.ok.inj h)
      exact .none hkey
  | case3 => cases h
  | case4 => cases h
  | case5 text key middle hne hkey pair more hpair hlt behind hpairs ih =>
      obtain ⟨rfl, rfl⟩ := Prod.mk.inj (Except.ok.inj h)
      obtain ⟨-, -, -, -, rfl, -⟩ := readAssigned_eq_ok hpair
      exact .last (fun hnil => hne hnil) hkey hpair
  | case6 text key middle hne hkey pair more hpair hlt pairs' behind hne' hpairs ih =>
      obtain ⟨rfl, rfl⟩ := Prod.mk.inj (Except.ok.inj h)
      obtain ⟨-, -, -, -, rfl, -⟩ := readAssigned_eq_ok hpair
      obtain ⟨next, pairs, rfl⟩ := List.exists_cons_of_ne_nil fun hnil => hne' hnil
      exact .more (fun hnil => hne hnil) hkey hpair hlt (ih hpairs)
  | case7 => cases h
  | case8 text key middle hne hkey pair behind hcomma hpair =>
      obtain ⟨rfl, rfl⟩ := Prod.mk.inj (Except.ok.inj h)
      obtain ⟨-, -, -, -, rfl, -⟩ := readAssigned_eq_ok hpair
      exact .last (fun hnil => hne hnil) hkey hpair

theorem readInline_eq_ok {entries : Entries} (h : readInline value text = .ok (entries, rest)) :
    ∃ pairs behind, readPairs value text = .ok (pairs, behind) ∧
      Entries.assignAll [] pairs = some entries ∧ skipBlanks behind = '}' :: rest := by
  obtain ⟨⟨pairs, behind⟩, hpairs, h⟩ := bind_eq_ok h
  dsimp only at h
  split at h
  · cases h
  · rename_i entries' hassign
    split at h
    · rename_i rest' hclose
      obtain ⟨rfl, rfl⟩ := Prod.mk.inj (Except.ok.inj h)
      exact ⟨pairs, behind, hpairs, hassign, hclose⟩
    · cases h

end

theorem readValue_cases {depth : Nat} {text rest : List Char} {node : Node}
    (h : readValue depth text = .ok (node, rest)) :
    (∃ inner less items, text = '[' :: inner ∧ depth = less + 1 ∧
      readItems (readValue less) inner = .ok (items, rest) ∧
        node = .array ⟨text.length, rest.length⟩ items) ∨
    (∃ inner less entries, text = '{' :: inner ∧ depth = less + 1 ∧
      readInline (readValue less) inner = .ok (entries, rest) ∧
        node = .table .inline ⟨text.length, rest.length⟩ entries) ∨
    ∃ scalar, (∀ inner, text ≠ '[' :: inner) ∧ (∀ inner, text ≠ '{' :: inner) ∧
      readScalar text = .ok (scalar, rest) ∧ node = .scalar ⟨text.length, rest.length⟩ scalar := by
  unfold readValue at h
  split at h
  · rename_i inner
    split at h
    · cases h
    · rename_i less
      obtain ⟨⟨items, rest'⟩, hitems, h⟩ := bind_eq_ok h
      obtain ⟨rfl, rfl⟩ := Prod.mk.inj (Except.ok.inj h)
      exact Or.inl ⟨inner, less, items, rfl, rfl, hitems, rfl⟩
  · rename_i inner
    split at h
    · cases h
    · rename_i less
      obtain ⟨⟨entries, rest'⟩, hentries, h⟩ := bind_eq_ok h
      obtain ⟨rfl, rfl⟩ := Prod.mk.inj (Except.ok.inj h)
      exact Or.inr (Or.inl ⟨inner, less, entries, rfl, rfl, hentries, rfl⟩)
  · rename_i harray htable
    obtain ⟨⟨scalar, rest'⟩, hscalar, h⟩ := bind_eq_ok h
    obtain ⟨rfl, rfl⟩ := Prod.mk.inj (Except.ok.inj h)
    exact Or.inr (Or.inr ⟨scalar, harray, htable, hscalar, rfl⟩)

theorem suffix_of_endLine {text rest : List Char} (h : endLine text = .ok rest) :
    rest <:+ text := by
  rcases behind_of_endLine h with rfl | hbehind
  · exact List.nil_suffix
  · exact hbehind.suffix

theorem readHeader_eq_ok {start : Nat} {element : Bool} {inner behind : List Char} {header : Header}
    (h : Entry.readHeader start element inner = .ok (header, behind)) :
    ∃ middle, Key.read inner = .ok (header.path, middle) ∧ Behind behind middle ∧
      header.span = ⟨start, behind.length⟩ := by
  obtain ⟨⟨path, middle⟩, hpath, h⟩ := bind_eq_ok h
  dsimp only at h
  split at h
  · cases h
  · split at h
    · split at h
      · split at h
        · obtain ⟨rfl, rfl⟩ := Prod.mk.inj (Except.ok.inj h)
          exact ⟨_, hpath, behind_cons ']' (List.suffix_cons ']' _), rfl⟩
        · cases h
      · obtain ⟨rfl, rfl⟩ := Prod.mk.inj (Except.ok.inj h)
        exact ⟨_, hpath, behind_cons ']' (List.suffix_refl _), rfl⟩
    · cases h

inductive Bracketed : (place : List Char) → Header → (inner behind : List Char) → Prop where
  | single {inner behind : List Char} {header : Header} (hinner : inner.head? ≠ some '[')
      (h : Entry.readHeader (inner.length + 1) false inner = .ok (header, behind)) :
      Bracketed ('[' :: inner) header inner behind
  | double {inner behind : List Char} {header : Header}
      (h : Entry.readHeader (inner.length + 2) true inner = .ok (header, behind)) :
      Bracketed ('[' :: '[' :: inner) header inner behind

namespace Bracketed

variable {place inner behind : List Char} {header : Header}

theorem readHeader (h : Bracketed place header inner behind) :
    ∃ element, Entry.readHeader place.length element inner = .ok (header, behind) := by
  cases h with
  | single _ h => exact ⟨false, h⟩
  | double h => exact ⟨true, h⟩

theorem readKey (h : Bracketed place header inner behind) :
    ∃ middle, Key.read inner = .ok (header.path, middle) ∧ Behind behind middle := by
  obtain ⟨element, hheader⟩ := h.readHeader
  obtain ⟨middle, hkey, hbehind, -⟩ := readHeader_eq_ok hheader
  exact ⟨middle, hkey, hbehind⟩

theorem span (h : Bracketed place header inner behind) :
    header.span = ⟨place.length, behind.length⟩ := by
  obtain ⟨element, hheader⟩ := h.readHeader
  obtain ⟨-, -, -, hspan⟩ := readHeader_eq_ok hheader
  exact hspan

theorem suffix (h : Bracketed place header inner behind) : behind <:+ inner := by
  obtain ⟨middle, hkey, hbehind⟩ := h.readKey
  exact hbehind.suffix.trans (suffix_of_readKey hkey)

theorem head? (h : Bracketed place header inner behind) : place.head? = some '[' := by
  cases h with
  | single => rfl
  | double => rfl

theorem behind_inner (h : Bracketed place header inner behind) : Behind inner place := by
  cases h with
  | single => exact behind_cons '[' (List.suffix_refl inner)
  | double => exact behind_cons '[' (List.suffix_cons '[' inner)

end Bracketed

theorem line_of_entry {entry : Entry} {rest : List Char} (content : Entry) (behind : List Char)
    (h : (endLine behind >>= fun rest => pure (content, rest)) = .ok (entry, rest)) :
    entry = content ∧ endLine behind = .ok rest := by
  obtain ⟨rest', hline, h⟩ := bind_eq_ok h
  obtain ⟨rfl, rfl⟩ := Prod.mk.inj (Except.ok.inj h)
  exact ⟨rfl, hline⟩

theorem readEntry_cases {text rest : List Char} {entry : Entry}
    (h : Entry.read text = .ok (entry, rest)) :
    (∃ header inner behind, entry = .header header ∧ Bracketed text header inner behind ∧
      endLine behind = .ok rest) ∨
    ∃ assigned middle behind, entry = .assignment text.length assigned ∧
      Key.read text = .ok (assigned.key, middle) ∧
      readAssigned (readValue depthLimit) assigned.key middle = .ok (assigned, behind) ∧
      endLine behind = .ok rest := by
  unfold Entry.read at h
  dsimp only at h
  split at h
  · rename_i inner
    obtain ⟨⟨header, behind⟩, hheader, h⟩ := bind_eq_ok h
    obtain ⟨rfl, hline⟩ := line_of_entry (.header header) behind h
    exact Or.inl ⟨header, inner, behind, rfl, .double hheader, hline⟩
  · rename_i inner hsingle
    obtain ⟨⟨header, behind⟩, hheader, h⟩ := bind_eq_ok h
    obtain ⟨rfl, hline⟩ := line_of_entry (.header header) behind h
    refine Or.inl ⟨header, inner, behind, rfl, .single ?_ hheader, hline⟩
    intro hhead
    obtain ⟨more, rfl⟩ := List.head?_eq_some_iff.mp hhead
    exact hsingle more rfl
  · obtain ⟨⟨key, middle⟩, hkey, h⟩ := bind_eq_ok h
    dsimp only at h
    split at h
    · cases h
    · obtain ⟨⟨assigned, behind⟩, hassigned, h⟩ := bind_eq_ok h
      obtain ⟨rfl, hline⟩ := line_of_entry (.assignment text.length assigned) behind h
      obtain ⟨-, -, -, -, rfl, -⟩ := readAssigned_eq_ok hassigned
      exact Or.inr ⟨assigned, middle, behind, rfl, hkey, hassigned, hline⟩

end Reftest.Toml
