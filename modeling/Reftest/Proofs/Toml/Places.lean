import Reftest.Proofs.Toml.Grammar
import Reftest.Proofs.Toml.Provenance

namespace Reftest.Toml

/-- Reading one thing after the other leads from a text to a place in it. -/
inductive Reaches {Item : Type} (next : List Char → Item → List Char → Prop) :
    List Char → List Item → List Char → Prop where
  | here (text : List Char) : Reaches next text [] text
  | next {text more place : List Char} {item : Item} {items : List Item}
      (hitem : next text item more) (hitems : Reaches next more items place) :
      Reaches next text (item :: items) place

section

variable {Item : Type} {next : List Char → Item → List Char → Prop} {text place more : List Char}
  {item : Item} {items : List Item}

theorem Reaches.concat (h : Reaches next text items place) (hitem : next place item more) :
    Reaches next text (items ++ [item]) more := by
  induction h with
  | here text => exact .next hitem (.here more)
  | next hfirst hrest ih => exact .next hfirst (ih hitem)

theorem Reaches.suffix (h : Reaches next text items place)
    (hnext : ∀ text item more, next text item more → more <:+ text) : place <:+ text := by
  induction h with
  | here text => exact List.suffix_refl text
  | next hitem hitems ih => exact ih.trans (hnext _ _ _ hitem)

end

theorem cons_eq_append_cons {Item : Type} {first item : Item} {items left right : List Item}
    (h : first :: items = left ++ item :: right) :
    left = [] ∧ first = item ∧ items = right ∨
      ∃ others, left = first :: others ∧ items = others ++ item :: right := by
  cases left with
  | nil =>
      obtain ⟨rfl, rfl⟩ := List.cons.inj h
      exact Or.inl ⟨rfl, rfl, rfl⟩
  | cons other others =>
      obtain ⟨rfl, rfl⟩ := List.cons.inj h
      exact Or.inr ⟨others, rfl, rfl⟩

theorem single_eq_append_cons {Item : Type} {first item : Item} {left right : List Item}
    (h : [first] = left ++ item :: right) : left = [] ∧ first = item := by
  obtain ⟨hleft, hfirst, -⟩ | ⟨others, -, hnil⟩ := cons_eq_append_cons h
  · exact ⟨hleft, hfirst⟩
  · exact absurd hnil (List.append_ne_nil_of_right_ne_nil _ (List.cons_ne_nil _ _)).symm

theorem nil_ne_append_cons {Item : Type} (left right : List Item) (item : Item) :
    [] ≠ left ++ item :: right :=
  (List.append_ne_nil_of_right_ne_nil left (List.cons_ne_nil item right)).symm

def NextPart (text : List Char) (part : KeyPart) (more : List Char) : Prop :=
  ∃ rest, KeyPart.read? (skipBlanks text) = .ok (some (part, rest)) ∧
    skipBlanks rest = '.' :: more

theorem NextPart.suffix {text more : List Char} {part : KeyPart} (h : NextPart text part more) :
    more <:+ text := by
  obtain ⟨rest, hpart, hdot⟩ := h
  exact (List.suffix_cons '.' more).trans (hdot ▸ suffix_of_part hpart)

theorem TakesParts.reaches {text rest : List Char} {key left right : Key} {part : KeyPart}
    (h : TakesParts text key rest) (hkey : key = left ++ part :: right) :
    ∃ place behind, Reaches NextPart text left place ∧
      KeyPart.read? (skipBlanks place) = .ok (some (part, behind)) := by
  induction h generalizing left with
  | none text => exact absurd hkey (nil_ne_append_cons left right part)
  | last hpart =>
      obtain ⟨rfl, rfl⟩ := single_eq_append_cons hkey
      exact ⟨_, _, .here _, hpart⟩
  | more hpart hdot hlt hmore ih =>
      obtain ⟨rfl, rfl, -⟩ | ⟨others, rfl, hothers⟩ := cons_eq_append_cons hkey
      · exact ⟨_, _, .here _, hpart⟩
      · obtain ⟨place, behind, hplace, hbehind⟩ := ih hothers
        exact ⟨place, behind, .next ⟨_, hpart, hdot⟩ hplace, hbehind⟩

section

variable {value : Reader Node} {text rest : List Char}

def ReadsSpans (value : Reader Node) : Prop :=
  ∀ text node rest, value text = .ok (node, rest) →
    Behind rest text ∧ node.IsValue ∧ node.span = ⟨text.length, rest.length⟩

def NextItem (value : Reader Node) (text : List Char) (item : Node) (more : List Char) : Prop :=
  ∃ start rest, skipGap text = .ok start ∧ value start = .ok (item, rest) ∧
    skipGap rest = .ok (',' :: more)

theorem suffix_of_item (hvalue : ReadsSpans value) {start behind : List Char} {item : Node}
    {mark : Char} (hgap : skipGap text = .ok start) (hitem : value start = .ok (item, behind))
    (hmark : skipGap behind = .ok (mark :: rest)) : rest <:+ text :=
  (List.suffix_cons mark rest).trans ((suffix_of_skipGap hmark).trans
    ((hvalue _ _ _ hitem).1.suffix.trans (suffix_of_skipGap hgap)))

theorem NextItem.suffix (hvalue : ReadsSpans value) {text more : List Char} {item : Node}
    (h : NextItem value text item more) : more <:+ text := by
  obtain ⟨start, behind, hgap, hitem, hcomma⟩ := h
  exact suffix_of_item hvalue hgap hitem hcomma

theorem TakesItems.suffix (hvalue : ReadsSpans value) {items : List Node}
    (h : TakesItems value text items rest) : rest <:+ text := by
  induction h with
  | none hclose => exact (List.suffix_cons ']' _).trans (suffix_of_skipGap hclose)
  | last hgap hopen hitem hclose => exact suffix_of_item hvalue hgap hitem hclose
  | more hgap hopen hitem hcomma hlt hitems ih =>
      exact ih.trans (suffix_of_item hvalue hgap hitem hcomma)

theorem TakesItems.reaches {items left right : List Node} {item : Node}
    (h : TakesItems value text items rest) (hitems : items = left ++ item :: right) :
    ∃ place start behind, Reaches (NextItem value) text left place ∧ skipGap place = .ok start ∧
      value start = .ok (item, behind) := by
  induction h generalizing left with
  | none hclose => exact absurd hitems (nil_ne_append_cons left right item)
  | last hgap hopen hitem hclose =>
      obtain ⟨rfl, rfl⟩ := single_eq_append_cons hitems
      exact ⟨_, _, _, .here _, hgap, hitem⟩
  | more hgap hopen hitem hcomma hlt hmore ih =>
      obtain ⟨rfl, rfl, -⟩ | ⟨others, rfl, hothers⟩ := cons_eq_append_cons hitems
      · exact ⟨_, _, _, .here _, hgap, hitem⟩
      · obtain ⟨place, start, behind, hplace, hbehind⟩ := ih hothers
        exact ⟨place, start, behind, .next ⟨_, _, hgap, hitem, hcomma⟩ hplace, hbehind⟩

theorem suffix_of_readAssigned (hvalue : ReadsSpans value) {key : Key} {pair : Assignment}
    (h : readAssigned value key text = .ok (pair, rest)) : rest <:+ text := by
  obtain ⟨more, below, rfl, hnode, -, rfl⟩ := readAssigned_eq_ok h
  exact (suffix_skipBlanks below).trans ((hvalue _ _ _ hnode).1.suffix.trans
    ((suffix_skipBlanks more).trans (List.suffix_cons '=' more)))

def NextPair (value : Reader Node) (text : List Char) (pair : Assignment) (more : List Char) :
    Prop :=
  ∃ rest, Key.read text = .ok (pair.key, rest) ∧
    readAssigned value pair.key rest = .ok (pair, ',' :: more)

theorem NextPair.suffix (hvalue : ReadsSpans value) {text more : List Char} {pair : Assignment}
    (h : NextPair value text pair more) : more <:+ text := by
  obtain ⟨rest, hkey, hpair⟩ := h
  exact (List.suffix_cons ',' more).trans
    ((suffix_of_readAssigned hvalue hpair).trans (suffix_of_readKey hkey))

theorem TakesPairs.suffix (hvalue : ReadsSpans value) {pairs : List Assignment}
    (h : TakesPairs value text pairs rest) : rest <:+ text := by
  induction h with
  | none hkey => exact List.suffix_refl _
  | last hne hkey hpair =>
      exact (suffix_of_readAssigned hvalue hpair).trans (suffix_of_readKey hkey)
  | more hne hkey hpair hlt hpairs ih => exact ih.trans (NextPair.suffix hvalue ⟨_, hkey, hpair⟩)

theorem TakesPairs.reaches {pairs left right : List Assignment} {pair : Assignment}
    (h : TakesPairs value text pairs rest) (hpairs : pairs = left ++ pair :: right) :
    ∃ place rest more, Reaches (NextPair value) text left place ∧
      Key.read place = .ok (pair.key, rest) ∧
        readAssigned value pair.key rest = .ok (pair, more) := by
  induction h generalizing left with
  | none hkey => exact absurd hpairs (nil_ne_append_cons left right pair)
  | last hne hkey hpair =>
      obtain ⟨rfl, rfl⟩ := single_eq_append_cons hpairs
      exact ⟨_, _, _, .here _, hkey, hpair⟩
  | more hne hkey hpair hlt hmore ih =>
      obtain ⟨rfl, rfl, -⟩ | ⟨others, rfl, hothers⟩ := cons_eq_append_cons hpairs
      · exact ⟨_, _, _, .here _, hkey, hpair⟩
      · obtain ⟨place, rest', more', hplace, hbehind⟩ := ih hothers
        exact ⟨place, rest', more', .next ⟨_, hkey, hpair⟩ hplace, hbehind⟩

theorem suffix_of_readInline (hvalue : ReadsSpans value) {entries : Entries}
    (h : readInline value text = .ok (entries, rest)) : rest <:+ text := by
  obtain ⟨pairs, behind, hpairs, -, hclose⟩ := readInline_eq_ok h
  have hbehind := (readPairs_eq_ok hpairs).suffix hvalue
  have hrest : '}' :: rest <:+ text := hclose ▸ (suffix_skipBlanks behind).trans hbehind
  exact (List.suffix_cons '}' rest).trans hrest

end

theorem readsSpans_readValue (depth : Nat) : ReadsSpans (readValue depth) := by
  induction depth with
  | zero =>
      intro text node rest h
      obtain ⟨_, _, _, _, hdepth, -⟩ | ⟨_, _, _, _, hdepth, -⟩ | ⟨scalar, -, -, hscalar, rfl⟩ :=
        readValue_cases h
      · cases hdepth
      · cases hdepth
      · exact ⟨behind_of_readScalar hscalar, trivial, rfl⟩
  | succ depth ih =>
      intro text node rest h
      obtain ⟨inner, less, items, rfl, hdepth, hitems, rfl⟩ |
        ⟨inner, less, entries, rfl, hdepth, hentries, rfl⟩ | ⟨scalar, -, -, hscalar, rfl⟩ :=
        readValue_cases h
      · obtain rfl := Nat.succ.inj hdepth
        exact ⟨behind_cons '[' ((readItems_eq_ok hitems).suffix ih), trivial, rfl⟩
      · obtain rfl := Nat.succ.inj hdepth
        exact ⟨behind_cons '{' (suffix_of_readInline ih hentries), trivial, rfl⟩
      · exact ⟨behind_of_readScalar hscalar, trivial, rfl⟩

inductive Skips : List Char → List Char → Prop where
  | blanks (text : List Char) : Skips text (skipBlanks text)
  | line {text rest place : List Char} (hline : endLine (skipBlanks text) = .ok rest)
      (h : Skips rest place) : Skips text place

theorem Skips.suffix {text place : List Char} (h : Skips text place) : place <:+ text := by
  induction h with
  | blanks text => exact suffix_skipBlanks text
  | line hline h ih => exact ih.trans ((suffix_of_endLine hline).trans (suffix_skipBlanks _))

theorem behind_of_readEntry {text rest : List Char} {entry : Entry}
    (h : Entry.read text = .ok (entry, rest)) : Behind rest text := by
  obtain ⟨header, inner, behind, -, hheader, hline⟩ |
    ⟨assigned, middle, behind, -, hkey, hassigned, hline⟩ := readEntry_cases h
  · exact hheader.behind_inner.trans_suffix ((suffix_of_endLine hline).trans hheader.suffix)
  · obtain ⟨more, below, rfl, hvalue, -, rfl⟩ := readAssigned_eq_ok hassigned
    have hbehind := (readsSpans_readValue _ _ _ _ hvalue).1
    have hequals := (suffix_skipBlanks more).trans
      ((List.suffix_cons '=' more).trans (suffix_of_readKey hkey))
    exact (hbehind.of_suffix hequals).trans_suffix
      ((suffix_of_endLine hline).trans (suffix_skipBlanks below))

def NextEntry (text : List Char) (entry : Entry) (more : List Char) : Prop :=
  ∃ place, Skips text place ∧ Entry.read place = .ok (entry, more)

theorem NextEntry.suffix {text more : List Char} {entry : Entry} (h : NextEntry text entry more) :
    more <:+ text := by
  obtain ⟨place, hplace, hentry⟩ := h
  exact (behind_of_readEntry hentry).suffix.trans hplace.suffix

theorem nextEntry_of_readAll {text : List Char} {entry : Entry} {entries : List Entry}
    (h : Entry.readAll text = (entry :: entries, none)) :
    ∃ more, NextEntry text entry more ∧ Entry.readAll more = (entries, none) := by
  fun_induction Entry.readAll text with
  | case1 => cases (Prod.mk.inj h).1
  | case2 => cases (Prod.mk.inj h).1
  | case3 text c cs hblanks hline rest hend hlt ih =>
      obtain ⟨more, ⟨place, hplace, hentry⟩, hmore⟩ := ih h
      exact ⟨more, ⟨place, .line (hblanks ▸ hend) hplace, hentry⟩, hmore⟩
  | case4 => cases (Prod.mk.inj h).1
  | case5 => cases (Prod.mk.inj h).1
  | case6 text c cs hblanks hline first rest hfirst hlt entries' stop hall ih =>
      obtain ⟨heq, rfl⟩ := Prod.mk.inj h
      obtain ⟨rfl, rfl⟩ := List.cons.inj heq
      exact ⟨rest, ⟨c :: cs, hblanks ▸ .blanks text, hfirst⟩, hall⟩
  | case7 text c cs hblanks hline first rest hfirst hlt =>
      -- An entry takes some of the text, so that reading does not end here.
      have hlength := (behind_of_readEntry hfirst).length_lt
      have hle := length_skipBlanks_le text
      rw [hblanks] at hle
      exact absurd (Nat.lt_of_lt_of_le hlength hle) hlt

theorem reaches_of_readAll {text : List Char} {front back : List Entry}
    (h : Entry.readAll text = (front ++ back, none)) :
    ∃ more, Reaches NextEntry text front more ∧ Entry.readAll more = (back, none) := by
  induction front generalizing text with
  | nil => exact ⟨text, .here text, h⟩
  | cons entry front ih =>
      obtain ⟨more, hentry, hmore⟩ := nextEntry_of_readAll h
      obtain ⟨place, hplace, hback⟩ := ih hmore
      exact ⟨place, .next hentry hplace, hback⟩

end Reftest.Toml
