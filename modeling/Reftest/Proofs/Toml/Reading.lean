import Reftest.Proofs.Toml.Grammar
import Reftest.Proofs.Toml.Order

namespace Reftest.Toml

def Key.Within (start stop : Nat) (key : Key) : Prop :=
  ∀ part ∈ key, stop ≤ part.start ∧ part.start ≤ start

theorem Key.Within.mono {start stop start' stop' : Nat} {key : Key} (h : key.Within start stop)
    (hstart : start ≤ start') (hstop : stop' ≤ stop) : key.Within start' stop' := by
  intro part hpart
  obtain ⟨hlow, hhigh⟩ := h part hpart
  exact ⟨Nat.le_trans hstop hlow, Nat.le_trans hhigh hstart⟩

theorem Key.within_nil (start stop : Nat) : Key.Within start stop [] := by
  intro part hpart
  cases hpart

theorem Key.Within.cons {start stop : Nat} {part : KeyPart} {key : Key}
    (hpart : stop ≤ part.start ∧ part.start ≤ start) (h : key.Within start stop) :
    Key.Within start stop (part :: key) :=
  List.forall_mem_cons.mpr ⟨hpart, h⟩

theorem start_of_part {text behind : List Char} {part : KeyPart}
    (h : KeyPart.read? (skipBlanks text) = .ok (some (part, behind))) :
    (skipBlanks behind).length ≤ part.start ∧ part.start ≤ text.length := by
  obtain ⟨hspan, hbehind⟩ := span_of_read? h
  have hstart : part.start = (skipBlanks text).length := congrArg Span.start hspan
  have hlength := hbehind.length_lt
  have hbefore := length_skipBlanks_le text
  have hafter := length_skipBlanks_le behind
  omega

theorem TakesParts.within {text rest : List Char} {key : Key} (h : TakesParts text key rest) :
    key.Within text.length rest.length := by
  induction h with
  | none text => exact Key.within_nil _ _
  | last hpart => exact (Key.within_nil _ _).cons (start_of_part hpart)
  | more hpart hdot hlt hkey ih =>
      obtain ⟨hlow, hhigh⟩ := start_of_part hpart
      have hrest := hkey.suffix.length_le
      rw [hdot, List.length_cons] at hlow
      exact (ih.mono (Nat.le_of_lt hlt) (Nat.le_refl _)).cons ⟨by omega, hhigh⟩

theorem within_of_readKey {text rest : List Char} {key : Key}
    (h : Key.read text = .ok (key, rest)) :
    key.Within text.length rest.length ∧ rest.length ≤ text.length :=
  ⟨(readKey_eq_ok h).1.within, (suffix_of_readKey h).length_le⟩

def ReadsLaid (value : Reader Node) : Prop :=
  ∀ text node rest, value text = .ok (node, rest) →
    node.Laid rest.length ∧ node.start ≤ text.length ∧ rest.length < text.length

structure LaidItems (start stop : Nat) (items : List Node) : Prop where
  laid : ∀ item ∈ items, item.Laid stop ∧ item.start ≤ start
  ordered : items.Pairwise Node.Before

theorem laidItems_nil (start stop : Nat) : LaidItems start stop [] := by
  refine ⟨?_, List.Pairwise.nil⟩
  intro item hitem
  cases hitem

theorem LaidItems.cons {start middle next stop : Nat} {item : Node} {items : List Node}
    (hitem : item.Laid middle) (hstart : item.start ≤ start) (hnext : next < middle)
    (hstop : stop ≤ middle) (hle : middle ≤ start) (hitems : LaidItems next stop items) :
    LaidItems start stop (item :: items) := by
  refine ⟨?_, ?_⟩
  · intro other hother
    rcases List.mem_cons.mp hother with rfl | hother
    · exact ⟨hitem.mono hstop, hstart⟩
    · obtain ⟨hlaid, hbehind⟩ := hitems.laid other hother
      exact ⟨hlaid, by omega⟩
  · refine List.Pairwise.cons ?_ hitems.ordered
    intro other hother
    have hbehind := (hitems.laid other hother).2
    have hrest := hitem.le_rest.1
    unfold Node.Before
    omega

theorem laidItems_of_takesItems {value : Reader Node} (hvalue : ReadsLaid value)
    {text rest : List Char} {items : List Node} (h : TakesItems value text items rest) :
    LaidItems text.length rest.length items ∧ rest.length ≤ text.length := by
  induction h with
  | none hclose =>
      have hlength := length_of_skipGap hclose
      rw [List.length_cons] at hlength
      exact ⟨laidItems_nil _ _, by omega⟩
  | @last _ _ _ rest _ hgap hopen hitem hclose =>
      obtain ⟨hlaid, hstart, hafter⟩ := hvalue _ _ _ hitem
      have hbefore := length_of_skipGap hgap
      have hbehind := length_of_skipGap hclose
      rw [List.length_cons] at hbehind
      exact ⟨(laidItems_nil rest.length rest.length).cons hlaid (by omega) (by omega) (by omega)
        (by omega), by omega⟩
  | more hgap hopen hitem hcomma hlt hitems ih =>
      obtain ⟨hlaid, hstart, hafter⟩ := hvalue _ _ _ hitem
      obtain ⟨hrest, hlength⟩ := ih
      have hbefore := length_of_skipGap hgap
      have hmore := length_of_skipGap hcomma
      rw [List.length_cons] at hmore
      exact ⟨hrest.cons hlaid (by omega) (by omega) (by omega) (by omega), by omega⟩

theorem within_of_readAssigned {value : Reader Node} (hvalue : ReadsLaid value) {key : Key}
    {text rest : List Char} {assigned : Assignment}
    (h : readAssigned value key text = .ok (assigned, rest)) :
    assigned.key = key ∧ assigned.value.Laid rest.length ∧
      assigned.value.start < text.length ∧ rest.length ≤ text.length := by
  obtain ⟨more, below, rfl, hnode, rfl, rfl⟩ := readAssigned_eq_ok h
  obtain ⟨hlaid, hstart, hafter⟩ := hvalue _ _ _ hnode
  have hbefore := length_skipBlanks_le more
  have hbehind := length_skipBlanks_le below
  rw [List.length_cons]
  exact ⟨rfl, hlaid.mono hbehind, by omega, by omega⟩

theorem assignment_within {value : Reader Node} (hvalue : ReadsLaid value) {key : Key}
    {text middle rest : List Char} {assigned : Assignment}
    (hkey : Key.read text = .ok (key, middle))
    (h : readAssigned value key middle = .ok (assigned, rest)) :
    assigned.Within (text.length + 1) rest.length ∧ rest.length ≤ text.length := by
  obtain ⟨hwithin, hmiddle⟩ := within_of_readKey hkey
  obtain ⟨rfl, hlaid, hstart, hrest⟩ := within_of_readAssigned hvalue h
  refine ⟨⟨by omega, ?_, hlaid, by omega⟩, by omega⟩
  intro part hpart
  obtain ⟨hlow, hhigh⟩ := hwithin part hpart
  exact ⟨by omega, by omega⟩

theorem Chain.single {Item : Type} {within : Nat → Nat → Item → Prop} {limit stop : Nat}
    {item : Item} (h : within limit stop item) : Chain within limit stop [item] :=
  .cons h (.nil (Nat.le_refl _))

theorem chain_of_takesPairs {value : Reader Node} (hvalue : ReadsLaid value)
    {text rest : List Char} {pairs : List Assignment} (h : TakesPairs value text pairs rest) :
    Chain Assignment.Within (text.length + 1) rest.length pairs ∧ rest.length ≤ text.length := by
  induction h with
  | none hkey => exact ⟨.nil (Nat.le_succ _), Nat.le_refl _⟩
  | last hne hkey hpair =>
      obtain ⟨hwithin, hlength⟩ := assignment_within hvalue hkey hpair
      exact ⟨.single hwithin, hlength⟩
  | more hne hkey hpair hlt hpairs ih =>
      obtain ⟨hwithin, hlength⟩ := assignment_within hvalue hkey hpair
      obtain ⟨hchain, hlength'⟩ := ih
      rw [List.length_cons] at hwithin hlength
      exact ⟨.cons hwithin hchain, by omega⟩

theorem laid_of_readInline {value : Reader Node} (hvalue : ReadsLaid value)
    {text rest : List Char} {entries : Entries} (h : readInline value text = .ok (entries, rest)) :
    entries.Laid rest.length ∧ rest.length ≤ text.length := by
  obtain ⟨pairs, behind, hpairs, hassign, hclose⟩ := readInline_eq_ok h
  obtain ⟨hchain, hlength⟩ := chain_of_takesPairs hvalue (readPairs_eq_ok hpairs)
  have hlaid := Entries.assignAll_laid hchain (Entries.laid_nil _) hassign
  have hblanks := length_skipBlanks_le behind
  rw [hclose, List.length_cons] at hblanks
  exact ⟨hlaid.mono (by omega), by omega⟩

/-! Values: by induction on the depth to which they are nested. -/

theorem readsLaid_scalar (text : List Char) {scalar : Scalar} {rest : List Char}
    (h : readScalar text = .ok (scalar, rest)) :
    (Node.scalar ⟨text.length, rest.length⟩ scalar).Laid rest.length ∧
      (Node.scalar ⟨text.length, rest.length⟩ scalar).start ≤ text.length ∧
      rest.length < text.length := by
  have hlength := (behind_of_readScalar h).length_lt
  exact ⟨.scalar (Nat.le_of_lt hlength), Nat.le_refl _, hlength⟩

theorem laid_array {items : List Node} {text inner rest : List Char}
    (hinner : inner.length ≤ text.length) (hitems : LaidItems inner.length rest.length items)
    (hrest : rest.length ≤ inner.length) :
    (Node.array ⟨text.length, rest.length⟩ items).Laid rest.length := by
  refine .array (Nat.le_refl _) (Nat.le_trans hrest hinner) ?_ hitems.ordered ?_
  · intro item hitem
    obtain ⟨hlaid, hstart⟩ := hitems.laid item hitem
    exact ⟨hlaid.le_rest.1, Nat.le_trans hstart hinner⟩
  · intro item hitem
    exact (hitems.laid item hitem).1

theorem readsLaid_readValue (depth : Nat) : ReadsLaid (readValue depth) := by
  induction depth with
  | zero =>
      intro text node rest h
      obtain ⟨_, _, _, _, hdepth, -⟩ | ⟨_, _, _, _, hdepth, -⟩ | ⟨scalar, -, -, hscalar, rfl⟩ :=
        readValue_cases h
      · cases hdepth
      · cases hdepth
      · exact readsLaid_scalar text hscalar
  | succ depth ih =>
      intro text node rest h
      obtain ⟨inner, less, items, rfl, hdepth, hitems, rfl⟩ |
        ⟨inner, less, entries, rfl, hdepth, hentries, rfl⟩ | ⟨scalar, -, -, hscalar, rfl⟩ :=
        readValue_cases h
      · obtain rfl := Nat.succ.inj hdepth
        obtain ⟨hlaid, hlength⟩ := laidItems_of_takesItems ih (readItems_eq_ok hitems)
        exact ⟨laid_array (Nat.le_succ _) hlaid hlength, Nat.le_refl _,
          Nat.lt_succ_of_le hlength⟩
      · obtain rfl := Nat.succ.inj hdepth
        obtain ⟨hlaid, hlength⟩ := laid_of_readInline ih hentries
        exact ⟨hlaid.table .inline (Nat.le_succ_of_le hlength), Nat.le_refl _,
          Nat.lt_succ_of_le hlength⟩
      · exact readsLaid_scalar text hscalar

theorem Bracketed.within {place inner behind : List Char} {header : Header}
    (h : Bracketed place header inner behind) :
    header.Within (place.length + 1) behind.length := by
  obtain ⟨middle, hkey, hbehind⟩ := h.readKey
  obtain ⟨hwithin, hmiddle⟩ := within_of_readKey hkey
  have hinner := h.behind_inner.length_lt
  have hlength := hbehind.length_lt
  have hstart : header.span.first = place.length := congrArg Span.start h.span
  refine ⟨by omega, ?_, by omega, by omega⟩
  intro part hpart
  obtain ⟨hlow, hhigh⟩ := hwithin part hpart
  exact ⟨by omega, by omega⟩

theorem length_of_endLine {text rest : List Char} (h : endLine text = .ok rest) :
    rest = [] ∨ rest.length < text.length :=
  (behind_of_endLine h).imp_right Behind.length_lt

theorem within_of_readEntry {text rest : List Char} {entry : Entry}
    (h : Entry.read text = .ok (entry, rest)) :
    ∃ stop, entry.Within (text.length + 1) stop ∧ (rest = [] ∨ rest.length < stop) := by
  obtain ⟨header, inner, behind, rfl, hheader, hline⟩ |
    ⟨assigned, middle, behind, rfl, hkey, hassigned, hline⟩ := readEntry_cases h
  · exact ⟨behind.length, hheader.within, length_of_endLine hline⟩
  · exact ⟨behind.length, (assignment_within (readsLaid_readValue _) hkey hassigned).1,
      length_of_endLine hline⟩

theorem Header.Within.widen {limit limit' stop : Nat} {header : Header}
    (h : header.Within limit stop) (hle : limit ≤ limit') : header.Within limit' stop := by
  refine ⟨Nat.le_trans h.le hle, ?_, h.start.1, Nat.lt_of_lt_of_le h.start.2 hle⟩
  intro part hpart
  obtain ⟨hlow, hhigh⟩ := h.path part hpart
  exact ⟨hlow, Nat.lt_of_lt_of_le hhigh hle⟩

theorem Assignment.Within.widen {limit limit' stop : Nat} {assignment : Assignment}
    (h : assignment.Within limit stop) (hle : limit ≤ limit') : assignment.Within limit' stop := by
  refine ⟨Nat.le_trans h.le hle, ?_, h.value, Nat.lt_of_lt_of_le h.start hle⟩
  intro part hpart
  obtain ⟨hlow, hhigh⟩ := h.key part hpart
  exact ⟨hlow, Nat.lt_of_lt_of_le hhigh hle⟩

theorem Entry.Within.widen {limit limit' stop : Nat} {entry : Entry}
    (h : entry.Within limit stop) (hle : limit ≤ limit') : entry.Within limit' stop := by
  cases entry with
  | header header => exact Header.Within.widen h hle
  | assignment start assignment => exact Assignment.Within.widen h hle

theorem Chain.widen {limit limit' stop : Nat} {entries : List Entry}
    (h : Chain Entry.Within limit stop entries) (hle : limit ≤ limit') :
    Chain Entry.Within limit' stop entries := by
  cases h with
  | nil hstop => exact .nil (Nat.le_trans hstop hle)
  | cons hitem hitems => exact .cons (hitem.widen hle) hitems

theorem readAll_nil : Entry.readAll [] = ([], none) := by
  rw [Entry.readAll]
  rfl

theorem chain_readAll (text : List Char) :
    Chain Entry.Within (text.length + 1) 0 (Entry.readAll text).1 := by
  fun_induction Entry.readAll text with
  | case1 => exact .nil (Nat.zero_le _)
  | case2 => exact .nil (Nat.zero_le _)
  | case3 text c cs hblanks hline rest hend hlt ih => exact ih.widen (by omega)
  | case4 => exact .nil (Nat.zero_le _)
  | case5 => exact .nil (Nat.zero_le _)
  | case6 text c cs hblanks hline entry rest hentry hlt entries stop hall ih =>
      have hlength := length_skipBlanks_le text
      rw [hblanks] at hlength
      obtain ⟨last, hwithin, hrest⟩ := within_of_readEntry hentry
      have hwithin := hwithin.widen (Nat.succ_le_succ hlength)
      rw [hall] at ih
      rcases hrest with rfl | hrest
      · rw [readAll_nil] at hall
        obtain ⟨rfl, -⟩ := Prod.mk.inj hall
        exact .cons hwithin (.nil (Nat.zero_le _))
      · exact .cons hwithin (ih.widen hrest)
  | case7 text c cs hblanks hline entry rest hentry hlt =>
      have hlength := length_skipBlanks_le text
      rw [hblanks] at hlength
      obtain ⟨last, hwithin, -⟩ := within_of_readEntry hentry
      exact .cons (hwithin.widen (Nat.succ_le_succ hlength)) (.nil (Nat.zero_le _))

theorem laid_of_readDocument {text : List Char} {document : Entries}
    (h : readDocument text = .ok document) : document.Laid 0 := by
  unfold readDocument at h
  obtain ⟨assembly, hassembly, h⟩ := bind_eq_ok h
  have hchain := chain_readAll (skipByteOrderMark text)
  have hlaid := Assembly.addAll_laid hchain (Assembly.laid_empty _) hassembly
  split at h
  · cases h
  · obtain rfl := Except.ok.inj h
    exact Assembly.close_laid hlaid

end Reftest.Toml
