import Reftest.Proofs.Config.Writing
import Reftest.Proofs.Toml.Embedding

namespace Reftest.Config.Layout

open Toml

/-- A text that stands for a value wherever a value may end. -/
structure Writes (depth : Nat) (text : List Char) (node : Node) : Prop where
  leads : ∃ c more, text = c :: more ∧ Leads c
  reads : ∀ suffix, Ends suffix →
    readValue depth (text ++ suffix) = .ok (node.shift suffix.length, suffix)

theorem writes_of_readValue {depth depth' : Nat} (hdepth : depth ≤ depth') {text : List Char}
    {node : Node} (h : readValue depth text = .ok (node, [])) : Writes depth' text node where
  leads := leads_of_readValue h
  reads _ hends := extends_readValue hends hdepth _ _ _ h

section

variable {depth : Nat} {text : List Char} {node : Node}

theorem Writes.skipGap (h : Writes depth text node) (rest : List Char) :
    skipGap (text ++ rest) = .ok (text ++ rest) := by
  obtain ⟨c, more, rfl, hc⟩ := h.leads
  exact hc.skipGap _

theorem Writes.skipBlanks (h : Writes depth text node) (rest : List Char) :
    skipBlanks (text ++ rest) = text ++ rest := by
  obtain ⟨c, more, rfl, hc⟩ := h.leads
  exact skipBlanks_cons hc.isBlank _

theorem Writes.begins (h : Writes depth text node) :
    ∃ c more, text = c :: more ∧ isBlank c = false := by
  obtain ⟨c, more, htext, hc⟩ := h.leads
  exact ⟨c, more, htext, hc.isBlank⟩

theorem Writes.head?_ne (h : Writes depth text node) (rest : List Char) :
    (text ++ rest).head? ≠ some ']' := by
  obtain ⟨c, more, rfl, hc⟩ := h.leads
  exact fun hhead => hc.ne (by decide) (Option.some.inj hhead)

end

inductive Moved : List Node → List Node → Prop where
  | nil : Moved [] []
  | cons {node : Node} (width : Nat) {nodes nodes' : List Node} (h : Moved nodes nodes') :
      Moved (node :: nodes) (node.shift width :: nodes')

theorem Moved.length_eq {nodes nodes' : List Node} (h : Moved nodes nodes') :
    nodes.length = nodes'.length := by
  induction h with
  | nil => rfl
  | cons width h ih => exact congrArg Nat.succ ih

theorem Moved.split {front back nodes : List Node} (h : Moved (front ++ back) nodes) :
    ∃ front' back', nodes = front' ++ back' ∧ Moved front front' ∧ Moved back back' := by
  induction front generalizing nodes with
  | nil => exact ⟨[], nodes, rfl, .nil, h⟩
  | cons node front ih =>
      obtain _ | ⟨width, h⟩ := h
      obtain ⟨front', back', rfl, hfront, hback⟩ := ih h
      exact ⟨_ :: front', back', rfl, .cons width hfront, hback⟩

def listed (texts : List (List Char)) : List Char :=
  [',', ' '].intercalate texts

theorem listed_singleton (text : List Char) : listed [text] = text := by
  rw [listed, List.intercalate_singleton]

theorem listed_cons_cons (text next : List Char) (texts : List (List Char)) :
    listed (text :: next :: texts) = text ++ ',' :: ' ' :: listed (next :: texts) := by
  rw [listed, List.intercalate_cons_cons, List.append_assoc]
  rfl

structure Piece where
  text : List Char
  node : Node

def Piece.join (pieces : List Piece) : List Char :=
  listed (pieces.map Piece.text)

section

variable {depth : Nat} {pieces : List Piece}
  (hpieces : ∀ piece ∈ pieces, Writes depth piece.text piece.node)

include hpieces

theorem skipGap_pieces (rest : List Char) :
    skipGap (Piece.join pieces ++ ']' :: rest) = .ok (Piece.join pieces ++ ']' :: rest) := by
  cases pieces with
  | nil => rfl
  | cons piece pieces =>
      have hpiece := hpieces piece List.mem_cons_self
      cases pieces with
      | nil =>
          rw [Piece.join, List.map_singleton, listed_singleton]
          exact hpiece.skipGap _
      | cons next pieces =>
          rw [Piece.join, List.map_cons, List.map_cons, listed_cons_cons, List.append_assoc]
          exact hpiece.skipGap _

theorem readItems_pieces {start rest : List Char}
    (h : skipGap start = .ok (Piece.join pieces ++ ']' :: rest)) :
    ∃ items, readItems (readValue depth) start = .ok (items, rest) ∧
      Moved (pieces.map Piece.node) items := by
  induction pieces generalizing start with
  | nil => exact ⟨[], readItems_none h, .nil⟩
  | cons piece pieces ih =>
      have hpiece := hpieces piece List.mem_cons_self
      cases pieces with
      | nil =>
          rw [Piece.join, List.map_singleton, listed_singleton] at h
          exact ⟨_, readItems_last h (hpiece.head?_ne _) (hpiece.reads _ (.bracket rest)) rfl,
            .cons _ .nil⟩
      | cons next pieces =>
          have hrest := fun other hother => hpieces other (List.mem_cons_of_mem piece hother)
          have hgap : skipGap (' ' :: (Piece.join (next :: pieces) ++ ']' :: rest)) = .ok _ :=
            skipGap_pieces hrest rest
          obtain ⟨items, hitems, hmoved⟩ := ih hrest hgap
          rw [Piece.join, List.map_cons, List.map_cons, listed_cons_cons, List.append_assoc] at h
          have hmore : (' ' :: (Piece.join (next :: pieces) ++ ']' :: rest)).length <
              start.length := by
            have hlength := length_of_skipGap h
            simp only [Piece.join, List.map_cons, List.length_append, List.length_cons] at hlength ⊢
            omega
          exact ⟨_, readItems_more h (hpiece.head?_ne _) (hpiece.reads _ (.comma _)) rfl hmore
            hitems, .cons _ hmoved⟩

theorem readValue_pieces (rest : List Char) :
    ∃ span items, readValue (depth + 1) ('[' :: (Piece.join pieces ++ ']' :: rest)) =
      .ok (.array span items, rest) ∧ Moved (pieces.map Piece.node) items := by
  obtain ⟨items, hitems, hmoved⟩ := readItems_pieces hpieces (skipGap_pieces hpieces rest)
  exact ⟨_, items, readValue_array hitems, hmoved⟩

end

structure Pair where
  name : String
  piece : Piece

namespace Pair

def text (pair : Pair) : List Char :=
  pair.name.toList ++ [' ', '=', ' '] ++ pair.piece.text

def join (pairs : List Pair) : List Char :=
  listed (pairs.map text)

inductive Assigned : List Pair → List Assignment → Prop where
  | nil : Assigned [] []
  | cons {pair : Pair} {pairs : List Pair} {part : KeyPart} {assignments : List Assignment}
      (width : Nat) (hpart : part.name = pair.name) (h : Assigned pairs assignments) :
      Assigned (pair :: pairs) (⟨[part], pair.piece.node.shift width⟩ :: assignments)

theorem Assigned.ne_nil {pair : Pair} {pairs : List Pair} {assignments : List Assignment}
    (h : Assigned (pair :: pairs) assignments) : assignments ≠ [] := by
  cases h with
  | cons width hpart h => exact List.cons_ne_nil _ _

theorem Assigned.assignAll {pairs : List Pair} {assignments : List Assignment}
    (h : Assigned pairs assignments) (hdistinct : (pairs.map name).Nodup) {entries : Entries}
    (hnew : ∀ pair ∈ pairs, entries.get? pair.name = none) :
    ∃ nodes, Moved (pairs.map fun pair => pair.piece.node) nodes ∧
      entries.assignAll assignments = some (entries ++ (pairs.map name).zip nodes) := by
  induction h generalizing entries with
  | nil => exact ⟨[], .nil, congrArg some (List.append_nil entries).symm⟩
  | @cons pair pairs part assignments width hpart h ih =>
      obtain ⟨hfirst, hdistinct⟩ := List.nodup_cons.mp hdistinct
      have hpair := hnew pair List.mem_cons_self
      have hnext : ∀ other ∈ pairs,
          Entries.get? (entries ++ [(pair.name, pair.piece.node.shift width)]) other.name =
            none := by
        intro other hother
        refine Entries.get?_append_eq_none (hnew other (List.mem_cons_of_mem _ hother)) ?_ _
        intro heq
        exact hfirst (heq ▸ List.mem_map_of_mem hother)
      obtain ⟨nodes, hnodes, hassign⟩ := ih hdistinct hnext
      refine ⟨_, .cons width hnodes, ?_⟩
      rw [← hpart] at hpair hassign
      rw [Entries.assignAll, List.foldlM_cons]
      dsimp only
      rw [assign_new hpair, List.map_cons, List.zip_cons_cons, ← hpart]
      change Entries.assignAll _ assignments = _
      rw [hassign, List.append_assoc, List.singleton_append]

theorem read {depth : Nat} {pair : Pair} (hname : IsBare pair.name)
    (hpair : Writes depth pair.piece.text pair.piece.node) {text suffix : List Char}
    (hends : Ends suffix) (htext : skipBlanks text = pair.text ++ suffix) :
    ∃ part middle, Key.read text = .ok ([part], middle) ∧ part.name = pair.name ∧
      readAssigned (readValue depth) [part] middle =
        .ok (⟨[part], pair.piece.node.shift suffix.length⟩, skipBlanks suffix) := by
  rw [Pair.text, List.append_assoc, List.append_assoc] at htext
  obtain ⟨part, hkey, hpart⟩ := readKey_bare hname (by decide : isBareChar ' ' = false) _
    (by
      intro more heq
      cases (List.cons.inj heq).1) htext
  refine ⟨part, _, hkey, hpart, readAssigned_equals _ ?_⟩
  have hvalue : skipBlanks (' ' :: (pair.piece.text ++ suffix)) = pair.piece.text ++ suffix :=
    hpair.skipBlanks suffix
  change readValue depth (skipBlanks (' ' :: (pair.piece.text ++ suffix))) = _
  rw [hvalue]
  exact hpair.reads suffix hends

end Pair

section

variable {depth : Nat} {pairs : List Pair}
  (hpairs : ∀ pair ∈ pairs, IsBare pair.name ∧ Writes depth pair.piece.text pair.piece.node)

include hpairs

theorem skipBlanks_pairs (rest : List Char) :
    skipBlanks (' ' :: (Pair.join pairs ++ ' ' :: '}' :: rest)) =
      if pairs = [] then '}' :: rest else Pair.join pairs ++ ' ' :: '}' :: rest := by
  cases pairs with
  | nil => rfl
  | cons pair pairs =>
      have hname := (hpairs pair List.mem_cons_self).1
      rw [if_neg (List.cons_ne_nil _ _)]
      change skipBlanks (Pair.join (pair :: pairs) ++ ' ' :: '}' :: rest) = _
      cases pairs with
      | nil =>
          rw [Pair.join, List.map_singleton, listed_singleton, Pair.text, List.append_assoc,
            List.append_assoc]
          exact hname.skipBlanks _
      | cons next pairs =>
          rw [Pair.join, List.map_cons, List.map_cons, listed_cons_cons, Pair.text,
            List.append_assoc, List.append_assoc, List.append_assoc]
          exact hname.skipBlanks _

theorem readPairs_pairs (hne : pairs ≠ []) {text rest : List Char}
    (h : skipBlanks text = Pair.join pairs ++ ' ' :: '}' :: rest) :
    ∃ assignments, readPairs (readValue depth) text = .ok (assignments, '}' :: rest) ∧
      Pair.Assigned pairs assignments := by
  induction pairs generalizing text with
  | nil => exact absurd rfl hne
  | cons pair pairs ih =>
      obtain ⟨hname, hpair⟩ := hpairs pair List.mem_cons_self
      cases pairs with
      | nil =>
          rw [Pair.join, List.map_singleton, listed_singleton] at h
          obtain ⟨part, middle, hkey, hpart, hassigned⟩ := Pair.read hname hpair (.brace rest) h
          refine ⟨_, readPairs_last hkey (List.cons_ne_nil _ _) hassigned ?_, .cons _ hpart .nil⟩
          exact fun hhead => absurd (Option.some.inj hhead) (by decide)
      | cons next pairs =>
          have hrest := fun other hother => hpairs other (List.mem_cons_of_mem pair hother)
          obtain ⟨assignments, hmore, hassignments⟩ := ih hrest (List.cons_ne_nil _ _)
            (skipBlanks_pairs hrest rest)
          rw [Pair.join, List.map_cons, List.map_cons, listed_cons_cons, List.append_assoc] at h
          obtain ⟨part, middle, hkey, hpart, hassigned⟩ := Pair.read hname hpair (.comma _) h
          have hlt : (' ' :: (Pair.join (next :: pairs) ++ ' ' :: '}' :: rest)).length <
              text.length := by
            have hlength := length_skipBlanks_le text
            rw [h] at hlength
            simp only [Pair.join, List.map_cons, List.length_append, List.length_cons] at hlength ⊢
            omega
          exact ⟨_, readPairs_more hkey (List.cons_ne_nil _ _) hassigned hlt hassignments.ne_nil
            hmore, .cons _ hpart hassignments⟩

theorem readValue_pairs (hdistinct : (pairs.map Pair.name).Nodup) (rest : List Char) :
    ∃ span nodes,
      readValue (depth + 1) ('{' :: ' ' :: (Pair.join pairs ++ ' ' :: '}' :: rest)) =
        .ok (.table .inline span ((pairs.map Pair.name).zip nodes), rest) ∧
      Moved (pairs.map fun pair => pair.piece.node) nodes := by
  have hskip := skipBlanks_pairs hpairs rest
  by_cases hnil : pairs = []
  · subst hnil
    exact ⟨_, [], readValue_inline (readInline_brace (readPairs_none (readKey_brace hskip)) rfl
      hskip), .nil⟩
  · rw [if_neg hnil] at hskip
    obtain ⟨assignments, hread, hassigned⟩ := readPairs_pairs hpairs hnil hskip
    obtain ⟨nodes, hmoved, hassign⟩ := hassigned.assignAll hdistinct
      (fun _ _ => rfl : ∀ pair ∈ pairs, Entries.get? [] pair.name = none)
    exact ⟨_, nodes, readValue_inline (readInline_brace hread hassign (skipBlanks_cons (by decide)
      rest)), hmoved⟩

end

theorem begins_bare {name : String} (hname : IsBare name) (rest : List Char) :
    Begins (name.toList ++ rest) := by
  obtain ⟨c, more, hfirst, hbare⟩ := hname.begins
  refine ⟨c, more ++ rest, by rw [hfirst]; rfl, isBlank_of_isBareChar hbare, ?_⟩
  rintro (heq | heq | heq)
  · exact ne_of_isBareChar hbare (by decide) heq
  · exact ne_of_isBareChar hbare (by decide) heq
  · exact ne_of_isBareChar hbare (by decide) heq

theorem readDocument_assignment {name : String} (hname : IsBare name) {rest : List Char}
    {start : Mark} {key : Key} {node : Node}
    (hread : Toml.Entry.read (name.toList ++ rest) = .ok (.assignment start ⟨key, node⟩, []))
    {entries : Entries} (hassign : Entries.assign key node [] = some entries) :
    readDocument (name.toList ++ rest) = .ok entries := by
  obtain ⟨c, more, hfirst, hbare⟩ := hname.begins
  have hmark : skipByteOrderMark (name.toList ++ rest) = name.toList ++ rest := by
    rw [hfirst]
    exact if_neg (ne_of_isBareChar hbare (by decide))
  have hlength : ([] : List Char).length < (name.toList ++ rest).length := by
    rw [hfirst]
    exact Nat.succ_pos _
  have hadd : Assembly.empty.add? (.assignment start ⟨key, node⟩) = some ⟨[], none, entries⟩ := by
    change (Entries.assign key node []).bind _ = _
    rw [hassign]
    rfl
  rw [readDocument_eq, hmark, readFrom_step (begins_bare hname rest) hread hlength hadd,
    readFrom_nil]
  rfl

theorem readDocument_line {name : String} (hname : IsBare name) {text behind : List Char}
    {node : Node} (hvalue : readValue depthLimit (skipBlanks text) = .ok (node, behind))
    (hline : endLine (skipBlanks behind) = .ok []) :
    readDocument (name.toList ++ ' ' :: '=' :: text) = .ok [(name, node)] := by
  obtain ⟨start, part, hread, rfl⟩ := read_bare hname hvalue hline
  exact readDocument_assignment hname hread (assign_new rfl)

theorem readDocument_dotted {name field : String} (hname : IsBare name) (hfield : IsBare field)
    {text behind : List Char} {node : Node}
    (hvalue : readValue depthLimit (skipBlanks text) = .ok (node, behind))
    (hline : endLine (skipBlanks behind) = .ok []) :
    ∃ span, readDocument (name.toList ++ '.' :: (field.toList ++ ' ' :: '=' :: text)) =
      .ok [(name, .table .dotted span [(field, node)])] := by
  have hdot : ∀ more, skipBlanks (' ' :: '=' :: text) ≠ '.' :: more := by
    intro more heq
    cases (List.cons.inj heq).1
  obtain ⟨last, hlast, rfl⟩ := readParts_bare hfield (by decide : isBareChar ' ' = false) _ hdot
    (hfield.skipBlanks _)
  obtain ⟨first, hfirst, hname'⟩ : ∃ part,
      KeyPart.read? (skipBlanks (name.toList ++ '.' :: (last.name.toList ++ ' ' :: '=' :: text))) =
        .ok (some (part, '.' :: (last.name.toList ++ ' ' :: '=' :: text))) ∧ part.name = name := by
    rw [hname.skipBlanks]
    exact ⟨_, read?_bare hname (by decide) _, String.ofList_toList⟩
  have hlength : (last.name.toList ++ ' ' :: '=' :: text).length <
      (name.toList ++ '.' :: (last.name.toList ++ ' ' :: '=' :: text)).length := by
    simp only [List.length_append, List.length_cons]
    omega
  have hparts := readParts_more hfirst (skipBlanks_cons (by decide) _) hlength
    (List.cons_ne_nil _ _) hlast
  have hkey := readKey_of_readParts hparts (by change 2 < 80; decide)
  have hmark := hname.head?_ne (by decide : isBareChar '[' = false)
    ('.' :: (last.name.toList ++ ' ' :: '=' :: text))
  have hread := read_assigned hmark hkey rfl (readAssigned_equals _ hvalue) hline
  refine ⟨first.span, readDocument_assignment hname hread ?_⟩
  rw [← hname']
  rfl

theorem readDocument_brackets {name : String} (hname : IsBare name) {pieces : List Piece}
    (hpieces : ∀ piece ∈ pieces, Writes 78 piece.text piece.node) {suffix : List Char}
    (hline : endLine (skipBlanks suffix) = .ok []) :
    ∃ span items, readDocument (name.toList ++ ' ' :: '=' :: ' ' :: '[' ::
        (Piece.join pieces ++ ']' :: suffix)) = .ok [(name, .array span items)] ∧
      Moved (pieces.map Piece.node) items := by
  obtain ⟨span, items, hread, hmoved⟩ := readValue_pieces hpieces suffix
  have hskip : skipBlanks (' ' :: '[' :: (Piece.join pieces ++ ']' :: suffix)) =
      '[' :: (Piece.join pieces ++ ']' :: suffix) := rfl
  exact ⟨span, items, readDocument_line hname (hskip ▸ hread) hline, hmoved⟩

theorem readDocument_braces {name : String} (hname : IsBare name) {pairs : List Pair}
    (hpairs : ∀ pair ∈ pairs, IsBare pair.name ∧ Writes 78 pair.piece.text pair.piece.node)
    (hdistinct : (pairs.map Pair.name).Nodup) {suffix : List Char}
    (hline : endLine (skipBlanks suffix) = .ok []) :
    ∃ span nodes, readDocument (name.toList ++ ' ' :: '=' :: ' ' :: '{' :: ' ' ::
        (Pair.join pairs ++ ' ' :: '}' :: suffix)) =
          .ok [(name, .table .inline span ((pairs.map Pair.name).zip nodes))] ∧
      Moved (pairs.map fun pair => pair.piece.node) nodes := by
  obtain ⟨span, nodes, hread, hmoved⟩ := readValue_pairs hpairs hdistinct suffix
  have hskip : skipBlanks (' ' :: '{' :: ' ' :: (Pair.join pairs ++ ' ' :: '}' :: suffix)) =
      '{' :: ' ' :: (Pair.join pairs ++ ' ' :: '}' :: suffix) := rfl
  exact ⟨span, nodes, readDocument_line hname (hskip ▸ hread) hline, hmoved⟩

def Writes.field {name : String} (hname : IsBare name) {text : List Char} {node : Node}
    (h : Writes depthLimit text node) : Field where
  name := name
  value := text
  Denotes node' := ∃ width, node' = node.shift width
  bare := hname
  begins := h.begins
  reads rest := ⟨_, h.reads _ (.line rest), _, rfl⟩

def Paragraph.single {name : String} (hname : IsBare name) (field : Field) : Paragraph where
  name := name
  fields := [field]
  bare := hname
  distinct := List.pairwise_singleton _ field.name

theorem readDocument_single {name : String} (hname : IsBare name) (field : Field) :
    ∃ span node, readDocument (Paragraph.single hname field).written =
        .ok [(name, .table .header span [(field.name, node)])] ∧ field.Denotes node := by
  have hdistinct : ([Paragraph.single hname field].map Paragraph.name).Nodup :=
    List.pairwise_singleton _ name
  obtain ⟨document, hdocument, hread⟩ := readDocument_paragraphs hdistinct
  rw [List.flatMap_singleton] at hread
  obtain _ | ⟨hentries, hrest⟩ := hdocument
  obtain _ | _ := hrest
  obtain _ | ⟨hnode, hmore⟩ := hentries
  obtain _ | _ := hmore
  exact ⟨_, _, hread, hnode⟩

end Reftest.Config.Layout
