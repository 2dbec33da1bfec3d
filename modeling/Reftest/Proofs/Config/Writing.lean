import Reftest.Config.Layout
import Reftest.Proofs.Config.Schema
import Reftest.Proofs.Toml.Steps
import Reftest.Toml.Assembly

namespace Reftest.Config.Layout

open Toml

def IsBare (name : String) : Prop :=
  name.toList ≠ [] ∧ name.toList.all isBareChar = true

instance (name : String) : Decidable (IsBare name) :=
  inferInstanceAs (Decidable (_ ∧ _))

structure Field where
  name : String
  value : List Char
  Denotes : Node → Prop
  bare : IsBare name
  begins : ∃ c more, value = c :: more ∧ isBlank c = false
  reads : ∀ rest, ∃ node,
    readValue depthLimit (value ++ '\n' :: rest) = .ok (node, '\n' :: rest) ∧ Denotes node

structure Paragraph where
  name : String
  fields : List Field
  bare : IsBare name
  distinct : (fields.map Field.name).Nodup

namespace Field

def written (field : Field) : List Char :=
  entry field.name field.value

inductive Hold : List Field → Entries → Prop where
  | nil : Hold [] []
  | cons {field : Field} {fields : List Field} {node : Node} {entries : Entries}
      (hnode : field.Denotes node) (h : Hold fields entries) :
      Hold (field :: fields) ((field.name, node) :: entries)

end Field

namespace Paragraph

def written (paragraph : Paragraph) : List Char :=
  header paragraph.name ++ paragraph.fields.flatMap Field.written

inductive Hold : List Paragraph → Entries → Prop where
  | nil : Hold [] []
  | cons {paragraph : Paragraph} {paragraphs : List Paragraph} {span : Span}
      {entries document : Entries} (hentries : Field.Hold paragraph.fields entries)
      (h : Hold paragraphs document) :
      Hold (paragraph :: paragraphs)
        ((paragraph.name, .table .header span entries) :: document)

end Paragraph

theorem ne_of_isBareChar {c other : Char} (h : isBareChar c = true)
    (hother : isBareChar other = false) : c ≠ other := by
  rintro rfl
  rw [h] at hother
  cases hother

theorem isBlank_of_isBareChar {c : Char} (h : isBareChar c = true) : isBlank c = false := by
  have hspace : c ≠ ' ' := ne_of_isBareChar h (by decide)
  have htab : c ≠ '\t' := ne_of_isBareChar h (by decide)
  simp [isBlank, hspace, htab]

theorem IsBare.begins {name : String} (h : IsBare name) :
    ∃ c more, name.toList = c :: more ∧ isBareChar c = true := by
  obtain ⟨hne, hbare⟩ := h
  obtain ⟨c, more, hname⟩ := List.exists_cons_of_ne_nil hne
  rw [hname, List.all_cons, Bool.and_eq_true] at hbare
  exact ⟨c, more, hname, hbare.1⟩

theorem IsBare.skipBlanks {name : String} (h : IsBare name) (rest : List Char) :
    skipBlanks (name.toList ++ rest) = name.toList ++ rest := by
  obtain ⟨c, more, hname, hbare⟩ := h.begins
  rw [hname]
  exact skipBlanks_cons (isBlank_of_isBareChar hbare) _

theorem IsBare.head?_ne {name : String} (h : IsBare name) {c : Char} (hc : isBareChar c = false)
    (rest : List Char) : (name.toList ++ rest).head? ≠ some c := by
  obtain ⟨first, more, hname, hbare⟩ := h.begins
  rw [hname]
  exact fun hhead => ne_of_isBareChar hbare hc (Option.some.inj hhead)

section

variable {name : String} (hname : IsBare name) {c : Char} (hc : isBareChar c = false)
  (rest : List Char)

include hname hc

theorem takeWhile_bare : (name.toList ++ c :: rest).takeWhile isBareChar = name.toList := by
  rw [List.takeWhile_append_of_pos (List.all_eq_true.mp hname.2),
    List.takeWhile_cons_of_neg (by rw [hc]; decide), List.append_nil]

theorem dropWhile_bare : (name.toList ++ c :: rest).dropWhile isBareChar = c :: rest := by
  rw [List.dropWhile_append_of_pos (List.all_eq_true.mp hname.2),
    List.dropWhile_cons_of_neg (by rw [hc]; decide)]

theorem read?_bare : KeyPart.read? (name.toList ++ c :: rest) =
    .ok (some (KeyPart.between (name.toList ++ c :: rest) name.toList (c :: rest), c :: rest)) := by
  obtain ⟨first, more, hfirst, hbare⟩ := hname.begins
  have hmark : first ≠ '"' := ne_of_isBareChar hbare (by decide)
  have hmark' : first ≠ '\'' := ne_of_isBareChar hbare (by decide)
  unfold KeyPart.read?
  split
  · rename_i heq
    rw [hfirst] at heq
    exact absurd (List.cons.inj heq).1 hmark
  · rename_i heq
    rw [hfirst] at heq
    exact absurd (List.cons.inj heq).1 hmark'
  · dsimp only
    rw [takeWhile_bare hname hc, dropWhile_bare hname hc, if_neg]
    rw [List.isEmpty_iff]
    exact hname.1

theorem readParts_bare (hdot : ∀ more, skipBlanks (c :: rest) ≠ '.' :: more) {text : List Char}
    (htext : skipBlanks text = name.toList ++ c :: rest) :
    ∃ part, Key.readParts text = .ok ([part], skipBlanks (c :: rest)) ∧ part.name = name := by
  refine ⟨KeyPart.between (name.toList ++ c :: rest) name.toList (c :: rest), ?_,
    String.ofList_toList⟩
  apply readParts_last _ hdot
  rw [htext]
  exact read?_bare hname hc rest

theorem readKey_bare (hdot : ∀ more, skipBlanks (c :: rest) ≠ '.' :: more) {text : List Char}
    (htext : skipBlanks text = name.toList ++ c :: rest) :
    ∃ part, Key.read text = .ok ([part], skipBlanks (c :: rest)) ∧ part.name = name := by
  obtain ⟨part, hparts, hpart⟩ := readParts_bare hname hc rest hdot htext
  exact ⟨part, readKey_of_readParts hparts (by change 1 < 80; decide), hpart⟩

end

theorem read_opened {inner rest : List Char} {opened : Header} (hmark : inner.head? ≠ some '[')
    (h : Toml.Entry.readHeader ('[' :: inner).length false inner = .ok (opened, '\n' :: rest)) :
    Toml.Entry.read ('[' :: inner) = .ok (.header opened, rest) := by
  unfold Toml.Entry.read
  split
  · rename_i heq
    rw [(List.cons.inj heq).2] at hmark
    exact absurd rfl hmark
  · rename_i heq
    obtain rfl := (List.cons.inj heq).2
    rw [h]
    rfl
  · rename_i hsingle
    exact absurd rfl (hsingle inner)

theorem read_assigned {text middle behind rest : List Char} {key : Key} {assigned : Assignment}
    (hmark : text.head? ≠ some '[') (hkey : Key.read text = .ok (key, middle))
    (hne : key.isEmpty = false)
    (h : readAssigned (readValue depthLimit) key middle = .ok (assigned, behind))
    (hline : endLine behind = .ok rest) :
    Toml.Entry.read text = .ok (.assignment text.length assigned, rest) := by
  unfold Toml.Entry.read
  split
  · exact absurd rfl hmark
  · exact absurd rfl hmark
  · rw [hkey]
    simp only [bind, Except.bind, pure, Except.pure, hne, h, hline, Bool.false_eq_true, if_false]

theorem read_header {name : String} (hname : IsBare name) (rest : List Char) :
    ∃ part span, Toml.Entry.read (header name ++ rest) = .ok (.header ⟨false, [part], span⟩, rest) ∧
      part.name = name := by
  have hclose : ∀ more, skipBlanks (']' :: '\n' :: rest) ≠ '.' :: more := by
    intro more heq
    cases (List.cons.inj heq).1
  obtain ⟨part, hkey, hpart⟩ := readKey_bare hname (by decide : isBareChar ']' = false) _ hclose
    (hname.skipBlanks _)
  have happend : header name ++ rest = '[' :: (name.toList ++ ']' :: '\n' :: rest) := by
    rw [header, List.append_assoc]
    rfl
  refine ⟨part, ⟨(header name ++ rest).length, ('\n' :: rest).length⟩, ?_, hpart⟩
  rw [happend]
  apply read_opened (hname.head?_ne (by decide) _)
  rw [Toml.Entry.readHeader, hkey]
  rfl

theorem read_bare {name : String} (hname : IsBare name) {text behind rest : List Char} {node : Node}
    (hvalue : readValue depthLimit (skipBlanks text) = .ok (node, behind))
    (hline : endLine (skipBlanks behind) = .ok rest) :
    ∃ start part, Toml.Entry.read (name.toList ++ ' ' :: '=' :: text) =
      .ok (.assignment start ⟨[part], node⟩, rest) ∧ part.name = name := by
  have hdot : ∀ more, skipBlanks (' ' :: '=' :: text) ≠ '.' :: more := by
    intro more heq
    cases (List.cons.inj heq).1
  obtain ⟨part, hkey, hpart⟩ := readKey_bare hname (by decide : isBareChar ' ' = false) _ hdot
    (hname.skipBlanks _)
  have hmark := hname.head?_ne (by decide : isBareChar '[' = false) (' ' :: '=' :: text)
  exact ⟨_, part, read_assigned hmark hkey rfl (readAssigned_equals _ hvalue) hline, hpart⟩

theorem Field.read (field : Field) (rest : List Char) :
    ∃ start part node, Toml.Entry.read (field.written ++ rest) =
      .ok (.assignment start ⟨[part], node⟩, rest) ∧ part.name = field.name ∧
        field.Denotes node := by
  obtain ⟨name, value, Denotes, hname, hbegins, hreads⟩ := field
  obtain ⟨node, hnode, hdenotes⟩ := hreads rest
  have happend : entry name value ++ rest =
      name.toList ++ ' ' :: '=' :: ' ' :: (value ++ '\n' :: rest) := by
    simp [entry]
  have hvalue : readValue depthLimit (skipBlanks (' ' :: (value ++ '\n' :: rest))) =
      .ok (node, '\n' :: rest) := by
    obtain ⟨c, more, rfl, hblank⟩ := hbegins
    have hskip : skipBlanks (' ' :: (c :: more ++ '\n' :: rest)) = c :: more ++ '\n' :: rest :=
      skipBlanks_cons hblank _
    rw [hskip, hnode]
  obtain ⟨start, part, hread, hpart⟩ := read_bare hname hvalue rfl
  refine ⟨start, part, node, ?_, hpart, hdenotes⟩
  change Toml.Entry.read (entry name value ++ rest) = _
  rw [happend, hread]

def readFrom (assembly : Assembly) (text : List Char) : Except Mark Entries := do
  let (entries, stop) := Toml.Entry.readAll text
  let assembly ← assembly.addAll entries
  match stop with
  | some mark => .error mark
  | none => .ok assembly.close

theorem readDocument_eq (text : List Char) :
    readDocument text = readFrom .empty (skipByteOrderMark text) := rfl

theorem readFrom_nil (assembly : Assembly) : readFrom assembly [] = .ok assembly.close := by
  rw [readFrom, Toml.Entry.readAll]
  rfl

def Begins (text : List Char) : Prop :=
  ∃ c more, text = c :: more ∧ isBlank c = false ∧ ¬ (c = '#' ∨ c = '\n' ∨ c = '\r')

theorem readFrom_step {assembly next : Assembly} {text rest : List Char} {entry : Toml.Entry}
    (hbegins : Begins text) (hread : Toml.Entry.read text = .ok (entry, rest))
    (hlength : rest.length < text.length) (hadd : assembly.add? entry = some next) :
    readFrom assembly text = readFrom next rest := by
  obtain ⟨c, more, rfl, hblank, hline⟩ := hbegins
  have hall : Toml.Entry.readAll (c :: more) =
      (entry :: (Toml.Entry.readAll rest).1, (Toml.Entry.readAll rest).2) := by
    rw [Toml.Entry.readAll, skipBlanks_cons hblank]
    simp only [if_neg hline, hread, if_pos hlength]
  rw [readFrom, readFrom, hall]
  simp only [Assembly.addAll, hadd]

section

variable {part : KeyPart} {span : Span} {closed entries : Entries}

theorem open?_new (hnew : closed.get? part.name = none) :
    closed.open? ⟨false, [part], span⟩ = some [] := by
  have hparent : closed.follow? [] = some closed := rfl
  simp [Entries.open?, hparent, hnew]

theorem assign_new {node : Node} (hnew : entries.get? part.name = none) :
    entries.assign [part] node = some (entries ++ [(part.name, node)]) := by
  rw [Entries.assign, hnew]
  rfl

theorem remove_new {name : String} (hnew : closed.get? name = none) :
    closed.remove name = closed := by
  rw [Entries.remove, List.filter_eq_self]
  intro entry hentry
  exact decide_eq_true (Entries.get?_eq_none_iff.mp hnew entry hentry)

theorem close_new (hnew : closed.get? part.name = none) :
    (Assembly.mk closed (some ⟨false, [part], span⟩) entries).close =
      closed ++ [(part.name, .table .header span entries)] := by
  change (closed.remove part.name).append part.name (.table .header span entries) = _
  rw [remove_new hnew]
  rfl

end

theorem readFrom_header {name : String} (hname : IsBare name) {assembly : Assembly}
    (hnew : assembly.close.get? name = none) (rest : List Char) :
    ∃ part span, part.name = name ∧ readFrom assembly (header name ++ rest) =
      readFrom ⟨assembly.close, some ⟨false, [part], span⟩, []⟩ rest := by
  obtain ⟨part, span, hread, rfl⟩ := read_header hname rest
  refine ⟨part, span, rfl, readFrom_step ?_ hread ?_ ?_⟩
  · exact ⟨'[', _, rfl, by decide, by decide⟩
  · simp only [header, List.length_append, List.length_cons]
    omega
  · change (assembly.close.open? ⟨false, [part], span⟩).bind _ = _
    rw [open?_new hnew]
    rfl

theorem readFrom_field (field : Field) {closed entries : Entries} (part : KeyPart) (span : Span)
    (hnew : entries.get? field.name = none) (rest : List Char) :
    ∃ node span', field.Denotes node ∧
      readFrom ⟨closed, some ⟨false, [part], span⟩, entries⟩ (field.written ++ rest) =
        readFrom ⟨closed, some ⟨false, [part], span'⟩, entries ++ [(field.name, node)]⟩ rest := by
  obtain ⟨start, key, node, hread, hkey, hdenotes⟩ := field.read rest
  rw [← hkey] at hnew ⊢
  refine ⟨node, ⟨span.start, node.span.stop⟩, hdenotes, readFrom_step ?_ hread ?_ ?_⟩
  · obtain ⟨first, more, hfirst, hbare⟩ := field.bare.begins
    refine ⟨first, more ++ ([' ', '=', ' '] ++ (field.value ++ '\n' :: rest)), ?_,
      isBlank_of_isBareChar hbare, ?_⟩
    · simp [Field.written, entry, hfirst]
    · rintro (heq | heq | heq)
      · exact ne_of_isBareChar hbare (by decide) heq
      · exact ne_of_isBareChar hbare (by decide) heq
      · exact ne_of_isBareChar hbare (by decide) heq
  · simp only [Field.written, entry, List.length_append, List.length_cons]
    omega
  · change (entries.assign [key] node).bind _ = _
    rw [assign_new hnew]
    rfl

theorem readFrom_fields {fields : List Field} (hdistinct : (fields.map Field.name).Nodup)
    {closed entries : Entries} (part : KeyPart) (span : Span)
    (hnew : ∀ field ∈ fields, entries.get? field.name = none) (rest : List Char) :
    ∃ more span', Field.Hold fields more ∧
      readFrom ⟨closed, some ⟨false, [part], span⟩, entries⟩
          (fields.flatMap Field.written ++ rest) =
        readFrom ⟨closed, some ⟨false, [part], span'⟩, entries ++ more⟩ rest := by
  induction fields generalizing entries span with
  | nil =>
      refine ⟨[], span, .nil, ?_⟩
      rw [List.flatMap_nil, List.nil_append, List.append_nil]
  | cons field fields ih =>
      obtain ⟨hfirst, hdistinct⟩ := List.nodup_cons.mp hdistinct
      obtain ⟨node, span', hnode, hfield⟩ := readFrom_field field part span
        (hnew field List.mem_cons_self) (fields.flatMap Field.written ++ rest)
      have hnext : ∀ other ∈ fields,
          Entries.get? (entries ++ [(field.name, node)]) other.name = none := by
        intro other hother
        refine Entries.get?_append_eq_none (hnew other (List.mem_cons_of_mem _ hother)) ?_ node
        intro heq
        exact hfirst (heq ▸ List.mem_map_of_mem hother)
      obtain ⟨more, span'', hmore, hfields⟩ := ih hdistinct span' hnext
      refine ⟨(field.name, node) :: more, span'', .cons hnode hmore, ?_⟩
      rw [List.flatMap_cons, List.append_assoc, hfield, hfields, List.append_assoc,
        List.singleton_append]

theorem readFrom_paragraph (paragraph : Paragraph) {assembly : Assembly}
    (hnew : assembly.close.get? paragraph.name = none) (rest : List Char) :
    ∃ next span entries, Field.Hold paragraph.fields entries ∧
      next.close = assembly.close ++ [(paragraph.name, .table .header span entries)] ∧
      readFrom assembly (paragraph.written ++ rest) = readFrom next rest := by
  obtain ⟨part, span, hpart, hheader⟩ := readFrom_header paragraph.bare hnew
    (paragraph.fields.flatMap Field.written ++ rest)
  obtain ⟨entries, span', hentries, hfields⟩ := readFrom_fields paragraph.distinct part span
    (fun _ _ => rfl : ∀ field ∈ paragraph.fields, Entries.get? [] field.name = none) rest
  refine ⟨⟨assembly.close, some ⟨false, [part], span'⟩, entries⟩, span', entries, hentries, ?_, ?_⟩
  · rw [← hpart] at hnew ⊢
    exact close_new hnew
  · rw [Paragraph.written, List.append_assoc, hheader, hfields, List.nil_append]

theorem readFrom_paragraphs {paragraphs : List Paragraph}
    (hdistinct : (paragraphs.map Paragraph.name).Nodup) {assembly : Assembly}
    (hnew : ∀ paragraph ∈ paragraphs, assembly.close.get? paragraph.name = none) :
    ∃ document, Paragraph.Hold paragraphs document ∧
      readFrom assembly (paragraphs.flatMap Paragraph.written) =
        .ok (assembly.close ++ document) := by
  induction paragraphs generalizing assembly with
  | nil =>
      refine ⟨[], .nil, ?_⟩
      rw [List.flatMap_nil, List.append_nil]
      exact readFrom_nil assembly
  | cons paragraph paragraphs ih =>
      obtain ⟨hfirst, hdistinct⟩ := List.nodup_cons.mp hdistinct
      obtain ⟨next, span, entries, hentries, hclose, hread⟩ := readFrom_paragraph paragraph
        (hnew paragraph List.mem_cons_self) (paragraphs.flatMap Paragraph.written)
      have hnext : ∀ other ∈ paragraphs, next.close.get? other.name = none := by
        intro other hother
        rw [hclose]
        refine Entries.get?_append_eq_none (hnew other (List.mem_cons_of_mem _ hother)) ?_ _
        intro heq
        exact hfirst (heq ▸ List.mem_map_of_mem hother)
      obtain ⟨document, hdocument, hrest⟩ := ih hdistinct hnext
      refine ⟨(paragraph.name, .table .header span entries) :: document,
        .cons hentries hdocument, ?_⟩
      rw [List.flatMap_cons, hread, hrest, hclose, List.append_assoc, List.singleton_append]

theorem readDocument_paragraphs {paragraphs : List Paragraph}
    (hdistinct : (paragraphs.map Paragraph.name).Nodup) :
    ∃ document, Paragraph.Hold paragraphs document ∧
      readDocument (paragraphs.flatMap Paragraph.written) = .ok document := by
  have hmark : skipByteOrderMark (paragraphs.flatMap Paragraph.written) =
      paragraphs.flatMap Paragraph.written := by
    cases paragraphs with
    | nil => rfl
    | cons paragraph paragraphs => rfl
  obtain ⟨document, hdocument, hread⟩ := readFrom_paragraphs hdistinct
    (fun _ _ => rfl : ∀ paragraph ∈ paragraphs, Assembly.empty.close.get? paragraph.name = none)
  refine ⟨document, hdocument, ?_⟩
  rw [readDocument_eq, hmark, hread]
  rfl

end Reftest.Config.Layout
