import Reftest.Proofs.Config.Decoding
import Reftest.Proofs.Config.Listing

namespace Reftest.Config

open Toml (Node Entries KeyPart Assembly readDocument readValue depthLimit)
open Layout (IsBare Moved Writes Piece Pair)

/-- Some texts give the same settings, or each of them has the same to say about a value that is
not what its place needs. -/
def Agree (texts : List String) : Prop :=
  (∃ config, ∀ text ∈ texts, ofText text = .ok config) ∨
    ∃ found expected, ∀ text ∈ texts, ∃ excerpt,
      ofText text = .error (.illTyped excerpt found expected)

/-! Decoding looks at what stands in a document, not where. -/

inductive SameReason {α : Type} : Except Mismatch α → Except Mismatch α → Prop where
  | ok (value : α) : SameReason (.ok value) (.ok value)
  | error (span span' : Toml.Span) (found : Found) (expected : Expected) :
      SameReason (.error ⟨span, found, expected⟩) (.error ⟨span', found, expected⟩)

namespace SameReason

variable {α β : Type} {outcome outcome' : Except Mismatch α}

theorem map (h : SameReason outcome outcome') (f : α → β) :
    SameReason (outcome.map f) (outcome'.map f) := by
  cases h with
  | ok value => exact .ok (f value)
  | error span span' found expected => exact .error span span' found expected

theorem bind (h : SameReason outcome outcome') {next next' : α → Except Mismatch β}
    (hnext : ∀ value, SameReason (next value) (next' value)) :
    SameReason (outcome >>= next) (outcome' >>= next') := by
  cases h with
  | ok value => exact hnext value
  | error span span' found expected => exact .error span span' found expected

theorem ofNode (node : Node) (width : Nat) (expected : Expected) :
    SameReason (.error (.ofNode node expected) : Except Mismatch α)
      (.error (.ofNode (node.shift width) expected)) := by
  have hfound : Found.ofNode (node.shift width) = Found.ofNode node := by
    cases node with
    | scalar span value =>
        rw [Node.shift_scalar]
        cases value <;> rfl
    | array span items => rw [Node.shift_array]; rfl
    | table origin span entries => rw [Node.shift_table]; rfl
    | tables earlier span entries => rw [Node.shift_tables]; rfl
  rw [Mismatch.ofNode, Mismatch.ofNode, hfound]
  exact .error _ _ _ _

end SameReason

def Placeless {α : Type} (decode : Node → Except Mismatch α) : Prop :=
  ∀ node width, SameReason (decode node) (decode (node.shift width))

theorem placeless_decodeText : Placeless decodeText := by
  intro node width
  unfold decodeText
  split
  · rename_i span text
    rw [Node.shift_scalar]
    exact .ok text
  · rename_i hother
    split
    · rename_i span text heq
      obtain ⟨span', rfl⟩ := Node.scalar_of_shift heq
      exact (hother span' text rfl).elim
    · exact .ofNode node width .string

theorem placeless_decodePath : Placeless decodePath := by
  intro node width
  unfold decodePath
  split
  · rename_i span text
    rw [Node.shift_scalar]
    exact .ok (Octets.ofText text)
  · rename_i hother
    split
    · rename_i span text heq
      obtain ⟨span', rfl⟩ := Node.scalar_of_shift heq
      exact (hother span' text rfl).elim
    · exact .ofNode node width .path

theorem placeless_decodeFlag : Placeless decodeFlag := by
  intro node width
  unfold decodeFlag
  split
  · rename_i span value
    rw [Node.shift_scalar]
    exact .ok value
  · rename_i hother
    split
    · rename_i span value heq
      obtain ⟨span', rfl⟩ := Node.scalar_of_shift heq
      exact (hother span' value rfl).elim
    · exact .ofNode node width .boolean

theorem mapM_shift {α : Type} {decode : Node → Except Mismatch α} (hdecode : Placeless decode)
    (width : Nat) (items : List Node) :
    SameReason (items.mapM decode) ((items.map (Node.shift width)).mapM decode) := by
  induction items with
  | nil => exact .ok []
  | cons item items ih =>
      rw [List.map_cons, List.mapM_cons, List.mapM_cons]
      exact (hdecode item width).bind fun value => ih.bind fun values => .ok (value :: values)

theorem placeless_decodeTexts : Placeless decodeTexts := by
  intro node width
  rw [decodeTexts, decodeTexts, Node.items?_shift]
  cases node.items? with
  | none => exact .ofNode node width .sequence
  | some items => exact mapM_shift placeless_decodeText width items

theorem placeless_put_harness (settings : HarnessSection) (name : String) :
    Placeless (settings.put name) := by
  intro node width
  unfold HarnessSection.put
  split
  · exact (placeless_decodeText node width).map _
  · exact (placeless_decodeTexts node width).map _
  · exact (placeless_decodeText node width).map _
  · exact (placeless_decodePath node width).map _
  · exact .ok settings

theorem placeless_put_viewer (settings : ViewerSection) (name : String) :
    Placeless (settings.put name) := by
  intro node width
  unfold ViewerSection.put
  split
  · exact (placeless_decodeText node width).map _
  · exact (placeless_decodeTexts node width).map _
  · exact (placeless_decodeText node width).map _
  · exact (placeless_decodeFlag node width).map _
  · exact .ok settings

theorem placeless_put_run (settings : RunSection) (name : String) :
    Placeless (settings.put name) := by
  intro node width
  unfold RunSection.put
  split
  · exact (placeless_decodeFlag node width).map _
  · exact .ok settings

theorem foldlM_moved {α : Type} {put : α → String → Node → Except Mismatch α}
    (hput : ∀ settings name, Placeless (put settings name)) {nodes nodes' : List Node}
    (hmoved : Moved nodes nodes') (names : List String) (initial : α) :
    SameReason
      ((names.zip nodes).foldlM (fun settings field => put settings field.1 field.2) initial)
      ((names.zip nodes').foldlM (fun settings field => put settings field.1 field.2) initial) := by
  induction hmoved generalizing names initial with
  | nil =>
      rw [List.zip_nil_right]
      exact .ok initial
  | @cons node width nodes nodes' _ ih =>
      cases names with
      | nil => exact .ok initial
      | cons name names =>
          rw [List.zip_cons_cons, List.zip_cons_cons, List.foldlM_cons, List.foldlM_cons]
          exact (hput initial name node width).bind fun next => ih names next

def fieldTable (names : List String) (nodes : List Node) : Node :=
  .table .inline ⟨0, 0⟩ (names.zip nodes)

section

variable {part : Section} {names : List String} {node : Node} {nodes nodes' : List Node}
  (hcontents : part.contents? node = some (names.zip nodes')) (hmoved : Moved nodes nodes')

include hcontents hmoved

theorem decodeSection_moved {α : Type} {put : α → String → Node → Except Mismatch α}
    (hput : ∀ settings name, Placeless (put settings name)) (initial : α) :
    SameReason (decodeSection part.names put initial part.expected (fieldTable names nodes))
      (decodeSection part.names put initial part.expected node) := by
  rw [decodeSection_eq part put initial node, hcontents]
  exact foldlM_moved hput hmoved names initial

theorem decode_moved (hpart : part ∈ Section.all) :
    SameReason (decode [(part.name, fieldTable names nodes)]) (decode [(part.name, node)]) := by
  simp only [Section.all, List.mem_cons, List.not_mem_nil, or_false] at hpart
  obtain rfl | rfl | rfl := hpart
  · have hsection := decodeSection_moved hcontents hmoved placeless_put_harness {}
    exact (hsection.map _).bind fun config => .ok config
  · have hsection := decodeSection_moved hcontents hmoved placeless_put_viewer {}
    exact (hsection.map _).bind fun config => .ok config
  · have hsection := decodeSection_moved hcontents hmoved placeless_put_run {}
    exact (hsection.map _).bind fun config => .ok config

end

def ReadsAs (text : String) (part : Section) (names : List String) (nodes : List Node) : Prop :=
  ∃ node nodes', readDocument text.toList = .ok [(part.name, node)] ∧
    part.contents? node = some (names.zip nodes') ∧ Moved nodes nodes'

theorem ofText_of_readDocument {text : String} {document : Entries}
    (h : readDocument text.toList = .ok document) :
    ofText text = (decode document).mapError (.ofMismatch text.toList) := by
  rw [ofText, h]

theorem ReadsAs.ofText_eq_ok {text : String} {part : Section} {names : List String}
    {nodes : List Node} (h : ReadsAs text part names nodes) (hpart : part ∈ Section.all)
    {config : Config} (hdecode : decode [(part.name, fieldTable names nodes)] = .ok config) :
    ofText text = .ok config := by
  obtain ⟨node, nodes', hread, hcontents, hmoved⟩ := h
  have hsame := decode_moved hcontents hmoved hpart
  rw [hdecode] at hsame
  rw [ofText_of_readDocument hread]
  generalize decode [(part.name, node)] = outcome at hsame
  cases hsame with
  | ok => rfl

theorem ReadsAs.ofText_eq_error {text : String} {part : Section} {names : List String}
    {nodes : List Node} (h : ReadsAs text part names nodes) (hpart : part ∈ Section.all)
    {mismatch : Mismatch}
    (hdecode : decode [(part.name, fieldTable names nodes)] = .error mismatch) :
    ∃ excerpt, ofText text = .error (.illTyped excerpt mismatch.found mismatch.expected) := by
  obtain ⟨node, nodes', hread, hcontents, hmoved⟩ := h
  have hsame := decode_moved hcontents hmoved hpart
  rw [hdecode] at hsame
  rw [ofText_of_readDocument hread]
  generalize decode [(part.name, node)] = outcome at hsame
  cases hsame with
  | error span span' found expected => exact ⟨_, rfl⟩

theorem agree_of_readsAs {texts : List String} {part : Section} (hpart : part ∈ Section.all)
    {names : List String} {nodes : List Node} (h : ∀ text ∈ texts, ReadsAs text part names nodes) :
    Agree texts := by
  cases hdecode : decode [(part.name, fieldTable names nodes)] with
  | ok config => exact Or.inl ⟨config, fun text htext => (h text htext).ofText_eq_ok hpart hdecode⟩
  | error mismatch =>
      exact Or.inr ⟨mismatch.found, mismatch.expected, fun text htext =>
        (h text htext).ofText_eq_error hpart hdecode⟩

theorem agree_of_both {text text' : String} {part : Section} (hpart : part ∈ Section.all)
    {names : List String} {nodes : List Node} (h : ReadsAs text part names nodes)
    (h' : ReadsAs text' part names nodes) : Agree [text, text'] := by
  refine agree_of_readsAs hpart fun other hother => (?_ : ReadsAs other part names nodes)
  rcases List.mem_cons.mp hother with rfl | hother
  · exact h
  · rw [List.mem_singleton.mp hother]
    exact h'

/-- A text that is a value, with at most so many arrays and inline tables inside each other. -/
def IsValue (depth : Nat) (text : String) : Prop :=
  ∃ node, readValue depth text.toList = .ok (node, [])

theorem isValue_of_rest {depth : Nat} {text : String}
    (h : (readValue depth text.toList).toOption.map Prod.snd = some []) : IsValue depth text := by
  obtain ⟨⟨node, rest⟩, hread, rfl⟩ := Option.map_eq_some_iff.mp h
  exact ⟨node, toOption_eq_some.mp hread⟩

theorem Section.isBare_name : ∀ part ∈ Section.all, IsBare part.name := by
  decide

def underHeader (part field value : String) : String :=
  "[" ++ part ++ "]\n" ++ field ++ " = " ++ value ++ "\n"

def underDottedKey (part field value : String) : String :=
  part ++ "." ++ field ++ " = " ++ value ++ "\n"

def inBraces (part field value : String) : String :=
  part ++ " = \x7b " ++ field ++ " = " ++ value ++ " \x7d\n"

section

variable {part : Section} (hpart : part ∈ Section.all) {field : String} (hfield : IsBare field)
  {value : String} {node : Node} (hvalue : Writes depthLimit value.toList node)

include hpart hfield hvalue

theorem readsAs_underHeader : ReadsAs (underHeader part.name field value) part [field] [node] := by
  have hname := Section.isBare_name part hpart
  have htext : (underHeader part.name field value).toList =
      (Layout.Paragraph.single hname (hvalue.field hfield)).written := by
    simp [underHeader, Layout.Paragraph.written, Layout.Paragraph.single, Layout.header,
      Layout.Field.written, Layout.Writes.field, Layout.entry]
  obtain ⟨span, _, hread, width, rfl⟩ := Layout.readDocument_single hname (hvalue.field hfield)
  rw [← htext] at hread
  exact ⟨_, [node.shift width], hread, rfl, .cons width .nil⟩

theorem readsAs_underDottedKey :
    ReadsAs (underDottedKey part.name field value) part [field] [node] := by
  have htext : (underDottedKey part.name field value).toList =
      part.name.toList ++ '.' :: (field.toList ++ ' ' :: '=' :: ' ' ::
        (value.toList ++ ['\n'])) := by
    simp [underDottedKey]
  have hread : readValue depthLimit (Toml.skipBlanks (' ' :: (value.toList ++ ['\n']))) =
      .ok (node.shift 1, ['\n']) := by
    change readValue depthLimit (Toml.skipBlanks (value.toList ++ ['\n'])) = _
    rw [hvalue.skipBlanks]
    exact hvalue.reads _ (.line [])
  obtain ⟨span, hdocument⟩ := Layout.readDocument_dotted (Section.isBare_name part hpart) hfield
    hread rfl
  rw [← htext] at hdocument
  exact ⟨_, [node.shift 1], hdocument, rfl, .cons 1 .nil⟩

end

theorem readsAs_inBraces {part : Section} (hpart : part ∈ Section.all) {field : String}
    (hfield : IsBare field) {value : String} {node : Node} (hvalue : Writes 78 value.toList node) :
    ReadsAs (inBraces part.name field value) part [field] [node] := by
  have hpairs : ∀ pair ∈ [Pair.mk field ⟨value.toList, node⟩],
      IsBare pair.name ∧ Writes 78 pair.piece.text pair.piece.node := by
    intro pair hpair
    rw [List.mem_singleton.mp hpair]
    exact ⟨hfield, hvalue⟩
  have htext : (inBraces part.name field value).toList =
      part.name.toList ++ ' ' :: '=' :: ' ' :: '\x7b' :: ' ' ::
        (Pair.join [Pair.mk field ⟨value.toList, node⟩] ++ ' ' :: '\x7d' :: ['\n']) := by
    simp [inBraces, Pair.join, Pair.text, Layout.listed_singleton]
  obtain ⟨span, nodes, hdocument, hmoved⟩ := Layout.readDocument_braces
    (Section.isBare_name part hpart) hpairs (List.pairwise_singleton _ field)
    (rfl : Toml.endLine (Toml.skipBlanks ['\n']) = .ok [])
  rw [← htext] at hdocument
  exact ⟨_, nodes, hdocument, rfl, hmoved⟩

/-- A setting has the same outcome under the header of its section, under a dotted key and in
braces. -/
theorem ways_of_writing_agree {part : Section} (hpart : part ∈ Section.all) {field : String}
    (hfield : IsBare field) {value : String} (hvalue : IsValue 70 value) :
    Agree [underHeader part.name field value, underDottedKey part.name field value,
      inBraces part.name field value] := by
  obtain ⟨node, hread⟩ := hvalue
  have hline := Layout.writes_of_readValue (by decide : 70 ≤ depthLimit) hread
  have hinner := Layout.writes_of_readValue (by decide : 70 ≤ 78) hread
  refine agree_of_readsAs hpart fun text htext => (?_ : ReadsAs text part [field] [node])
  simp only [List.mem_cons, List.not_mem_nil, or_false] at htext
  rcases htext with rfl | rfl | rfl
  · exact readsAs_underHeader hpart hfield hline
  · exact readsAs_underDottedKey hpart hfield hline
  · exact readsAs_inBraces hpart hfield hinner

/-- An array over several lines, of which the second gives what is no text. -/
theorem ways_of_writing_agree_args :
    let value := "[\n  \"--fast\", # at first\n  \x7b n = 1 \x7d,\n]"
    (Section.harness ∈ Section.all ∧ IsBare "args" ∧ IsValue 70 value) ∧
      Agree [underHeader "harness" "args" value, underDottedKey "harness" "args" value,
        inBraces "harness" "args" value] := by
  intro value
  have hpart : Section.harness ∈ Section.all := List.mem_cons_self
  have hfield : IsBare "args" := by decide
  have hvalue : IsValue 70 value := isValue_of_rest (by decide +kernel)
  exact ⟨⟨hpart, hfield, hvalue⟩, ways_of_writing_agree hpart hfield hvalue⟩

end Reftest.Config
