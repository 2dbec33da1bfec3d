import Reftest.Fault
import Reftest.Proofs.Config.Order
import Reftest.Proofs.Text.Lines
import Reftest.Proofs.Toml.Source

namespace Reftest

open Toml (Node Entries Span Step)

namespace Config

theorem step?_index {node item : Node} {items : List Node} (hitems : node.items? = some items)
    (hitem : item ∈ items) : ∃ index, node.step? (.index index) = some item := by
  obtain ⟨index, hindex, rfl⟩ := List.mem_iff_getElem.mp hitem
  refine ⟨index, ?_⟩
  have hstep : node.step? (.index index) = node.items?.bind (·[index]?) := by
    cases node <;> rfl
  rw [hstep, hitems]
  exact List.getElem?_eq_getElem hindex

theorem step_of_contents {part : Section} {node value : Node} {contents : Entries} {name : String}
    (hcontents : part.contents? node = some contents) (hvalue : contents.get? name = some value) :
    ∃ step, node.step? step = some value := by
  have hmem := Entries.mem_of_get? hvalue
  cases node with
  | scalar span scalar =>
      cases scalar with
      | datetime =>
          obtain rfl := Option.some.inj hcontents
          cases hmem
      | string text => cases hcontents
      | integer value => cases hcontents
      | float value => cases hcontents
      | boolean value => cases hcontents
  | array span items =>
      obtain rfl := Option.some.inj hcontents
      have hitems : (Node.array span items).items? = some items := rfl
      obtain ⟨index, hstep⟩ := step?_index hitems (List.of_mem_zip hmem).2
      exact ⟨.index index, hstep⟩
  | table origin span entries =>
      obtain rfl := Option.some.inj hcontents
      exact ⟨.name name, hvalue⟩
  | tables earlier span entries =>
      have hitems : (Node.tables earlier span entries).items? = some _ := rfl
      obtain rfl := Option.some.inj hcontents
      obtain ⟨index, hstep⟩ := step?_index hitems (List.of_mem_zip hmem).2
      exact ⟨.index index, hstep⟩

theorem Kind.path_of_offends {kind : Kind} {node : Node} {mismatch : Mismatch}
    (h : kind.Offends node mismatch) :
    ∃ path inner expected, node.at? path = some inner ∧ mismatch = .ofNode inner expected := by
  cases h with
  | text => exact ⟨[], node, _, rfl, rfl⟩
  | path => exact ⟨[], node, _, rfl, rfl⟩
  | flag => exact ⟨[], node, _, rfl, rfl⟩
  | texts => exact ⟨[], node, _, rfl, rfl⟩
  | @item node item items mismatch hitems hitem h =>
      cases h with
      | text =>
          obtain ⟨index, hstep⟩ := step?_index hitems hitem
          exact ⟨[.index index], item, _, Node.at?_cons_eq_some.mpr ⟨item, hstep, rfl⟩, rfl⟩

theorem path_of_offends {document : Entries} {mismatch : Mismatch}
    (h : Offends document mismatch) :
    ∃ path node expected, document.at? path = some node ∧ mismatch = .ofNode node expected := by
  obtain ⟨part, -, outer, hsection, h⟩ := h
  have hat : ∀ path, document.at? (.name part.name :: path) = outer.at? path := by
    intro path
    rw [Entries.at?, hsection]
    rfl
  cases h with
  | whole => exact ⟨[.name part.name], outer, _, hat [], rfl⟩
  | field hcontents hfield hvalue h =>
      obtain ⟨step, hstep⟩ := step_of_contents hcontents hvalue
      obtain ⟨path, node, expected, hnode, hmismatch⟩ := Kind.path_of_offends h
      exact ⟨.name part.name :: step :: path, node, expected,
        (hat _).trans (Node.at?_cons_eq_some.mpr ⟨_, hstep, hnode⟩), hmismatch⟩

inductive Excerpt.Locates : (excerpt : Excerpt) → (text before source : List Char) → Prop where
  | intro {text front line more : List Char} {lines others : List (List Char)} {c : Char}
      {carets : Nat} (htext : Reftest.pieces '\n' text = lines ++ (front ++ c :: line) :: others) :
      Locates ⟨lines.length + 1, front.length + 1, front ++ c :: line, carets⟩ text
        (lines.flatMap (· ++ ['\n']) ++ front) (c :: more)

theorem octetCount_pos {text : List Char} (h : text ≠ []) : 1 ≤ octetCount text := by
  obtain ⟨c, more, rfl⟩ := List.exists_cons_of_ne_nil h
  rw [octetCount, Utf8.encode_cons, List.length_append]
  have hc := Char.utf8Size_pos c
  rw [String.length_utf8EncodeChar]
  omega

theorem content_of_covers {before source below : List Char} {span : Span}
    (hstart : span.start = (source ++ below).length) (hstop : span.stop = below.length) :
    span.content (before ++ source ++ below) = source := by
  rw [Span.content, hstart, hstop, List.append_assoc, Toml.Mark.after_append, List.length_append,
    Nat.add_sub_cancel, List.take_left']
  rfl

theorem locates_ofSpan {before source below : List Char} {span : Span}
    (hstart : span.start = (source ++ below).length)
    (hopens : ∃ c more, source = c :: more ∧ c ≠ '\n') :
    (Excerpt.ofSpan (before ++ source ++ below) span).Locates (before ++ source ++ below) before
      source := by
  obtain ⟨c, more, rfl, hc⟩ := hopens
  obtain ⟨lines, others, front, line, htext, hbefore, hline, hcolumn, hcontent⟩ :=
    Toml.Mark.place_of_mark before c (more ++ below) hc
  rw [Excerpt.ofSpan, hstart, List.append_assoc, List.cons_append, hline, hcolumn, hcontent]
  rw [hbefore] at htext ⊢
  exact .intro htext

theorem carets_ofSpan {before source below : List Char} {span : Span}
    (hstart : span.start = (source ++ below).length) (hstop : span.stop = below.length)
    (hsource : source ≠ []) :
    1 ≤ (Excerpt.ofSpan (before ++ source ++ below) span).carets ∧
      (Excerpt.ofSpan (before ++ source ++ below) span).carets ≤ octetCount source := by
  rw [Excerpt.ofSpan, content_of_covers hstart hstop]
  have hpos := octetCount_pos hsource
  dsimp only
  omega

/-- The rows in which a message shows an excerpt: the number of its line in front of the line, and
below that, behind a gutter of the same width, as many blanks as its column says and the carets. -/
def Excerpt.ShownIn (excerpt : Excerpt) (message : String) : Prop :=
  ∃ (label gutter : List Char) (others : List (List Char)),
    label = (toString excerpt.line).toList ++ [' '] ∧
    gutter = List.replicate label.length ' ' ∧
    Reftest.pieces '\n' message.toList =
      ("Invalid configuration file: TOML parse error at line " ++ toString excerpt.line ++
        ", column " ++ toString excerpt.column).toList ::
      (gutter ++ ['|']) ::
      (label ++ '|' :: ' ' :: excerpt.content) ::
      (gutter ++ '|' :: (List.replicate excerpt.column ' ' ++
        List.replicate excerpt.carets '^')) :: others

theorem line_feed_not_mem_digits (n : Nat) : '\n' ∉ (toString n).toList := by
  intro hmem
  rw [Nat.toString_eq_repr, Nat.toList_repr] at hmem
  exact absurd (Nat.isDigit_of_mem_toDigits (by decide) (by decide) hmem) (by decide)

theorem pieces_rows {first second third fourth rest : List Char} (hfirst : '\n' ∉ first)
    (hsecond : '\n' ∉ second) (hthird : '\n' ∉ third) (hfourth : '\n' ∉ fourth) :
    Reftest.pieces '\n'
        (first ++ '\n' :: (second ++ '\n' :: (third ++ '\n' :: (fourth ++ '\n' :: rest)))) =
      first :: second :: third :: fourth :: Reftest.pieces '\n' rest := by
  rw [pieces_append_mark, pieces_append_mark, pieces_append_mark, pieces_append_mark,
    pieces_of_not_mem hfirst, pieces_of_not_mem hsecond, pieces_of_not_mem hthird,
    pieces_of_not_mem hfourth]
  rfl

theorem message_toList (text : String) (objection : Toml.Objection) (excerpt : Excerpt)
    (found : Found) (expected : Expected) :
    (Fault.ofDiagnostic text objection (.illTyped excerpt found expected)).message.toList =
      ("Invalid configuration file: TOML parse error at line " ++ toString excerpt.line ++
        ", column " ++ toString excerpt.column).toList ++ '\n' ::
      (List.replicate ((toString excerpt.line).toList ++ [' ']).length ' ' ++ ['|'] ++ '\n' ::
      ((toString excerpt.line).toList ++ [' '] ++ '|' :: ' ' :: excerpt.content ++ '\n' ::
      (List.replicate ((toString excerpt.line).toList ++ [' ']).length ' ' ++ '|' ::
        (List.replicate excerpt.column ' ' ++ List.replicate excerpt.carets '^') ++ '\n' ::
      ("invalid type: " ++ found.describe ++ ", expected " ++ expected.describe ++
        "\n").toList))) := by
  have hopening : "Invalid configuration file: TOML parse error at line " =
      "Invalid configuration file: " ++ "TOML parse error at line " := by decide
  have hbar : "|\n".toList = ['|', '\n'] := rfl
  have hstroke : " | ".toList = [' ', '|', ' '] := rfl
  have hgutter : "|".toList = ['|'] := rfl
  have hend : "\n".toList = ['\n'] := rfl
  have hwidth : (toString excerpt.line).length + 1 =
      ((toString excerpt.line).toList ++ [' ']).length := by
    rw [List.length_append, String.length_toList]
    rfl
  unfold Fault.ofDiagnostic Fault.message Diagnostic.message Diagnostic.report Excerpt.render
  simp only [String.toList_append, String.toList_ofList]
  rw [hbar, hstroke, hgutter, hend, hwidth, hopening, String.toList_append]
  simp only [List.append_assoc, List.cons_append, List.nil_append]

theorem shownIn_message {excerpt : Excerpt} (hcontent : '\n' ∉ excerpt.content) (text : String)
    (objection : Toml.Objection) (found : Found) (expected : Expected) :
    excerpt.ShownIn
      (Fault.ofDiagnostic text objection (.illTyped excerpt found expected)).message := by
  have hline := line_feed_not_mem_digits excerpt.line
  have hcolumn := line_feed_not_mem_digits excerpt.column
  refine ⟨_, _, Reftest.pieces '\n' ("invalid type: " ++ found.describe ++ ", expected " ++
    expected.describe ++ "\n").toList, rfl, rfl, ?_⟩
  rw [message_toList, pieces_rows]
  · simp only [String.toList_append, List.mem_append, hline, hcolumn, or_false]
    decide
  · simp
  · simp [-Nat.toString_eq_repr, hline, hcontent]
  · simp

/-- A report is of a value that offends in the document of a text: it gives the place at which the
source of the value starts, with the line of that place, and no more carets than the source has
octets. -/
structure PointsOut (text : String) (excerpt : Excerpt) (found : Found) (expected : Expected)
    (document : Entries) (path : List Step) (node : Node) (before source below : List Char) :
    Prop where
  read : Toml.readDocument text.toList = .ok document
  value : document.at? path = some node
  offends : Offends document (.ofNode node expected)
  described : found = .ofNode node
  written : Toml.SourceIn text.toList document path source below
  split : text.toList = before ++ source ++ below
  located : excerpt.Locates text.toList before source
  carets : 1 ≤ excerpt.carets ∧ excerpt.carets ≤ octetCount source
  shown : ∀ objection : Toml.Objection, excerpt.ShownIn
    (Fault.ofDiagnostic text objection (.illTyped excerpt found expected)).message

theorem decode_offends {document : Entries} (hreadable : Readable document) {mismatch : Mismatch}
    (h : decode document = .error mismatch) : Offends document mismatch := by
  have hreports := reports_decode document
  rw [h] at hreports
  cases hfaults : faults document with
  | nil =>
      rw [hfaults] at hreports
      obtain ⟨config, hconfig⟩ := hreports
      cases hconfig
  | cons first rest =>
      rw [hfaults] at hreports
      obtain rfl := Except.error.inj hreports
      exact (mem_faults hreadable).mp (mem_of_eq_cons hfaults)

theorem ofText_eq_illTyped {text : String} {excerpt : Excerpt} {found : Found}
    {expected : Expected} (h : ofText text = .error (.illTyped excerpt found expected)) :
    ∃ document mismatch, Toml.readDocument text.toList = .ok document ∧
      decode document = .error mismatch ∧ excerpt = .ofSpan text.toList mismatch.span ∧
      found = mismatch.found ∧ expected = mismatch.expected := by
  unfold ofText at h
  split at h
  · cases h
  · rename_i document hdocument
    cases hdecode : decode document with
    | ok config =>
        rw [hdecode] at h
        cases h
    | error mismatch =>
        rw [hdecode] at h
        obtain ⟨rfl, rfl, rfl⟩ := Diagnostic.illTyped.inj (Except.error.inj h)
        exact ⟨document, mismatch, hdocument, hdecode, rfl, rfl, rfl⟩

/-- A report of a value that does not fit points at the source of the value. -/
theorem illTyped_pointsOut {text : String} {excerpt : Excerpt} {found : Found}
    {expected : Expected} (h : ofText text = .error (.illTyped excerpt found expected)) :
    ∃ document path node before source below,
      PointsOut text excerpt found expected document path node before source below := by
  obtain ⟨document, mismatch, hread, hdecode, rfl, rfl, rfl⟩ := ofText_eq_illTyped h
  have hoffends := decode_offends (readable_of_laid (Toml.laid_of_readDocument hread)) hdecode
  obtain ⟨path, node, expected, hat, rfl⟩ := path_of_offends hoffends
  obtain ⟨source, below, hsource, hcovers⟩ := Toml.source_of_at? hread hat
  obtain ⟨before, hbefore⟩ := hcovers.suffix
  have htext : text.toList = before ++ source ++ below := by
    rw [List.append_assoc, hbefore]
  have hne : source ≠ [] := by
    obtain ⟨c, more, rfl, -⟩ := hcovers.opens
    exact List.cons_ne_nil c more
  refine ⟨document, path, node, before, source, below, hread, hat, hoffends, rfl, hsource, htext,
    ?_, ?_, ?_⟩
  · rw [htext]
    exact locates_ofSpan hcovers.start hcovers.opens
  · rw [htext]
    exact carets_ofSpan hcovers.start hcovers.stop hne
  · intro objection
    exact shownIn_message (Toml.Mark.line_feed_not_mem_lineText _ _) text objection _ _

theorem illTyped_pointsOut_number :
    ofText "[harness]\nsuite = 3\n" =
        .error (.illTyped ⟨2, 9, "suite = 3".toList, 1⟩ (.integer 3) .string) ∧
      ∃ document path node before source below,
        PointsOut "[harness]\nsuite = 3\n" ⟨2, 9, "suite = 3".toList, 1⟩ (.integer 3) .string
          document path node before source below := by
  have h : ofText "[harness]\nsuite = 3\n" =
      .error (.illTyped ⟨2, 9, "suite = 3".toList, 1⟩ (.integer 3) .string) := by
    decide +kernel
  exact ⟨h, illTyped_pointsOut h⟩

def originAt? (text : List Char) (path : List Step) : Option Toml.Origin :=
  (Toml.readDocument text).toOption.bind fun document =>
    (document.at? path).bind fun
      | .table origin _ _ => some origin
      | _ => none

theorem table_of_originAt? {text : List Char} {path : List Step} {origin : Toml.Origin}
    (h : originAt? text path = some origin) :
    ∃ document span inner, Toml.readDocument text = .ok document ∧
      document.at? path = some (.table origin span inner) := by
  obtain ⟨document, hread, hnode⟩ := Option.bind_eq_some_iff.mp h
  obtain ⟨node, hplace, horigin⟩ := Option.bind_eq_some_iff.mp hnode
  cases node with
  | table made span inner =>
      obtain rfl := Option.some.inj horigin
      exact ⟨document, span, inner, toOption_eq_some.mp hread, hplace⟩
  | scalar | array | tables => cases horigin

/-- It is not always the header with its brackets that is pointed out for the table that a header
made: where values are assigned under it the carets go on behind the brackets, and a table that is
implied by the header of a table in it is pointed out in the midst of that header. -/
theorem header_not_pointed_out :
    (∃ document span inner,
      Toml.readDocument "[harness.args] # c\nx=1".toList = .ok document ∧
      document.at? [.name "harness", .name "args"] = some (.table .header span inner) ∧
      ofText "[harness.args] # c\nx=1" =
        .error (.illTyped ⟨1, 1, "[harness.args] # c".toList, 18⟩ .map .sequence) ∧
      ¬ 18 ≤ octetCount "[harness.args]".toList) ∧
    ∃ document span inner,
      Toml.readDocument "[harness.program.sub]\n".toList = .ok document ∧
      document.at? [.name "harness", .name "program"] = some (.table .implied span inner) ∧
      ofText "[harness.program.sub]\n" =
        .error (.illTyped ⟨1, 10, "[harness.program.sub]".toList, 7⟩ .map .string) := by
  have hheader : originAt? "[harness.args] # c\nx=1".toList [.name "harness", .name "args"] =
      some .header := by
    decide +kernel
  have himplied : originAt? "[harness.program.sub]\n".toList
      [.name "harness", .name "program"] = some .implied := by
    decide +kernel
  obtain ⟨document, span, inner, hread, hplace⟩ := table_of_originAt? hheader
  obtain ⟨document', span', inner', hread', hplace'⟩ := table_of_originAt? himplied
  refine ⟨⟨document, span, inner, hread, hplace, ?_, ?_⟩, document', span', inner', hread',
    hplace', ?_⟩
  · decide +kernel
  · decide
  · decide +kernel

end Config

end Reftest
