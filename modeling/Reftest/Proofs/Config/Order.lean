import Reftest.Proofs.Config.Reflection
import Reftest.Proofs.Toml.Reading

/-!
The fault that is reported is the first in the text, unless the sections are written into each
other.
-/

namespace Reftest

open Toml (Node Entries Span)

inductive Toml.Node.Contains : Node → Node → Prop where
  | self (node : Node) : Contains node node
  | item {node item part : Node} {items : List Node} (hitems : node.items? = some items)
      (hitem : item ∈ items) (hpart : item.Contains part) : Contains node part
  | entry {origin : Toml.Origin} {span : Span} {entries : List (String × Node)}
      {entry : String × Node} {part : Node} (hentry : entry ∈ entries)
      (hpart : entry.2.Contains part) : Contains (.table origin span entries) part

theorem Toml.Node.Contains.trans {outer node part : Node} (houter : outer.Contains node)
    (hnode : node.Contains part) : outer.Contains part := by
  induction houter with
  | self => exact hnode
  | item hitems hitem hpart ih => exact .item hitems hitem (ih hnode)
  | entry hentry hpart ih => exact .entry hentry (ih hnode)

def Toml.Node.Apart (left right : Node) : Prop :=
  (∀ part other, left.Contains part → right.Contains other → other.start < part.start) ∨
    ∀ part other, left.Contains part → right.Contains other → part.start < other.start

namespace Config

/-- No section goes on behind the beginning of another. -/
def WrittenTogether (document : Entries) : Prop :=
  ∀ part ∈ Section.all, ∀ other ∈ Section.all, part.name ≠ other.name →
    ∀ node node', document.get? part.name = some node → document.get? other.name = some node' →
      node.Apart node'

def Mismatch.start (mismatch : Mismatch) : Nat :=
  mismatch.span.first

/-! Lists of faults, the first of which stands in front of the others. -/

def FirstFirst (faults : List Mismatch) : Prop :=
  ∀ first rest, faults = first :: rest → ∀ mismatch ∈ rest, mismatch.start < first.start

theorem firstFirst_nil : FirstFirst [] := by
  intro first rest h
  cases h

theorem firstFirst_singleton (mismatch : Mismatch) : FirstFirst [mismatch] := by
  intro first rest h other hother
  obtain ⟨-, rfl⟩ := List.cons.inj h
  cases hother

theorem mem_of_eq_cons {faults rest : List Mismatch} {first : Mismatch}
    (h : faults = first :: rest) : first ∈ faults := by
  rw [h]
  exact List.mem_cons_self

theorem firstFirst_flatMap {Item : Type} {faults : Item → List Mismatch} {items : List Item}
    (hfirst : ∀ item ∈ items, FirstFirst (faults item))
    (hbefore : items.Pairwise fun left right =>
      ∀ first rest, faults left = first :: rest → ∀ mismatch ∈ faults right,
        mismatch.start < first.start) :
    FirstFirst (items.flatMap faults) := by
  induction items with
  | nil => exact firstFirst_nil
  | cons item items ih =>
      obtain ⟨hitem, hitems⟩ := List.pairwise_cons.mp hbefore
      have hrest := ih (fun other hother => hfirst other (List.mem_cons_of_mem _ hother)) hitems
      rw [List.flatMap_cons]
      cases hfaults : faults item with
      | nil => exact hrest
      | cons fault faults' =>
          intro first rest h mismatch hmismatch
          obtain ⟨rfl, rfl⟩ := List.cons.inj h
          rcases List.mem_append.mp hmismatch with hmismatch | hmismatch
          · exact hfirst item List.mem_cons_self fault faults' hfaults mismatch hmismatch
          · obtain ⟨other, hother, hmismatch⟩ := List.mem_flatMap.mp hmismatch
            exact hitem other hother fault faults' hfaults mismatch hmismatch

/-- What the order of the text means for a value that a field can have. -/
inductive Tidy : Node → Prop where
  | scalar (span : Span) (value : Toml.Scalar) : Tidy (.scalar span value)
  | table (origin : Toml.Origin) (span : Span) (entries : List (String × Node)) :
      Tidy (.table origin span entries)
  | array {span : Span} {items : List Node} (hspan : span.last ≤ span.first)
      (hwithin : ∀ item ∈ items,
        span.last ≤ item.rest ∧ item.rest ≤ item.start ∧ item.start ≤ span.first)
      (hordered : items.Pairwise Node.Before) : Tidy (.array span items)
  | tables {earlier : List (Span × List (String × Node))} {span : Span}
      {entries : List (String × Node)}
      (hspans : (span :: earlier.map Prod.fst).Pairwise fun later former =>
        later.first < former.first) : Tidy (.tables earlier span entries)

theorem tidy_of_laid {limit : Nat} {node : Node} (h : node.Laid limit) : Tidy node := by
  cases h with
  | scalar => exact .scalar _ _
  | table => exact .table _ _ _
  | array hlimit hspan hwithin hordered hitems =>
      refine .array hspan ?_ hordered
      intro item hitem
      exact ⟨(hwithin item hitem).1, (hitems item hitem).le_rest.2, (hwithin item hitem).2⟩
  | tables hspans => exact .tables hspans

theorem Tidy.rest_le {node : Node} (h : Tidy node) : node.rest ≤ node.start := by
  cases h with
  | scalar => exact Nat.le_refl _
  | table => exact Nat.le_refl _
  | array hspan => exact hspan
  | tables => exact Nat.le_refl _

theorem elements_of_tables {earlier : List (Span × List (String × Node))} {span : Span}
    {entries : List (String × Node)}
    (hspans : (span :: earlier.map Prod.fst).Pairwise fun later former =>
      later.first < former.first) :
    ∃ (first : Span) (inner : List (String × Node)) (rest : List (Span × List (String × Node))),
      (Node.tables earlier span entries).items? =
        some (((first, inner) :: rest).map fun table => .table .header table.1 table.2) ∧
      (Node.tables earlier span entries).start = first.first ∧
      ((first, inner) :: rest).Pairwise fun former later => later.1.first < former.1.first := by
  have htables : (((span, entries) :: earlier).map Prod.fst).Pairwise fun later former =>
      later.first < former.first := hspans
  have hreverse : ((span, entries) :: earlier).reverse.Pairwise fun former later =>
      later.1.first < former.1.first := by
    rw [List.pairwise_map] at htables
    exact List.pairwise_reverse.mpr htables
  rcases List.eq_nil_or_concat earlier with rfl | ⟨later, ⟨first, inner⟩, rfl⟩
  · exact ⟨span, entries, [], rfl, rfl, List.pairwise_singleton _ _⟩
  · rw [List.concat_eq_append] at hreverse ⊢
    have hlist : ((span, entries) :: (later ++ [(first, inner)])).reverse =
        (first, inner) :: (later.reverse ++ [(span, entries)]) := by
      rw [List.reverse_cons, List.reverse_append]
      rfl
    rw [hlist] at hreverse
    refine ⟨first, inner, later.reverse ++ [(span, entries)], ?_, ?_, hreverse⟩
    · rw [← hlist]
      rfl
    · have hlast : ((later ++ [(first, inner)]).map Prod.fst).getLastD span = first := by
        rw [List.map_append, List.map_singleton, List.getLastD_concat]
      have hstart := congrArg Span.first hlast
      exact hstart

/-! Every value is at fault as a whole or, being an array of texts, in its items. -/

theorem textFaults_cases (expected : Expected) (node : Node) :
    textFaults expected node = [] ∨ textFaults expected node = [.ofNode node expected] := by
  unfold textFaults
  split
  · exact Or.inl rfl
  · exact Or.inr rfl

theorem flagFaults_cases (node : Node) :
    flagFaults node = [] ∨ flagFaults node = [.ofNode node .boolean] := by
  unfold flagFaults
  split
  · exact Or.inl rfl
  · exact Or.inr rfl

theorem Kind.faults_cases (kind : Kind) (node : Node) :
    kind.faults node = [] ∨ (∃ expected, kind.faults node = [.ofNode node expected]) ∨
      ∃ items, node.items? = some items ∧
        kind.faults node = items.flatMap (textFaults .string) := by
  cases kind with
  | text =>
      rcases textFaults_cases .string node with h | h
      · exact Or.inl h
      · exact Or.inr (Or.inl ⟨_, h⟩)
  | path =>
      rcases textFaults_cases .path node with h | h
      · exact Or.inl h
      · exact Or.inr (Or.inl ⟨_, h⟩)
  | flag =>
      rcases flagFaults_cases node with h | h
      · exact Or.inl h
      · exact Or.inr (Or.inl ⟨_, h⟩)
  | texts =>
      rw [faults]
      cases hitems : node.items? with
      | none => exact Or.inr (Or.inl ⟨_, rfl⟩)
      | some items => exact Or.inr (Or.inr ⟨items, rfl, rfl⟩)

theorem start_of_textFaults {expected : Expected} {node : Node} {mismatch : Mismatch}
    (h : mismatch ∈ textFaults expected node) : mismatch.start = node.start := by
  obtain ⟨-, rfl⟩ := mem_textFaults.mp h
  rfl

theorem firstFirst_items {items : List Node}
    (hrest : ∀ item ∈ items, item.rest ≤ item.start) (hordered : items.Pairwise Node.Before) :
    FirstFirst (items.flatMap (textFaults .string)) := by
  refine firstFirst_flatMap ?_ ?_
  · intro item hitem
    rcases textFaults_cases .string item with h | h
    · rw [h]
      exact firstFirst_nil
    · rw [h]
      exact firstFirst_singleton _
  · refine hordered.imp_of_mem ?_
    intro left right hleft hright hbefore first rest hfirst mismatch hmismatch
    rw [start_of_textFaults (mem_of_eq_cons hfirst), start_of_textFaults hmismatch]
    exact Nat.lt_of_lt_of_le hbefore (hrest left hleft)

structure Kind.Ordered (kind : Kind) (node : Node) : Prop where
  inside : ∀ mismatch ∈ kind.faults node, mismatch.start ≤ node.start
  behind : ∀ first rest, kind.faults node = first :: rest → node.rest ≤ first.start
  first : FirstFirst (kind.faults node)

theorem Kind.ordered_of_items {kind : Kind} {node : Node} {items : List Node}
    (hfaults : kind.faults node = items.flatMap (textFaults .string))
    (hinside : ∀ item ∈ items, item.rest ≤ item.start ∧ item.start ≤ node.start)
    (hordered : items.Pairwise Node.Before)
    (hbehind : ∀ first rest, kind.faults node = first :: rest → node.rest ≤ first.start) :
    kind.Ordered node := by
  refine ⟨?_, hbehind, ?_⟩
  · intro mismatch hmismatch
    rw [hfaults] at hmismatch
    obtain ⟨item, hitem, hmismatch⟩ := List.mem_flatMap.mp hmismatch
    rw [start_of_textFaults hmismatch]
    exact (hinside item hitem).2
  · rw [hfaults]
    exact firstFirst_items (fun item hitem => (hinside item hitem).1) hordered

theorem Kind.ordered_of_nil {kind : Kind} {node : Node} (h : kind.faults node = []) :
    kind.Ordered node := by
  refine ⟨?_, ?_, ?_⟩
  · rw [h]
    intro mismatch hmismatch
    cases hmismatch
  · rw [h]
    intro first rest hfirst
    cases hfirst
  · rw [h]
    exact firstFirst_nil

theorem Kind.ordered_of_singleton {kind : Kind} {node : Node} {expected : Expected}
    (h : kind.faults node = [.ofNode node expected]) (hrest : node.rest ≤ node.start) :
    kind.Ordered node := by
  refine ⟨?_, ?_, ?_⟩
  · rw [h]
    intro mismatch hmismatch
    rw [List.mem_singleton.mp hmismatch]
    exact Nat.le_refl _
  · rw [h]
    intro first rest hfirst
    obtain ⟨rfl, -⟩ := List.cons.inj hfirst
    exact hrest
  · rw [h]
    exact firstFirst_singleton _

theorem Kind.ordered_of_tidy (kind : Kind) {node : Node} (h : Tidy node) : kind.Ordered node := by
  rcases kind.faults_cases node with hfaults | ⟨expected, hfaults⟩ | ⟨items, hitems, hfaults⟩
  · exact ordered_of_nil hfaults
  · exact ordered_of_singleton hfaults h.rest_le
  · cases h with
    | scalar => cases hitems
    | table => cases hitems
    | array hspan hwithin hordered =>
        obtain rfl := Option.some.inj hitems
        refine Kind.ordered_of_items hfaults (fun item hitem => (hwithin item hitem).2) hordered ?_
        intro first rest hfirst
        have hmem := mem_of_eq_cons (hfaults.symm.trans hfirst)
        obtain ⟨item, hitem, hmem⟩ := List.mem_flatMap.mp hmem
        rw [start_of_textFaults hmem]
        obtain ⟨hlow, hhigh, -⟩ := hwithin item hitem
        exact Nat.le_trans hlow hhigh
    | tables hspans =>
        obtain ⟨span, inner, rest, helements, hstart, hordered⟩ := elements_of_tables hspans
        obtain rfl := Option.some.inj (hitems.symm.trans helements)
        obtain ⟨hfirst, hrest⟩ := List.pairwise_cons.mp hordered
        refine Kind.ordered_of_items hfaults ?_ ?_ ?_
        · intro item hitem
          obtain ⟨table, htable, rfl⟩ := List.mem_map.mp hitem
          refine ⟨Nat.le_refl _, ?_⟩
          rw [hstart]
          rcases List.mem_cons.mp htable with rfl | htable
          · exact Nat.le_refl _
          · exact Nat.le_of_lt (hfirst table htable)
        · exact List.pairwise_map.mpr hordered
        · intro first faults h
          rw [hfaults] at h
          obtain ⟨rfl, -⟩ := List.cons.inj h
          exact Nat.le_of_eq hstart

theorem zip_ordered {names : List String} {items : List Node}
    (h : items.Pairwise Node.Before) :
    (names.zip items).Pairwise fun left right => left.2.Before right.2 := by
  induction names generalizing items with
  | nil => exact List.Pairwise.nil
  | cons name names ih =>
      cases items with
      | nil => exact List.Pairwise.nil
      | cons item items =>
          obtain ⟨hitem, hitems⟩ := List.pairwise_cons.mp h
          refine List.Pairwise.cons ?_ (ih hitems)
          intro field hfield
          exact hitem field.2 (List.of_mem_zip hfield).2

theorem contents?_ordered {limit : Nat} {node : Node} (h : node.Laid limit) {part : Section}
    {contents : Entries} (hcontents : part.contents? node = some contents) :
    (contents.Pairwise fun left right => left.2.Before right.2) ∧
      ∀ field ∈ contents, Tidy field.2 := by
  cases h with
  | @scalar span value hlimit =>
      cases value with
      | datetime =>
          obtain rfl := Option.some.inj hcontents
          exact ⟨List.Pairwise.nil, fun field hfield => absurd hfield List.not_mem_nil⟩
      | string text => cases hcontents
      | integer value => cases hcontents
      | float value => cases hcontents
      | boolean value => cases hcontents
  | array hlimit hspan hwithin hordered hitems =>
      obtain rfl := Option.some.inj hcontents
      refine ⟨zip_ordered hordered, ?_⟩
      intro field hfield
      exact tidy_of_laid (hitems field.2 (List.of_mem_zip hfield).2)
  | table hlimit hdistinct hordered hentries =>
      obtain rfl := Option.some.inj hcontents
      exact ⟨hordered, fun field hfield => tidy_of_laid (hentries field hfield)⟩
  | tables hspans =>
      obtain ⟨span, inner, rest, hitems, -, hordered⟩ := elements_of_tables hspans
      have hcontents : (Option.map part.names.zip (Node.items? (.tables _ _ _))) = some contents :=
        hcontents
      rw [hitems] at hcontents
      obtain rfl := Option.some.inj hcontents
      refine ⟨zip_ordered (List.pairwise_map.mpr hordered), ?_⟩
      intro field hfield
      obtain ⟨table, -, htable⟩ := List.mem_map.mp (List.of_mem_zip hfield).2
      rw [← htable]
      exact .table _ _ _

theorem Section.firstFirst_faults {limit : Nat} {node : Node} (h : node.Laid limit)
    (part : Section) : FirstFirst (part.faults node) := by
  unfold faults
  cases hcontents : part.contents? node with
  | none => exact firstFirst_singleton _
  | some contents =>
      obtain ⟨hordered, htidy⟩ := contents?_ordered h hcontents
      refine firstFirst_flatMap ?_ ?_
      · intro field hfield
        unfold fieldFaults
        split
        · rename_i kind hkind
          exact (kind.ordered_of_tidy (htidy field hfield)).first
        · exact firstFirst_nil
      · refine hordered.imp_of_mem ?_
        intro left right hleft hright hbefore first rest hfirst mismatch hmismatch
        unfold fieldFaults at hfirst hmismatch
        split at hfirst
        · rename_i kind hkind
          split at hmismatch
          · rename_i kind' hkind'
            have hbehind := (kind.ordered_of_tidy (htidy left hleft)).behind first rest hfirst
            have hinside := (kind'.ordered_of_tidy (htidy right hright)).inside mismatch hmismatch
            exact Nat.lt_of_le_of_lt hinside (Nat.lt_of_lt_of_le hbefore hbehind)
          · cases hmismatch
        · cases hfirst

theorem contains_contents {part : Section} {node : Node} {contents : Entries}
    (hcontents : part.contents? node = some contents) {field : String × Node}
    (hfield : field ∈ contents) : node.Contains field.2 := by
  cases node with
  | scalar span value =>
      cases value with
      | datetime =>
          obtain rfl := Option.some.inj hcontents
          cases hfield
      | string text => cases hcontents
      | integer value => cases hcontents
      | float value => cases hcontents
      | boolean value => cases hcontents
  | array span items =>
      obtain rfl := Option.some.inj hcontents
      exact .item rfl (List.of_mem_zip hfield).2 (.self _)
  | table origin span entries =>
      obtain rfl := Option.some.inj hcontents
      exact .entry hfield (.self _)
  | tables earlier span entries =>
      obtain rfl := Option.some.inj hcontents
      exact .item rfl (List.of_mem_zip hfield).2 (.self _)

theorem contains_fault {kind : Kind} {node : Node} {mismatch : Mismatch}
    (h : kind.Offends node mismatch) :
    ∃ part, node.Contains part ∧ mismatch.start = part.start := by
  cases h with
  | text => exact ⟨node, .self node, rfl⟩
  | path => exact ⟨node, .self node, rfl⟩
  | flag => exact ⟨node, .self node, rfl⟩
  | texts => exact ⟨node, .self node, rfl⟩
  | @item node item items mismatch hitems hitem h =>
      cases h with
      | text => exact ⟨item, .item hitems hitem (.self item), rfl⟩

theorem Section.contains_fault {part : Section} {node : Node} {mismatch : Mismatch}
    (h : part.Offends node mismatch) :
    ∃ inner, node.Contains inner ∧ mismatch.start = inner.start := by
  cases h with
  | whole => exact ⟨node, .self node, rfl⟩
  | field hcontents hfield hvalue h =>
      obtain ⟨inner, hinner, hstart⟩ := Config.contains_fault h
      have hcontains := contains_contents hcontents (Entries.mem_of_get? hvalue)
      exact ⟨inner, hcontains.trans hinner, hstart⟩

theorem readable_of_laid {document : Entries} (h : document.Laid 0) : Readable document := by
  refine ⟨h.distinct, ?_⟩
  intro entry hentry origin span inner heq
  have hlaid := h.laid entry hentry
  rw [heq] at hlaid
  exact (Entries.Laid.of_table hlaid).2.distinct

theorem firstFirst_faults {document : Entries} (h : document.Laid 0)
    (htogether : WrittenTogether document) : FirstFirst (faults document) := by
  have hreadable := readable_of_laid h
  refine firstFirst_flatMap ?_ ?_
  · intro entry hentry
    unfold entryFaults
    split
    · rename_i part hpart
      exact part.firstFirst_faults (h.laid entry hentry)
    · exact firstFirst_nil
  · have hnames : document.Pairwise fun left right => left.1 ≠ right.1 :=
      List.pairwise_map.mp h.distinct
    refine (h.ordered.and hnames).imp_of_mem ?_
    rintro left right hleft hright ⟨hbefore, hname⟩ first rest hfirst mismatch hmismatch
    obtain ⟨part, hpart, hleftName, hoffends⟩ :=
      (mem_entryFaults hreadable hleft).mp (mem_of_eq_cons hfirst)
    obtain ⟨other, hother, hrightName, hoffends'⟩ := (mem_entryFaults hreadable hright).mp hmismatch
    obtain ⟨inner, hinner, hstart⟩ := Section.contains_fault hoffends
    obtain ⟨inner', hinner', hstart'⟩ := Section.contains_fault hoffends'
    rw [hstart, hstart']
    rw [← hleftName, ← hrightName] at hname
    have hnode : document.get? part.name = some left.2 := by
      rw [hleftName]
      exact (Entries.get?_eq_some_iff h.distinct).mpr hleft
    have hnode' : document.get? other.name = some right.2 := by
      rw [hrightName]
      exact (Entries.get?_eq_some_iff h.distinct).mpr hright
    rcases htogether part hpart other hother hname left.2 right.2 hnode hnode' with hapart | hapart
    · exact hapart inner inner' hinner hinner'
    · -- the entries stand in order, so the right one cannot be in front of the left one
      have hwrong := hapart left.2 right.2 (.self _) (.self _)
      have hrest := (h.laid left hleft).le_rest.2
      have hbefore : right.2.start < left.2.rest := hbefore
      omega

/-- What comes of a text: a text that is no document is malformed; a document gives its settings,
each by its own value or default, exactly if it is well typed, and otherwise an offence, the first
in the text unless its sections are written into each other. -/
theorem ofText_follows_document (text : String) :
    match Toml.readDocument text.toList with
    | .error mark => ofText text = .error (.malformed (Toml.Mark.stopLine text.toList mark))
    | .ok document =>
      (∀ config, ofText text = .ok config ↔ WellTyped document ∧ Reflects document config) ∧
      ((∃ config, ofText text = .ok config) ↔ WellTyped document) ∧
      (¬ WellTyped document → ∃ mismatch,
        ofText text = .error (.ofMismatch text.toList mismatch) ∧ Offends document mismatch ∧
        (WrittenTogether document → ∀ other, Offends document other →
          other = mismatch ∨ other.span.start < mismatch.span.start)) := by
  unfold ofText
  cases hdocument : Toml.readDocument text.toList with
  | error mark => rfl
  | ok document =>
      have hlaid := Toml.laid_of_readDocument hdocument
      have hreadable := readable_of_laid hlaid
      dsimp only
      refine ⟨?_, ?_, ?_⟩
      · intro config
        rw [mapError_eq_ok, decode_eq_ok_iff hreadable]
      · rw [← faults_eq_nil_iff hreadable, ← (reports_decode document).ok_iff]
        exact exists_congr fun config => mapError_eq_ok
      · intro htyped
        cases hfaults : faults document with
        | nil => exact absurd ((faults_eq_nil_iff hreadable).mp hfaults) htyped
        | cons mismatch rest =>
            have hdecode : decode document = .error mismatch := by
              have hreports := reports_decode document
              rw [hfaults] at hreports
              exact hreports
            refine ⟨mismatch, ?_, (mem_faults hreadable).mp (mem_of_eq_cons hfaults), ?_⟩
            · rw [hdecode]
              rfl
            · intro htogether other hother
              have hmem := (mem_faults hreadable).mpr hother
              rw [hfaults] at hmem
              rcases List.mem_cons.mp hmem with heq | hrest
              · exact Or.inl heq
              · exact Or.inr (firstFirst_faults hlaid htogether mismatch rest hfaults other hrest)

end Config

end Reftest
