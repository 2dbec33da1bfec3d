import Reftest.Proofs.Config.Agreement
import Reftest.Proofs.Config.Faults

namespace Reftest.Config

open Toml (Node Entries readDocument readValue)
open Layout (IsBare Moved Writes Piece Pair)

def positional (part : String) (values : List String) : String :=
  part ++ " = [" ++ ", ".intercalate values ++ "]"

def keyed (part : String) (names values : List String) : String :=
  part ++ " = \x7b " ++
    ", ".intercalate ((names.zip values).map fun field => field.1 ++ " = " ++ field.2) ++ " \x7d"

def Denote (depth : Nat) (denoted : List (String × Node)) : Prop :=
  ∀ value ∈ denoted, readValue depth value.1.toList = .ok (value.2, [])

theorem exists_denoted {depth : Nat} {values : List String}
    (h : ∀ value ∈ values, IsValue depth value) :
    ∃ denoted : List (String × Node), values = denoted.map Prod.fst ∧ Denote depth denoted := by
  induction values with
  | nil => exact ⟨[], rfl, fun _ hvalue => absurd hvalue List.not_mem_nil⟩
  | cons value values ih =>
      obtain ⟨node, hread⟩ := h value List.mem_cons_self
      obtain ⟨denoted, rfl, hdenoted⟩ :=
        ih fun other hother => h other (List.mem_cons_of_mem _ hother)
      refine ⟨(value, node) :: denoted, rfl, ?_⟩
      intro other hother
      rcases List.mem_cons.mp hother with rfl | hother
      · exact hread
      · exact hdenoted other hother

theorem Denote.writes {depth : Nat} (hdepth : depth ≤ 78) {denoted : List (String × Node)}
    (h : Denote depth denoted) : ∀ value ∈ denoted, Writes 78 value.1.toList value.2 :=
  fun value hvalue => Layout.writes_of_readValue hdepth (h value hvalue)

def pieces (denoted : List (String × Node)) : List Piece :=
  denoted.map fun value => ⟨value.1.toList, value.2⟩

def pairs (names : List String) (denoted : List (String × Node)) : List Pair :=
  (names.zip denoted).map fun field => ⟨field.1, field.2.1.toList, field.2.2⟩

theorem zip_take_of_le {names : List String} {nodes : List Node} {count : Nat}
    (h : nodes.length ≤ count) : (names.take count).zip nodes = names.zip nodes := by
  induction nodes generalizing names count with
  | nil => rw [List.zip_nil_right, List.zip_nil_right]
  | cons node nodes ih =>
      obtain ⟨count, rfl⟩ := Nat.exists_eq_add_of_lt h
      cases names with
      | nil => rw [List.take_nil]
      | cons name names =>
          rw [List.take_succ_cons, List.zip_cons_cons, List.zip_cons_cons, ih (by omega)]

theorem names_pairs (names : List String) (denoted : List (String × Node)) :
    (pairs names denoted).map Pair.name = names.take denoted.length := by
  induction denoted generalizing names with
  | nil => rw [pairs, List.zip_nil_right]; rfl
  | cons value denoted ih =>
      cases names with
      | nil => rfl
      | cons name names => exact congrArg (List.cons name) (ih names)

theorem nodes_pairs {names : List String} {denoted : List (String × Node)}
    (h : denoted.length ≤ names.length) :
    ((pairs names denoted).map fun pair => pair.piece.node) = denoted.map Prod.snd := by
  have hzip := List.map_snd_zip h
  rw [pairs, List.map_map, ← hzip, List.map_map, hzip]
  rfl

section

variable {part : Section} (hpart : part ∈ Section.all) {denoted : List (String × Node)}
  (hdenoted : ∀ value ∈ denoted, Writes 78 value.1.toList value.2)

include hpart hdenoted

theorem readsAs_positional :
    ReadsAs (positional part.name (denoted.map Prod.fst)) part part.names
      (denoted.map Prod.snd) := by
  have hpieces : ∀ piece ∈ pieces denoted, Writes 78 piece.text piece.node := by
    intro piece hpiece
    obtain ⟨value, hvalue, rfl⟩ := List.mem_map.mp hpiece
    exact hdenoted value hvalue
  have htext : (positional part.name (denoted.map Prod.fst)).toList =
      part.name.toList ++ ' ' :: '=' :: ' ' :: '[' :: (Piece.join (pieces denoted) ++ [']']) := by
    simp [positional, Piece.join, pieces, Layout.listed, Function.comp_def]
  obtain ⟨span, items, hread, hmoved⟩ := Layout.readDocument_brackets
    (Section.isBare_name part hpart) hpieces (rfl : Toml.endLine (Toml.skipBlanks []) = .ok [])
  rw [← htext] at hread
  rw [pieces, List.map_map] at hmoved
  exact ⟨_, items, hread, rfl, hmoved⟩

theorem readsAs_keyed {names : List String} (hnames : ∀ name ∈ names, IsBare name)
    (hdistinct : names.Nodup) (hlength : denoted.length ≤ names.length) :
    ReadsAs (keyed part.name names (denoted.map Prod.fst)) part names (denoted.map Prod.snd) := by
  have hpairs : ∀ pair ∈ pairs names denoted,
      IsBare pair.name ∧ Writes 78 pair.piece.text pair.piece.node := by
    intro pair hpair
    obtain ⟨⟨name, value⟩, hfield, rfl⟩ := List.mem_map.mp hpair
    obtain ⟨hname, hvalue⟩ := List.of_mem_zip hfield
    exact ⟨hnames name hname, hdenoted value hvalue⟩
  have hnames' : ((pairs names denoted).map Pair.name).Nodup := by
    rw [names_pairs]
    exact hdistinct.sublist (List.take_sublist _ _)
  have htext : (keyed part.name names (denoted.map Prod.fst)).toList =
      part.name.toList ++ ' ' :: '=' :: ' ' :: '\x7b' :: ' ' ::
        (Pair.join (pairs names denoted) ++ ' ' :: '\x7d' :: []) := by
    simp [keyed, Pair.join, pairs, Pair.text, Layout.listed, List.zip_map_right, Function.comp_def]
  obtain ⟨span, nodes, hread, hmoved⟩ := Layout.readDocument_braces
    (Section.isBare_name part hpart) hpairs hnames'
    (rfl : Toml.endLine (Toml.skipBlanks []) = .ok [])
  rw [nodes_pairs hlength] at hmoved
  have hcount : nodes.length = denoted.length := by rw [← hmoved.length_eq, List.length_map]
  rw [← htext, names_pairs, zip_take_of_le (Nat.le_of_eq hcount)] at hread
  exact ⟨_, nodes, hread, rfl, hmoved⟩

end

theorem ReadsAs.of_append {text : String} {part : Section} {front back : List Node}
    (hlength : front.length = part.names.length)
    (h : ReadsAs text part part.names (front ++ back)) :
    ReadsAs text part part.names front := by
  obtain ⟨node, items, hread, hcontents, hmoved⟩ := h
  obtain ⟨front', back', rfl, hfront, -⟩ := hmoved.split
  refine ⟨node, front', hread, ?_, hfront⟩
  have hzip : part.names.zip (front' ++ back') = part.names.zip front' := by
    have happend : (part.names ++ []).zip (front' ++ back') =
        part.names.zip front' ++ [].zip back' :=
      List.zip_append (hlength.symm.trans hfront.length_eq)
    rw [List.append_nil, List.zip_nil_left, List.append_nil] at happend
    exact happend
  rw [hcontents, hzip]

theorem exists_first {Item Fault : Type} {faults : Item → List Fault} {items : List Item}
    {fault : Fault} {more : List Fault} (h : items.flatMap faults = fault :: more) :
    ∃ before item after more', items = before ++ item :: after ∧
      (∀ earlier ∈ before, faults earlier = []) ∧ faults item = fault :: more' := by
  induction items with
  | nil => cases h
  | cons item items ih =>
      rw [List.flatMap_cons] at h
      cases hitem : faults item with
      | nil =>
          rw [hitem, List.nil_append] at h
          obtain ⟨before, first, after, more', rfl, hbefore, hfirst⟩ := ih h
          refine ⟨item :: before, first, after, more', rfl, ?_, hfirst⟩
          intro earlier hearlier
          rcases List.mem_cons.mp hearlier with rfl | hearlier
          · exact hitem
          · exact hbefore earlier hearlier
      | cons fault' more' =>
          rw [hitem] at h
          obtain ⟨rfl, -⟩ := List.cons.inj h
          exact ⟨[], item, items, more', rfl, fun _ hnil => absurd hnil List.not_mem_nil, hitem⟩

theorem faults_fieldTable {part : Section} (hpart : part ∈ Section.all) (names : List String)
    (nodes : List Node) :
    faults [(part.name, fieldTable names nodes)] = (names.zip nodes).flatMap part.fieldFaults := by
  rw [faults, List.flatMap_singleton, entryFaults, find_part hpart]
  rfl

theorem decode_fieldTable {part : Section} (hpart : part ∈ Section.all) (names : List String)
    (nodes : List Node) :
    Reports ((names.zip nodes).flatMap part.fieldFaults)
      (decode [(part.name, fieldTable names nodes)]) := by
  rw [← faults_fieldTable hpart]
  exact reports_decode _

/-- The settings that some values under the names of the first fields give, all others being left
at their defaults. -/
def Fills (part : Section) (values : List String) (config : Config) : Prop :=
  ∃ nodes : List Node,
    (values.map fun value => readValue 70 value.toList) = nodes.map (fun node => .ok (node, [])) ∧
      Reflects [(part.name, fieldTable part.names nodes)] config

/-- What is wrong with the first of some values that is not what its field needs. -/
def FirstOffends (part : Section) (values : List String) (found : Found) (expected : Expected) :
    Prop :=
  ∃ before name value after, part.names.zip values = before ++ (name, value) :: after ∧
    (∀ earlier ∈ before, ∃ config, ofText (keyed part.name [earlier.1] [earlier.2]) = .ok config) ∧
    ∃ excerpt, ofText (keyed part.name [name] [value]) = .error (.illTyped excerpt found expected)

theorem Section.isBare_names : ∀ part ∈ Section.all, ∀ name ∈ part.names, IsBare name := by
  decide

theorem Denote.map_readValue {depth : Nat} {denoted : List (String × Node)}
    (h : Denote depth denoted) :
    ((denoted.map Prod.fst).map fun value => readValue depth value.toList) =
      (denoted.map Prod.snd).map fun node => .ok (node, []) := by
  rw [List.map_map, List.map_map]
  exact List.map_congr_left h

theorem readable_fieldTable {part : Section} (hpart : part ∈ Section.all) (nodes : List Node) :
    Readable [(part.name, fieldTable part.names nodes)] := by
  refine ⟨List.pairwise_singleton _ _, ?_⟩
  intro entry hentry origin span inner heq
  rw [List.mem_singleton.mp hentry] at heq
  obtain ⟨-, -, rfl⟩ := Node.table.inj heq
  exact zip_distinct (Section.names_nodup part hpart) nodes

section

variable {part : Section} (hpart : part ∈ Section.all) {denoted : List (String × Node)}
  (hdenoted : Denote 70 denoted)

include hpart hdenoted

theorem fills_of_ofText {config : Config}
    (h : ofText (positional part.name (denoted.map Prod.fst)) = .ok config) :
    Fills part (denoted.map Prod.fst) config := by
  have hreads := readsAs_positional hpart (hdenoted.writes (by decide))
  refine ⟨denoted.map Prod.snd, hdenoted.map_readValue, ?_⟩
  cases hdecode : decode [(part.name, fieldTable part.names (denoted.map Prod.snd))] with
  | ok config' =>
      obtain rfl := Except.ok.inj (h.symm.trans (hreads.ofText_eq_ok hpart hdecode))
      exact reflects_of_decode (readable_fieldTable hpart _) hdecode
  | error mismatch =>
      obtain ⟨excerpt, herror⟩ := hreads.ofText_eq_error hpart hdecode
      cases h.symm.trans herror

theorem reports_keyed {name : String} (hname : IsBare name) {value : String × Node}
    (hvalue : value ∈ denoted) :
    ReadsAs (keyed part.name [name] [value.1]) part [name] [value.2] ∧
      Reports (part.fieldFaults (name, value.2))
        (decode [(part.name, fieldTable [name] [value.2])]) := by
  constructor
  · have hwrites : ∀ other ∈ [value], Writes 78 other.1.toList other.2 := by
      intro other hother
      rw [List.mem_singleton.mp hother]
      exact hdenoted.writes (by decide) value hvalue
    have hbare : ∀ other ∈ [name], IsBare other := by
      intro other hother
      rw [List.mem_singleton.mp hother]
      exact hname
    exact readsAs_keyed hpart hwrites hbare (List.pairwise_singleton _ _) (Nat.le_refl 1)
  · have hreports := decode_fieldTable hpart [name] [value.2]
    rw [List.zip_cons_cons, List.zip_nil_left, List.flatMap_singleton] at hreports
    exact hreports

theorem firstOffends_of_ofText {excerpt : Excerpt} {found : Found} {expected : Expected}
    (h : ofText (positional part.name (denoted.map Prod.fst)) =
      .error (.illTyped excerpt found expected)) :
    FirstOffends part (denoted.map Prod.fst) found expected := by
  have hreads := readsAs_positional hpart (hdenoted.writes (by decide))
  have hreports := decode_fieldTable hpart part.names (denoted.map Prod.snd)
  cases hfaults : (part.names.zip (denoted.map Prod.snd)).flatMap part.fieldFaults with
  | nil =>
      rw [hfaults] at hreports
      obtain ⟨config, hdecode⟩ := hreports
      cases h.symm.trans (hreads.ofText_eq_ok hpart hdecode)
  | cons mismatch more =>
      rw [hfaults] at hreports
      obtain ⟨excerpt', herror⟩ := hreads.ofText_eq_error hpart hreports
      cases h.symm.trans herror
      rw [List.zip_map_right, List.flatMap_map] at hfaults
      obtain ⟨before, ⟨name, value⟩, after, more', hfields, hbefore, hfirst⟩ :=
        exists_first hfaults
      have hfield : ∀ field ∈ part.names.zip denoted, IsBare field.1 ∧ field.2 ∈ denoted := by
        intro field hfield
        obtain ⟨hname, hvalue⟩ := List.of_mem_zip hfield
        exact ⟨Section.isBare_names part hpart field.1 hname, hvalue⟩
      rw [hfields] at hfield
      refine ⟨before.map (Prod.map id Prod.fst), name, value.1, after.map (Prod.map id Prod.fst),
        ?_, ?_, ?_⟩
      · rw [List.zip_map_right, hfields, List.map_append, List.map_cons]
        rfl
      · intro earlier hearlier
        obtain ⟨field, hmem, rfl⟩ := List.mem_map.mp hearlier
        obtain ⟨hname, hvalue⟩ := hfield field (List.mem_append_left _ hmem)
        obtain ⟨hreads', hreports'⟩ := reports_keyed hpart hdenoted hname hvalue
        have hnone : part.fieldFaults (field.1, field.2.2) = [] := hbefore field hmem
        rw [hnone] at hreports'
        obtain ⟨config, hdecode⟩ := hreports'
        exact ⟨config, hreads'.ofText_eq_ok hpart hdecode⟩
      · obtain ⟨hname, hvalue⟩ := hfield (name, value) (List.mem_append_right _ List.mem_cons_self)
        obtain ⟨hreads', hreports'⟩ := reports_keyed hpart hdenoted hname hvalue
        have hsome : part.fieldFaults (name, value.2) = mismatch :: more' := hfirst
        rw [hsome] at hreports'
        exact hreads'.ofText_eq_error hpart hreports'

end

/-- A section written by position has the same outcome as one written by name, and as one with more
elements than fields. -/
theorem positional_agrees_keyed {part : Section} (hpart : part ∈ Section.all)
    {values : List String} (hlength : values.length ≤ part.names.length)
    (hvalues : ∀ value ∈ values, IsValue 70 value) :
    Agree [positional part.name values, keyed part.name part.names values] ∧
    (∀ config, ofText (positional part.name values) = .ok config → Fills part values config) ∧
    (∀ excerpt found expected,
      ofText (positional part.name values) = .error (.illTyped excerpt found expected) →
        FirstOffends part values found expected) ∧
    (values.length = part.names.length → ∀ more, (∀ value ∈ more, IsValue 78 value) →
      Agree [positional part.name values, positional part.name (values ++ more)]) := by
  obtain ⟨denoted, rfl, hdenoted⟩ := exists_denoted hvalues
  rw [List.length_map] at hlength
  have hwrites := hdenoted.writes (by decide)
  have hpositional := readsAs_positional hpart hwrites
  refine ⟨?_, fun _ h => fills_of_ofText hpart hdenoted h,
    fun _ _ _ h => firstOffends_of_ofText hpart hdenoted h, ?_⟩
  · exact agree_of_both hpart hpositional (readsAs_keyed hpart hwrites
      (Section.isBare_names part hpart) (Section.names_nodup part hpart) hlength)
  · intro hfull more hmore
    obtain ⟨others, rfl, hothers⟩ := exists_denoted hmore
    have hboth : ∀ value ∈ denoted ++ others, Writes 78 value.1.toList value.2 := by
      intro value hvalue
      rcases List.mem_append.mp hvalue with hvalue | hvalue
      · exact hwrites value hvalue
      · exact hothers.writes (Nat.le_refl _) value hvalue
    have hlonger := readsAs_positional hpart hboth
    rw [List.map_append, List.map_append] at hlonger
    rw [List.length_map] at hfull
    exact agree_of_both hpart hpositional (hlonger.of_append (by rw [List.length_map, hfull]))

/-- A number in place of a text is reported, and what is wrong behind it is not. -/
theorem positional_agrees_keyed_viewer :
    let values := ["\"firefox\"", "[\"-p\"]", "3", "\"no\""]
    (Section.viewer ∈ Section.all ∧ values.length ≤ Section.viewer.names.length ∧
        ∀ value ∈ values, IsValue 70 value) ∧
      Agree [positional "viewer" values, keyed "viewer" Section.viewer.names values] ∧
      FirstOffends Section.viewer values (.integer 3) .string ∧
      Agree [positional "viewer" values, positional "viewer" (values ++ ["true"])] := by
  intro values
  have hpart : Section.viewer ∈ Section.all := by simp [Section.all]
  have hlength : values.length ≤ Section.viewer.names.length := by decide
  have hvalues : ∀ value ∈ values, IsValue 70 value := by
    have hread : ∀ value ∈ values,
        (readValue 70 value.toList).toOption.map Prod.snd = some [] := by
      decide +kernel
    exact fun value hvalue => isValue_of_rest (hread value hvalue)
  obtain ⟨hagree, -, hoffends, hsurplus⟩ := positional_agrees_keyed hpart hlength hvalues
  have herror : ofText (positional "viewer" values) =
      .error (.illTyped ⟨1, 30, "viewer = [\"firefox\", [\"-p\"], 3, \"no\"]".toList, 1⟩
        (.integer 3) .string) := by
    decide +kernel
  refine ⟨⟨hpart, hlength, hvalues⟩, hagree, hoffends _ _ _ herror, ?_⟩
  refine hsurplus rfl ["true"] fun value hvalue => ?_
  rw [List.mem_singleton.mp hvalue]
  exact ⟨_, rfl⟩

end Reftest.Config
