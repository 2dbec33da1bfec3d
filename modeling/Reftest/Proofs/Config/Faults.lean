import Reftest.Proofs.Config.Decoding

namespace Reftest

open Toml (Node Entries)

namespace Config

theorem mem_textFaults {node : Node} {expected : Expected} {mismatch : Mismatch} :
    mismatch ∈ textFaults expected node ↔
      (¬ ∃ value, IsText node value) ∧ mismatch = .ofNode node expected := by
  unfold textFaults
  split
  · rename_i span value
    constructor
    · intro hmem
      cases hmem
    · rintro ⟨hnot, -⟩
      exact absurd ⟨value, span, rfl⟩ hnot
  · rename_i hother
    rw [List.mem_singleton]
    constructor
    · rintro rfl
      refine ⟨?_, rfl⟩
      rintro ⟨value, span, rfl⟩
      exact hother span value rfl
    · rintro ⟨-, heq⟩
      exact heq

theorem mem_flagFaults {node : Node} {mismatch : Mismatch} :
    mismatch ∈ flagFaults node ↔
      (¬ ∃ value, IsFlag node value) ∧ mismatch = .ofNode node .boolean := by
  unfold flagFaults
  split
  · rename_i span value
    constructor
    · intro hmem
      cases hmem
    · rintro ⟨hnot, -⟩
      exact absurd ⟨value, span, rfl⟩ hnot
  · rename_i hother
    rw [List.mem_singleton]
    constructor
    · rintro rfl
      refine ⟨?_, rfl⟩
      rintro ⟨value, span, rfl⟩
      exact hother span value rfl
    · rintro ⟨-, heq⟩
      exact heq

theorem fits_path_iff {node : Node} : Kind.path.Fits node ↔ ∃ value, IsText node value := by
  constructor
  · rintro ⟨value, text, htext, -⟩
    exact ⟨text, htext⟩
  · rintro ⟨text, htext⟩
    exact ⟨_, text, htext, rfl⟩

theorem exists_mem_zip {items : List Node} {values : List String}
    (hlength : items.length = values.length) {item : Node} (hitem : item ∈ items) :
    ∃ value, (item, value) ∈ items.zip values := by
  obtain ⟨i, hi, rfl⟩ := List.mem_iff_getElem.mp hitem
  have hzip : i < (items.zip values).length := by
    rw [List.length_zip]
    omega
  refine ⟨values[i], List.mem_iff_getElem.mpr ⟨i, hzip, ?_⟩⟩
  rw [List.getElem_zip]

namespace Kind

theorem mem_faults_texts {node : Node} {mismatch : Mismatch} :
    mismatch ∈ Kind.texts.faults node ↔ Kind.texts.Offends node mismatch := by
  rw [faults]
  cases hitems : node.items? with
  | none =>
      dsimp only
      rw [List.mem_singleton]
      constructor
      · rintro rfl
        exact .texts hitems
      · intro h
        cases h with
        | texts => rfl
        | item hitems' =>
            rw [hitems] at hitems'
            cases hitems'
  | some items =>
      dsimp only
      rw [List.mem_flatMap]
      constructor
      · rintro ⟨item, hitem, hmem⟩
        obtain ⟨hnot, rfl⟩ := mem_textFaults.mp hmem
        exact .item hitems hitem (.text hnot)
      · intro h
        cases h with
        | texts hnone =>
            rw [hitems] at hnone
            cases hnone
        | item hitems' hitem h =>
            obtain rfl := Option.some.inj (hitems.symm.trans hitems')
            cases h with
            | text hnot => exact ⟨_, hitem, mem_textFaults.mpr ⟨hnot, rfl⟩⟩

theorem mem_faults {kind : Kind} {node : Node} {mismatch : Mismatch} :
    mismatch ∈ kind.faults node ↔ kind.Offends node mismatch := by
  cases kind with
  | text =>
      rw [faults, mem_textFaults]
      constructor
      · rintro ⟨hnot, rfl⟩
        exact .text hnot
      · intro h
        cases h with
        | text hnot => exact ⟨hnot, rfl⟩
  | path =>
      rw [faults, mem_textFaults, ← fits_path_iff]
      constructor
      · rintro ⟨hnot, rfl⟩
        exact .path hnot
      · intro h
        cases h with
        | path hnot => exact ⟨hnot, rfl⟩
  | flag =>
      rw [faults, mem_flagFaults]
      constructor
      · rintro ⟨hnot, rfl⟩
        exact .flag hnot
      · intro h
        cases h with
        | flag hnot => exact ⟨hnot, rfl⟩
  | texts => exact mem_faults_texts

theorem faults_eq_nil {kind : Kind} {node : Node}
    (h : ∀ mismatch, ¬ kind.Offends node mismatch) : kind.faults node = [] :=
  List.eq_nil_iff_forall_not_mem.mpr fun mismatch hmem => h mismatch (mem_faults.mp hmem)

theorem fits_iff {kind : Kind} {node : Node} :
    kind.Fits node ↔ ∀ mismatch, ¬ kind.Offends node mismatch := by
  constructor
  · intro h mismatch hoffends
    cases hoffends with
    | text hnot => exact hnot h
    | path hnot => exact hnot h
    | flag hnot => exact hnot h
    | texts hnone =>
        obtain ⟨values, items, hitems, -⟩ := h
        rw [hitems] at hnone
        cases hnone
    | item hitems hitem hoffends =>
        obtain ⟨values, items, hitems', hlength, hpairs⟩ := h
        obtain rfl := Option.some.inj (hitems.symm.trans hitems')
        obtain ⟨value, hpair⟩ := exists_mem_zip hlength hitem
        cases hoffends with
        | text hnot => exact hnot ⟨value, hpairs _ hpair⟩
  · intro h
    have hnil := faults_eq_nil h
    cases kind with
    | text =>
        obtain ⟨value, hvalue⟩ := (reports_decodeText node).ok_iff.mpr hnil
        exact ⟨value, decodeText_eq_ok_iff.mp hvalue⟩
    | path =>
        obtain ⟨value, hvalue⟩ := (reports_decodePath node).ok_iff.mpr hnil
        exact ⟨value, decodePath_eq_ok_iff.mp hvalue⟩
    | texts =>
        obtain ⟨values, hvalues⟩ := (reports_decodeTexts node).ok_iff.mpr hnil
        exact ⟨values, decodeTexts_eq_ok_iff.mp hvalues⟩
    | flag =>
        obtain ⟨value, hvalue⟩ := (reports_decodeFlag node).ok_iff.mpr hnil
        exact ⟨value, decodeFlag_eq_ok_iff.mp hvalue⟩

end Kind

namespace Section

theorem lookup_fields {part : Section} (hpart : part ∈ all) {name : String} {kind : Kind} :
    part.fields.lookup name = some kind ↔ (name, kind) ∈ part.fields :=
  Entries.lookup_eq_some (names_nodup part hpart)

theorem mem_fieldFaults {part : Section} (hpart : part ∈ all) {field : String × Node}
    {mismatch : Mismatch} :
    mismatch ∈ part.fieldFaults field ↔
      ∃ kind, (field.1, kind) ∈ part.fields ∧ kind.Offends field.2 mismatch := by
  unfold fieldFaults
  cases hkind : part.fields.lookup field.1 with
  | none =>
      constructor
      · intro hmem
        cases hmem
      · rintro ⟨kind, hfield, -⟩
        rw [(lookup_fields hpart).mpr hfield] at hkind
        cases hkind
  | some kind =>
      constructor
      · intro hmem
        exact ⟨kind, (lookup_fields hpart).mp hkind, Kind.mem_faults.mp hmem⟩
      · rintro ⟨kind', hfield, hoffends⟩
        rw [(lookup_fields hpart).mpr hfield] at hkind
        obtain rfl := Option.some.inj hkind
        exact Kind.mem_faults.mpr hoffends

theorem mem_faults {part : Section} (hpart : part ∈ all) {node : Node}
    (hdistinct : ∀ contents, part.contents? node = some contents → contents.Distinct)
    {mismatch : Mismatch} : mismatch ∈ part.faults node ↔ part.Offends node mismatch := by
  unfold faults
  cases hcontents : part.contents? node with
  | none =>
      dsimp only
      rw [List.mem_singleton]
      constructor
      · rintro rfl
        exact .whole hcontents
      · intro h
        cases h with
        | whole => rfl
        | field hcontents' =>
            rw [hcontents] at hcontents'
            cases hcontents'
  | some contents =>
      dsimp only
      rw [List.mem_flatMap]
      constructor
      · rintro ⟨⟨name, value⟩, hmem, hfault⟩
        obtain ⟨kind, hfield, hoffends⟩ := (mem_fieldFaults hpart).mp hfault
        have hvalue := (Entries.get?_eq_some_iff (hdistinct contents hcontents)).mpr hmem
        exact .field hcontents hfield hvalue hoffends
      · intro h
        cases h with
        | whole hnone =>
            rw [hcontents] at hnone
            cases hnone
        | field hcontents' hfield hvalue hoffends =>
            obtain rfl := Option.some.inj (hcontents.symm.trans hcontents')
            exact ⟨_, Entries.mem_of_get? hvalue,
              (mem_fieldFaults hpart).mpr ⟨_, hfield, hoffends⟩⟩

end Section

theorem find_part {part : Section} (hpart : part ∈ Section.all) :
    Section.all.find? (·.name = part.name) = some part := by
  simp only [Section.all, List.mem_cons, List.not_mem_nil, or_false] at hpart
  rcases hpart with rfl | rfl | rfl
  · rfl
  · rfl
  · rfl

theorem mem_entryFaults {document : Entries} (hreadable : Readable document)
    {entry : String × Node} (hentry : entry ∈ document) {mismatch : Mismatch} :
    mismatch ∈ entryFaults entry ↔
      ∃ part ∈ Section.all, part.name = entry.1 ∧ part.Offends entry.2 mismatch := by
  have hnode := (Entries.get?_eq_some_iff hreadable.1).mpr hentry
  have hmem : ∀ part ∈ Section.all,
      (mismatch ∈ part.faults entry.2 ↔ part.Offends entry.2 mismatch) :=
    fun part hpart => Section.mem_faults hpart fun contents hcontents =>
      hreadable.contents?_distinct hpart hnode hcontents
  unfold entryFaults
  cases hfind : Section.all.find? (·.name = entry.1) with
  | none =>
      constructor
      · intro h
        cases h
      · rintro ⟨part, hpart, hname, -⟩
        rw [← hname, find_part hpart] at hfind
        cases hfind
  | some part =>
      have hpart := List.mem_of_find?_eq_some hfind
      have hname : part.name = entry.1 := by
        simpa using List.find?_some hfind
      constructor
      · intro h
        exact ⟨part, hpart, hname, (hmem part hpart).mp h⟩
      · rintro ⟨other, hother, hname', hoffends⟩
        rw [← hname', find_part hother] at hfind
        obtain rfl := Option.some.inj hfind
        exact (hmem other hother).mpr hoffends

theorem mem_faults {document : Entries} (hreadable : Readable document) {mismatch : Mismatch} :
    mismatch ∈ faults document ↔ Offends document mismatch := by
  unfold faults
  rw [List.mem_flatMap]
  constructor
  · rintro ⟨⟨name, node⟩, hentry, hfault⟩
    obtain ⟨part, hpart, hname, hoffends⟩ := (mem_entryFaults hreadable hentry).mp hfault
    refine ⟨part, hpart, node, ?_, hoffends⟩
    rw [hname]
    exact (Entries.get?_eq_some_iff hreadable.1).mpr hentry
  · rintro ⟨part, hpart, node, hnode, hoffends⟩
    have hentry := Entries.mem_of_get? hnode
    exact ⟨_, hentry, (mem_entryFaults hreadable hentry).mpr ⟨part, hpart, rfl, hoffends⟩⟩

theorem wellTyped_iff {document : Entries} :
    WellTyped document ↔ ∀ mismatch, ¬ Offends document mismatch := by
  constructor
  · rintro h mismatch ⟨part, hpart, node, hnode, hoffends⟩
    obtain ⟨contents, hcontents, hfits⟩ := h part hpart node hnode
    cases hoffends with
    | whole hnone =>
        rw [hcontents] at hnone
        cases hnone
    | field hcontents' hfield hvalue hoffends =>
        obtain rfl := Option.some.inj (hcontents.symm.trans hcontents')
        exact Kind.fits_iff.mp (hfits _ hfield _ hvalue) mismatch hoffends
  · intro h part hpart node hnode
    cases hcontents : part.contents? node with
    | none => exact absurd ⟨part, hpart, node, hnode, .whole hcontents⟩ (h _)
    | some contents =>
        refine ⟨contents, rfl, ?_⟩
        intro field hfield value hvalue
        rw [Kind.fits_iff]
        intro mismatch hoffends
        exact h mismatch ⟨part, hpart, node, hnode, .field hcontents hfield hvalue hoffends⟩

end Config

end Reftest
