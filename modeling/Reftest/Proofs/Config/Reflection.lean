import Reftest.Proofs.Config.Faults

namespace Reftest

open Toml (Node Entries)

namespace Config

theorem IsText.unique {node : Node} {left right : String} (hleft : IsText node left)
    (hright : IsText node right) : left = right := by
  obtain ⟨span, rfl⟩ := hleft
  obtain ⟨span', hnode⟩ := hright
  obtain ⟨-, hvalue⟩ := Node.scalar.inj hnode
  exact Toml.Scalar.string.inj hvalue

theorem IsPath.unique {node : Node} {left right : Octets} (hleft : IsPath node left)
    (hright : IsPath node right) : left = right := by
  obtain ⟨text, htext, rfl⟩ := hleft
  obtain ⟨text', htext', rfl⟩ := hright
  rw [htext.unique htext']

theorem IsFlag.unique {node : Node} {left right : Bool} (hleft : IsFlag node left)
    (hright : IsFlag node right) : left = right := by
  obtain ⟨span, rfl⟩ := hleft
  obtain ⟨span', hnode⟩ := hright
  obtain ⟨-, hvalue⟩ := Node.scalar.inj hnode
  exact Toml.Scalar.boolean.inj hvalue

theorem texts_unique {items : List Node} {left right : List String}
    (hleft : items.length = left.length) (hright : items.length = right.length)
    (hitems : ∀ pair ∈ items.zip left, IsText pair.1 pair.2)
    (hitems' : ∀ pair ∈ items.zip right, IsText pair.1 pair.2) : left = right := by
  induction items generalizing left right with
  | nil =>
      rw [List.length_eq_zero_iff.mp hleft.symm, List.length_eq_zero_iff.mp hright.symm]
  | cons item items ih =>
      obtain ⟨first, left, rfl⟩ := List.exists_cons_of_length_eq_add_one hleft.symm
      obtain ⟨first', right, rfl⟩ := List.exists_cons_of_length_eq_add_one hright.symm
      have hfirst : first = first' :=
        (hitems (item, first) List.mem_cons_self).unique
          (hitems' (item, first') List.mem_cons_self)
      have hrest : left = right :=
        ih (Nat.succ.inj hleft) (Nat.succ.inj hright)
          (fun pair hpair => hitems pair (List.mem_cons_of_mem _ hpair))
          (fun pair hpair => hitems' pair (List.mem_cons_of_mem _ hpair))
      rw [hfirst, hrest]

theorem IsTexts.unique {node : Node} {left right : List String} (hleft : IsTexts node left)
    (hright : IsTexts node right) : left = right := by
  obtain ⟨items, hnode, hlength, hitems⟩ := hleft
  obtain ⟨items', hnode', hlength', hitems'⟩ := hright
  obtain rfl := Option.some.inj (hnode.symm.trans hnode')
  exact texts_unique hlength hlength' hitems hitems'

theorem Settles.unique {α : Type} {value : Option Node} {denotes : Node → α → Prop}
    {default left right : α} (hleft : Settles value denotes default left)
    (hright : Settles value denotes default right)
    (hunique : ∀ node, denotes node left → denotes node right → left = right) : left = right := by
  cases value with
  | none =>
      have hleft : left = default := hleft
      have hright : right = default := hright
      rw [hleft, hright]
  | some node => exact hunique node hleft hright

section

variable {value : String → Option Node}

theorem ReflectsHarness.unique {left right : HarnessSection} (hleft : ReflectsHarness value left)
    (hright : ReflectsHarness value right) : left = right := by
  obtain ⟨program, arguments, suite, logFile⟩ := left
  obtain ⟨program', arguments', suite', logFile'⟩ := right
  obtain rfl : program = program' := hleft.program.unique hright.program fun _ => IsText.unique
  obtain rfl : arguments = arguments' :=
    hleft.arguments.unique hright.arguments fun _ => IsTexts.unique
  obtain rfl : suite = suite' := hleft.suite.unique hright.suite fun _ => IsText.unique
  obtain rfl : logFile = logFile' := hleft.logFile.unique hright.logFile fun _ => IsPath.unique
  rfl

theorem ReflectsViewer.unique {left right : ViewerSection} (hleft : ReflectsViewer value left)
    (hright : ReflectsViewer value right) : left = right := by
  obtain ⟨browser, arguments, page, opens⟩ := left
  obtain ⟨browser', arguments', page', opens'⟩ := right
  obtain rfl : browser = browser' := hleft.browser.unique hright.browser fun _ => IsText.unique
  obtain rfl : arguments = arguments' :=
    hleft.arguments.unique hright.arguments fun _ => IsTexts.unique
  obtain rfl : page = page' := hleft.analyzerPage.unique hright.analyzerPage fun _ => IsText.unique
  obtain rfl : opens = opens' :=
    hleft.openOnFailure.unique hright.openOnFailure fun _ => IsFlag.unique
  rfl

theorem ReflectsRun.unique {left right : RunSection} (hleft : ReflectsRun value left)
    (hright : ReflectsRun value right) : left = right := by
  obtain ⟨exits⟩ := left
  obtain ⟨exits'⟩ := right
  obtain rfl : exits = exits' := hleft.exitCode.unique hright.exitCode fun _ => IsFlag.unique
  rfl

end

theorem Reflects.unique {document : Entries} {left right : Config}
    (hleft : Reflects document left) (hright : Reflects document right) : left = right := by
  obtain ⟨harness, viewer, run⟩ := left
  obtain ⟨harness', viewer', run'⟩ := right
  obtain rfl : harness = harness' := hleft.harness.unique hright.harness
  obtain rfl : viewer = viewer' := hleft.viewer.unique hright.viewer
  obtain rfl : run = run' := hleft.run.unique hright.run
  rfl

theorem faults_eq_nil_iff {document : Entries} (hreadable : Readable document) :
    faults document = [] ↔ WellTyped document := by
  rw [wellTyped_iff, List.eq_nil_iff_forall_not_mem]
  exact forall_congr' fun mismatch => not_congr (mem_faults hreadable)

theorem decode_eq_ok_iff {document : Entries} (hreadable : Readable document) {config : Config} :
    decode document = .ok config ↔ WellTyped document ∧ Reflects document config := by
  constructor
  · intro h
    have hnil := (reports_decode document).ok_iff.mp ⟨config, h⟩
    exact ⟨(faults_eq_nil_iff hreadable).mp hnil, reflects_of_decode hreadable h⟩
  · rintro ⟨htyped, hreflects⟩
    have hnil := (faults_eq_nil_iff hreadable).mpr htyped
    obtain ⟨config', h⟩ := (reports_decode document).ok_iff.mpr hnil
    rw [hreflects.unique (reflects_of_decode hreadable h)]
    exact h

end Config

end Reftest
