import Reftest.Proofs.Arguments.Grammar
import Reftest.Proofs.Folding

namespace Reftest.Arguments

def giveSuite (arguments : Arguments) (octets : Octets) : Except ArgumentFault Arguments :=
  if arguments.suite.isSome then .error (.unexpected octets.shown)
  else arguments.take (.suite octets)

def accept (arguments : Arguments) : Given → Except ArgumentFault Arguments
  | .value option octets => arguments.give option octets
  | .flag flag => arguments.turn (.flag flag)
  | .suite octets => arguments.giveSuite octets

def has (arguments : Arguments) : Subject → Bool
  | .option option => option.isGiven arguments
  | .flag flag => flag.isGiven arguments
  | .suite => arguments.suite.isSome

theorem map_textOf_eq_ok {α : Type} {f : String → α} {octets : Octets} {result : α}
    (h : (textOf octets).map f = .ok result) :
    ∃ text, octets = Octets.ofText text ∧ result = f text := by
  unfold textOf at h
  cases htext : octets.text? with
  | none =>
      rw [htext] at h
      cases h
  | some text =>
      rw [htext] at h
      exact ⟨text, Octets.text?_eq_some.mp htext, (Except.ok.inj h).symm⟩

theorem map_textOf_ofText {α : Type} (f : String → α) (text : String) :
    (textOf (Octets.ofText text)).map f = .ok (f text) := by
  rw [textOf, Octets.text?_ofText]
  rfl

theorem map_pathOf_eq_ok {α : Type} {f : Octets → α} {option : ValueOption} {octets : Octets}
    {result : α} (h : (pathOf option octets).map f = .ok result) :
    octets ≠ [] ∧ result = f octets := by
  unfold pathOf at h
  split at h
  · cases h
  · rename_i hne
    exact ⟨hne, (Except.ok.inj h).symm⟩

theorem map_pathOf_of_ne_nil {α : Type} (f : Octets → α) (option : ValueOption) {octets : Octets}
    (h : octets ≠ []) : (pathOf option octets).map f = .ok (f octets) := by
  rw [pathOf, if_neg h]
  rfl

theorem setValue_valid {arguments arguments' : Arguments} {option : ValueOption} {octets : Octets}
    (h : arguments.setValue option octets = .ok arguments') :
    (Given.value option octets).Valid := by
  cases option with
  | harness =>
      obtain ⟨text, htext, -⟩ := map_textOf_eq_ok h
      exact ⟨text, htext⟩
  | browser =>
      obtain ⟨text, htext, -⟩ := map_textOf_eq_ok h
      exact ⟨text, htext⟩
  | analyzer =>
      obtain ⟨text, htext, -⟩ := map_textOf_eq_ok h
      exact ⟨text, htext⟩
  | log => exact (map_pathOf_eq_ok h).1
  | config => exact (map_pathOf_eq_ok h).1

theorem setValue_of_valid (arguments : Arguments) {option : ValueOption} {octets : Octets}
    (h : (Given.value option octets).Valid) :
    ∃ arguments', arguments.setValue option octets = .ok arguments' := by
  cases option with
  | harness =>
      obtain ⟨text, rfl⟩ := h
      exact ⟨_, map_textOf_ofText _ text⟩
  | browser =>
      obtain ⟨text, rfl⟩ := h
      exact ⟨_, map_textOf_ofText _ text⟩
  | analyzer =>
      obtain ⟨text, rfl⟩ := h
      exact ⟨_, map_textOf_ofText _ text⟩
  | log => exact ⟨_, map_pathOf_of_ne_nil _ _ h⟩
  | config => exact ⟨_, map_pathOf_of_ne_nil _ _ h⟩

theorem eq_none_of_isSome_eq_false {α : Type} {value : Option α} (h : value.isSome = false) :
    value = none := by
  cases value with
  | none => rfl
  | some _ => cases h

theorem gives_setValue {arguments arguments' : Arguments} {option : ValueOption} {octets : Octets}
    (hfree : option.isGiven arguments = false)
    (h : arguments.setValue option octets = .ok arguments') (other : Given) :
    arguments'.Gives other ↔ arguments.Gives other ∨ other = .value option octets := by
  cases option with
  | harness =>
      have hnone : arguments.harness = none := eq_none_of_isSome_eq_false hfree
      obtain ⟨text, rfl, rfl⟩ := map_textOf_eq_ok h
      fun_cases Gives arguments other <;> simp [Gives, hnone]
  | browser =>
      have hnone : arguments.browser = none := eq_none_of_isSome_eq_false hfree
      obtain ⟨text, rfl, rfl⟩ := map_textOf_eq_ok h
      fun_cases Gives arguments other <;> simp [Gives, hnone]
  | analyzer =>
      have hnone : arguments.analyzer = none := eq_none_of_isSome_eq_false hfree
      obtain ⟨text, rfl, rfl⟩ := map_textOf_eq_ok h
      fun_cases Gives arguments other <;> simp [Gives, hnone]
  | log =>
      have hnone : arguments.log = none := eq_none_of_isSome_eq_false hfree
      obtain ⟨-, rfl⟩ := map_pathOf_eq_ok h
      fun_cases Gives arguments other <;> simp [Gives, hnone, @eq_comm Octets]
  | config =>
      have hnone : arguments.config = none := eq_none_of_isSome_eq_false hfree
      obtain ⟨-, rfl⟩ := map_pathOf_eq_ok h
      fun_cases Gives arguments other <;> simp [Gives, hnone, @eq_comm Octets]

theorem gives_give_flag {arguments : Arguments} {flag : Flag} (other : Given) :
    (flag.give arguments).Gives other ↔ arguments.Gives other ∨ other = .flag flag := by
  cases flag with
  | noOpen => fun_cases Gives arguments other <;> simp [Gives, Flag.give]
  | exitCode => fun_cases Gives arguments other <;> simp [Gives, Flag.give]
  | verbose => fun_cases Gives arguments other <;> simp [Gives, Flag.give]

theorem gives_giveSuite {arguments arguments' : Arguments} {octets : Octets}
    (hfree : arguments.suite.isSome = false)
    (h : arguments.take (.suite octets) = .ok arguments') (other : Given) :
    arguments'.Gives other ↔ arguments.Gives other ∨ other = .suite octets := by
  have hnone : arguments.suite = none := eq_none_of_isSome_eq_false hfree
  obtain ⟨text, rfl, rfl⟩ := map_textOf_eq_ok h
  fun_cases Gives arguments other <;> simp [Gives, hnone]

def put (arguments : Arguments) : Given → Except ArgumentFault Arguments
  | .value option octets => arguments.setValue option octets
  | .flag flag => .ok (flag.give arguments)
  | .suite octets => arguments.take (.suite octets)

theorem accept_eq (arguments : Arguments) (given : Given) :
    (arguments.has given.subject = true ∧ ∃ fault, arguments.accept given = .error fault) ∨
      (arguments.has given.subject = false ∧ arguments.accept given = arguments.put given) := by
  cases given with
  | value option octets =>
      cases hfree : option.isGiven arguments with
      | true => exact Or.inl ⟨hfree, _, if_pos hfree⟩
      | false => exact Or.inr ⟨hfree, if_neg (Bool.eq_false_iff.mp hfree)⟩
  | flag flag =>
      cases hfree : flag.isGiven arguments with
      | true => exact Or.inl ⟨hfree, _, if_pos hfree⟩
      | false => exact Or.inr ⟨hfree, if_neg (Bool.eq_false_iff.mp hfree)⟩
  | suite octets =>
      cases hfree : arguments.suite.isSome with
      | true => exact Or.inl ⟨hfree, _, if_pos hfree⟩
      | false => exact Or.inr ⟨hfree, if_neg (Bool.eq_false_iff.mp hfree)⟩

theorem accept_eq_ok {arguments arguments' : Arguments} {given : Given} :
    arguments.accept given = .ok arguments' ↔
      arguments.has given.subject = false ∧ arguments.put given = .ok arguments' := by
  rcases arguments.accept_eq given with ⟨hhas, fault, hfault⟩ | ⟨hfree, heq⟩
  · rw [hhas, hfault]
    constructor
    · intro h
      cases h
    · intro h
      cases h.1
  · rw [hfree, heq]
    exact ⟨fun h => ⟨rfl, h⟩, fun h => h.2⟩

theorem valid_of_put {arguments arguments' : Arguments} {given : Given}
    (h : arguments.put given = .ok arguments') : given.Valid := by
  cases given with
  | value option octets => exact setValue_valid h
  | flag flag => trivial
  | suite octets =>
      obtain ⟨text, htext, -⟩ := map_textOf_eq_ok h
      exact ⟨text, htext⟩

theorem put_of_valid (arguments : Arguments) {given : Given} (h : given.Valid) :
    ∃ arguments', arguments.put given = .ok arguments' := by
  cases given with
  | value option octets => exact setValue_of_valid arguments h
  | flag flag => exact ⟨_, rfl⟩
  | suite octets =>
      obtain ⟨text, rfl⟩ := h
      exact ⟨_, map_textOf_ofText _ text⟩

theorem gives_accept {arguments arguments' : Arguments} {given : Given}
    (h : arguments.accept given = .ok arguments') (other : Given) :
    arguments'.Gives other ↔ arguments.Gives other ∨ other = given := by
  obtain ⟨hfree, hput⟩ := accept_eq_ok.mp h
  cases given with
  | value option octets => exact gives_setValue hfree hput other
  | flag flag =>
      obtain rfl := Except.ok.inj hput
      exact gives_give_flag other
  | suite octets => exact gives_giveSuite hfree hput other

theorem has_of_gives {arguments : Arguments} {given : Given} (h : arguments.Gives given) :
    arguments.has given.subject = true := by
  cases given with
  | value option octets =>
      cases option with
      | harness =>
          obtain ⟨text, htext, -⟩ := h
          exact Option.isSome_iff_exists.mpr ⟨text, htext⟩
      | browser =>
          obtain ⟨text, htext, -⟩ := h
          exact Option.isSome_iff_exists.mpr ⟨text, htext⟩
      | analyzer =>
          obtain ⟨text, htext, -⟩ := h
          exact Option.isSome_iff_exists.mpr ⟨text, htext⟩
      | log => exact Option.isSome_iff_exists.mpr ⟨octets, h⟩
      | config => exact Option.isSome_iff_exists.mpr ⟨octets, h⟩
  | flag flag =>
      cases flag with
      | noOpen => exact h
      | exitCode => exact h
      | verbose => exact h
  | suite octets =>
      obtain ⟨text, htext, -⟩ := h
      exact Option.isSome_iff_exists.mpr ⟨text, htext⟩

theorem gives_of_has {arguments : Arguments} {subject : Subject}
    (h : arguments.has subject = true) :
    ∃ given, given.subject = subject ∧ arguments.Gives given := by
  cases subject with
  | option option =>
      cases option with
      | harness =>
          obtain ⟨text, htext⟩ := Option.isSome_iff_exists.mp h
          exact ⟨.value .harness (Octets.ofText text), rfl, text, htext, rfl⟩
      | browser =>
          obtain ⟨text, htext⟩ := Option.isSome_iff_exists.mp h
          exact ⟨.value .browser (Octets.ofText text), rfl, text, htext, rfl⟩
      | analyzer =>
          obtain ⟨text, htext⟩ := Option.isSome_iff_exists.mp h
          exact ⟨.value .analyzer (Octets.ofText text), rfl, text, htext, rfl⟩
      | log =>
          obtain ⟨path, hpath⟩ := Option.isSome_iff_exists.mp h
          exact ⟨.value .log path, rfl, hpath⟩
      | config =>
          obtain ⟨path, hpath⟩ := Option.isSome_iff_exists.mp h
          exact ⟨.value .config path, rfl, hpath⟩
  | flag flag =>
      refine ⟨.flag flag, rfl, ?_⟩
      cases flag with
      | noOpen => exact h
      | exitCode => exact h
      | verbose => exact h
  | suite =>
      obtain ⟨text, htext⟩ := Option.isSome_iff_exists.mp h
      exact ⟨.suite (Octets.ofText text), rfl, text, htext, rfl⟩

theorem text_ext {left right : Option String}
    (h : ∀ octets, (∃ text, left = some text ∧ octets = Octets.ofText text) ↔
      ∃ text, right = some text ∧ octets = Octets.ofText text) : left = right := by
  apply Option.ext
  intro text
  constructor
  · intro hleft
    obtain ⟨text', hright, htext⟩ := (h _).mp ⟨text, hleft, rfl⟩
    rw [Octets.ofText_injective htext]
    exact hright
  · intro hright
    obtain ⟨text', hleft, htext⟩ := (h _).mpr ⟨text, hright, rfl⟩
    rw [Octets.ofText_injective htext]
    exact hleft

theorem eq_of_gives {left right : Arguments} (h : ∀ given, left.Gives given ↔ right.Gives given) :
    left = right := by
  have hsuite := text_ext fun octets => h (.suite octets)
  have hharness := text_ext fun octets => h (.value .harness octets)
  have hbrowser := text_ext fun octets => h (.value .browser octets)
  have hanalyzer := text_ext fun octets => h (.value .analyzer octets)
  have hlog := Option.ext fun octets => h (.value .log octets)
  have hconfig := Option.ext fun octets => h (.value .config octets)
  have hnoOpen := Bool.eq_iff_iff.mpr (h (.flag .noOpen))
  have hexitCode := Bool.eq_iff_iff.mpr (h (.flag .exitCode))
  have hverbose := Bool.eq_iff_iff.mpr (h (.flag .verbose))
  cases left
  cases right
  simp_all

theorem describes_nil : Describes {} [] := by
  intro given
  fun_cases Gives ({} : Arguments) given <;> simp

theorem Describes.append {arguments arguments' : Arguments} {before : List Given} {given : Given}
    (hbefore : arguments.Describes before) (h : arguments.accept given = .ok arguments') :
    arguments'.Describes (before ++ [given]) := by
  intro other
  rw [gives_accept h other, hbefore other, List.mem_append, List.mem_singleton]

theorem Describes.unique {left right : Arguments} {givens : List Given}
    (hleft : left.Describes givens) (hright : right.Describes givens) : left = right :=
  eq_of_gives fun given => (hleft given).trans (hright given).symm

theorem Describes.has_iff {arguments : Arguments} {givens : List Given}
    (h : arguments.Describes givens) (subject : Subject) :
    arguments.has subject = true ↔ subject ∈ givens.map Given.subject := by
  rw [List.mem_map]
  constructor
  · intro hhas
    obtain ⟨given, hsubject, hgives⟩ := gives_of_has hhas
    exact ⟨given, (h given).mp hgives, hsubject⟩
  · rintro ⟨given, hmem, rfl⟩
    exact has_of_gives ((h given).mpr hmem)

theorem accept_iff_admissible {arguments : Arguments} {before : List Given} {given : Given}
    (hadmissible : Admissible before) (hdescribes : arguments.Describes before) :
    (∃ arguments', arguments.accept given = .ok arguments') ↔ Admissible (before ++ [given]) := by
  rw [admissible_append, ← hdescribes.has_iff, Bool.not_eq_true]
  constructor
  · rintro ⟨arguments', h⟩
    obtain ⟨hfree, hput⟩ := accept_eq_ok.mp h
    exact ⟨hadmissible, valid_of_put hput, hfree⟩
  · rintro ⟨-, hvalid, hfree⟩
    obtain ⟨arguments', hput⟩ := arguments.put_of_valid hvalid
    exact ⟨arguments', accept_eq_ok.mpr ⟨hfree, hput⟩⟩

theorem acceptAll_from {arguments : Arguments} {before : List Given}
    (hadmissible : Admissible before) (hdescribes : arguments.Describes before)
    (givens : List Given) (result : Arguments) :
    givens.foldlM accept arguments = .ok result ↔
      Admissible (before ++ givens) ∧ result.Describes (before ++ givens) := by
  induction givens generalizing arguments before with
  | nil =>
      rw [List.append_nil, foldlM_nil_eq_ok]
      constructor
      · rintro rfl
        exact ⟨hadmissible, hdescribes⟩
      · rintro ⟨-, hresult⟩
        exact hdescribes.unique hresult
  | cons given givens ih =>
      rw [List.append_cons, foldlM_cons_eq_ok]
      constructor
      · rintro ⟨next, hnext, h⟩
        exact (ih ((accept_iff_admissible hadmissible hdescribes).mp ⟨next, hnext⟩)
          (hdescribes.append hnext)).mp h
      · rintro ⟨h, hresult⟩
        obtain ⟨next, hnext⟩ := (accept_iff_admissible hadmissible hdescribes).mpr h.of_append
        exact ⟨next, hnext, (ih h.of_append (hdescribes.append hnext)).mpr ⟨h, hresult⟩⟩

theorem acceptAll_eq_ok {givens : List Given} {result : Arguments} :
    givens.foldlM accept {} = .ok result ↔ Admissible givens ∧ result.Describes givens :=
  acceptAll_from admissible_nil describes_nil givens result

theorem exists_acceptAll_from {arguments : Arguments} {before givens : List Given}
    (hdescribes : arguments.Describes before) (h : Admissible (before ++ givens)) :
    ∃ result, givens.foldlM accept arguments = .ok result := by
  induction givens generalizing arguments before with
  | nil => exact ⟨arguments, rfl⟩
  | cons given givens ih =>
      rw [List.append_cons] at h
      have hbefore := (admissible_append.mp h.of_append).1
      obtain ⟨next, hnext⟩ := (accept_iff_admissible hbefore hdescribes).mpr h.of_append
      obtain ⟨result, hresult⟩ := ih (hdescribes.append hnext) h
      exact ⟨result, foldlM_cons_eq_ok.mpr ⟨next, hnext, hresult⟩⟩

theorem exists_acceptAll {givens : List Given} :
    (∃ result, givens.foldlM accept ({} : Arguments) = .ok result) ↔ Admissible givens := by
  constructor
  · rintro ⟨result, h⟩
    exact (acceptAll_eq_ok.mp h).1
  · intro h
    exact exists_acceptAll_from describes_nil h

end Reftest.Arguments
