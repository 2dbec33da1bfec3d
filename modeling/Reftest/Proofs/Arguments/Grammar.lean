import Reftest.Arguments.Read
import Reftest.Proofs.Text.Encoding

/-!
The language of command lines: what they give, how each thing is spelled, and which arguments
come of it.
-/

namespace Reftest

inductive Given where
  | value (option : ValueOption) (octets : Octets)
  | flag (flag : Flag)
  | suite (octets : Octets)
  deriving DecidableEq, Repr

inductive Subject where
  | option (option : ValueOption)
  | flag (flag : Flag)
  | suite
  deriving DecidableEq, Repr

namespace Given

def subject : Given → Subject
  | .value option _ => .option option
  | .flag given => .flag given
  | .suite _ => .suite

/-- Paths are any octets but none, everything else is text. -/
def Valid : Given → Prop
  | .value .log octets => octets ≠ []
  | .value .config octets => octets ≠ []
  | .value .harness octets => ∃ text, octets = Octets.ofText text
  | .value .browser octets => ∃ text, octets = Octets.ofText text
  | .value .analyzer octets => ∃ text, octets = Octets.ofText text
  | .flag _ => True
  | .suite octets => ∃ text, octets = Octets.ofText text

end Given

/-- What no option could be taken for: a dash alone, or no dash in front. -/
def Plain (octets : Octets) : Prop :=
  octets = [Token.dash] ∨ octets.head? ≠ some Token.dash

def ValueOption.spelling (option : ValueOption) : Octets :=
  Octets.ofText ("--" ++ option.name)

def Flag.spelling (flag : Flag) : Octets :=
  Octets.ofText flag.shown

def Token.dashes : Octets :=
  [Token.dash, Token.dash]

namespace Given

/-- The items that one thing can be given by. -/
inductive Spelled : Given → List Octets → Prop where
  | joined (option : ValueOption) (octets : Octets) :
      Spelled (.value option octets) [option.spelling ++ Token.equals :: octets]
  | separate (option : ValueOption) (octets : Octets) (hplain : Plain octets) :
      Spelled (.value option octets) [option.spelling, octets]
  | long (flag : Flag) : Spelled (.flag flag) [flag.spelling]
  | short : Spelled (.flag .verbose) [Octets.ofText "-v"]
  | positional (octets : Octets) (hplain : Plain octets) : Spelled (.suite octets) [octets]

end Given

inductive Phrased : List Given → List Octets → Prop where
  | nil : Phrased [] []
  | cons {given : Given} {givens : List Given} {spelling items : List Octets}
      (hspelled : given.Spelled spelling) (hrest : Phrased givens items) :
      Phrased (given :: givens) (spelling ++ items)

/-- Behind two dashes there can be one more item, the suite whatever it looks like. -/
inductive Sentence : List Given → List Octets → Prop where
  | phrase {givens : List Given} {items : List Octets} (h : Phrased givens items) :
      Sentence givens items
  | closed {givens : List Given} {items : List Octets} (h : Phrased givens items) :
      Sentence givens (items ++ [Token.dashes])
  | escaped {givens : List Given} {items : List Octets} (octets : Octets)
      (h : Phrased givens items) :
      Sentence (givens ++ [.suite octets]) (items ++ [Token.dashes, octets])

/-- Nothing is given twice, and every value is one that its argument can have. -/
structure Admissible (givens : List Given) : Prop where
  nodup : (givens.map Given.subject).Nodup
  valid : ∀ given ∈ givens, given.Valid

theorem admissible_nil : Admissible [] := by
  constructor
  · exact List.nodup_nil
  · intro given hmem
    cases hmem

theorem admissible_append {before : List Given} {given : Given} :
    Admissible (before ++ [given]) ↔
      Admissible before ∧ given.Valid ∧ given.subject ∉ before.map Given.subject := by
  constructor
  · intro h
    have hnodup := h.nodup
    rw [List.map_append, List.map_singleton, List.nodup_append] at hnodup
    refine ⟨⟨hnodup.1, fun other hmem => h.valid other (List.mem_append_left _ hmem)⟩,
      h.valid given (List.mem_append_right _ (List.mem_singleton_self given)), ?_⟩
    intro hmem
    exact hnodup.2.2 _ hmem _ (List.mem_singleton_self _) rfl
  · rintro ⟨hbefore, hvalid, hnew⟩
    constructor
    · rw [List.map_append, List.map_singleton, List.nodup_append]
      refine ⟨hbefore.nodup, List.nodup_cons.mpr ⟨List.not_mem_nil, List.nodup_nil⟩, ?_⟩
      intro subject hmem other hother heq
      rw [heq, List.mem_singleton.mp hother] at hmem
      exact hnew hmem
    · intro other hmem
      rcases List.mem_append.mp hmem with hother | hother
      · exact hbefore.valid other hother
      · rw [List.mem_singleton.mp hother]
        exact hvalid

theorem Admissible.of_append {before after : List Given} (h : Admissible (before ++ after)) :
    Admissible before := by
  constructor
  · have hnodup := h.nodup
    rw [List.map_append, List.nodup_append] at hnodup
    exact hnodup.1
  · intro given hmem
    exact h.valid given (List.mem_append_left _ hmem)

namespace Arguments

def Gives (arguments : Arguments) : Given → Prop
  | .value .harness octets => ∃ text, arguments.harness = some text ∧ octets = Octets.ofText text
  | .value .browser octets => ∃ text, arguments.browser = some text ∧ octets = Octets.ofText text
  | .value .analyzer octets => ∃ text, arguments.analyzer = some text ∧ octets = Octets.ofText text
  | .value .log octets => arguments.log = some octets
  | .value .config octets => arguments.config = some octets
  | .flag .noOpen => arguments.noOpen = true
  | .flag .exitCode => arguments.exitCode = true
  | .flag .verbose => arguments.verbose = true
  | .suite octets => ∃ text, arguments.suite = some text ∧ octets = Octets.ofText text

/-- The arguments have the values that are given, and no others. -/
def Describes (arguments : Arguments) (givens : List Given) : Prop :=
  ∀ given, arguments.Gives given ↔ given ∈ givens

end Arguments

end Reftest
