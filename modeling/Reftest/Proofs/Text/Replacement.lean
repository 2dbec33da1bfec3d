import Reftest.Proofs.Text.Encoding

/-!
Octets that are no text are read with a replacement for each maximal subpart of what is ill-formed,
and can be read part by part wherever they are cut between characters.
-/

namespace Reftest

namespace Utf8

def Valid (octets : Octets) : Prop :=
  ∃ text, octets = encode text

/-- Octets that some character's octets begin with. -/
def Opens (octets : Octets) : Prop :=
  ∃ c, octets <+: String.utf8EncodeChar c

/-- The longest of the octets in front that a character could begin with, but at least one. -/
structure MaximalSubpart (part octets : Octets) : Prop where
  front : part <+: octets
  opens : part.length = 1 ∨ Opens part
  longest : ∀ other, other <+: octets → other.length = 1 ∨ Opens other →
    other.length ≤ part.length

/-- A text for some octets, with characters where they stand, and one replacement for each maximal
subpart of what is ill-formed. -/
inductive Substitutes : Octets → List Char → Prop where
  | nil : Substitutes [] []
  | character (c : Char) {rest : Octets} {text : List Char} (h : Substitutes rest text) :
      Substitutes (String.utf8EncodeChar c ++ rest) (c :: text)
  | replaced {part rest : Octets} {text : List Char}
      (hill : ∀ c, ¬ String.utf8EncodeChar c <+: part ++ rest) (hne : part ≠ [])
      (hpart : MaximalSubpart part (part ++ rest)) (h : Substitutes rest text) :
      Substitutes (part ++ rest) (replacement :: text)

/-- Octets that do not begin in the middle of a character. -/
def Resumes (octets : Octets) : Prop :=
  ∀ octet ∈ octets.head?, octet < 0x80 ∨ 0xBF < octet

/-! What a leading octet announces can always be completed, within the range of octets that only
continue characters. -/

theorem lead_range {octet : UInt8} {lead : Lead} (h : Lead.of? octet = some lead) :
    0x80 ≤ lead.low ∧ lead.low ≤ lead.high ∧ lead.high ≤ 0xBF := by
  unfold Lead.of? at h
  repeat' split at h
  all_goals
    cases h
  all_goals
    dsimp only
    decide

theorem continueUnit_fill {low high : UInt8} (hrange : low ≤ high) (more bits : Nat) :
    ∃ fill c, continueUnit more low high bits fill = (some c, []) := by
  induction more generalizing low high bits with
  | zero => exact ⟨[], _, rfl⟩
  | succ more ih =>
      obtain ⟨fill, c, hfill⟩ := ih (by decide : (0x80 : UInt8) ≤ 0xBF)
        (bits * 64 + (low.toNat - 0x80))
      refine ⟨low :: fill, c, ?_⟩
      rw [continueUnit_within (Nat.le_refl _) (UInt8.le_iff_toNat_le.mp hrange)]
      exact hfill

theorem continueUnit_broken {more bits : Nat} {low high : UInt8} {octets rest : Octets}
    (hrange : low ≤ high) (h : continueUnit more low high bits octets = (none, rest)) :
    ∃ taken, octets = taken ++ rest ∧
      (∃ fill c, continueUnit more low high bits (taken ++ fill) = (some c, [])) ∧
      ∀ stop behind, rest.head? = some stop →
        continueUnit more low high bits (taken ++ stop :: behind) = (none, stop :: behind) := by
  induction octets generalizing more low high bits with
  | nil =>
      cases more with
      | zero => cases h
      | succ more =>
          obtain ⟨-, rfl⟩ := Prod.mk.inj h
          refine ⟨[], rfl, continueUnit_fill hrange _ _, ?_⟩
          intro stop behind hstop
          cases hstop
  | cons octet octets ih =>
      cases more with
      | zero => cases h
      | succ more =>
          rw [continueUnit] at h
          split at h
          · rename_i hwithin
            obtain ⟨hlow, hhigh⟩ := le_iff_within.mp hwithin
            obtain ⟨taken, rfl, ⟨fill, c, hfill⟩, hstop⟩ :=
              ih (by decide : (0x80 : UInt8) ≤ 0xBF) h
            refine ⟨octet :: taken, rfl, ⟨fill, c, ?_⟩, ?_⟩
            · rw [List.cons_append, continueUnit_within hlow hhigh, hfill]
            · intro stop behind hrest
              rw [List.cons_append, continueUnit_within hlow hhigh, hstop stop behind hrest]
          · rename_i hwithin
            obtain ⟨-, rfl⟩ := Prod.mk.inj h
            refine ⟨[], rfl, continueUnit_fill hrange _ _, ?_⟩
            intro stop behind hrest
            obtain rfl := Option.some.inj hrest
            rw [List.nil_append, continueUnit, if_neg hwithin]

theorem readUnit_of_opens {octet : UInt8} {taken : Octets} (h : Opens (octet :: taken)) :
    ∃ c behind, readUnit octet (taken ++ behind) = (some c, []) := by
  obtain ⟨c, behind, hc⟩ := h
  obtain ⟨first, tail, hencode, hread⟩ := readUnit_encode c []
  rw [hencode, List.cons_append] at hc
  obtain ⟨rfl, rfl⟩ := List.cons.inj hc
  rw [List.append_nil] at hread
  exact ⟨c, behind, hread⟩

theorem maximalSubpart_of_broken {octet : UInt8} {taken rest : Octets}
    (hopens : taken = [] ∨ Opens (octet :: taken))
    (hstop : ∀ stop behind, rest.head? = some stop →
      (readUnit octet (taken ++ stop :: behind)).1 = none) :
    MaximalSubpart (octet :: taken) (octet :: taken ++ rest) := by
  refine ⟨List.prefix_append _ _, ?_, ?_⟩
  · rcases hopens with rfl | hopens
    · exact Or.inl rfl
    · exact Or.inr hopens
  · intro other hfront hother
    rcases hother with hone | hother
    · rw [hone, List.length_cons]
      omega
    · apply Nat.le_of_not_lt
      intro hlonger
      obtain ⟨more, rfl⟩ := List.prefix_of_prefix_length_le (List.prefix_append _ _) hfront
        (by omega)
      rw [List.prefix_append_right_inj] at hfront
      cases more with
      | nil =>
          rw [List.append_nil] at hlonger
          exact Nat.lt_irrefl _ hlonger
      | cons stop more =>
          obtain ⟨behind, rfl⟩ := hfront
          obtain ⟨c, behind', hread⟩ := readUnit_of_opens hother
          have hnone := hstop stop (more ++ behind') rfl
          have hsplit : taken ++ stop :: (more ++ behind') = taken ++ stop :: more ++ behind' := by
            simp
          rw [hsplit] at hnone
          cases hnone.symm.trans (congrArg Prod.fst hread)

theorem opens_of_fill {octet : UInt8} {taken fill : Octets} {c : Char}
    (h : readUnit octet (taken ++ fill) = (some c, [])) : Opens (octet :: taken) := by
  refine ⟨c, fill, ?_⟩
  rw [List.cons_append, encode_of_readUnit h, List.append_nil]

theorem maximalSubpart_of_readUnit {octet : UInt8} {octets rest : Octets}
    (h : readUnit octet octets = (none, rest)) :
    ∃ taken, octets = taken ++ rest ∧ MaximalSubpart (octet :: taken) (octet :: octets) := by
  by_cases hshort : octet.toNat < 0x80
  · rw [readUnit_one hshort] at h
    cases h
  · cases hlead : Lead.of? octet with
    | none =>
        have hnone : ∀ behind, readUnit octet behind = (none, behind) := by
          intro behind
          rw [readUnit, if_neg (by rw [UInt8.lt_iff_toNat_lt]; exact hshort), hlead]
        rw [hnone] at h
        obtain ⟨-, rfl⟩ := Prod.mk.inj h
        refine ⟨[], rfl, maximalSubpart_of_broken (Or.inl rfl) ?_⟩
        intro stop behind hstop
        rw [hnone]
    | some lead =>
        have hlong : 0x80 ≤ octet.toNat := Nat.le_of_not_lt hshort
        have hmore := readUnit_more hlong hlead
        rw [hmore] at h
        obtain ⟨taken, rfl, ⟨fill, c, hfill⟩, hstop⟩ :=
          continueUnit_broken (lead_range hlead).2.1 h
        rw [← hmore] at hfill
        refine ⟨taken, rfl, maximalSubpart_of_broken (Or.inr (opens_of_fill hfill)) ?_⟩
        intro stop behind hrest
        rw [hmore, hstop stop behind hrest]

theorem MaximalSubpart.unique {part part' octets : Octets} (h : MaximalSubpart part octets)
    (h' : MaximalSubpart part' octets) : part = part' := by
  have hle := h.longest part' h'.front h'.opens
  have hle' := h'.longest part h.front h.opens
  exact (List.prefix_of_prefix_length_le h.front h'.front hle').eq_of_length
    (Nat.le_antisymm hle' hle)

theorem substitutes_decodeLossy (octets : Octets) : Substitutes octets (decodeLossy octets) := by
  unfold decodeLossy
  fun_induction units octets with
  | case1 => exact .nil
  | case2 octet octets unit ih =>
      rw [List.map_cons]
      cases hfirst : unit.1 with
      | some c =>
          have hread : readUnit octet octets = (some c, unit.2) := Prod.ext hfirst rfl
          rw [encode_of_readUnit hread]
          exact .character c ih
      | none =>
          have hread : readUnit octet octets = (none, unit.2) := Prod.ext hfirst rfl
          obtain ⟨taken, hoctets, hpart⟩ := maximalSubpart_of_readUnit hread
          rw [hoctets] at hread hpart ⊢
          have hne : octet :: taken ≠ [] := List.cons_ne_nil _ _
          refine .replaced ?_ hne hpart ih
          rintro c ⟨behind, hc⟩
          obtain ⟨first, tail, hencode, hchar⟩ := readUnit_encode c behind
          rw [hencode, List.cons_append] at hc
          obtain ⟨rfl, hc⟩ := List.cons.inj hc
          have hc : tail ++ behind = taken ++ unit.2 := hc
          rw [hc, hread] at hchar
          cases hchar

theorem Substitutes.unique {octets : Octets} {text : List Char} (h : Substitutes octets text) :
    decodeLossy octets = text := by
  induction h with
  | nil => rw [decodeLossy, units_nil, List.map_nil]
  | character c h ih =>
      rw [← ih, decodeLossy, decodeLossy]
      have hunits := units_encode_append [c]
      rw [encode_cons, encode_nil, List.append_nil] at hunits
      rw [hunits]
      rfl
  | @replaced part rest text hill hne hpart h ih =>
      obtain ⟨octet, part, rfl⟩ := List.exists_cons_of_ne_nil hne
      rw [← ih, List.cons_append, decodeLossy, units_cons]
      rw [List.cons_append] at hpart hill
      cases hfirst : (readUnit octet (part ++ rest)).1 with
      | some c =>
          have hencode := encode_of_readUnit (Prod.ext hfirst rfl)
          exact absurd ⟨_, hencode.symm⟩ (hill c)
      | none =>
          obtain ⟨taken, hoctets, hpart'⟩ := maximalSubpart_of_readUnit (Prod.ext hfirst rfl)
          obtain rfl := (List.cons.inj (hpart.unique hpart')).2
          have hrest := (List.append_cancel_left hoctets).symm
          exact congrArg (fun behind => replacement :: decodeLossy behind) hrest

theorem substitutes_iff {octets : Octets} {text : List Char} :
    Substitutes octets text ↔ decodeLossy octets = text := by
  constructor
  · exact Substitutes.unique
  · rintro rfl
    exact substitutes_decodeLossy octets

theorem decodeLossy_encode_append (text : List Char) (rest : Octets) :
    decodeLossy (encode text ++ rest) = text ++ decodeLossy rest := by
  have hsome : ∀ c : Char, (some c).getD replacement = c := fun _ => rfl
  rw [decodeLossy, units_encode_append, List.map_append, List.map_map, decodeLossy]
  simp [Function.comp_def, hsome]

theorem decodeLossy_encode (text : List Char) : decodeLossy (encode text) = text := by
  have h := decodeLossy_encode_append text []
  rw [List.append_nil] at h
  rw [h, decodeLossy, units_nil, List.map_nil, List.append_nil]

section

variable {right : Octets} (hright : Resumes right)

include hright

theorem continueUnit_append {low high : UInt8} (hlow : 0x80 ≤ low) (hhigh : high ≤ 0xBF)
    (more bits : Nat) (left : Octets) :
    continueUnit more low high bits (left ++ right) =
      ((continueUnit more low high bits left).1,
        (continueUnit more low high bits left).2 ++ right) := by
  induction left generalizing more low high bits with
  | nil =>
      cases more with
      | zero => rfl
      | succ more =>
          cases right with
          | nil => rfl
          | cons octet right =>
              have houtside : ¬ (low ≤ octet ∧ octet ≤ high) := by
                rintro ⟨hle, hge⟩
                rcases hright octet rfl with hbelow | habove
                · exact absurd (UInt8.le_trans hlow hle) (UInt8.not_le.mpr hbelow)
                · exact absurd (UInt8.le_trans hge hhigh) (UInt8.not_le.mpr habove)
              rw [continueUnit, List.nil_append, continueUnit, if_neg houtside]
  | cons octet left ih =>
      cases more with
      | zero => rfl
      | succ more =>
          rw [List.cons_append, continueUnit, continueUnit]
          split
          · exact ih (by decide) (by decide) _ _
          · rfl

theorem readUnit_append (octet : UInt8) (left : Octets) :
    readUnit octet (left ++ right) =
      ((readUnit octet left).1, (readUnit octet left).2 ++ right) := by
  unfold readUnit
  split
  · rfl
  · cases hlead : Lead.of? octet with
    | none => rfl
    | some lead =>
        obtain ⟨hlow, -, hhigh⟩ := lead_range hlead
        exact continueUnit_append hright hlow hhigh _ _ left

theorem units_append (left : Octets) : units (left ++ right) = units left ++ units right := by
  fun_induction units left with
  | case1 => rfl
  | case2 octet left unit ih =>
      rw [List.cons_append, units_cons, readUnit_append hright, ih]
      rfl

theorem decodeLossy_append (left : Octets) :
    decodeLossy (left ++ right) = decodeLossy left ++ decodeLossy right := by
  rw [decodeLossy, units_append hright, List.map_append]
  rfl

end

end Utf8

theorem Octets.shown_ofText (text : String) : (Octets.ofText text).shown = text := by
  rw [shown, ofText, Utf8.decodeLossy_encode, String.ofList_toList]

def Octets.repaired (octets : Octets) : Octets :=
  Octets.ofText octets.shown

theorem Octets.repaired_eq (octets : Octets) :
    octets.repaired = Utf8.encode (Utf8.decodeLossy octets) := by
  rw [repaired, ofText, shown, String.toList_ofList]

theorem Octets.repaired_of_valid {octets : Octets} (h : Utf8.Valid octets) :
    octets.repaired = octets := by
  obtain ⟨text, rfl⟩ := h
  rw [repaired_eq, Utf8.decodeLossy_encode]

theorem Octets.valid_repaired (octets : Octets) : Utf8.Valid octets.repaired :=
  ⟨_, octets.repaired_eq⟩

/-- What is asked of octets in which what is ill-formed was replaced. -/
structure Utf8.Repairs (repair : Octets → Octets) : Prop where
  valid : ∀ octets, Valid (repair octets)
  fixed_iff : ∀ octets, repair octets = octets ↔ Valid octets
  substitutes_iff : ∀ octets text, Substitutes octets text ↔ repair octets = encode text
  append_of_valid : ∀ left right, Valid left →
    repair (left ++ right) = repair left ++ repair right
  append_of_resumes : ∀ left right, Resumes right →
    repair (left ++ right) = repair left ++ repair right
  idempotent : ∀ octets, repair (repair octets) = repair octets

theorem Octets.repairs_repaired : Utf8.Repairs Octets.repaired where
  valid := valid_repaired
  fixed_iff octets := by
    constructor
    · intro h
      rw [← h]
      exact octets.valid_repaired
    · exact repaired_of_valid
  substitutes_iff octets text := by
    rw [Utf8.substitutes_iff, repaired_eq]
    constructor
    · rintro rfl
      rfl
    · exact Utf8.encode_injective
  append_of_valid left right h := by
    obtain ⟨text, rfl⟩ := h
    rw [repaired_eq, Utf8.decodeLossy_encode_append, Utf8.encode_append, ← repaired_eq,
      repaired_of_valid ⟨text, rfl⟩]
  append_of_resumes left right h := by
    rw [repaired_eq, Utf8.decodeLossy_append h, Utf8.encode_append, ← repaired_eq, ← repaired_eq]
  idempotent octets := repaired_of_valid octets.valid_repaired

example : Octets.shown [0xE2, 0x82, 0x41, 0xED, 0xA0, 0x80, 0xC3, 0xA9] =
    "\ufffdA\ufffd\ufffd\ufffdé" := by
  decide +kernel

end Reftest
