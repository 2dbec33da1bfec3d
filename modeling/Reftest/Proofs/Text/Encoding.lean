import Reftest.Text.Utf8

namespace Reftest

namespace Utf8

theorem toNat_byte {n : Nat} (h : n < 256) : (UInt8.ofNat n).toNat = n := by
  rw [UInt8.toNat_ofNat', Nat.mod_eq_of_lt h]

theorem toNat_ofNat {n : Nat} (h : n.isValidChar) : (Char.ofNat n).toNat = n := by
  rw [Char.ofNat, dif_pos h]
  rfl

theorem utf8EncodeChar_eq (c : Char) :
    String.utf8EncodeChar c =
      if c.toNat ≤ 0x7F then [UInt8.ofNat c.toNat]
      else if c.toNat ≤ 0x7FF then
        [UInt8.ofNat (c.toNat / 64 % 32 + 0xC0), UInt8.ofNat (c.toNat % 64 + 0x80)]
      else if c.toNat ≤ 0xFFFF then
        [UInt8.ofNat (c.toNat / 4096 % 16 + 0xE0), UInt8.ofNat (c.toNat / 64 % 64 + 0x80),
          UInt8.ofNat (c.toNat % 64 + 0x80)]
      else
        [UInt8.ofNat (c.toNat / 262144 % 8 + 0xF0), UInt8.ofNat (c.toNat / 4096 % 64 + 0x80),
          UInt8.ofNat (c.toNat / 64 % 64 + 0x80), UInt8.ofNat (c.toNat % 64 + 0x80)] := rfl

theorem toNat_lt (c : Char) : c.toNat < 0x110000 := by
  rcases c.valid with h | h
  · exact Nat.lt_trans h (by decide)
  · exact h.2

theorem utf8EncodeChar_one {c : Char} (h : c.toNat ≤ 0x7F) :
    String.utf8EncodeChar c = [UInt8.ofNat c.toNat] := by
  rw [utf8EncodeChar_eq, if_pos h]

theorem utf8EncodeChar_two {c : Char} (hlow : 0x80 ≤ c.toNat) (hhigh : c.toNat ≤ 0x7FF) :
    String.utf8EncodeChar c =
      [UInt8.ofNat (c.toNat / 64 + 0xC0), UInt8.ofNat (c.toNat % 64 + 0x80)] := by
  have hmod : c.toNat / 64 % 32 = c.toNat / 64 := Nat.mod_eq_of_lt (by omega)
  rw [utf8EncodeChar_eq, if_neg (by omega), if_pos hhigh, hmod]

theorem utf8EncodeChar_three {c : Char} (hlow : 0x800 ≤ c.toNat) (hhigh : c.toNat ≤ 0xFFFF) :
    String.utf8EncodeChar c =
      [UInt8.ofNat (c.toNat / 4096 + 0xE0), UInt8.ofNat (c.toNat / 64 % 64 + 0x80),
        UInt8.ofNat (c.toNat % 64 + 0x80)] := by
  have hmod : c.toNat / 4096 % 16 = c.toNat / 4096 := Nat.mod_eq_of_lt (by omega)
  rw [utf8EncodeChar_eq, if_neg (by omega), if_neg (by omega), if_pos hhigh, hmod]

theorem utf8EncodeChar_four {c : Char} (hlow : 0x10000 ≤ c.toNat) :
    String.utf8EncodeChar c =
      [UInt8.ofNat (c.toNat / 262144 + 0xF0), UInt8.ofNat (c.toNat / 4096 % 64 + 0x80),
        UInt8.ofNat (c.toNat / 64 % 64 + 0x80), UInt8.ofNat (c.toNat % 64 + 0x80)] := by
  have hlt := toNat_lt c
  have hmod : c.toNat / 262144 % 8 = c.toNat / 262144 := Nat.mod_eq_of_lt (by omega)
  rw [utf8EncodeChar_eq, if_neg (by omega), if_neg (by omega), if_neg (by omega), hmod]

theorem lead_two {octet : UInt8} (hlow : 0xC2 ≤ octet.toNat) (hhigh : octet.toNat < 0xE0) :
    Lead.of? octet = some ⟨1, 0x80, 0xBF, octet.toNat - 0xC0⟩ := by
  unfold Lead.of?
  rw [if_neg (by rw [UInt8.lt_iff_toNat_lt]; change ¬ octet.toNat < 0xC2; omega),
    if_pos (by rw [UInt8.lt_iff_toNat_lt]; exact hhigh)]

theorem lead_three {octet : UInt8} (hlow : 0xE0 ≤ octet.toNat) (hhigh : octet.toNat < 0xF0) :
    Lead.of? octet =
      some ⟨2, if octet.toNat = 0xE0 then 0xA0 else 0x80,
        if octet.toNat = 0xED then 0x9F else 0xBF, octet.toNat - 0xE0⟩ := by
  unfold Lead.of?
  simp only [UInt8.lt_iff_toNat_lt, ← UInt8.toNat_inj]
  simp
  grind

theorem lead_four {octet : UInt8} (hlow : 0xF0 ≤ octet.toNat) (hhigh : octet.toNat ≤ 0xF4) :
    Lead.of? octet =
      some ⟨3, if octet.toNat = 0xF0 then 0x90 else 0x80,
        if octet.toNat = 0xF4 then 0x8F else 0xBF, octet.toNat - 0xF0⟩ := by
  unfold Lead.of?
  simp only [UInt8.lt_iff_toNat_lt, ← UInt8.toNat_inj]
  simp
  grind

theorem lead_none {octet : UInt8} (h : octet.toNat < 0xC2 ∨ 0xF4 < octet.toNat) :
    Lead.of? octet = none := by
  unfold Lead.of?
  simp only [UInt8.lt_iff_toNat_lt, ← UInt8.toNat_inj]
  simp
  grind

theorem le_iff_within {low octet high : UInt8} :
    (low ≤ octet ∧ octet ≤ high) ↔ (low.toNat ≤ octet.toNat ∧ octet.toNat ≤ high.toNat) := by
  rw [UInt8.le_iff_toNat_le, UInt8.le_iff_toNat_le]

theorem continueUnit_within {low high octet : UInt8} (hlow : low.toNat ≤ octet.toNat)
    (hhigh : octet.toNat ≤ high.toNat) (more bits : Nat) (rest : Octets) :
    continueUnit (more + 1) low high bits (octet :: rest) =
      continueUnit more 0x80 0xBF (bits * 64 + (octet.toNat - 0x80)) rest := by
  rw [continueUnit, if_pos (le_iff_within.mpr ⟨hlow, hhigh⟩)]

theorem eq_of_continueUnit {more bits : Nat} {low high : UInt8} {octets rest' : Octets} {c : Char}
    (h : continueUnit (more + 1) low high bits octets = (some c, rest')) :
    ∃ octet rest, octets = octet :: rest ∧ low.toNat ≤ octet.toNat ∧ octet.toNat ≤ high.toNat ∧
      continueUnit more 0x80 0xBF (bits * 64 + (octet.toNat - 0x80)) rest = (some c, rest') := by
  cases octets with
  | nil =>
      rw [continueUnit] at h
      cases h
  | cons octet rest =>
      rw [continueUnit] at h
      split at h
      · rename_i hwithin
        obtain ⟨hlow, hhigh⟩ := le_iff_within.mp hwithin
        exact ⟨octet, rest, rfl, hlow, hhigh, h⟩
      · cases h

theorem readUnit_one {octet : UInt8} (h : octet.toNat < 0x80) (rest : Octets) :
    readUnit octet rest = (some (Char.ofNat octet.toNat), rest) := by
  rw [readUnit, if_pos (by rw [UInt8.lt_iff_toNat_lt]; exact h)]

theorem readUnit_more {octet : UInt8} {lead : Lead} (h : 0x80 ≤ octet.toNat)
    (hlead : Lead.of? octet = some lead) (rest : Octets) :
    readUnit octet rest = continueUnit lead.more lead.low lead.high lead.bits rest := by
  rw [readUnit, if_neg (by rw [UInt8.lt_iff_toNat_lt]; change ¬ octet.toNat < 0x80; omega), hlead]

theorem continueUnit_byte {low high : UInt8} {bits : Nat} (hbits : bits < 64)
    (hlow : low.toNat ≤ bits + 0x80) (hhigh : bits + 0x80 ≤ high.toNat) (more before : Nat)
    (rest : Octets) :
    continueUnit (more + 1) low high before (UInt8.ofNat (bits + 0x80) :: rest) =
      continueUnit more 0x80 0xBF (before * 64 + bits) rest := by
  have hbyte := toNat_byte (n := bits + 0x80) (by omega)
  rw [continueUnit_within (by rw [hbyte]; exact hlow) (by rw [hbyte]; exact hhigh), hbyte,
    Nat.add_sub_cancel]

theorem continueUnit_tail {bits : Nat} (hbits : bits < 64) (more before : Nat) (rest : Octets) :
    continueUnit (more + 1) 0x80 0xBF before (UInt8.ofNat (bits + 0x80) :: rest) =
      continueUnit more 0x80 0xBF (before * 64 + bits) rest := by
  refine continueUnit_byte hbits ?_ ?_ ..
  · change 0x80 ≤ bits + 0x80
    omega
  · change bits + 0x80 ≤ 0xBF
    omega

theorem continueUnit_last {bits : Nat} {c : Char} (h : bits = c.toNat) (low high : UInt8)
    (rest : Octets) : continueUnit 0 low high bits rest = (some c, rest) := by
  rw [continueUnit, h, Char.ofNat_toNat]

theorem surrogate_free (c : Char) : c.toNat < 0xD800 ∨ 0xDFFF < c.toNat := by
  rcases c.valid with h | h
  · exact Or.inl h
  · exact Or.inr h.1

section

variable {c : Char} (rest : Octets)

theorem readUnit_encode_one (h : c.toNat ≤ 0x7F) :
    ∃ octet tail, String.utf8EncodeChar c = octet :: tail ∧
      readUnit octet (tail ++ rest) = (some c, rest) := by
  have ha := toNat_byte (n := c.toNat) (by omega)
  refine ⟨_, _, utf8EncodeChar_one h, ?_⟩
  rw [readUnit_one (by omega), ha, Char.ofNat_toNat]
  rfl

theorem readUnit_encode_two (hlow : 0x80 ≤ c.toNat) (hhigh : c.toNat ≤ 0x7FF) :
    ∃ octet tail, String.utf8EncodeChar c = octet :: tail ∧
      readUnit octet (tail ++ rest) = (some c, rest) := by
  have ha := toNat_byte (n := c.toNat / 64 + 0xC0) (by omega)
  refine ⟨_, _, utf8EncodeChar_two hlow hhigh, ?_⟩
  rw [readUnit_more (by omega) (lead_two (by omega) (by omega)), List.cons_append, ha]
  rw [continueUnit_tail (by omega)]
  exact continueUnit_last (by dsimp only; omega) ..

theorem readUnit_encode_three (hlow : 0x800 ≤ c.toNat) (hhigh : c.toNat ≤ 0xFFFF) :
    ∃ octet tail, String.utf8EncodeChar c = octet :: tail ∧
      readUnit octet (tail ++ rest) = (some c, rest) := by
  have hvalid := surrogate_free c
  have ha := toNat_byte (n := c.toNat / 4096 + 0xE0) (by omega)
  refine ⟨_, _, utf8EncodeChar_three hlow hhigh, ?_⟩
  rw [readUnit_more (by omega) (lead_three (by omega) (by omega)), List.cons_append,
    List.cons_append, ha]
  rw [continueUnit_byte (by omega) (by
      dsimp only
      split
      · change 0xA0 ≤ _; omega
      · change 0x80 ≤ _; omega) (by
      dsimp only
      split
      · change _ ≤ 0x9F; omega
      · change _ ≤ 0xBF; omega)]
  rw [continueUnit_tail (by omega)]
  exact continueUnit_last (by dsimp only; omega) ..

theorem readUnit_encode_four (hlow : 0x10000 ≤ c.toNat) :
    ∃ octet tail, String.utf8EncodeChar c = octet :: tail ∧
      readUnit octet (tail ++ rest) = (some c, rest) := by
  have hlt := toNat_lt c
  have ha := toNat_byte (n := c.toNat / 262144 + 0xF0) (by omega)
  refine ⟨_, _, utf8EncodeChar_four hlow, ?_⟩
  rw [readUnit_more (by omega) (lead_four (by omega) (by omega)), List.cons_append,
    List.cons_append, List.cons_append, ha]
  rw [continueUnit_byte (by omega) (by
      dsimp only
      split
      · change 0x90 ≤ _; omega
      · change 0x80 ≤ _; omega) (by
      dsimp only
      split
      · change _ ≤ 0x8F; omega
      · change _ ≤ 0xBF; omega)]
  rw [continueUnit_tail (by omega)]
  rw [continueUnit_tail (by omega)]
  exact continueUnit_last (by dsimp only; omega) ..

end

theorem readUnit_encode (c : Char) (rest : Octets) :
    ∃ octet tail, String.utf8EncodeChar c = octet :: tail ∧
      readUnit octet (tail ++ rest) = (some c, rest) := by
  by_cases h1 : c.toNat ≤ 0x7F
  · exact readUnit_encode_one rest h1
  · by_cases h2 : c.toNat ≤ 0x7FF
    · exact readUnit_encode_two rest (by omega) h2
    · by_cases h3 : c.toNat ≤ 0xFFFF
      · exact readUnit_encode_three rest (by omega) h3
      · exact readUnit_encode_four rest (by omega)

theorem eq_of_last {bits : Nat} {low high : UInt8} {rest rest' : Octets} {c : Char}
    (h : continueUnit 0 low high bits rest = (some c, rest')) :
    c = Char.ofNat bits ∧ rest = rest' := by
  rw [continueUnit] at h
  obtain ⟨hc, hrest⟩ := Prod.mk.inj h
  exact ⟨(Option.some.inj hc).symm, hrest⟩

theorem byte_eq (octet : UInt8) {n : Nat} (h : n = octet.toNat) : UInt8.ofNat n = octet := by
  rw [h, UInt8.ofNat_toNat]

theorem le_of_ite_low {p : Prop} [Decidable p] {x y octet : UInt8}
    (h : (if p then x else y).toNat ≤ octet.toNat) :
    (p → x.toNat ≤ octet.toNat) ∧ (¬ p → y.toNat ≤ octet.toNat) := by
  split at h
  · rename_i hp
    exact ⟨fun _ => h, fun hnp => absurd hp hnp⟩
  · rename_i hp
    exact ⟨fun hp' => absurd hp' hp, fun _ => h⟩

theorem le_of_ite_high {p : Prop} [Decidable p] {x y octet : UInt8}
    (h : octet.toNat ≤ (if p then x else y).toNat) :
    (p → octet.toNat ≤ x.toNat) ∧ (¬ p → octet.toNat ≤ y.toNat) := by
  split at h
  · rename_i hp
    exact ⟨fun _ => h, fun hnp => absurd hp hnp⟩
  · rename_i hp
    exact ⟨fun hp' => absurd hp' hp, fun _ => h⟩

section

variable {octet : UInt8} {rest rest' : Octets} {c : Char}

theorem encode_of_readUnit_one (hhigh : octet.toNat < 0x80)
    (h : readUnit octet rest = (some c, rest')) :
    octet :: rest = String.utf8EncodeChar c ++ rest' := by
  rw [readUnit_one hhigh] at h
  obtain ⟨hc, rfl⟩ := Prod.mk.inj h
  obtain rfl := Option.some.inj hc
  have hn := toNat_ofNat (n := octet.toNat) (Or.inl (by omega))
  rw [utf8EncodeChar_one (by omega), hn, byte_eq octet rfl]
  rfl

theorem encode_of_readUnit_two (hlow : 0xC2 ≤ octet.toNat) (hhigh : octet.toNat < 0xE0)
    (h : readUnit octet rest = (some c, rest')) :
    octet :: rest = String.utf8EncodeChar c ++ rest' := by
  rw [readUnit_more (by omega) (lead_two hlow hhigh)] at h
  change continueUnit (0 + 1) 0x80 0xBF (octet.toNat - 0xC0) rest = _ at h
  obtain ⟨b, rest, rfl, hblow, hbhigh, h⟩ := eq_of_continueUnit h
  obtain ⟨hc, rfl⟩ := eq_of_last h
  have hblow : 0x80 ≤ b.toNat := hblow
  have hbhigh : b.toNat ≤ 0xBF := hbhigh
  have hn : c.toNat = (octet.toNat - 0xC0) * 64 + (b.toNat - 0x80) := by
    rw [hc, toNat_ofNat (Or.inl (by omega))]
  rw [utf8EncodeChar_two (by omega) (by omega), byte_eq octet (by omega),
    byte_eq b (by omega)]
  rfl

theorem encode_of_readUnit_three (hlow : 0xE0 ≤ octet.toNat) (hhigh : octet.toNat < 0xF0)
    (h : readUnit octet rest = (some c, rest')) :
    octet :: rest = String.utf8EncodeChar c ++ rest' := by
  rw [readUnit_more (by omega) (lead_three hlow hhigh)] at h
  change continueUnit (1 + 1) _ _ (octet.toNat - 0xE0) rest = _ at h
  obtain ⟨b, rest, rfl, hblow, hbhigh, h⟩ := eq_of_continueUnit h
  change continueUnit (0 + 1) _ _ _ rest = _ at h
  obtain ⟨d, rest, rfl, hdlow, hdhigh, h⟩ := eq_of_continueUnit h
  obtain ⟨hc, rfl⟩ := eq_of_last h
  have hblow : (octet.toNat = 0xE0 → 0xA0 ≤ b.toNat) ∧ (octet.toNat ≠ 0xE0 → 0x80 ≤ b.toNat) :=
    le_of_ite_low hblow
  have hbhigh : (octet.toNat = 0xED → b.toNat ≤ 0x9F) ∧ (octet.toNat ≠ 0xED → b.toNat ≤ 0xBF) :=
    le_of_ite_high hbhigh
  have hdlow : 0x80 ≤ d.toNat := hdlow
  have hdhigh : d.toNat ≤ 0xBF := hdhigh
  have hn : c.toNat =
      ((octet.toNat - 0xE0) * 64 + (b.toNat - 0x80)) * 64 + (d.toNat - 0x80) := by
    rw [hc, toNat_ofNat (by unfold Nat.isValidChar; omega)]
  rw [utf8EncodeChar_three (by omega) (by omega), byte_eq octet (by omega),
    byte_eq b (by omega), byte_eq d (by omega)]
  rfl

theorem encode_of_readUnit_four (hlow : 0xF0 ≤ octet.toNat) (hhigh : octet.toNat ≤ 0xF4)
    (h : readUnit octet rest = (some c, rest')) :
    octet :: rest = String.utf8EncodeChar c ++ rest' := by
  rw [readUnit_more (by omega) (lead_four hlow hhigh)] at h
  change continueUnit (2 + 1) _ _ (octet.toNat - 0xF0) rest = _ at h
  obtain ⟨b, rest, rfl, hblow, hbhigh, h⟩ := eq_of_continueUnit h
  change continueUnit (1 + 1) _ _ _ rest = _ at h
  obtain ⟨d, rest, rfl, hdlow, hdhigh, h⟩ := eq_of_continueUnit h
  change continueUnit (0 + 1) _ _ _ rest = _ at h
  obtain ⟨e, rest, rfl, helow, hehigh, h⟩ := eq_of_continueUnit h
  obtain ⟨hc, rfl⟩ := eq_of_last h
  have hblow : (octet.toNat = 0xF0 → 0x90 ≤ b.toNat) ∧ (octet.toNat ≠ 0xF0 → 0x80 ≤ b.toNat) :=
    le_of_ite_low hblow
  have hbhigh : (octet.toNat = 0xF4 → b.toNat ≤ 0x8F) ∧ (octet.toNat ≠ 0xF4 → b.toNat ≤ 0xBF) :=
    le_of_ite_high hbhigh
  have hdlow : 0x80 ≤ d.toNat := hdlow
  have hdhigh : d.toNat ≤ 0xBF := hdhigh
  have helow : 0x80 ≤ e.toNat := helow
  have hehigh : e.toNat ≤ 0xBF := hehigh
  have hn : c.toNat =
      (((octet.toNat - 0xF0) * 64 + (b.toNat - 0x80)) * 64 + (d.toNat - 0x80)) * 64 +
        (e.toNat - 0x80) := by
    rw [hc, toNat_ofNat (by unfold Nat.isValidChar; omega)]
  rw [utf8EncodeChar_four (by omega), byte_eq octet (by omega), byte_eq b (by omega),
    byte_eq d (by omega), byte_eq e (by omega)]
  rfl

theorem encode_of_readUnit (h : readUnit octet rest = (some c, rest')) :
    octet :: rest = String.utf8EncodeChar c ++ rest' := by
  by_cases h1 : octet.toNat < 0x80
  · exact encode_of_readUnit_one h1 h
  · by_cases h2 : octet.toNat < 0xC2 ∨ 0xF4 < octet.toNat
    · rw [readUnit, if_neg (by rw [UInt8.lt_iff_toNat_lt]; exact h1), lead_none h2] at h
      cases h
    · by_cases h3 : octet.toNat < 0xE0
      · exact encode_of_readUnit_two (by omega) h3 h
      · by_cases h4 : octet.toNat < 0xF0
        · exact encode_of_readUnit_three (by omega) h4 h
        · exact encode_of_readUnit_four (by omega) (by omega) h

end

theorem units_encode_append (text : List Char) (rest : Octets) :
    units (encode text ++ rest) = text.map some ++ units rest := by
  induction text with
  | nil => rfl
  | cons c text ih =>
      obtain ⟨octet, tail, hencode, hread⟩ := readUnit_encode c (encode text ++ rest)
      rw [encode_cons, hencode, List.append_assoc, List.cons_append, units_cons, hread, ih]
      rfl

theorem units_encode (text : List Char) : units (encode text) = text.map some := by
  have h := units_encode_append text []
  rw [List.append_nil, units_nil, List.append_nil] at h
  exact h

theorem encode_of_units (octets : Octets) (text : List Char)
    (h : units octets = text.map some) : octets = encode text := by
  induction text generalizing octets with
  | nil =>
      cases octets with
      | nil => rfl
      | cons octet rest =>
          rw [units_cons] at h
          cases h
  | cons c text ih =>
      cases octets with
      | nil =>
          rw [units_nil] at h
          cases h
      | cons octet rest =>
          rw [units_cons, List.map_cons] at h
          obtain ⟨hfirst, hrest⟩ := List.cons.inj h
          rw [encode_of_readUnit (Prod.ext hfirst rfl), encode_cons, ← ih _ hrest]

theorem units_eq_iff {octets : Octets} {text : List Char} :
    units octets = text.map some ↔ octets = encode text := by
  constructor
  · exact encode_of_units octets text
  · intro h
    rw [h, units_encode]

theorem mapM_id_eq_some {chars : List (Option Char)} {text : List Char} :
    chars.mapM id = some text ↔ chars = text.map some := by
  induction chars generalizing text with
  | nil =>
      cases text with
      | nil => simp
      | cons c text => simp
  | cons first chars ih =>
      cases first with
      | none => cases text <;> simp
      | some c =>
          cases text with
          | nil => simp [Option.bind_eq_some_iff]
          | cons c' text =>
              rw [List.mapM_cons, List.map_cons, List.cons.injEq, Option.some.injEq]
              change (chars.mapM id).bind (fun rest => some (c :: rest)) = _ ↔ _
              constructor
              · intro h
                obtain ⟨rest, hrest, h⟩ := Option.bind_eq_some_iff.mp h
                obtain ⟨rfl, rfl⟩ := List.cons.inj (Option.some.inj h)
                exact ⟨rfl, ih.mp hrest⟩
              · rintro ⟨rfl, h⟩
                exact Option.bind_eq_some_iff.mpr ⟨text, ih.mpr h, rfl⟩

theorem decode?_eq_some {octets : Octets} {text : List Char} :
    decode? octets = some text ↔ octets = encode text := by
  rw [decode?, mapM_id_eq_some, units_eq_iff]

theorem encode_injective {left right : List Char} (h : encode left = encode right) :
    left = right := by
  have hright := decode?_eq_some.mpr h
  rw [decode?_eq_some.mpr rfl] at hright
  exact Option.some.inj hright

end Utf8

theorem Octets.text?_eq_some {octets : Octets} {text : String} :
    octets.text? = some text ↔ octets = Octets.ofText text := by
  unfold Octets.text? Octets.ofText
  constructor
  · intro h
    obtain ⟨chars, hchars, rfl⟩ := Option.map_eq_some_iff.mp h
    rw [String.toList_ofList]
    exact Utf8.decode?_eq_some.mp hchars
  · intro h
    rw [Utf8.decode?_eq_some.mpr h, Option.map_some, String.ofList_toList]

@[simp] theorem Octets.text?_ofText (text : String) : (Octets.ofText text).text? = some text :=
  Octets.text?_eq_some.mpr rfl

theorem Octets.ofText_append (left right : String) :
    Octets.ofText (left ++ right) = Octets.ofText left ++ Octets.ofText right := by
  rw [ofText, String.toList_append, Utf8.encode_append]
  rfl

theorem Octets.ofText_injective {left right : String}
    (h : Octets.ofText left = Octets.ofText right) : left = right :=
  String.toList_injective (Utf8.encode_injective h)

end Reftest
