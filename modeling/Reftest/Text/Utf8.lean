/-!
UTF-8 over lists of octets.  `units` cuts any octets into characters and maximal ill-formed
subsequences; the strict reading and the reading with replacements are both views of it.
-/

namespace Reftest

abbrev Octets := List UInt8

namespace Utf8

def encode (text : List Char) : Octets :=
  text.flatMap String.utf8EncodeChar

@[simp] theorem encode_nil : encode [] = [] := rfl

@[simp] theorem encode_cons (c : Char) (text : List Char) :
    encode (c :: text) = String.utf8EncodeChar c ++ encode text := rfl

@[simp] theorem encode_append (left right : List Char) :
    encode (left ++ right) = encode left ++ encode right :=
  List.flatMap_append

/-- What a leading octet announces: how many octets follow, the range of the first of them, and
the bits that the leading octet itself carries. -/
structure Lead where
  more : Nat
  low : UInt8
  high : UInt8
  bits : Nat

def Lead.of? (octet : UInt8) : Option Lead :=
  if octet < 0xC2 then none
  else if octet < 0xE0 then some ⟨1, 0x80, 0xBF, octet.toNat - 0xC0⟩
  else if octet = 0xE0 then some ⟨2, 0xA0, 0xBF, 0⟩
  else if octet = 0xED then some ⟨2, 0x80, 0x9F, 0xD⟩
  else if octet < 0xF0 then some ⟨2, 0x80, 0xBF, octet.toNat - 0xE0⟩
  else if octet = 0xF0 then some ⟨3, 0x90, 0xBF, 0⟩
  else if octet < 0xF4 then some ⟨3, 0x80, 0xBF, octet.toNat - 0xF0⟩
  else if octet = 0xF4 then some ⟨3, 0x80, 0x8F, 4⟩
  else none

def continueUnit : (more : Nat) → (low high : UInt8) → (bits : Nat) → Octets →
    Option Char × Octets
  | 0, _, _, bits, rest => (some (Char.ofNat bits), rest)
  | _ + 1, _, _, _, [] => (none, [])
  | more + 1, low, high, bits, octet :: rest =>
    if low ≤ octet ∧ octet ≤ high then
      continueUnit more 0x80 0xBF (bits * 64 + (octet.toNat - 0x80)) rest
    else
      (none, octet :: rest)

def readUnit (octet : UInt8) (rest : Octets) : Option Char × Octets :=
  if octet < 0x80 then (some (Char.ofNat octet.toNat), rest)
  else match Lead.of? octet with
    | none => (none, rest)
    | some lead => continueUnit lead.more lead.low lead.high lead.bits rest

theorem length_continueUnit_le (more : Nat) (low high : UInt8) (bits : Nat) (rest : Octets) :
    (continueUnit more low high bits rest).2.length ≤ rest.length := by
  induction rest generalizing more low high bits with
  | nil => cases more <;> simp [continueUnit]
  | cons octet rest ih =>
      cases more with
      | zero => simp [continueUnit]
      | succ more =>
          simp only [continueUnit]
          split
          · exact Nat.le_succ_of_le (ih ..)
          · exact Nat.le_refl _

theorem length_readUnit_le (octet : UInt8) (rest : Octets) :
    (readUnit octet rest).2.length ≤ rest.length := by
  unfold readUnit
  split
  · exact Nat.le_refl _
  · split
    · exact Nat.le_refl _
    · exact length_continueUnit_le ..

/-- The characters of the octets in order, with `none` for each maximal ill-formed
subsequence. -/
def units : Octets → List (Option Char)
  | [] => []
  | octet :: rest =>
    let unit := readUnit octet rest
    unit.1 :: units unit.2
termination_by octets => octets.length
decreasing_by exact Nat.lt_succ_of_le (length_readUnit_le octet rest)

@[simp] theorem units_nil : units [] = [] := by rw [units]

theorem units_cons (octet : UInt8) (rest : Octets) :
    units (octet :: rest) =
      (readUnit octet rest).1 :: units (readUnit octet rest).2 := by
  rw [units]

def replacement : Char := '\ufffd'

def decode? (octets : Octets) : Option (List Char) :=
  (units octets).mapM id

def decodeLossy (octets : Octets) : List Char :=
  (units octets).map (·.getD replacement)

end Utf8

def Octets.ofText (text : String) : Octets :=
  Utf8.encode text.toList

def Octets.text? (octets : Octets) : Option String :=
  (Utf8.decode? octets).map String.ofList

def Octets.shown (octets : Octets) : String :=
  String.ofList (Utf8.decodeLossy octets)

end Reftest
