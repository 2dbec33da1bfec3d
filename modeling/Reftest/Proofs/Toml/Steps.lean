import Reftest.Proofs.Folding
import Reftest.Toml.Value

namespace Reftest.Toml

theorem skipBlanks_cons {c : Char} (h : isBlank c = false) (rest : List Char) :
    skipBlanks (c :: rest) = c :: rest := by
  rw [skipBlanks, List.dropWhile_cons_of_neg (by rw [h]; decide)]

theorem Quotation.basic_of_escape {c : Char} {text rest : List Char}
    (h : escape text = .ok (c, rest)) : basic ('\\' :: text) = prepend [c] (basic rest) := by
  rw [basic]
  split
  · rename_i hescape
    obtain ⟨rfl, rfl⟩ := Prod.mk.inj (Except.ok.inj (h.symm.trans hescape))
    rfl
  · rename_i hescape
    cases h.symm.trans hescape

theorem Quotation.basic_of_isPlain {c : Char} (h : isPlain c = true) (hmark : c ≠ '"')
    (hslash : c ≠ '\\') (rest : List Char) : basic (c :: rest) = prepend [c] (basic rest) := by
  rw [basic]
  · rw [if_pos h]
  · exact hmark
  · exact hslash

theorem readScalar_basic {inner : List Char} (h : ∀ more, inner ≠ '"' :: '"' :: more) :
    readScalar ('"' :: inner) = readScalar.string (Quotation.basic inner) := by
  rw [readScalar]
  exact h

section

variable {text more behind rest : List Char} {part : KeyPart}

theorem readParts_last (h : KeyPart.read? (skipBlanks text) = .ok (some (part, rest)))
    (hdot : ∀ more, skipBlanks rest ≠ '.' :: more) :
    Key.readParts text = .ok ([part], skipBlanks rest) := by
  rw [Key.readParts, h]
  dsimp only
  split
  · rename_i more hmore
    exact absurd hmore (hdot more)
  · rfl

theorem readParts_more (h : KeyPart.read? (skipBlanks text) = .ok (some (part, rest)))
    (hdot : skipBlanks rest = '.' :: more) (hlt : more.length < text.length) {key : Key}
    (hne : key ≠ []) (hmore : Key.readParts more = .ok (key, behind)) :
    Key.readParts text = .ok (part :: key, behind) := by
  rw [Key.readParts, h]
  dsimp only
  rw [hdot]
  simp only [if_pos hlt, hmore]

theorem readKey_of_readParts {key : Key} (h : Key.readParts text = .ok (key, rest))
    (hlimit : key.length < Key.partLimit) : Key.read text = .ok (key, rest) := by
  rw [Key.read, h]
  exact if_pos hlimit

end

section

variable {value : Reader Node} {item : Node} {start opened behind rest : List Char}

theorem readItems_none (hclose : skipGap start = .ok (']' :: rest)) :
    readItems value start = .ok ([], rest) := by
  rw [readItems, hclose]
  rfl

theorem readItems_last (hgap : skipGap start = .ok opened) (hopened : opened.head? ≠ some ']')
    (hitem : value opened = .ok (item, behind)) (hclose : skipGap behind = .ok (']' :: rest)) :
    readItems value start = .ok ([item], rest) := by
  rw [readItems, hgap]
  split
  · rename_i heq
    cases heq
  · rename_i heq
    rw [Except.ok.inj heq] at hopened
    exact absurd rfl hopened
  · rename_i heq
    obtain rfl := Except.ok.inj heq
    simp only [hitem, hclose]

theorem readItems_more {more : List Char} {items : List Node} (hgap : skipGap start = .ok opened)
    (hopened : opened.head? ≠ some ']') (hitem : value opened = .ok (item, behind))
    (hcomma : skipGap behind = .ok (',' :: more)) (hmore : more.length < start.length)
    (hitems : readItems value more = .ok (items, rest)) :
    readItems value start = .ok (item :: items, rest) := by
  rw [readItems, hgap]
  split
  · rename_i heq
    cases heq
  · rename_i heq
    rw [Except.ok.inj heq] at hopened
    exact absurd rfl hopened
  · rename_i heq
    obtain rfl := Except.ok.inj heq
    simp only [hitem, hcomma, if_pos hmore, hitems]

end

section

variable {value : Reader Node} {key : Key} {pair : Assignment} {text middle rest : List Char}

theorem readAssigned_equals {node : Node} {behind : List Char} (key : Key)
    (h : value (skipBlanks text) = .ok (node, behind)) :
    readAssigned value key ('=' :: text) = .ok (⟨key, node⟩, skipBlanks behind) := by
  rw [readAssigned, h]
  rfl

theorem readPairs_none (hkey : Key.read text = .ok ([], middle)) :
    readPairs value text = .ok ([], text) := by
  rw [readPairs, hkey]

theorem readPairs_last (hkey : Key.read text = .ok (key, middle)) (hne : key ≠ [])
    (hpair : readAssigned value key middle = .ok (pair, rest)) (hcomma : rest.head? ≠ some ',') :
    readPairs value text = .ok ([pair], rest) := by
  rw [readPairs, hkey]
  split
  · rename_i heq
    cases heq
  · rename_i heq
    exact absurd (Prod.mk.inj (Except.ok.inj heq)).1 hne
  · rename_i heq
    obtain ⟨rfl, rfl⟩ := Prod.mk.inj (Except.ok.inj heq)
    rw [hpair]
    split
    · rename_i heq
      cases heq
    · rename_i heq
      rw [(Prod.mk.inj (Except.ok.inj heq)).2] at hcomma
      exact absurd rfl hcomma
    · rename_i heq
      obtain ⟨rfl, rfl⟩ := Prod.mk.inj (Except.ok.inj heq)
      rfl

theorem readPairs_more {more : List Char} {pairs : List Assignment}
    (hkey : Key.read text = .ok (key, middle)) (hne : key ≠ [])
    (hpair : readAssigned value key middle = .ok (pair, ',' :: more))
    (hlt : more.length < text.length) (hpairs : pairs ≠ [])
    (hmore : readPairs value more = .ok (pairs, rest)) :
    readPairs value text = .ok (pair :: pairs, rest) := by
  rw [readPairs, hkey]
  split
  · rename_i heq
    cases heq
  · rename_i heq
    exact absurd (Prod.mk.inj (Except.ok.inj heq)).1 hne
  · rename_i heq
    obtain ⟨rfl, rfl⟩ := Prod.mk.inj (Except.ok.inj heq)
    simp only [hpair, if_pos hlt, hmore]

theorem readInline_brace {pairs : List Assignment} {entries : Entries}
    (hpairs : readPairs value text = .ok (pairs, middle))
    (hassign : Entries.assignAll [] pairs = some entries)
    (hclose : skipBlanks middle = '}' :: rest) :
    readInline value text = .ok (entries, rest) := by
  rw [readInline, hpairs]
  simp only [bind, Except.bind, hassign, hclose]

end

section

variable {depth : Nat} {text inner rest : List Char}

theorem readValue_array {items : List Node}
    (h : readItems (readValue depth) inner = .ok (items, rest)) :
    readValue (depth + 1) ('[' :: inner) =
      .ok (.array ⟨('[' :: inner).length, rest.length⟩ items, rest) := by
  rw [readValue, h]
  rfl

theorem readValue_inline {entries : Entries}
    (h : readInline (readValue depth) inner = .ok (entries, rest)) :
    readValue (depth + 1) ('{' :: inner) =
      .ok (.table .inline ⟨('{' :: inner).length, rest.length⟩ entries, rest) := by
  rw [readValue, h]
  rfl

theorem readValue_scalar (depth : Nat) (harray : text.head? ≠ some '[')
    (htable : text.head? ≠ some '{') {scalar : Scalar} (h : readScalar text = .ok (scalar, rest)) :
    readValue depth text = .ok (.scalar ⟨text.length, rest.length⟩ scalar, rest) := by
  unfold readValue
  split
  · exact absurd rfl harray
  · exact absurd rfl htable
  · rw [h]
    rfl

end

end Reftest.Toml
