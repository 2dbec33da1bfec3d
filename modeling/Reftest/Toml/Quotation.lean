import Reftest.Text.Hexadecimal
import Reftest.Toml.Space

namespace Reftest.Toml.Quotation

def prepend (chars : List Char) :
    Except Mark (List Char × List Char) → Except Mark (List Char × List Char)
  | .ok (text, rest) => .ok (chars ++ text, rest)
  | .error mark => .error mark

@[simp] theorem prepend_ok (chars text rest : List Char) :
    prepend chars (.ok (text, rest)) = .ok (chars ++ text, rest) := rfl

def codePoint? (digits : List Char) : Option Char := do
  let values ← digits.mapM Hexadecimal.digit?
  Hexadecimal.character? (values.foldl (fun code value => code * 16 + value) 0)

def readCodePoint (count : Nat) : Reader Char := fun rest =>
  if rest.length < count then stopAt rest
  else match codePoint? (rest.take count) with
    | some c => .ok (c, rest.drop count)
    | none => stopAt rest

def escape : Reader Char
  | [] => stopAt []
  | 'b' :: rest => .ok ('\x08', rest)
  | 't' :: rest => .ok ('\t', rest)
  | 'n' :: rest => .ok ('\n', rest)
  | 'f' :: rest => .ok ('\x0c', rest)
  | 'r' :: rest => .ok ('\r', rest)
  | '"' :: rest => .ok ('"', rest)
  | '\\' :: rest => .ok ('\\', rest)
  | 'u' :: rest => readCodePoint 4 rest
  | 'U' :: rest => readCodePoint 8 rest
  | _ :: rest => stopAt rest

theorem length_of_readCodePoint {count : Nat} {text rest : List Char} {c : Char}
    (h : readCodePoint count text = .ok (c, rest)) : rest.length ≤ text.length := by
  unfold readCodePoint at h
  split at h
  · simp [stopAt] at h
  · split at h
    · cases h
      simp
    · simp [stopAt] at h

theorem length_of_escape {text rest : List Char} {c : Char}
    (h : escape text = .ok (c, rest)) : rest.length < text.length := by
  unfold escape at h
  split at h
  case h_9 => exact Nat.lt_succ_of_le (length_of_readCodePoint h)
  case h_10 => exact Nat.lt_succ_of_le (length_of_readCodePoint h)
  all_goals simp_all [stopAt]

def isPlain (c : Char) : Bool :=
  c = '\t' || (' ' ≤ c && c ≠ '\x7f')

def basic : Reader (List Char)
  | [] => stopAt []
  | '"' :: rest => .ok ([], rest)
  | '\\' :: rest =>
    match _h : escape rest with
    | .ok (c, rest) => prepend [c] (basic rest)
    | .error mark => .error mark
  | c :: rest => if isPlain c then prepend [c] (basic rest) else stopAt (c :: rest)
termination_by text => text.length
decreasing_by
  · have := length_of_escape _h
    simp only [List.length_cons]
    omega
  · simp

def literal : Reader (List Char)
  | [] => stopAt []
  | '\'' :: rest => .ok ([], rest)
  | c :: rest => if isPlain c then prepend [c] (literal rest) else stopAt (c :: rest)

def skipBlankLines : List Char → List Char
  | [] => []
  | '\n' :: rest => skipBlankLines rest
  | '\r' :: '\n' :: rest => skipBlankLines rest
  | c :: rest => if isBlank c then skipBlankLines rest else c :: rest

theorem length_skipBlankLines_le (text : List Char) :
    (skipBlankLines text).length ≤ text.length := by
  fun_induction skipBlankLines text <;> grind

def joinLines? (text : List Char) : Option (List Char) :=
  (lineEnd? (skipBlanks text)).map skipBlankLines

theorem length_of_joinLines? {text rest : List Char} (h : joinLines? text = some rest) :
    rest.length < text.length := by
  obtain ⟨ended, hended, rfl⟩ := Option.map_eq_some_iff.mp h
  have hend := length_of_lineEnd? hended
  have hblank := length_skipBlanks_le text
  have hlines := length_skipBlankLines_le ended
  omega

/-- Behind three quotation marks in a row: up to two more of them belong to the string. -/
def close (mark : Char) : List Char → List Char × List Char
  | c :: c' :: rest =>
    if c = mark then
      if c' = mark then ([mark, mark], rest) else ([mark], c' :: rest)
    else ([], c :: c' :: rest)
  | [c] => if c = mark then ([mark], []) else ([], [c])
  | [] => ([], [])

def basicLines : (marks : Nat) → Reader (List Char)
  | _, [] => stopAt []
  | marks, '"' :: rest =>
    if marks < 2 then basicLines (marks + 1) rest else .ok (close '"' rest)
  | marks, '\\' :: rest =>
    match _h : joinLines? rest with
    | some rest => prepend (List.replicate marks '"') (basicLines 0 rest)
    | none =>
      match _h' : escape rest with
      | .ok (c, rest) => prepend (List.replicate marks '"' ++ [c]) (basicLines 0 rest)
      | .error mark => .error mark
  | marks, '\n' :: rest => prepend (List.replicate marks '"' ++ ['\n']) (basicLines 0 rest)
  | marks, '\r' :: '\n' :: rest =>
    prepend (List.replicate marks '"' ++ ['\n']) (basicLines 0 rest)
  | marks, c :: rest =>
    if isPlain c then prepend (List.replicate marks '"' ++ [c]) (basicLines 0 rest)
    else stopAt (c :: rest)
termination_by _ text => text.length
decreasing_by
  · simp
  · have := length_of_joinLines? _h
    simp only [List.length_cons]
    omega
  · have := length_of_escape _h'
    simp only [List.length_cons]
    omega
  · exact Nat.lt_succ_self _
  · simp only [List.length_cons]
    omega
  · exact Nat.lt_succ_self _

def literalLines : (marks : Nat) → Reader (List Char)
  | _, [] => stopAt []
  | marks, '\'' :: rest =>
    if marks < 2 then literalLines (marks + 1) rest else .ok (close '\'' rest)
  | marks, '\n' :: rest => prepend (List.replicate marks '\'' ++ ['\n']) (literalLines 0 rest)
  | marks, '\r' :: '\n' :: rest =>
    prepend (List.replicate marks '\'' ++ ['\n']) (literalLines 0 rest)
  | marks, c :: rest =>
    if isPlain c then prepend (List.replicate marks '\'' ++ [c]) (literalLines 0 rest)
    else stopAt (c :: rest)

def openLines (text : List Char) : List Char :=
  (lineEnd? text).getD text

end Reftest.Toml.Quotation
