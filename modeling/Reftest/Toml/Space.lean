import Reftest.Toml.Position

namespace Reftest.Toml

/-- A reader takes the characters that are left and gives what it read with the characters left
behind it, or the mark where reading stopped. -/
abbrev Reader (α : Type) := List Char → Except Mark (α × List Char)

def stopAt (rest : List Char) : Except Mark α :=
  .error rest.length

def isBlank (c : Char) : Bool :=
  c = ' ' || c = '\t'

def skipBlanks (rest : List Char) : List Char :=
  rest.dropWhile isBlank

theorem length_skipBlanks_le (rest : List Char) : (skipBlanks rest).length ≤ rest.length :=
  (List.dropWhile_suffix _).length_le

def lineEnd? : List Char → Option (List Char)
  | '\n' :: rest => some rest
  | '\r' :: '\n' :: rest => some rest
  | _ => none

theorem length_of_lineEnd? {text rest : List Char} (h : lineEnd? text = some rest) :
    rest.length < text.length := by
  unfold lineEnd? at h
  split at h
  · cases h
    exact Nat.lt_succ_self _
  · cases h
    simp only [List.length_cons]
    omega
  · cases h

def isCommentChar (c : Char) : Bool :=
  c = '\t' || (' ' ≤ c && c ≠ '\x7f')

def skipComment (rest : List Char) : List Char :=
  rest.dropWhile isCommentChar

def endLine (rest : List Char) : Except Mark (List Char) :=
  let rest := skipBlanks rest
  let rest := match rest with
    | '#' :: comment => skipComment comment
    | _ => rest
  match rest with
  | [] => .ok []
  | _ => match lineEnd? rest with
    | some rest => .ok rest
    | none => stopAt rest

/-- The rest of a gap: blanks, line ends and comments, each comment up to the end of its line. -/
def skipGapFrom : (commented : Bool) → List Char → Except Mark (List Char)
  | commented, [] => if commented then stopAt [] else .ok []
  | _, '\n' :: rest => skipGapFrom false rest
  | _, '\r' :: '\n' :: rest => skipGapFrom false rest
  | commented, c :: rest =>
    if commented then
      if isCommentChar c then skipGapFrom true rest else stopAt (c :: rest)
    else if isBlank c then skipGapFrom false rest
    else if c = '#' then skipGapFrom true rest
    else if c = '\r' then stopAt (c :: rest)
    else .ok (c :: rest)

def skipGap (text : List Char) : Except Mark (List Char) :=
  skipGapFrom false text

theorem length_of_skipGapFrom {commented : Bool} {text rest : List Char}
    (h : skipGapFrom commented text = .ok rest) : rest.length ≤ text.length := by
  fun_induction skipGapFrom commented text <;> grind [stopAt]

theorem length_of_skipGap {text rest : List Char} (h : skipGap text = .ok rest) :
    rest.length ≤ text.length :=
  length_of_skipGapFrom h

end Reftest.Toml
