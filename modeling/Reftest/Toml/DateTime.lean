import Reftest.Toml.Space

namespace Reftest.Toml.DateTime

def readTwoDigits (low high : Nat) : Reader Nat
  | c :: c' :: rest =>
    let n := (c.toNat - 48) * 10 + (c'.toNat - 48)
    if c.isDigit ∧ c'.isDigit ∧ low ≤ n ∧ n ≤ high then .ok (n, rest) else stopAt (c :: c' :: rest)
  | text => stopAt text

def skipSymbol (symbol : Char) : List Char → Except Mark (List Char)
  | c :: rest => if c = symbol then .ok rest else stopAt (c :: rest)
  | [] => stopAt []

def isLeapYear (year : Nat) : Bool :=
  year % 4 = 0 && (year % 100 ≠ 0 || year % 400 = 0)

def daysIn (year month : Nat) : Nat :=
  if month = 2 then if isLeapYear year then 29 else 28
  else if month = 4 ∨ month = 6 ∨ month = 9 ∨ month = 11 then 30
  else 31

def opensDate : List Char → Bool
  | c₁ :: c₂ :: c₃ :: c₄ :: '-' :: _ => [c₁, c₂, c₃, c₄].all Char.isDigit
  | _ => false

def opensTime (text : List Char) : Bool :=
  match readTwoDigits 0 23 text with
  | .ok (_, ':' :: _) => true
  | _ => false

def skipDate (text : List Char) : Except Mark (List Char) := do
  let (century, rest) ← readTwoDigits 0 99 text
  let (year, rest) ← readTwoDigits 0 99 rest
  let rest ← skipSymbol '-' rest
  let (month, rest) ← readTwoDigits 1 12 rest
  let rest ← skipSymbol '-' rest
  let (_, rest) ← readTwoDigits 1 (daysIn (century * 100 + year) month) rest
  return rest

def skipFraction : List Char → List Char
  | '.' :: c :: rest =>
    if c.isDigit then rest.dropWhile Char.isDigit else '.' :: c :: rest
  | text => text

/-- A time of day; the last second of a day may be a leap second. -/
def skipTime (text : List Char) : Except Mark (List Char) := do
  let (_, rest) ← readTwoDigits 0 23 text
  let rest ← skipSymbol ':' rest
  let (_, rest) ← readTwoDigits 0 59 rest
  let rest ← skipSymbol ':' rest
  let (_, rest) ← readTwoDigits 0 60 rest
  return skipFraction rest

def skipOffset : List Char → Except Mark (List Char)
  | [] => .ok []
  | c :: rest =>
    if c = 'Z' ∨ c = 'z' then .ok rest
    else if c = '+' ∨ c = '-' then do
      let (_, rest) ← readTwoDigits 0 23 rest
      let rest ← skipSymbol ':' rest
      let (_, rest) ← readTwoDigits 0 59 rest
      return rest
    else .ok (c :: rest)

def isTimeMark (c : Char) : Bool :=
  c = 'T' || c = 't' || c = ' '

def skip (text : List Char) : Except Mark (List Char) :=
  if opensDate text then
    match skipDate text with
    | .error mark => .error mark
    | .ok [] => .ok []
    | .ok (c :: rest) =>
      if isTimeMark c && opensTime rest then do
        let rest ← skipTime rest
        skipOffset rest
      else .ok (c :: rest)
  else skipTime text

end Reftest.Toml.DateTime
