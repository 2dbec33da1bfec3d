import Reftest.Text.Hexadecimal
import Reftest.Toml.Node
import Reftest.Toml.Space

namespace Reftest.Toml.Number

def moreDigits (isDigit : Char → Bool) : Reader (List Char)
  | '_' :: c :: rest =>
    if isDigit c then
      match moreDigits isDigit rest with
      | .ok (digits, rest) => .ok (c :: digits, rest)
      | .error mark => .error mark
    else stopAt (c :: rest)
  | ['_'] => stopAt []
  | c :: rest =>
    if isDigit c then
      match moreDigits isDigit rest with
      | .ok (digits, rest) => .ok (c :: digits, rest)
      | .error mark => .error mark
    else .ok ([], c :: rest)
  | [] => .ok ([], [])

def readDigits (isDigit : Char → Bool) : Reader (List Char)
  | c :: rest =>
    if isDigit c then (moreDigits isDigit rest).map fun (digits, rest) => (c :: digits, rest)
    else stopAt (c :: rest)
  | [] => stopAt []

def value (base : Nat) (digits : List Char) : Nat :=
  digits.foldl (fun value c => value * base + (Hexadecimal.digit? c).getD 0) 0

def isHexDigit (c : Char) : Bool :=
  (Hexadecimal.digit? c).isSome

def isOctalDigit (c : Char) : Bool :=
  '0' ≤ c && c ≤ '7'

def isBinaryDigit (c : Char) : Bool :=
  c = '0' || c = '1'

def readWhole : Reader (List Char)
  | '0' :: rest => .ok (['0'], rest)
  | text => readDigits Char.isDigit text

def sign : List Char → Bool × List Char
  | '-' :: text => (true, text)
  | '+' :: text => (false, text)
  | text => (false, text)

def signed (negative : Bool) (magnitude : Nat) : Int :=
  if negative then -(magnitude : Int) else magnitude

def inRange (n : Int) : Bool :=
  -9223372036854775808 ≤ n && n ≤ 9223372036854775807

def integer (n : Int) (rest : List Char) : Except Mark (Scalar × List Char) :=
  if inRange n then .ok (.integer n, rest) else stopAt rest

def readBased (base : Nat) (isDigit : Char → Bool) : Reader Scalar := fun text => do
  let (digits, rest) ← readDigits isDigit text
  integer (value base digits) rest

def isExponentMark (c : Char) : Bool :=
  c = 'e' || c = 'E'

def readExponent : Reader Int
  | [] => .ok (0, [])
  | c :: rest =>
    if isExponentMark c then do
      let (negative, unsigned) := sign rest
      let (digits, rest) ← readDigits Char.isDigit unsigned
      return (signed negative (value 10 digits), rest)
    else .ok (0, c :: rest)

def readFraction : Reader (List Char)
  | '.' :: rest => readDigits Char.isDigit rest
  | text => .ok ([], text)

/-- Reads the rest of a float from behind the digits in front of its point.  A float too great to
be represented is none. -/
def readDecimal (negative : Bool) (whole : List Char) : Reader Scalar := fun text => do
  let (fraction, rest) ← readFraction text
  let (exponent, rest) ← readExponent rest
  let float := Binary64.ofDecimal negative (value 10 (whole ++ fraction))
    (exponent - fraction.length)
  if float = .infinite false then stopAt rest
  return (.float float, rest)

def opensDecimal : List Char → Bool
  | c :: _ => c = '.' || isExponentMark c
  | [] => false

def read : Reader Scalar
  | '0' :: 'x' :: rest => readBased 16 isHexDigit rest
  | '0' :: 'o' :: rest => readBased 8 isOctalDigit rest
  | '0' :: 'b' :: rest => readBased 2 isBinaryDigit rest
  | text =>
    let (negative, unsigned) := sign text
    match unsigned with
    | 'i' :: 'n' :: 'f' :: rest => .ok (.float (.infinite negative), rest)
    | 'n' :: 'a' :: 'n' :: rest => .ok (.float .nan, rest)
    | _ => do
      let (whole, rest) ← readWhole unsigned
      if opensDecimal rest then readDecimal negative whole rest
      else integer (signed negative (value 10 whole)) rest

end Reftest.Toml.Number
