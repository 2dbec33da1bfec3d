import Reftest.Log.Event

namespace Reftest.Log

abbrev Threshold := Option Level

namespace Threshold

def admits (threshold : Threshold) (level : Level) : Bool :=
  threshold.any (level.rank ≤ ·.rank)

def ofRank? : Nat → Option Threshold
  | 0 => some none
  | 1 => some (some .error)
  | 2 => some (some .warn)
  | 3 => some (some .info)
  | 4 => some (some .debug)
  | 5 => some (some .trace)
  | _ => none

def ofName? (name : String) : Option Threshold :=
  match name with
  | "off" => some none
  | "error" => some (some .error)
  | "warn" => some (some .warn)
  | "info" => some (some .info)
  | "debug" => some (some .debug)
  | "trace" => some (some .trace)
  | _ => none

def digitsValue (digits : List Char) : Nat :=
  digits.foldl (fun value digit => value * 10 + (digit.toNat - '0'.toNat)) 0

def unsigned : List Char → List Char
  | '+' :: rest => rest
  | text => text

def read? (text : List Char) : Option Threshold :=
  let digits := unsigned text
  if digits ≠ [] ∧ digits.all Char.isDigit then ofRank? (digitsValue digits)
  else ofName? (String.ofList (text.map Char.toLower))

def readOr? (text : List Char) : Option Threshold :=
  if text = [] then some (some .trace) else read? text

end Threshold

end Reftest.Log
