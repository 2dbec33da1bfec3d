import Reftest.Log.Nesting
import Reftest.Text.Alphanumeric
import Reftest.Text.Blank
import Reftest.Text.Hexadecimal

/-!
Which texts are regular expressions.  A directive may ask for the values of a field by such an
expression; one that is malformed spoils the filter.  Nothing is known here of the case and the
kinds of characters beyond ASCII, so whatever needs that is refused.  An expression stands between
braces itself, so a brace outside of a class, which would begin a count, is refused as well.  So is
an expression that is nested too deep.
-/

namespace Reftest.Log.Pattern

structure Flags where
  caseless : Bool := false
  unicode : Bool := true
  spaced : Bool := false
  deriving DecidableEq, Repr

def Flags.switch (flags : Flags) (name : Char) (on : Bool) : Flags :=
  match name with
  | 'i' => { flags with caseless := on }
  | 'u' => { flags with unicode := on }
  | 'x' => { flags with spaced := on }
  | _ => flags

def skipSpaced : (commented : Bool) → List Char → List Char
  | _, [] => []
  | commented, c :: text =>
    if commented then skipSpaced (c ≠ '\n') text
    else if Blank.contains c then skipSpaced false text
    else if c = '#' then skipSpaced true text
    else c :: text

theorem length_skipSpaced_le (commented : Bool) (text : List Char) :
    (skipSpaced commented text).length ≤ text.length := by
  fun_induction skipSpaced commented text <;> grind

def skip (flags : Flags) (text : List Char) : List Char :=
  if flags.spaced then skipSpaced false text else text

theorem length_skip_le (flags : Flags) (text : List Char) :
    (skip flags text).length ≤ text.length := by
  unfold skip
  split
  · exact length_skipSpaced_le ..
  · exact Nat.le_refl _

/-! Items -/

/-- What stands at a place of an expression: a character, perhaps given by its octet; a kind of
characters; an end of the text; or an end of a word. -/
inductive Item where
  | literal (c : Char) (octet : Bool)
  | kind (negated : Bool)
  | anchor
  | boundary
  deriving DecidableEq, Repr

def readHex (flags : Flags) : (digits : Nat) → (code : Nat) → List Char →
    Option (Nat × List Char)
  | 0, code, text => some (code, text)
  | _ + 1, _, [] => none
  | digits + 1, code, c :: text => do
    let digit ← Hexadecimal.digit? c
    readHex flags digits (code * 16 + digit) (skip flags text)

def readCodePoint (flags : Flags) (digits : Nat) (text : List Char) :
    Option (Item × List Char) := do
  let (code, rest) ← readHex flags digits 0 (skip flags text)
  let c ← Hexadecimal.character? code
  return (.literal c (digits = 2), rest)

def controls : List (Char × Char) :=
  [('a', '\x07'), ('t', '\t'), ('n', '\n'), ('v', '\x0b'), ('f', '\x0c'), ('r', '\r')]

def isEscapable (c : Char) : Bool :=
  c ≤ '\x7f' && !c.isAlphanum && c ≠ '<' && c ≠ '>'

def readEscape (flags : Flags) : List Char → Option (Item × List Char)
  | [] => none
  | 'x' :: rest => readCodePoint flags 2 rest
  | 'u' :: rest => readCodePoint flags 4 rest
  | 'U' :: rest => readCodePoint flags 8 rest
  | c :: rest =>
    if ['d', 's', 'w'].contains c then some (.kind false, rest)
    else if ['D', 'S', 'W'].contains c then some (.kind true, rest)
    else if ['A', 'z'].contains c then some (.anchor, rest)
    else if ['b', 'B', '<', '>'].contains c then some (.boundary, rest)
    else if isEscapable c then some (.literal c false, rest)
    else (controls.lookup c).map fun control => (.literal control false, rest)

def readItem (flags : Flags) : List Char → Option (Item × List Char)
  | [] => none
  | '\\' :: rest => readEscape flags rest
  | c :: rest => some (.literal c false, rest)

namespace Item

def fits (flags : Flags) : Item → Bool
  | .literal c octet => if flags.unicode then !flags.caseless else !octet || c ≤ '\x7f'
  | .kind negated => !flags.unicode && !negated
  | .anchor => true
  | .boundary => !flags.unicode

def fitsClass (flags : Flags) : Item → Bool
  | .literal c _ => if flags.unicode then !flags.caseless else c ≤ '\x7f'
  | .kind negated => !flags.unicode && !negated
  | _ => false

def isRange : Item → Item → Bool
  | .literal low _, .literal high _ => low ≤ high
  | _, _ => false

end Item

/-! Classes -/

def readDashes (flags : Flags) : List Char → Nat × List Char
  | [] => (0, [])
  | c :: text =>
    if c = '-' then
      let (count, rest) := readDashes flags (skip flags text)
      (count + 1, rest)
    else (0, c :: text)
termination_by text => text.length
decreasing_by exact Nat.lt_succ_of_le (length_skip_le ..)

/-- Reads the beginning of a class from behind its opening bracket, and how many characters belong
to it.  Dashes in front stand for themselves, and so does a closing bracket that comes first. -/
def openClass (flags : Flags) (text : List Char) : Option (Nat × List Char) :=
  let inner := skip flags text
  let negated := inner.head? = some '^'
  let (dashes, rest) := readDashes flags (if negated then skip flags inner.tail else inner)
  if negated ∧ !flags.unicode then none
  else if dashes ≠ 0 then
    if (Item.literal '-' false).fitsClass flags then some (dashes, rest) else none
  else match rest with
    | ']' :: rest =>
      if (Item.literal ']' false).fitsClass flags then some (1, skip flags rest) else none
    | _ => some (0, rest)

def classNames : List String :=
  ["alnum", "alpha", "ascii", "blank", "cntrl", "digit", "graph", "lower", "print", "punct",
   "space", "upper", "word", "xdigit"]

def namedFits (flags : Flags) (negated : Bool) : Bool :=
  if flags.unicode then !flags.caseless else !negated

def readNamed? : List Char → Option (Bool × List Char)
  | ':' :: text =>
    let negated := text.head? = some '^'
    let inner := if negated then text.tail else text
    let name := String.ofList (inner.takeWhile (· ≠ ':'))
    match inner.dropWhile (· ≠ ':') with
    | ':' :: ']' :: rest => if classNames.contains name then some (negated, rest) else none
    | _ => none
  | _ => none

def peek? (flags : Flags) (text : List Char) : Option Char :=
  if flags.spaced then
    match text.dropWhile Blank.contains with
    | '#' :: rest => (rest.dropWhile Blank.contains).head?
    | rest => rest.head?
  else text.head?

def readRange (flags : Flags) (text : List Char) : Option (List Char) := do
  let (low, rest) ← readItem flags text
  let single := if low.fitsClass flags then some (skip flags rest) else none
  match skip flags rest with
  | '-' :: more =>
    if [some ']', some '-'].contains (peek? flags more) then single
    else
      let (high, rest) ← readItem flags (skip flags more)
      if low.isRange high && low.fitsClass flags && high.fitsClass flags then some rest else none
  | _ => single

inductive ClassProgress where
  | inside (level : Nesting.Class) (outer : List Nesting.Class)
  | closed (depth : Nat)
  deriving DecidableEq, Repr

def stepClass (flags : Flags) (level : Nesting.Class) (outer : List Nesting.Class)
    (text : List Char) : Option (ClassProgress × List Char) :=
  match text with
  | ']' :: rest =>
    match outer with
    | [] => some (.closed (level.depth + 1), rest)
    | next :: outer => some (.inside (next.add (level.depth + 1)) outer, rest)
  | '[' :: rest =>
    match readNamed? rest with
    | some (negated, rest) =>
      if namedFits flags negated then some (.inside (level.add 0) outer, rest) else none
    | none => (openClass flags rest).map fun (characters, rest) =>
      (.inside (.ofCount characters) (level :: outer), rest)
  | '&' :: '&' :: rest => some (.inside level.operate outer, rest)
  | '-' :: '-' :: rest => some (.inside level.operate outer, rest)
  | '~' :: '~' :: rest => some (.inside level.operate outer, rest)
  | text => (readRange flags text).map fun rest => (.inside (level.add 0) outer, rest)

def readClass (flags : Flags) (level : Nesting.Class) (outer : List Nesting.Class)
    (text : List Char) : Option (Nat × List Char) :=
  match stepClass flags level outer (skip flags text) with
  | none => none
  | some (.closed depth, rest) => some (depth, rest)
  | some (.inside level outer, rest) =>
    if rest.length < text.length then readClass flags level outer rest else none
termination_by text.length

/-! Groups -/

structure Progress where
  flags : Flags := {}
  nesting : Nesting.Group := {}
  outer : List (Flags × Nesting.Group) := []
  names : List (List Char) := []
  repeatable : Bool := false
  deriving DecidableEq, Repr

namespace Progress

def take (progress : Progress) (depth : Nat) : Progress :=
  { progress with nesting := progress.nesting.add depth, repeatable := true }

def takeFlags (progress : Progress) (flags : Flags) : Progress :=
  { progress with flags, nesting := progress.nesting.add 0, repeatable := false }

def enter (progress : Progress) (flags : Flags) : Progress :=
  { progress with
    flags
    nesting := {}
    outer := (progress.flags, progress.nesting) :: progress.outer
    repeatable := false }

def leave? (progress : Progress) : Option Progress :=
  match progress.outer with
  | [] => none
  | (flags, nesting) :: outer =>
    some ({ progress with flags, nesting, outer }.take (progress.nesting.depth + 1))

def branch (progress : Progress) : Progress :=
  { progress with nesting := progress.nesting.branch, repeatable := false }

def repeat? (progress : Progress) : Option Progress :=
  if progress.repeatable then some { progress with nesting := progress.nesting.repeatLast }
  else none

def isComplete (progress : Progress) : Bool :=
  progress.outer.isEmpty && progress.nesting.depth ≤ Nesting.limit

end Progress

def isNameStart (c : Char) : Bool :=
  c = '_' || Alphabetic.contains c

def isNameChar (c : Char) : Bool :=
  c = '_' || c = '.' || c = '[' || c = ']' || Alphanumeric.contains c

def readName? (names : List (List Char)) (text : List Char) : Option (List Char × List Char) :=
  let name := text.takeWhile (· ≠ '>')
  match text.dropWhile (· ≠ '>') with
  | '>' :: rest =>
    if name.head?.any isNameStart && name.all isNameChar && !names.contains name then
      some (name, rest)
    else none
  | _ => none

def flagNames : List Char := ['i', 'm', 's', 'U', 'u', 'R', 'x']

def readFlags (flags : Flags) (seen : List Char) (negated : Bool) :
    List Char → Option (Flags × Bool × List Char)
  | [] => none
  | ')' :: rest => if seen = [] then none else some (flags, true, rest)
  | ':' :: rest => some (flags, false, rest)
  | '-' :: rest =>
    if negated || rest.head?.any fun c => c = ')' || c = ':' then none
    else readFlags flags seen true rest
  | c :: rest =>
    if flagNames.contains c && !seen.contains c then
      readFlags (flags.switch c (!negated)) (c :: seen) negated rest
    else none

/-- Reads the beginning of a group from behind its parenthesis.  Flags that make up a group count
for what follows in the group around it. -/
def openGroup (progress : Progress) (text : List Char) : Option (Progress × List Char) :=
  match skip progress.flags text with
  | '?' :: 'P' :: '<' :: rest => named rest
  | '?' :: '<' :: rest => named rest
  | '?' :: rest =>
    match readFlags progress.flags [] false rest with
    | none => none
    | some (flags, true, rest) => some (progress.takeFlags flags, rest)
    | some (flags, false, rest) => some (progress.enter flags, rest)
  | rest => some (progress.enter progress.flags, rest)
where
  named (text : List Char) : Option (Progress × List Char) :=
    (readName? progress.names text).map fun (name, rest) =>
      ({ progress.enter progress.flags with names := name :: progress.names }, rest)

/-! Expressions -/

def isRepetition (c : Char) : Bool :=
  c = '*' || c = '+' || c = '?'

def skipLazy : List Char → List Char
  | '?' :: rest => rest
  | rest => rest

def step (progress : Progress) (text : List Char) : Option (Progress × List Char) :=
  match text with
  | '(' :: rest => openGroup progress rest
  | ')' :: rest => progress.leave?.map fun progress => (progress, rest)
  | '|' :: rest => some (progress.branch, rest)
  | '[' :: rest => do
    let (characters, inner) ← openClass progress.flags rest
    let (depth, rest) ← readClass progress.flags (.ofCount characters) [] inner
    return (progress.take depth, rest)
  | '\x7b' :: _ => none
  | '.' :: rest => if progress.flags.unicode then some (progress.take 0, rest) else none
  | '^' :: rest => some (progress.take 0, rest)
  | '$' :: rest => some (progress.take 0, rest)
  | text =>
    if text.head?.any isRepetition then
      progress.repeat?.map fun progress => (progress, skipLazy text.tail)
    else do
      let (item, rest) ← readItem progress.flags text
      if item.fits progress.flags then some (progress.take 0, rest) else none

def completes (progress : Progress) (text : List Char) : Bool :=
  match skip progress.flags text with
  | [] => progress.isComplete
  | start =>
    match step progress start with
    | none => false
    | some (progress, rest) =>
      if rest.length < text.length then completes progress rest else false
termination_by text.length

def isExpression (text : List Char) : Bool :=
  completes {} text

example : isExpression "a(b|[c-f])*?".toList ∧ ¬ isExpression "a|*".toList := by decide +kernel

end Reftest.Log.Pattern
