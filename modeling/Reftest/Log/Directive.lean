import Reftest.Log.Pattern
import Reftest.Log.Threshold
import Reftest.Text.Pieces
import Reftest.Text.Utf8

/-!
Directives: from which level on the events of a topic are shown.  A directive has the form
`target[span{field=value}]=level`, in which each part may be missing.
-/

namespace Reftest.Log

structure FieldCondition where
  name : List Char
  valued : Bool
  deriving DecidableEq, Repr

/-- A directive for all topics has an empty target. -/
structure Directive where
  target : List Char := []
  span : Option (List Char) := none
  field : Option FieldCondition := none
  threshold : Threshold := some .trace
  deriving DecidableEq, Repr

def FieldCondition.admits (condition : FieldCondition) (fields : List (List Char)) : Bool :=
  !condition.valued && fields.contains condition.name

namespace Directive

def covers (directive : Directive) (event : Event) : Bool :=
  directive.span.isNone && directive.field.all (·.admits Event.fields) &&
    directive.target.isPrefixOf event.topic.target.toList

/-- Longer targets are more specific, and of two directives with one target the one with a
condition. -/
def specificity (directive : Directive) : Nat :=
  2 * directive.target.length + if directive.field.isSome then 1 else 0

end Directive

def isDecimal (text : List Char) : Bool :=
  let significand := text.takeWhile fun c => c ≠ 'e' && c ≠ 'E'
  let whole := significand.takeWhile (· ≠ '.')
  let fraction := (significand.drop whole.length).drop 1
  whole ++ fraction ≠ [] && (whole ++ fraction).all Char.isDigit &&
    match text.drop significand.length with
    | [] => true
    | _ :: '+' :: exponent => exponent ≠ [] && exponent.all Char.isDigit
    | _ :: '-' :: exponent => exponent ≠ [] && exponent.all Char.isDigit
    | _ :: exponent => exponent ≠ [] && exponent.all Char.isDigit

def isPlusNumber : List Char → Bool
  | '+' :: text =>
    isDecimal text || ["inf", "infinity", "nan"].contains (String.ofList (text.map Char.toLower))
  | _ => false

def isValue (text : List Char) : Bool :=
  isPlusNumber text || Pattern.isExpression text

namespace FieldCondition

def read? (text : List Char) : Option FieldCondition :=
  match pieces '=' text with
  | name :: value :: _ => if isValue value then some ⟨name, true⟩ else none
  | name :: [] => some ⟨name, false⟩
  | [] => none

end FieldCondition

/-- A directive as it was given, and without the white space around it.  Places are found in the
latter and counted in octets from its beginning, but it is the former that is cut there. -/
structure Directive.Source where
  given : List Char
  trimmed : List Char

namespace Directive.Source

def ofText (given : List Char) : Source where
  given := given
  trimmed := Blank.trim given

def offset (source : Source) (rest : List Char) : Nat :=
  (Utf8.encode source.trimmed).length - (Utf8.encode rest).length

def behind (source : Source) (start : List Char) : List Char :=
  Utf8.decodeLossy ((Utf8.encode source.given).drop (source.offset start))

def between (source : Source) (start stop : List Char) : List Char :=
  Utf8.decodeLossy
    (((Utf8.encode source.given).take (source.offset stop)).drop (source.offset start))

end Directive.Source

namespace Directive

def opens (c : Char) : Bool :=
  Alphanumeric.contains c || c = '-' || c = ':' || c = '_'

def readLevel (source : Source) (directive : Directive) : List Char → Option Directive
  | [] => some directive
  | '=' :: rest =>
    (Threshold.readOr? (source.behind rest)).map fun threshold => { directive with threshold }
  | _ => none

def readSpan (source : Source) (target text : List Char) : Option Directive :=
  let nameEnd := text.dropWhile fun c => c ≠ ']' && c ≠ '\x7b'
  let name := source.between text nameEnd
  match nameEnd with
  | ']' :: rest => readLevel source { target, span := some name } rest
  | '\x7b' :: text =>
    let fieldEnd := text.dropWhile (· ≠ '\x7d')
    let field := source.between text fieldEnd
    match fieldEnd with
    | '\x7d' :: ']' :: rest => do
      if field = [] then none
      let condition ← FieldCondition.read? field
      let span := if name = [] then none else some name
      readLevel source { target, span, field := some condition } rest
    | _ => none
  | _ => none

def read? (text : List Char) : Option Directive :=
  let source := Source.ofText text
  match source.trimmed with
  | [] => none
  | '[' :: rest => readSpan source [] rest
  | first :: more =>
    let targetEnd := (first :: more).dropWhile fun c => c ≠ '=' && c ≠ '['
    let target := source.between (first :: more) targetEnd
    if !opens first then none
    else match targetEnd with
      | [] =>
        match Threshold.read? text with
        | some threshold => some { threshold }
        | none => some { target := text }
      | '[' :: rest => readSpan source target rest
      | rest => readLevel source { target } rest

end Directive

end Reftest.Log
