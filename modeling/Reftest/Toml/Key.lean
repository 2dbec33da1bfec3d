import Reftest.Toml.Quotation

namespace Reftest.Toml

structure KeyPart where
  name : String
  span : Span
  deriving DecidableEq, Repr

abbrev Key := List KeyPart

def isBareChar (c : Char) : Bool :=
  c.isAlphanum || c = '_' || c = '-'

namespace KeyPart

def between (text : List Char) (name : List Char) (rest : List Char) : KeyPart where
  name := String.ofList name
  span := ⟨text.length, rest.length⟩

def read? (text : List Char) : Except Mark (Option (KeyPart × List Char)) :=
  match text with
  | '"' :: inner => do
    let (name, rest) ← Quotation.basic inner
    return some (between text name rest, rest)
  | '\'' :: inner => do
    let (name, rest) ← Quotation.literal inner
    return some (between text name rest, rest)
  | _ =>
    let name := text.takeWhile isBareChar
    let rest := text.dropWhile isBareChar
    if name.isEmpty then .ok none else .ok (some (between text name rest, rest))

end KeyPart

namespace Key

/-- The parts of the key that begins the text.  There are none where no key begins, and a dot with
no part behind it is left over. -/
def readParts (text : List Char) : Except Mark (Key × List Char) :=
  match KeyPart.read? (skipBlanks text) with
  | .error mark => .error mark
  | .ok none => .ok ([], text)
  | .ok (some (part, rest)) =>
    match skipBlanks rest with
    | '.' :: more =>
      if more.length < text.length then
        match readParts more with
        | .error mark => .error mark
        | .ok ([], _) => .ok ([part], '.' :: more)
        | .ok (parts, rest) => .ok (part :: parts, rest)
      else .ok ([part], '.' :: more)
    | rest => .ok ([part], rest)
termination_by text.length

def partLimit : Nat := 80

def read (text : List Char) : Except Mark (Key × List Char) :=
  match readParts text with
  | .error mark => .error mark
  | .ok (key, rest) => if key.length < partLimit then .ok (key, rest) else .ok ([], text)

end Key

end Reftest.Toml
