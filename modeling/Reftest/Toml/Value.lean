import Reftest.Toml.Assignment
import Reftest.Toml.DateTime
import Reftest.Toml.Number

/-!
Values.  Arrays and inline tables are read with a reader for the values inside them, so the depth
of nesting bounds the reading of a value.
-/

namespace Reftest.Toml

/-- A value without quotation marks or brackets.  What follows it is left over, even where it
cannot stand there. -/
def readWord : Reader Scalar
  | 't' :: 'r' :: 'u' :: 'e' :: rest => .ok (.boolean true, rest)
  | 'f' :: 'a' :: 'l' :: 's' :: 'e' :: rest => .ok (.boolean false, rest)
  | text =>
    if DateTime.opensDate text || DateTime.opensTime text then
      (DateTime.skip text).map fun rest => (.datetime, rest)
    else Number.read text

def readScalar : Reader Scalar
  | '"' :: '"' :: '"' :: inner => string (Quotation.basicLines 0 (Quotation.openLines inner))
  | '"' :: inner => string (Quotation.basic inner)
  | '\'' :: '\'' :: '\'' :: inner => string (Quotation.literalLines 0 (Quotation.openLines inner))
  | '\'' :: inner => string (Quotation.literal inner)
  | text => readWord text
where
  string (result : Except Mark (List Char × List Char)) : Except Mark (Scalar × List Char) :=
    result.map fun (chars, rest) => (.string (String.ofList chars), rest)

/-- Reads the items of an array from behind its opening bracket or a comma up to its closing
bracket.  Where the gap behind an item cannot be read, reading stopped in front of the item. -/
def readItems (value : Reader Node) (text : List Char) :
    Except Mark (List Node × List Char) :=
  match skipGap text with
  | .error mark => .error mark
  | .ok (']' :: rest) => .ok ([], rest)
  | .ok start =>
    match value start with
    | .error mark => .error mark
    | .ok (item, rest) =>
      match skipGap rest with
      | .error _ => stopAt start
      | .ok (']' :: rest) => .ok ([item], rest)
      | .ok (',' :: rest) =>
        if rest.length < text.length then
          match readItems value rest with
          | .error mark => .error mark
          | .ok (items, rest) => .ok (item :: items, rest)
        else stopAt rest
      | .ok rest => stopAt rest
termination_by text.length

def readAssigned (value : Reader Node) (key : Key) : Reader Assignment
  | '=' :: rest => do
    let (node, rest) ← value (skipBlanks rest)
    return (⟨key, node⟩, skipBlanks rest)
  | text => stopAt text

/-- Reads the assignments of an inline table.  A comma with no key behind it is left over. -/
def readPairs (value : Reader Node) (text : List Char) :
    Except Mark (List Assignment × List Char) :=
  match Key.read text with
  | .error mark => .error mark
  | .ok ([], _) => .ok ([], text)
  | .ok (key, rest) =>
    match readAssigned value key rest with
    | .error mark => .error mark
    | .ok (pair, ',' :: rest) =>
      if rest.length < text.length then
        match readPairs value rest with
        | .error mark => .error mark
        | .ok ([], _) => .ok ([pair], ',' :: rest)
        | .ok (pairs, rest) => .ok (pair :: pairs, rest)
      else stopAt rest
    | .ok (pair, rest) => .ok ([pair], rest)
termination_by text.length

def readInline (value : Reader Node) : Reader Entries := fun text => do
  let (pairs, rest) ← readPairs value text
  match Entries.assignAll [] pairs with
  | none => stopAt text
  | some entries =>
    match skipBlanks rest with
    | '}' :: rest => .ok (entries, rest)
    | rest => stopAt rest

/-- Reads a value with at most `depth` arrays and inline tables inside each other. -/
def readValue : (depth : Nat) → Reader Node
  | depth, text =>
    match text with
    | '[' :: inner =>
      match depth with
      | 0 => stopAt inner
      | depth + 1 => do
        let (items, rest) ← readItems (readValue depth) inner
        return (.array ⟨text.length, rest.length⟩ items, rest)
    | '{' :: inner =>
      match depth with
      | 0 => stopAt inner
      | depth + 1 => do
        let (entries, rest) ← readInline (readValue depth) inner
        return (.table .inline ⟨text.length, rest.length⟩ entries, rest)
    | _ => do
      let (scalar, rest) ← readScalar text
      return (.scalar ⟨text.length, rest.length⟩ scalar, rest)

def depthLimit : Nat := 79

end Reftest.Toml
