import Reftest.Text.Pieces

/-!
Places in a text.  A place is given by what follows it, so lines put in front of a text leave the
places in the text as they are.
-/

namespace Reftest.Toml

/-- A place in a text: how many characters of the text follow it. -/
abbrev Mark := Nat

structure Span where
  start : Mark
  stop : Mark
  deriving DecidableEq, Repr

namespace Mark

def before (text : List Char) (mark : Mark) : List Char :=
  text.take (text.length - mark)

def after (text : List Char) (mark : Mark) : List Char :=
  text.drop (text.length - mark)

/-- Lines are counted from 1, and end at line feeds only. -/
def line (text : List Char) (mark : Mark) : Nat :=
  (before text mark).count '\n' + 1

def lineStart (text : List Char) (mark : Mark) : List Char :=
  ((before text mark).reverse.takeWhile (· ≠ '\n')).reverse

def column (text : List Char) (mark : Mark) : Nat :=
  (lineStart text mark).length + 1

def lineText (text : List Char) (mark : Mark) : List Char :=
  lineStart text mark ++ (after text mark).takeWhile (· ≠ '\n')

/-- The line on which reading stopped; the end of a text counts as its last character. -/
def stopLine (text : List Char) (mark : Mark) : Nat :=
  line text (max mark 1)

end Mark

def lineOf (text : List Char) (line : Nat) : List Char :=
  (pieces '\n' text).getD (line - 1) []

/-- What a reader of documents tells of a text that it cannot read, besides the line on which it
stops: the column, how far it points, and its reason. -/
structure Objection where
  column : Nat := 1
  carets : Nat := 1
  reason : String := ""
  deriving DecidableEq, Repr

def Span.content (text : List Char) (span : Span) : List Char :=
  (Mark.after text span.start).take (span.start - span.stop)

end Reftest.Toml
