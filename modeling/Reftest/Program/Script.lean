import Reftest.Text.Utf8

namespace Reftest

structure Script where
  interpreter : Octets
  argument : Option Octets
  deriving DecidableEq, Repr

namespace Script

/-- How many octets of a file are looked at; a file that has fewer is filled up with NULs. -/
def windowSize : Nat := 256

def window (octets : Octets) : Octets :=
  (octets ++ List.replicate windowSize 0).take windowSize

def lineFeed : UInt8 := 0x0A

def isBlank (octet : UInt8) : Bool :=
  octet = 0x20 || octet = 0x09

def isEnd (octet : UInt8) : Bool :=
  isBlank octet || octet = 0

def trim (line : Octets) : Octets :=
  ((line.dropWhile isBlank).reverse.dropWhile isBlank).reverse

/-- The line behind the mark of a script.  Where it reaches beyond the window its interpreter has
to end within. -/
def line? (rest : Octets) : Option Octets :=
  match rest.dropWhile fun octet => octet ≠ lineFeed && octet ≠ 0 with
  | 0x0A :: _ => some (rest.takeWhile (· ≠ lineFeed))
  | _ => if (rest.dropWhile isBlank).any isEnd then some rest.dropLast else none

/-- The argument of the interpreter, from what stands behind its name.  There is one if blanks are
followed by anything at all; it reaches up to a NUL, so that it may be empty. -/
def argument? (rest : Octets) : Option Octets :=
  let more := rest.dropWhile isBlank
  if rest.head?.all (!isBlank ·) || more = [] then none else some (more.takeWhile (· ≠ 0))

def read? (octets : Octets) : Option Script :=
  match window octets with
  | 0x23 :: 0x21 :: rest => do
    let line := trim (← line? rest)
    if line = [] then none
    let interpreter := line.takeWhile (!isEnd ·)
    return ⟨interpreter, argument? (line.drop interpreter.length)⟩
  | _ => none

end Script

end Reftest
