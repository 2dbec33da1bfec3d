import Reftest.Text.Utf8

namespace Reftest

inductive Ending where
  | exited (status : UInt8)
  | killed
  deriving DecidableEq, Repr

namespace Ending

def succeeded (ending : Ending) : Bool :=
  ending = .exited 0

def code : Ending → Option Nat
  | .exited status => some status.toNat
  | .killed => none

def describe : Ending → String
  | .exited status => "exit code " ++ toString status.toNat
  | .killed => "terminated by signal"

end Ending

/-- The parts of a behaviour in the order in which they take place. -/
structure Behaviour where
  output : Octets := []
  echoesArguments : Bool := false
  copiesInput : Bool := false
  shows : Option Octets := none
  removes : Option Octets := none
  complaint : Octets := []
  ending : Ending := .exited 0
  deriving DecidableEq, Repr

end Reftest
