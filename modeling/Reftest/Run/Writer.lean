import Reftest.Run.Stage

namespace Reftest.Run

structure Writer where
  chunk : Option Nat := none
  limit : Option Nat := none
  /-- why nothing is taken beyond the limit, which is never that a call was interrupted; without a
  reason nothing is taken all the same -/
  failure : Option Failure := none
  /-- how many of the first calls are interrupted -/
  interrupts : Nat := 0
  flushFailure : Option Failure := none
  deriving DecidableEq, Repr

structure Delivery where
  taken : Octets
  failure : Option Failure
  interrupts : Nat
  deriving DecidableEq, Repr

namespace Writer

def exhausted (writer : Writer) (before : Nat) : Bool :=
  writer.limit.any (· ≤ before)

def room (writer : Writer) (before offered : Nat) : Nat :=
  min (min offered (writer.chunk.getD offered)) ((writer.limit.map (· - before)).getD offered)

/-- The outcome of a call that is not interrupted: how many octets are taken, or why none are. -/
def respond (writer : Writer) (before offered : Nat) : Except Failure Nat :=
  match writer.exhausted before, writer.failure with
  | true, some failure => .error failure
  | _, _ => .ok (writer.room before offered)

/-- Offers octets until all are taken.  A call that was interrupted is repeated; one that takes
nothing would never come to an end. -/
def deliver (writer : Writer) (interrupts before : Nat) (octets : Octets) : Delivery :=
  match octets with
  | [] => ⟨[], none, interrupts⟩
  | octet :: rest =>
    match interrupts with
    | interrupts + 1 => writer.deliver interrupts before (octet :: rest)
    | 0 =>
      match writer.respond before (rest.length + 1) with
      | .error failure => ⟨[], some failure, 0⟩
      | .ok 0 => ⟨[], some .nothingWritten, 0⟩
      | .ok (count + 1) =>
        let delivery := writer.deliver 0 (before + count + 1) (rest.drop count)
        { delivery with taken := octet :: rest.take count ++ delivery.taken }
termination_by (octets.length, interrupts)
decreasing_by
  · exact Prod.Lex.right _ (Nat.lt_succ_self _)
  · refine Prod.Lex.left _ _ ?_
    simp only [List.length_drop, List.length_cons]
    omega

end Writer

end Reftest.Run
