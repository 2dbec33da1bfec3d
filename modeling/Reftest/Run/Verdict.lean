import Reftest.Run.Writer

namespace Reftest.Run

def passText : Octets := Octets.ofText "All tests passed."

def lineFeed : Octets := [0x0A]

/-- The success message and its line feed are written one after the other, and then flushed. -/
def announce (writer : Writer) : Stage Unit :=
  fun world =>
    let first := writer.deliver writer.interrupts 0 passText
    match first.failure with
    | some failure => ⟨.error (.io failure), world, [.verdict first.taken]⟩
    | none =>
      let second := writer.deliver first.interrupts passText.length lineFeed
      match second.failure with
      | some failure =>
        ⟨.error (.io failure), world, [.verdict first.taken, .verdict second.taken]⟩
      | none =>
        let trace := [.verdict first.taken, .verdict second.taken, .flush]
        match writer.flushFailure with
        | some failure => ⟨.error (.io failure), world, trace⟩
        | none => ⟨.ok (), world, trace⟩

end Reftest.Run
