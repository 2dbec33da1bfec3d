import Reftest.Proofs.Run.Reception

/-!
Any writer at all.  It keeps a state of its own, and answers each call by what it is offered and
by its state.  What it takes is always the beginning of what is offered.  A writer that takes
everything up to a limit is one of them.
-/

namespace Reftest.Run

/-- How a writer answers a call that offers it octets.  A failure says that nothing more is to be
expected; one of the kind that says that a call was interrupted is an answer of its own. -/
inductive Answer where
  | took (count : Nat)
  | interrupted
  | failed (failure : Failure)
  deriving DecidableEq, Repr

/-- A writer with a state.  It takes no more than it is offered.  Calls that are interrupted are
repeated, so it is not interrupted for ever: there is a bound for how often this can still happen
to the same octets. -/
structure Sink (State : Type u) where
  start : State
  write : State → Octets → Answer × State
  flush : State → Option Failure
  patience : State → Octets → Nat
  took_le : ∀ {state offered count next},
    write state offered = (.took count, next) → count ≤ offered.length
  patience_lt : ∀ {state offered next},
    write state offered = (.interrupted, next) → patience next offered < patience state offered

inductive Exchange where
  | write (offered : Octets) (answer : Answer)
  | flush (failure : Option Failure)
  deriving DecidableEq, Repr

namespace Exchange

def taken : Exchange → Octets
  | .write offered (.took count) => offered.take count
  | _ => []

/-- Why no other call can follow.  To take nothing counts as a failure. -/
def refusal? : Exchange → Option Failure
  | .write _ (.failed failure) => some failure
  | .write _ (.took 0) => some .nothingWritten
  | .flush failure => failure
  | _ => none

end Exchange

def takenIn (exchanges : List Exchange) : Octets :=
  exchanges.flatMap Exchange.taken

def refusalIn? (exchanges : List Exchange) : Option Failure :=
  exchanges.getLast?.bind Exchange.refusal?

@[simp] theorem takenIn_nil : takenIn [] = [] := rfl

@[simp] theorem takenIn_cons (exchange : Exchange) (rest : List Exchange) :
    takenIn (exchange :: rest) = exchange.taken ++ takenIn rest := rfl

@[simp] theorem takenIn_append (left right : List Exchange) :
    takenIn (left ++ right) = takenIn left ++ takenIn right :=
  List.flatMap_append

@[simp] theorem refusalIn?_nil : refusalIn? [] = none := rfl

theorem refusalIn?_cons {exchange : Exchange} (h : exchange.refusal? = none)
    (rest : List Exchange) : refusalIn? (exchange :: rest) = refusalIn? rest := by
  cases rest with
  | nil => exact h
  | cons next rest => simp [refusalIn?, List.getLast?_cons]

theorem refusalIn?_append {left : List Exchange} (h : refusalIn? left = none)
    (right : List Exchange) : refusalIn? (left ++ right) = refusalIn? right := by
  cases right with
  | nil => rw [List.append_nil, h, refusalIn?_nil]
  | cons next right => simp [refusalIn?, List.getLast?_append, List.getLast?_cons]

namespace Sink

variable {State : Type u}

def deliver (sink : Sink State) (state : State) (octets : Octets) : List Exchange × State :=
  match octets with
  | [] => ([], state)
  | octet :: rest =>
    match _ : sink.write state (octet :: rest) with
    | (.took (count + 1), next) =>
      let (exchanges, last) := sink.deliver next (rest.drop count)
      (.write (octet :: rest) (.took (count + 1)) :: exchanges, last)
    | (.interrupted, next) =>
      let (exchanges, last) := sink.deliver next (octet :: rest)
      (.write (octet :: rest) .interrupted :: exchanges, last)
    | (.took 0, next) => ([.write (octet :: rest) (.took 0)], next)
    | (.failed failure, next) => ([.write (octet :: rest) (.failed failure)], next)
termination_by (octets.length, sink.patience state octets)
decreasing_by
  · refine Prod.Lex.left _ _ ?_
    simp only [List.length_drop, List.length_cons]
    omega
  · exact Prod.Lex.right _ (sink.patience_lt ‹_›)

section

variable {sink : Sink State} {state next : State} {octet : UInt8} {rest : Octets}

theorem deliver_nil : sink.deliver state [] = ([], state) := by
  rw [deliver]

theorem deliver_of_took {count : Nat}
    (h : sink.write state (octet :: rest) = (.took (count + 1), next)) :
    sink.deliver state (octet :: rest) =
      (.write (octet :: rest) (.took (count + 1)) :: (sink.deliver next (rest.drop count)).1,
        (sink.deliver next (rest.drop count)).2) := by
  rw [deliver]
  split <;> simp_all

theorem deliver_of_interrupted
    (h : sink.write state (octet :: rest) = (.interrupted, next)) :
    sink.deliver state (octet :: rest) =
      (.write (octet :: rest) .interrupted :: (sink.deliver next (octet :: rest)).1,
        (sink.deliver next (octet :: rest)).2) := by
  rw [deliver]
  split <;> simp_all

theorem deliver_of_nothing (h : sink.write state (octet :: rest) = (.took 0, next)) :
    sink.deliver state (octet :: rest) = ([.write (octet :: rest) (.took 0)], next) := by
  rw [deliver]
  split <;> simp_all

theorem deliver_of_failed {failure : Failure}
    (h : sink.write state (octet :: rest) = (.failed failure, next)) :
    sink.deliver state (octet :: rest) =
      ([.write (octet :: rest) (.failed failure)], next) := by
  rw [deliver]
  split <;> simp_all

end

theorem taken_deliver (sink : Sink State) (state : State) (octets : Octets) :
    ∃ rest, octets = takenIn (sink.deliver state octets).1 ++ rest ∧
      (refusalIn? (sink.deliver state octets).1 = none ↔ rest = []) := by
  fun_induction deliver sink state octets with
  | case1 state => exact ⟨[], rfl, by simp⟩
  | case2 state octet rest count next hwrite exchanges last hdeliver ih =>
      obtain ⟨left, hleft, hrefusal⟩ := ih
      rw [hdeliver] at hleft hrefusal
      refine ⟨left, ?_, ?_⟩
      · rw [takenIn_cons, Exchange.taken, List.take_succ_cons, List.cons_append, List.cons_append,
          List.append_assoc, ← hleft, List.take_append_drop]
      · rw [refusalIn?_cons rfl]
        exact hrefusal
  | case3 state octet rest next hwrite exchanges last hdeliver ih =>
      obtain ⟨left, hleft, hrefusal⟩ := ih
      rw [hdeliver] at hleft hrefusal
      exact ⟨left, hleft, by rw [refusalIn?_cons rfl]; exact hrefusal⟩
  | case4 state octet rest next hwrite =>
      exact ⟨octet :: rest, rfl, by simp [refusalIn?, Exchange.refusal?]⟩
  | case5 state octet rest failure next hwrite =>
      exact ⟨octet :: rest, rfl, by simp [refusalIn?, Exchange.refusal?]⟩

end Sink

namespace Writer

def answer (writer : Writer) : Nat × Nat → Octets → Answer × (Nat × Nat)
  | (interrupts + 1, before), _ => (.interrupted, (interrupts, before))
  | (0, before), offered =>
    match writer.respond before offered.length with
    | .error failure => (.failed failure, (0, before))
    | .ok count => (.took count, (0, before + count))

theorem answer_took {writer : Writer} {state next : Nat × Nat} {offered : Octets} {count : Nat}
    (h : writer.answer state offered = (.took count, next)) :
    writer.respond state.2 offered.length = .ok count := by
  obtain ⟨interrupts, before⟩ := state
  cases interrupts with
  | succ interrupts => cases h
  | zero =>
      simp only [answer] at h
      split at h
      · cases h
      · rename_i hrespond
        cases h
        exact hrespond

theorem answer_interrupted {writer : Writer} {state next : Nat × Nat} {offered : Octets}
    (h : writer.answer state offered = (.interrupted, next)) : next.1 < state.1 := by
  obtain ⟨interrupts, before⟩ := state
  cases interrupts with
  | succ interrupts =>
      cases h
      exact Nat.lt_succ_self _
  | zero =>
      simp only [answer] at h
      split at h <;> cases h

theorem room_le (writer : Writer) (before offered : Nat) :
    writer.room before offered ≤ offered := by
  unfold room
  omega

def sink (writer : Writer) : Sink (Nat × Nat) where
  start := (writer.interrupts, 0)
  write := writer.answer
  flush _ := writer.flushFailure
  patience state _ := state.1
  took_le h := by
    rw [← (respond_eq_ok (answer_took h)).1]
    exact writer.room_le _ _
  patience_lt := answer_interrupted

theorem deliver_sink (writer : Writer) (interrupts before : Nat) (octets : Octets) :
    let delivery := writer.deliver interrupts before octets
    let delivered := writer.sink.deliver (interrupts, before) octets
    delivery.taken = takenIn delivered.1 ∧ delivery.failure = refusalIn? delivered.1 ∧
      (delivery.failure = none →
        delivered.2 = (delivery.interrupts, before + octets.length)) := by
  fun_induction deliver writer interrupts before octets with
  | case1 interrupts before =>
      rw [Sink.deliver_nil]
      exact ⟨rfl, rfl, fun _ => rfl⟩
  | case2 before octet rest interrupts ih =>
      have hanswer : writer.sink.write (interrupts + 1, before) (octet :: rest) =
          (.interrupted, (interrupts, before)) := rfl
      rw [Sink.deliver_of_interrupted hanswer]
      obtain ⟨htaken, hrefusal, hstate⟩ := ih
      exact ⟨htaken, hrefusal.trans (refusalIn?_cons rfl _).symm, hstate⟩
  | case3 before octet rest failure hrespond =>
      have hanswer : writer.sink.write (0, before) (octet :: rest) =
          (.failed failure, (0, before)) := by
        simp only [sink, answer, List.length_cons, hrespond]
      rw [Sink.deliver_of_failed hanswer]
      exact ⟨rfl, rfl, fun hnone => by cases hnone⟩
  | case4 before octet rest hrespond =>
      have hanswer : writer.sink.write (0, before) (octet :: rest) = (.took 0, (0, before)) := by
        simp only [sink, answer, List.length_cons, hrespond, Nat.add_zero]
      rw [Sink.deliver_of_nothing hanswer]
      exact ⟨rfl, rfl, fun hnone => by cases hnone⟩
  | case5 before octet rest count hrespond delivery ih =>
      have hanswer : writer.sink.write (0, before) (octet :: rest) =
          (.took (count + 1), (0, before + count + 1)) := by
        simp only [sink, answer, List.length_cons, hrespond, Nat.add_assoc]
      have hcount := writer.sink.took_le hanswer
      rw [Sink.deliver_of_took hanswer]
      obtain ⟨htaken, hrefusal, hstate⟩ := ih
      refine ⟨?_, hrefusal.trans (refusalIn?_cons rfl _).symm, fun hnone => ?_⟩
      · rw [takenIn_cons, ← htaken]
        rfl
      · rw [hstate hnone, List.length_drop, List.length_cons]
        rw [List.length_cons] at hcount
        congr 1
        omega

end Writer

end Reftest.Run
