import Reftest.Run.Verdict

namespace Reftest.Run

namespace Writer

/-- How many of the octets offered are taken in the end. -/
def share (writer : Writer) (before offered : Nat) : Nat :=
  if writer.chunk = some 0 then 0
  else min offered ((writer.limit.map (· - before)).getD offered)

def refusal (writer : Writer) (before : Nat) : Failure :=
  if writer.exhausted before then writer.failure.getD .nothingWritten else .nothingWritten

theorem share_le (writer : Writer) (before offered : Nat) :
    writer.share before offered ≤ offered := by
  unfold share
  split
  · exact Nat.zero_le _
  · exact Nat.min_le_left ..

theorem share_eq_zero_of_room {writer : Writer} {before offered : Nat}
    (h : writer.room before offered = 0) : writer.share before offered = 0 := by
  unfold room at h
  unfold share
  cases hchunk : writer.chunk with
  | none => simp_all
  | some chunk =>
      cases chunk with
      | zero => simp
      | succ chunk =>
          simp only [hchunk, Option.getD_some] at h
          rw [if_neg (by simp)]
          omega

theorem exhausted_iff (writer : Writer) (before : Nat) :
    writer.exhausted before = true ↔ ∃ limit, writer.limit = some limit ∧ limit ≤ before := by
  cases h : writer.limit <;> simp [exhausted, h]

theorem share_of_exhausted {writer : Writer} {before : Nat} (h : writer.exhausted before = true)
    (offered : Nat) : writer.share before offered = 0 := by
  obtain ⟨limit, hlimit, hle⟩ := (exhausted_iff writer before).mp h
  unfold share
  split
  · rfl
  · simp [hlimit]
    omega

theorem share_sub {writer : Writer} {before offered count : Nat}
    (hroom : writer.room before offered = count + 1) :
    writer.share before offered =
      count + 1 + writer.share (before + count + 1) (offered - (count + 1)) := by
  have hchunk : writer.chunk ≠ some 0 := by
    intro hzero
    simp [room, hzero] at hroom
  unfold room at hroom
  unfold share
  rw [if_neg hchunk, if_neg hchunk]
  cases hlimit : writer.limit with
  | none =>
      simp only [hlimit, Option.map_none, Option.getD_none] at hroom ⊢
      omega
  | some limit =>
      simp only [hlimit, Option.map_some, Option.getD_some] at hroom ⊢
      omega

theorem respond_eq_error {writer : Writer} {before offered : Nat} {failure : Failure}
    (h : writer.respond before offered = .error failure) :
    writer.exhausted before = true ∧ writer.failure = some failure := by
  unfold respond at h
  split at h
  · rename_i hexhausted hfailure
    cases h
    exact ⟨hexhausted, hfailure⟩
  · cases h

theorem respond_eq_ok {writer : Writer} {before offered count : Nat}
    (h : writer.respond before offered = .ok count) :
    writer.room before offered = count ∧ writer.refusal before = .nothingWritten := by
  unfold respond at h
  split at h
  · cases h
  · rename_i hopen
    refine ⟨Except.ok.inj h, ?_⟩
    unfold refusal
    split
    · rename_i hexhausted
      cases hfailure : writer.failure with
      | none => rfl
      | some failure => exact absurd hfailure (hopen failure hexhausted)
    · rfl

theorem length_drop_sub (octet : UInt8) (rest : Octets) (count : Nat) :
    (octet :: rest).length - (count + 1) = (rest.drop count).length := by
  simp only [List.length_cons, List.length_drop]
  omega

theorem taken_deliver (writer : Writer) (interrupts before : Nat) (octets : Octets) :
    (writer.deliver interrupts before octets).taken =
      octets.take (writer.share before octets.length) := by
  fun_induction deliver writer interrupts before octets with
  | case1 => simp
  | case2 before octet rest interrupts ih => exact ih
  | case3 before octet rest failure hrespond =>
      simp [share_of_exhausted (respond_eq_error hrespond).1]
  | case4 before octet rest hrespond =>
      simp [share_eq_zero_of_room (respond_eq_ok hrespond).1]
  | case5 before octet rest count hrespond delivery ih =>
      have hshare := share_sub (respond_eq_ok hrespond).1
      rw [← List.length_cons (a := octet), length_drop_sub, Nat.add_right_comm count 1] at hshare
      rw [ih, hshare, List.take_succ_cons, List.take_add]
      rfl

theorem failure_deliver (writer : Writer) (interrupts before : Nat) (octets : Octets) :
    (writer.deliver interrupts before octets).failure =
      if writer.share before octets.length = octets.length then none
      else some (writer.refusal (before + writer.share before octets.length)) := by
  fun_induction deliver writer interrupts before octets with
  | case1 interrupts before =>
      have hnone := writer.share_le before 0
      rw [if_pos (by simpa using hnone)]
  | case2 before octet rest interrupts ih => exact ih
  | case3 before octet rest failure hrespond =>
      obtain ⟨hexhausted, hfailure⟩ := respond_eq_error hrespond
      simp [share_of_exhausted hexhausted, refusal, hexhausted, hfailure]
  | case4 before octet rest hrespond =>
      obtain ⟨hroom, hrefusal⟩ := respond_eq_ok hrespond
      simp [share_eq_zero_of_room hroom, hrefusal]
  | case5 before octet rest count hrespond delivery ih =>
      have hshare := share_sub (respond_eq_ok hrespond).1
      rw [← List.length_cons (a := octet), length_drop_sub] at hshare
      have hlength := length_drop_sub octet rest count
      have hle : count + 1 ≤ (octet :: rest).length := by
        have := writer.share_le before (octet :: rest).length
        omega
      rw [ih, hshare]
      by_cases hall : writer.share (before + count + 1) (rest.drop count).length =
          (rest.drop count).length
      · rw [if_pos hall, if_pos (by omega)]
      · rw [if_neg hall, if_neg (by omega)]
        simp only [Nat.add_assoc]

end Writer

def message : Octets := Octets.ofText "All tests passed.\n"

theorem message_eq : message = passText ++ lineFeed := rfl

namespace Writer

def received (writer : Writer) : Octets :=
  message.take (writer.share 0 message.length)

/-- Why the message cannot be delivered: it is not taken as a whole, or not flushed. -/
def obstacle? (writer : Writer) : Option Failure :=
  if writer.share 0 message.length = message.length then writer.flushFailure
  else some (writer.refusal (writer.share 0 message.length))

theorem received_of_obstacle?_eq_none {writer : Writer} (h : writer.obstacle? = none) :
    writer.received = message := by
  unfold obstacle? at h
  split at h
  · rename_i hall
    rw [received, hall, List.take_length]
  · cases h

theorem obstacle?_eq_none_iff {writer : Writer} :
    writer.obstacle? = none ↔ writer.received = message ∧ writer.flushFailure = none := by
  constructor
  · intro h
    refine ⟨received_of_obstacle?_eq_none h, ?_⟩
    unfold obstacle? at h
    split at h
    · exact h
    · cases h
  · rintro ⟨hreceived, hflush⟩
    have hall : writer.share 0 message.length = message.length := by
      have hlength := congrArg List.length hreceived
      rw [received, List.length_take] at hlength
      have hle := writer.share_le 0 message.length
      omega
    rw [obstacle?, if_pos hall, hflush]

end Writer

theorem Writer.share_append (writer : Writer) (first second : Nat) :
    writer.share 0 (first + second) =
      if writer.share 0 first = first then first + writer.share first second
      else writer.share 0 first := by
  unfold share
  split
  · split <;> omega
  · cases writer.limit with
    | none => simp
    | some limit =>
        simp only [Option.map_some, Option.getD_some]
        split <;> omega

theorem length_message : message.length = passText.length + lineFeed.length := rfl

/-! The message goes to the writer in two parts, the second only behind the whole first. -/

section

variable {writer : Writer}

theorem announce_of_part (h : writer.share 0 passText.length ≠ passText.length) (world : World) :
    announce writer world =
      ⟨.error (.io (writer.refusal (writer.share 0 passText.length))), world,
        [.verdict (passText.take (writer.share 0 passText.length))]⟩ := by
  have hfailure := writer.failure_deliver writer.interrupts 0 passText
  rw [if_neg h, Nat.zero_add] at hfailure
  simp only [announce, hfailure, Writer.taken_deliver]

theorem announce_of_line (h : writer.share 0 passText.length = passText.length)
    (hline : writer.share passText.length lineFeed.length ≠ lineFeed.length) (world : World) :
    announce writer world =
      ⟨.error (.io (writer.refusal
          (passText.length + writer.share passText.length lineFeed.length))), world,
        [.verdict passText,
          .verdict (lineFeed.take (writer.share passText.length lineFeed.length))]⟩ := by
  have hfirst := writer.failure_deliver writer.interrupts 0 passText
  rw [if_pos h] at hfirst
  have hsecond := writer.failure_deliver
    (writer.deliver writer.interrupts 0 passText).interrupts passText.length lineFeed
  rw [if_neg hline] at hsecond
  simp only [announce, hfirst, hsecond, Writer.taken_deliver, h, List.take_length]

theorem announce_of_whole (h : writer.share 0 passText.length = passText.length)
    (hline : writer.share passText.length lineFeed.length = lineFeed.length) (world : World) :
    announce writer world =
      ⟨match writer.flushFailure with
        | none => .ok ()
        | some failure => .error (.io failure),
        world, [.verdict passText, .verdict lineFeed, .flush]⟩ := by
  have hfirst := writer.failure_deliver writer.interrupts 0 passText
  rw [if_pos h] at hfirst
  have hsecond := writer.failure_deliver
    (writer.deliver writer.interrupts 0 passText).interrupts passText.length lineFeed
  rw [if_pos hline] at hsecond
  simp only [announce, hfirst, hsecond, Writer.taken_deliver, h, hline, List.take_length]
  cases writer.flushFailure <;> rfl

end

theorem announce_cases (writer : Writer) :
    ∃ (result : Except Fault Unit) (trace : Trace),
      (∀ world, announce writer world = ⟨result, world, trace⟩) ∧
        ∀ happening ∈ trace, happening = .flush ∨ ∃ octets, happening = .verdict octets := by
  by_cases h : writer.share 0 passText.length = passText.length
  · by_cases hline : writer.share passText.length lineFeed.length = lineFeed.length
    · exact ⟨_, _, announce_of_whole h hline, by simp⟩
    · exact ⟨_, _, announce_of_line h hline, by simp⟩
  · exact ⟨_, _, announce_of_part h, by simp⟩

theorem announce_eq (writer : Writer) (world : World) :
    (announce writer world).result =
        (match writer.obstacle? with
          | none => .ok ()
          | some failure => .error (.io failure)) ∧
      (announce writer world).trace.verdict = writer.received := by
  unfold Writer.obstacle? Writer.received
  have hwhole := writer.share_append passText.length lineFeed.length
  rw [← length_message] at hwhole
  by_cases h : writer.share 0 passText.length = passText.length
  · rw [if_pos h] at hwhole
    have hreceived : message.take (passText.length + writer.share passText.length lineFeed.length) =
        passText ++ lineFeed.take (writer.share passText.length lineFeed.length) :=
      List.take_length_add_append _
    by_cases hline : writer.share passText.length lineFeed.length = lineFeed.length
    · rw [announce_of_whole h hline, hwhole, hreceived, hline, List.take_length,
        if_pos length_message.symm]
      exact ⟨rfl, by simp [Trace.verdict]⟩
    · rw [announce_of_line h hline, hwhole, hreceived, if_neg (by rw [length_message]; omega)]
      exact ⟨rfl, by simp [Trace.verdict]⟩
  · rw [if_neg h] at hwhole
    have hle := writer.share_le 0 passText.length
    have hreceived : message.take (writer.share 0 passText.length) =
        passText.take (writer.share 0 passText.length) :=
      List.take_append_of_le_length hle
    rw [announce_of_part h, hwhole, hreceived, if_neg (by rw [length_message]; omega)]
    exact ⟨rfl, by simp [Trace.verdict]⟩

end Reftest.Run
