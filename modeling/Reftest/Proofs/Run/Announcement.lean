import Reftest.Proofs.Run.Log
import Reftest.Proofs.Run.Sink
import Reftest.Proofs.Run.Streams

namespace Reftest.Run

variable {State : Type u}

namespace Sink

def textCalls (sink : Sink State) : List Exchange × State :=
  sink.deliver sink.start passText

def lineCalls (sink : Sink State) : List Exchange × State :=
  sink.deliver sink.textCalls.2 lineFeed

/-- All calls for the message, up to the first that is refused. -/
def exchanges (sink : Sink State) : List Exchange :=
  match refusalIn? sink.textCalls.1, refusalIn? sink.lineCalls.1 with
  | some _, _ => sink.textCalls.1
  | none, some _ => sink.textCalls.1 ++ sink.lineCalls.1
  | none, none => sink.textCalls.1 ++ sink.lineCalls.1 ++ [.flush (sink.flush sink.lineCalls.2)]

def received (sink : Sink State) : Octets :=
  takenIn sink.exchanges

end Sink

def announceInto (sink : Sink State) : Stage Unit :=
  fun world =>
    match refusalIn? sink.textCalls.1 with
    | some failure => ⟨.error (.io failure), world, [.verdict (takenIn sink.textCalls.1)]⟩
    | none =>
      let written : Trace :=
        [.verdict (takenIn sink.textCalls.1), .verdict (takenIn sink.lineCalls.1)]
      match refusalIn? sink.lineCalls.1 with
      | some failure => ⟨.error (.io failure), world, written⟩
      | none =>
        match sink.flush sink.lineCalls.2 with
        | some failure => ⟨.error (.io failure), world, written ++ [.flush]⟩
        | none => ⟨.ok (), world, written ++ [.flush]⟩

/-- A run like `run`, for any writer. -/
def runInto (settings : Settings) (sink : Sink State) : Stage Outcome := do
  let ending ← harnessEnding settings
  if ending.succeeded then
    Stage.tell .info .runner "Harness passed"
    announceInto sink
    pure .passed
  else reactToFailure settings ending

/-! A writer with a limit is such a writer. -/

theorem announceInto_sink (writer : Writer) : announceInto writer.sink = announce writer := by
  funext world
  obtain ⟨htaken, hrefusal, hstate⟩ := writer.deliver_sink writer.interrupts 0 passText
  change _ = takenIn writer.sink.textCalls.1 at htaken
  change _ = refusalIn? writer.sink.textCalls.1 at hrefusal
  change _ → writer.sink.textCalls.2 = _ at hstate
  cases hfirst : (writer.deliver writer.interrupts 0 passText).failure with
  | some failure =>
      rw [hfirst] at hrefusal
      simp only [announceInto, announce, hfirst, ← hrefusal, ← htaken]
  | none =>
      obtain ⟨htaken', hrefusal', -⟩ := writer.deliver_sink
        (writer.deliver writer.interrupts 0 passText).interrupts passText.length lineFeed
      have hline : writer.sink.lineCalls = writer.sink.deliver
          ((writer.deliver writer.interrupts 0 passText).interrupts, passText.length)
          lineFeed := by
        rw [Sink.lineCalls, hstate hfirst, Nat.zero_add]
      rw [← hline] at htaken' hrefusal'
      have hflush (state : Nat × Nat) : writer.sink.flush state = writer.flushFailure := rfl
      rw [hfirst] at hrefusal
      simp only [announceInto, announce, hfirst, ← hrefusal, ← htaken, ← hrefusal', ← htaken',
        hflush]
      rfl

theorem runInto_sink (settings : Settings) (writer : Writer) :
    runInto settings writer.sink = run settings writer := by
  rw [runInto, announceInto_sink, run]

/-! And to the message any writer is like one with a limit. -/

theorem share_limited (limit : Nat) (failure : Option Failure) (before offered : Nat) :
    ({ limit := some limit, failure } : Writer).share before offered =
      min offered (limit - before) :=
  if_neg nofun

theorem refusal_limited (limit : Nat) (failure : Failure) :
    ({ limit := some limit, failure := some failure } : Writer).refusal limit = failure :=
  if_pos (decide_eq_true (Nat.le_refl limit))

namespace Sink

def writer (sink : Sink State) : Writer :=
  if sink.received = message then { flushFailure := refusalIn? sink.exchanges }
  else { limit := some sink.received.length, failure := refusalIn? sink.exchanges }

variable {sink : Sink State} {failure : Failure}

theorem exchanges_of_part (h : refusalIn? sink.textCalls.1 = some failure) :
    sink.exchanges = sink.textCalls.1 := by
  simp only [exchanges, h]

theorem exchanges_of_line (h : refusalIn? sink.textCalls.1 = none)
    (hline : refusalIn? sink.lineCalls.1 = some failure) :
    sink.exchanges = sink.textCalls.1 ++ sink.lineCalls.1 := by
  simp only [exchanges, h, hline]

theorem exchanges_of_whole (h : refusalIn? sink.textCalls.1 = none)
    (hline : refusalIn? sink.lineCalls.1 = none) :
    sink.exchanges =
      sink.textCalls.1 ++ sink.lineCalls.1 ++ [.flush (sink.flush sink.lineCalls.2)] := by
  simp only [exchanges, h, hline]

theorem taken_textCalls (h : refusalIn? sink.textCalls.1 = none) :
    takenIn sink.textCalls.1 = passText := by
  obtain ⟨rest, hpart, hrest⟩ := sink.taken_deliver sink.start passText
  rw [hrest.mp h, List.append_nil] at hpart
  exact hpart.symm

theorem taken_lineCalls (h : refusalIn? sink.lineCalls.1 = none) :
    takenIn sink.lineCalls.1 = lineFeed := by
  obtain ⟨rest, hpart, hrest⟩ := sink.taken_deliver sink.textCalls.2 lineFeed
  rw [hrest.mp h, List.append_nil] at hpart
  exact hpart.symm

inductive Receives (sink : Sink State) : Prop
  | part {failure : Failure} {rest : Octets} (hrefusal : refusalIn? sink.textCalls.1 = some failure)
      (hpart : passText = takenIn sink.textCalls.1 ++ rest) (hrest : rest ≠ [])
  | line {failure : Failure} {rest : Octets} (htext : refusalIn? sink.textCalls.1 = none)
      (hrefusal : refusalIn? sink.lineCalls.1 = some failure)
      (hpart : lineFeed = takenIn sink.lineCalls.1 ++ rest) (hrest : rest ≠ [])
  | whole (htext : refusalIn? sink.textCalls.1 = none) (hline : refusalIn? sink.lineCalls.1 = none)

theorem receives (sink : Sink State) : sink.Receives := by
  obtain ⟨rest, hpart, hrest⟩ := sink.taken_deliver sink.start passText
  obtain ⟨rest', hpart', hrest'⟩ := sink.taken_deliver sink.textCalls.2 lineFeed
  cases htext : refusalIn? sink.textCalls.1 with
  | some failure => exact .part htext hpart fun h => nomatch htext.symm.trans (hrest.mpr h)
  | none =>
      cases hline : refusalIn? sink.lineCalls.1 with
      | some failure =>
          exact .line htext hline hpart' fun h => nomatch hline.symm.trans (hrest'.mpr h)
      | none => exact .whole htext hline

theorem refusal_of_part (h : refusalIn? sink.textCalls.1 = some failure) :
    refusalIn? sink.exchanges = some failure := by
  rw [exchanges_of_part h, h]

theorem refusal_of_line (h : refusalIn? sink.textCalls.1 = none)
    (hline : refusalIn? sink.lineCalls.1 = some failure) :
    refusalIn? sink.exchanges = some failure := by
  rw [exchanges_of_line h hline, refusalIn?_append h, hline]

theorem refusal_of_whole (h : refusalIn? sink.textCalls.1 = none)
    (hline : refusalIn? sink.lineCalls.1 = none) :
    refusalIn? sink.exchanges = sink.flush sink.lineCalls.2 := by
  rw [exchanges_of_whole h hline, List.append_assoc, refusalIn?_append h, refusalIn?_append hline]
  rfl

theorem received_of_whole (h : refusalIn? sink.textCalls.1 = none)
    (hline : refusalIn? sink.lineCalls.1 = none) : sink.received = message := by
  rw [received, exchanges_of_whole h hline, takenIn_append, takenIn_append, taken_textCalls h,
    taken_lineCalls hline]
  exact List.append_nil _

theorem length_received_lt {rest : Octets} (h : message = sink.received ++ rest)
    (hrest : rest ≠ []) :
    sink.received.length < message.length := by
  have hlength := congrArg List.length h
  have hpositive := List.length_pos_iff.mpr hrest
  rw [List.length_append] at hlength
  omega

theorem writer_of_refused {rest : Octets} (hrefusal : refusalIn? sink.exchanges = some failure)
    (h : message = sink.received ++ rest) (hrest : rest ≠ []) :
    sink.writer = { limit := some sink.received.length, failure := some failure } := by
  have hlength := length_received_lt h hrest
  rw [writer, if_neg (fun hwhole => by rw [hwhole] at hlength; exact Nat.lt_irrefl _ hlength),
    hrefusal]

theorem announceInto_eq_announce (sink : Sink State) :
    announceInto sink = announce sink.writer := by
  funext world
  cases sink.receives with
  | @part failure rest hrefusal hpart hrest =>
      have hreceived : sink.received = takenIn sink.textCalls.1 := by
        rw [received, exchanges_of_part hrefusal]
      have hmessage : message = sink.received ++ (rest ++ lineFeed) := by
        rw [message_eq, hpart, hreceived, List.append_assoc]
      rw [← hreceived] at hpart
      have hlength := congrArg List.length hpart
      have hpositive := List.length_pos_iff.mpr hrest
      rw [List.length_append] at hlength
      have hwriter := writer_of_refused (refusal_of_part hrefusal) hmessage (by simp [hrest])
      have hshare : sink.writer.share 0 passText.length = sink.received.length := by
        rw [hwriter, share_limited]
        omega
      rw [announce_of_part (by omega), hshare, hwriter, refusal_limited, hpart, List.take_left]
      simp only [announceInto, hrefusal, hreceived]
  | @line failure rest htext hrefusal hpart hrest =>
      have htaken := taken_textCalls htext
      have hreceived : sink.received = passText ++ takenIn sink.lineCalls.1 := by
        rw [received, exchanges_of_line htext hrefusal, takenIn_append, htaken]
      have hmessage : message = sink.received ++ rest := by
        rw [message_eq, hpart, hreceived, List.append_assoc]
      have hlength := congrArg List.length hpart
      have hpositive := List.length_pos_iff.mpr hrest
      rw [List.length_append] at hlength
      have hwriter := writer_of_refused (refusal_of_line htext hrefusal) hmessage hrest
      have htotal : sink.received.length = passText.length + (takenIn sink.lineCalls.1).length := by
        rw [hreceived, List.length_append]
      have hshare : sink.writer.share 0 passText.length = passText.length := by
        rw [hwriter, share_limited]
        omega
      have hline : sink.writer.share passText.length lineFeed.length =
          (takenIn sink.lineCalls.1).length := by
        rw [hwriter, share_limited]
        omega
      rw [announce_of_line hshare (by omega), hline, ← htotal, hwriter, refusal_limited, hpart,
        List.take_left]
      simp only [announceInto, htext, hrefusal, htaken]
  | whole htext hline =>
      have hwriter : sink.writer = { flushFailure := sink.flush sink.lineCalls.2 } := by
        rw [writer, if_pos (received_of_whole htext hline), refusal_of_whole htext hline]
      have hshare (before offered : Nat) : sink.writer.share before offered = offered := by
        rw [hwriter]
        exact Nat.min_self offered
      rw [announce_of_whole (hshare _ _) (hshare _ _), hwriter]
      simp only [announceInto, htext, hline, taken_textCalls htext, taken_lineCalls hline]
      cases sink.flush sink.lineCalls.2 <;> rfl

theorem announceInto_eq (sink : Sink State) (world : World) :
    (announceInto sink world).result =
        (match refusalIn? sink.exchanges with
          | none => .ok ()
          | some failure => .error (.io failure)) ∧
      (announceInto sink world).trace.verdict = sink.received := by
  cases sink.receives with
  | part hrefusal =>
      rw [received, refusal_of_part hrefusal, exchanges_of_part hrefusal]
      simp [announceInto, hrefusal, Trace.verdict]
  | line htext hrefusal =>
      rw [received, refusal_of_line htext hrefusal, exchanges_of_line htext hrefusal]
      simp [announceInto, htext, hrefusal, Trace.verdict]
  | whole htext hline =>
      rw [refusal_of_whole htext hline, received_of_whole htext hline]
      simp only [announceInto, htext, hline, taken_textCalls htext, taken_lineCalls hline]
      cases sink.flush sink.lineCalls.2 <;> simp [Trace.verdict, message_eq]

theorem received_writer (sink : Sink State) : sink.writer.received = sink.received := by
  have h := (announce_eq sink.writer { files := .empty }).2
  rw [← announceInto_eq_announce, (announceInto_eq sink _).2] at h
  exact h.symm

theorem obstacle?_writer (sink : Sink State) :
    sink.writer.obstacle? = refusalIn? sink.exchanges := by
  have h := (announce_eq sink.writer { files := .empty }).1
  rw [← announceInto_eq_announce, (announceInto_eq sink _).1] at h
  cases hobstacle : sink.writer.obstacle? <;> cases hrefusal : refusalIn? sink.exchanges <;>
    simp_all

theorem refusal_eq_none_iff (sink : Sink State) :
    refusalIn? sink.exchanges = none ↔
      sink.received = message ∧ sink.exchanges.getLast? = some (.flush none) := by
  constructor
  · intro h
    cases sink.receives with
    | part hrefusal => cases (refusal_of_part hrefusal).symm.trans h
    | line htext hrefusal => cases (refusal_of_line htext hrefusal).symm.trans h
    | whole htext hline =>
        refine ⟨received_of_whole htext hline, ?_⟩
        rw [refusal_of_whole htext hline] at h
        rw [exchanges_of_whole htext hline, List.getLast?_concat, h]
  · rintro ⟨-, hlast⟩
    rw [refusalIn?, hlast]
    rfl

theorem received_isPrefix (sink : Sink State) {calls : List Exchange}
    (h : calls <+: sink.exchanges) : takenIn calls <+: message := by
  obtain ⟨rest, hrest⟩ := h
  have hall : sink.received <+: message := by
    rw [← received_writer]
    exact List.take_prefix _ _
  rw [received, ← hrest, takenIn_append] at hall
  exact (List.prefix_append _ _).trans hall

end Sink

variable {settings : Settings} {sink : Sink State} {world : World} {harness : Execution}

theorem runInto_eq_run (settings : Settings) (sink : Sink State) :
    runInto settings sink = run settings sink.writer := by
  rw [runInto, Sink.announceInto_eq_announce, run]

/-- A run with a harness that passed, by the calls of the writer. -/
structure Announced (settings : Settings) (sink : Sink State) (world : World)
    (harness : Execution) : Prop where
  received : ∀ {calls}, calls <+: sink.exchanges →
    takenIn calls <+: Octets.ofText "All tests passed.\n"
  verdict : (runInto settings sink world).trace.verdict = sink.received
  passed : (runInto settings sink world).result = .ok .passed ↔
    sink.received = Octets.ofText "All tests passed.\n" ∧
      sink.exchanges.getLast? = some (.flush none)
  failed : (runInto settings sink world).result ≠ .ok .passed →
    ∃ last failure, sink.exchanges.getLast? = some last ∧ last.refusal? = some failure ∧
      (runInto settings sink world).result = .error (.io failure)
  calls : (runInto settings sink world).trace.calls = [harness.launched.call]
  after : (runInto settings sink world).world = harness.after
  log : WritesLog settings world harness
  read : harness.Spares settings.logFile →
    (runInto settings sink world).world.read settings.logFile = .ok harness.output

/-- What a writer has to do with a run. -/
structure Delivers (settings : Settings) (sink : Sink State) (world : World) : Prop where
  announced : ∀ {harness}, harnessRun settings world = .ok harness →
    harness.ending = .exited 0 → Announced settings sink world harness
  unwritten : (∀ harness, harnessRun settings world = .ok harness →
    harness.ending ≠ .exited 0) → (runInto settings sink world).trace.Unwritten
  limited : runInto settings sink world = run settings sink.writer world

theorem result_runInto_of_passed (hharness : harnessRun settings world = .ok harness)
    (hending : harness.ending = .exited 0) (sink : Sink State) :
    (runInto settings sink world).result =
      match refusalIn? sink.exchanges with
      | none => .ok .passed
      | some failure => .error (.io failure) := by
  have hobstacle := sink.obstacle?_writer
  rw [runInto_eq_run, result_run, hharness]
  cases hrefusal : refusalIn? sink.exchanges with
  | none => simp [hending, hobstacle, hrefusal]
  | some failure => simp [hending, hobstacle, hrefusal]

theorem world_run_of_passed (hharness : harnessRun settings world = .ok harness)
    (hending : harness.ending = .exited 0) (writer : Writer) :
    (run settings writer world).world = harness.after := by
  obtain ⟨event, -, -, hran⟩ := harnessEnding_of_ok hharness
  rw [run_of_passed hran hending]

theorem read_after_harnessRun (hharness : harnessRun settings world = .ok harness)
    (hspares : harness.Spares settings.logFile) :
    harness.after.read settings.logFile = .ok harness.output := by
  obtain ⟨log, files, hlog, -, -⟩ := harnessRun_eq_ok hharness
  obtain ⟨hdirectory, hkeeps⟩ := keeps_of_harnessRun hharness hlog hspares
  rw [World.read, hdirectory]
  exact hkeeps.holds.read

theorem announced_runInto (hharness : harnessRun settings world = .ok harness)
    (hending : harness.ending = .exited 0) (sink : Sink State) :
    Announced settings sink world harness where
  received := sink.received_isPrefix
  verdict := by
    rw [runInto_eq_run, verdict_run_of_passed hharness hending, sink.received_writer]
  passed := by
    rw [result_runInto_of_passed hharness hending]
    refine Iff.trans ?_ sink.refusal_eq_none_iff
    cases refusalIn? sink.exchanges <;> simp
  failed h := by
    rw [result_runInto_of_passed hharness hending] at h ⊢
    cases hrefusal : refusalIn? sink.exchanges with
    | none =>
        rw [hrefusal] at h
        exact absurd rfl h
    | some failure =>
        obtain ⟨last, hlast, hfailure⟩ := Option.bind_eq_some_iff.mp hrefusal
        exact ⟨last, failure, hlast, hfailure, rfl⟩
  calls := by
    rw [runInto_eq_run, calls_run, executions_of_unopened hharness (.inl hending)]
    rfl
  after := by
    rw [runInto_eq_run, world_run_of_passed hharness hending]
  log := writesLog_of_harnessRun hharness
  read hspares := by
    rw [runInto_eq_run, world_run_of_passed hharness hending]
    exact read_after_harnessRun hharness hspares

/-- What any writer has to do with a run, and the writers with a limit are among them. -/
theorem delivers_runInto (settings : Settings) (world : World) :
    (∀ {State : Type u} (sink : Sink State), Delivers settings sink world) ∧
      ∀ writer, run settings writer world = runInto settings writer.sink world := by
  refine ⟨fun sink => ?_, fun writer => by rw [runInto_sink]⟩
  exact
    { announced := fun hharness hending => announced_runInto hharness hending sink
      unwritten := fun h => by
        rw [runInto_eq_run]
        exact unwritten_run h sink.writer
      limited := by rw [runInto_eq_run] }

def fullDevice : Sink Nat where
  start := 4
  write room offered :=
    if room = 0 then (.failed (.system 28), 0)
    else (.took (min room offered.length), room - min room offered.length)
  flush _ := none
  patience _ _ := 0
  took_le h := by
    split at h
    · cases h
    · cases h
      exact Nat.min_le_right _ _
  patience_lt h := by
    split at h <;> cases h

def passingWorld : World where
  files := FileTree.empty.set [Octets.ofText "headless.py"] (.file 0o755 (.program {}))

/-- The device has room for the beginning of the message only, and the run ends in its failure. -/
theorem delivers_runInto_fullDevice :
    (runInto (.ofConfig {}) fullDevice passingWorld).result = .error (.io (.system 28)) ∧
      (runInto (.ofConfig {}) fullDevice passingWorld).trace.verdict = Octets.ofText "All " := by
  have hfailed : fullDevice.deliver 0 (0x74 :: passText.drop 5) =
      ([.write (0x74 :: passText.drop 5) (.failed (.system 28))], 0) := Sink.deliver_of_failed rfl
  have htook : fullDevice.deliver 4 (0x41 :: passText.drop 1) =
      (.write (0x41 :: passText.drop 1) (.took 4) ::
        (fullDevice.deliver 0 (0x74 :: passText.drop 5)).1, _) := Sink.deliver_of_took rfl
  rw [hfailed] at htook
  have htext : fullDevice.textCalls.1 =
      [.write passText (.took 4), .write (passText.drop 4) (.failed (.system 28))] :=
    congrArg Prod.fst htook
  have hexchanges := Sink.exchanges_of_part (congrArg refusalIn? htext)
  rw [htext] at hexchanges
  have hreceived : fullDevice.received = Octets.ofText "All " := congrArg takenIn hexchanges
  have hdelivers := (delivers_runInto (.ofConfig {}) passingWorld).1 fullDevice
  have hannounced := hdelivers.announced rfl rfl
  have hshort : (runInto (.ofConfig {}) fullDevice passingWorld).result ≠ .ok .passed := by
    rw [Ne, hannounced.passed, hreceived]
    exact fun h => absurd h.1 (by decide)
  obtain ⟨last, failure, hlast, hfailure, hresult⟩ := hannounced.failed hshort
  rw [hexchanges] at hlast
  cases hlast
  cases hfailure
  exact ⟨hresult, hannounced.verdict.trans hreceived⟩

end Reftest.Run
