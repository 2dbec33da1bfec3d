import Reftest.Proofs.Arguments.Reading

namespace Reftest

/-- The faults that an item gives as soon as it is read. -/
inductive ArgumentFault.Decided : ArgumentFault → Prop where
  | help : Decided .help
  | version : Decided .version
  | unexpected (argument : String) : Decided (.unexpected argument)
  | flagRepeated (flag : Flag) : Decided (.flagRepeated flag)
  | valueUnneeded (switch : Switch) (value : String) : Decided (.valueUnneeded switch value)

inductive Asks : String → ArgumentFault → Prop where
  | help : Asks "--help" .help
  | shortHelp : Asks "-h" .help
  | version : Asks "--version" .version
  | shortVersion : Asks "-V" .version

namespace Arguments

variable {arguments : Arguments} {fault : ArgumentFault}

theorem not_decided_of_textOf {octets : Octets} (h : textOf octets = .error fault) :
    ¬ fault.Decided := by
  unfold textOf at h
  split at h
  · cases h
  · cases h
    rintro ⟨⟩

theorem not_decided_of_pathOf {option : ValueOption} {octets : Octets}
    (h : pathOf option octets = .error fault) : ¬ fault.Decided := by
  unfold pathOf at h
  split at h
  · cases h
    rintro ⟨⟩
  · cases h

theorem not_decided_of_setValue {option : ValueOption} {octets : Octets}
    (h : arguments.setValue option octets = .error fault) : ¬ fault.Decided := by
  cases option with
  | harness => exact not_decided_of_textOf (map_eq_error h)
  | browser => exact not_decided_of_textOf (map_eq_error h)
  | analyzer => exact not_decided_of_textOf (map_eq_error h)
  | log => exact not_decided_of_pathOf (map_eq_error h)
  | config => exact not_decided_of_pathOf (map_eq_error h)

theorem not_decided_of_take {pending : Pending} (h : arguments.take pending = .error fault) :
    ¬ fault.Decided := by
  cases pending with
  | awaiting option =>
      cases h
      rintro ⟨⟩
  | valued option octets =>
      change arguments.give option octets = .error fault at h
      unfold give at h
      split at h
      · cases h
        rintro ⟨⟩
      · exact not_decided_of_setValue h
  | suite octets => exact not_decided_of_textOf (map_eq_error h)

end Arguments

namespace Reading

variable {reading reading' : Reading} {arguments : Arguments} {fault : ArgumentFault}
  {item : Octets} {items rest : List Octets}

theorem not_decided_of_settle (h : reading.settle = .error fault) : ¬ fault.Decided := by
  unfold settle at h
  split at h
  · cases h
  · exact Arguments.not_decided_of_take h

theorem finish_append_of_decided (hdecided : fault.Decided)
    (h : reading.finish items = .error fault) (rest : List Octets) :
    reading.finish (items ++ rest) = .error fault := by
  unfold finish at h
  split at h
  · rename_i fault' hfold
    cases h
    rw [finish, List.foldlM_append, hfold]
    rfl
  -- every item was read, and only what was left pending is at fault
  · exact absurd hdecided (not_decided_of_settle h)

theorem escaped_readPositional (h : reading.readPositional item = .ok reading') :
    reading'.escaped = reading.escaped := by
  unfold readPositional at h
  split at h
  · cases h
  · obtain ⟨arguments, -, rfl⟩ := map_eq_ok h
    rfl

theorem escaped_readPlain (h : reading.readPlain item = .ok reading') :
    reading'.escaped = reading.escaped := by
  unfold readPlain at h
  split at h
  · cases h
    rfl
  · exact escaped_readPositional h

theorem escaped_readSwitch {switch : Switch} (h : reading.readSwitch switch = .ok reading') :
    reading'.escaped = reading.escaped := by
  unfold readSwitch at h
  split at h
  · cases h
  · obtain ⟨arguments, -, rfl⟩ := map_eq_ok h
    rfl

theorem escaped_readLong {name : Octets} {value : Option Octets}
    (h : reading.readLong name value = .ok reading') : reading'.escaped = reading.escaped := by
  unfold readLong at h
  split at h
  · cases h
  · cases h
  · exact escaped_readSwitch h
  · obtain ⟨arguments, -, rfl⟩ := map_eq_ok h
    rfl
  · split at h
    · cases h
    · obtain ⟨arguments, -, rfl⟩ := map_eq_ok h
      rfl

theorem escaped_readCluster {options : List (Option Char)}
    (h : reading.readCluster options = .ok reading') : reading'.escaped = reading.escaped := by
  induction options generalizing reading with
  | nil =>
      cases h
      rfl
  | cons first others ih =>
      cases first with
      | none => cases h
      | some c =>
          rw [readCluster] at h
          split at h
          · cases h
          · split at h
            · cases h
            · rename_i next hnext
              rw [ih h, escaped_readSwitch hnext]

theorem escaped_readItem (h : reading.readItem item = .ok reading') :
    reading'.escaped = true ↔ reading.escaped = true ∨ item = Token.dashes := by
  unfold readItem at h
  split at h
  · rename_i hescaped
    simp only [escaped_readPositional h, hescaped, true_or]
  · rename_i hopen
    by_cases hitem : item = Token.dashes
    · subst hitem
      rw [Token.ofOctets_dashes] at h
      cases h
      simp only [or_true]
    · have hkept : reading'.escaped = reading.escaped := by
        rcases Token.ofOctets_form item with
          ⟨htoken, -⟩ | ⟨-, hdashes⟩ | ⟨name, value, htoken, -⟩ | ⟨first, rest, htoken, -⟩
        · rw [htoken] at h
          exact escaped_readPlain h
        · exact absurd hdashes hitem
        · rw [htoken] at h
          exact escaped_readLong h
        · rw [htoken] at h
          exact escaped_readCluster h
      simp only [hkept, hitem, or_false]

theorem escaped_foldlM (h : items.foldlM readItem reading = .ok reading') :
    reading'.escaped = true ↔ reading.escaped = true ∨ Token.dashes ∈ items := by
  induction items generalizing reading with
  | nil =>
      obtain rfl := foldlM_nil_eq_ok.mp h
      simp only [List.not_mem_nil, or_false]
  | cons item items ih =>
      obtain ⟨next, hnext, h⟩ := foldlM_cons_eq_ok.mp h
      rw [ih h, escaped_readItem hnext, List.mem_cons, or_assoc, @eq_comm _ item]

theorem open_of_foldlM (h : items.foldlM readItem {} = .ok reading)
    (hdashes : Token.dashes ∉ items) : reading.escaped = false := by
  refine Bool.eq_false_iff.mpr fun hescaped => ?_
  rcases (escaped_foldlM h).mp hescaped with hstart | hmem
  · cases hstart
  · exact hdashes hmem

theorem finish_eq_ok (h : reading.finish items = .ok arguments) :
    ∃ reading', items.foldlM readItem reading = .ok reading' ∧
      reading'.settle = .ok arguments := by
  unfold finish at h
  split at h
  · cases h
  · exact ⟨_, ‹_›, h⟩

theorem readSwitch_of_turn {switch : Switch} (hsettle : reading.settle = .ok arguments)
    (hturn : arguments.turn switch = .error fault) : reading.readSwitch switch = .error fault := by
  rw [readSwitch, hsettle]
  change (arguments.turn switch).map _ = _
  rw [hturn]
  rfl

theorem readCluster_of_error {c : Char} {switch : Switch} (hshort : Switch.ofShort? c = some switch)
    (h : reading.readSwitch switch = .error fault) (rest : List (Option Char)) :
    reading.readCluster (some c :: rest) = .error fault := by
  simp only [readCluster, hshort, h]

theorem readItem_of_asks {text : String} (hasks : Asks text fault)
    (hopen : reading.escaped = false) (hsettle : reading.settle = .ok arguments) :
    reading.readItem (Octets.ofText text) = .error fault := by
  have hhelp : reading.readSwitch .help = .error .help := readSwitch_of_turn hsettle rfl
  have hversion : reading.readSwitch .version = .error .version := readSwitch_of_turn hsettle rfl
  rw [readItem, hopen]
  cases hasks with
  | help => exact hhelp
  | shortHelp =>
      change reading.readCluster (Utf8.units (Utf8.encode ['h'])) = _
      rw [Utf8.units_encode]
      exact readCluster_of_error rfl hhelp []
  | version => exact hversion
  | shortVersion =>
      change reading.readCluster (Utf8.units (Utf8.encode ['V'])) = _
      rw [Utf8.units_encode]
      exact readCluster_of_error rfl hversion []

theorem finish_error {items : List Octets} (h : reading.readItem item = .error fault) :
    reading.finish (item :: items) = .error fault := by
  rw [finish, List.foldlM_cons, h]
  rfl

end Reading

namespace Arguments

variable {fault : ArgumentFault} {text : String}

/-- What the end of a command line can do to what its beginning says. -/
structure Finality : Prop where
  decided : ∀ (items : List Octets) (fault : ArgumentFault), fault.Decided →
    read items = .error fault → ∀ rest : List Octets, read (items ++ rest) = .error fault
  asked : ∀ (items : List Octets) (arguments : Arguments), read items = .ok arguments →
    Token.dashes ∉ items → ∀ (text : String) (fault : ArgumentFault), Asks text fault →
      ∀ rest : List Octets, read (items ++ Octets.ofText text :: rest) = .error fault
  named : ∀ (items : List Octets) (arguments : Arguments), read items = .ok arguments →
    Token.dashes ∈ items → arguments.suite = none →
      ∀ (text : String) (fault : ArgumentFault), Asks text fault →
        read (items ++ [Octets.ofText text]) = .ok { arguments with suite := some text }

theorem read_of_asks {items : List Octets} {arguments : Arguments}
    (h : read items = .ok arguments) (hopen : Token.dashes ∉ items) (hasks : Asks text fault)
    (rest : List Octets) : read (items ++ Octets.ofText text :: rest) = .error fault := by
  obtain ⟨reading, hfold, hsettle⟩ := Reading.finish_eq_ok h
  have hitem := Reading.readItem_of_asks hasks (Reading.open_of_foldlM hfold hopen) hsettle
  exact (Reading.finish_append hfold _).trans (Reading.finish_error hitem)

theorem read_of_dashes {items : List Octets} {arguments : Arguments}
    (h : read items = .ok arguments) (hdashes : Token.dashes ∈ items)
    (hfree : arguments.suite = none) (text : String) :
    read (items ++ [Octets.ofText text]) = .ok { arguments with suite := some text } := by
  obtain ⟨reading, hfold, hsettle⟩ := Reading.finish_eq_ok h
  have hescaped : reading.escaped = true := (Reading.escaped_foldlM hfold).mpr (Or.inr hdashes)
  have hitem := Reading.readItem_escaped hescaped hsettle (by rw [hfree]; rfl) (Octets.ofText text)
  refine (Reading.finish_append hfold _).trans ((Reading.finish_cons hitem []).trans ?_)
  change (textOf (Octets.ofText text)).map _ = _
  rw [textOf, Octets.text?_ofText]
  rfl

theorem finality : Finality where
  decided _ _ hdecided h := Reading.finish_append_of_decided hdecided h
  asked _ _ h hopen _ _ hasks := read_of_asks h hopen hasks
  named _ _ h hdashes hfree text _ _ := read_of_dashes h hdashes hfree text

/-- A request decides, unless it comes behind another fault or where only a name can stand. -/
theorem finality_noOpen :
    read ([Octets.ofText "--no-open"] ++ Octets.ofText "-h" :: [Octets.ofText "--bogus"]) =
        .error .help ∧
      read ([Octets.ofText "--no-open", Octets.ofText "--no-open"] ++ [Octets.ofText "-h"]) =
        .error (.flagRepeated .noOpen) ∧
      read ([Octets.ofText "--no-open", Octets.ofText "--"] ++ [Octets.ofText "-h"]) =
        .ok { noOpen := true, suite := some "-h" } := by
  have hplain : read [Octets.ofText "--no-open"] = .ok { noOpen := true } := by rfl
  have htwice : read [Octets.ofText "--no-open", Octets.ofText "--no-open"] =
      .error (.flagRepeated .noOpen) := by rfl
  have hdashes : read [Octets.ofText "--no-open", Octets.ofText "--"] =
      .ok { noOpen := true } := by rfl
  exact ⟨finality.asked _ _ hplain (by decide) "-h" _ .shortHelp _,
    finality.decided _ _ (.flagRepeated .noOpen) htwice _,
    finality.named _ _ hdashes (by decide) rfl "-h" _ .shortHelp⟩

end Arguments

end Reftest
