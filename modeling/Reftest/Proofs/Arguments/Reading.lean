import Reftest.Proofs.Arguments.Acceptance
import Reftest.Proofs.Arguments.Forms

namespace Reftest

namespace Reading

def finish (reading : Reading) (items : List Octets) : Except ArgumentFault Arguments :=
  match items.foldlM readItem reading with
  | .error fault => .error fault
  | .ok reading => reading.settle

theorem finish_nil (reading : Reading) : reading.finish [] = reading.settle := rfl

theorem finish_append {reading reading' : Reading} {items : List Octets}
    (h : items.foldlM readItem reading = .ok reading') (rest : List Octets) :
    reading.finish (items ++ rest) = reading'.finish rest := by
  rw [finish, List.foldlM_append, h]
  rfl

theorem finish_cons {reading reading' : Reading} {item : Octets}
    (h : reading.readItem item = .ok reading') (rest : List Octets) :
    reading.finish (item :: rest) = reading'.finish rest := by
  rw [finish, List.foldlM_cons, h]
  rfl

theorem finish_cons_eq_ok {reading : Reading} {item : Octets} {rest : List Octets}
    {arguments : Arguments} (h : reading.finish (item :: rest) = .ok arguments) :
    ∃ reading', reading.readItem item = .ok reading' ∧ reading'.finish rest = .ok arguments := by
  cases hitem : reading.readItem item with
  | error fault =>
      rw [finish, List.foldlM_cons, hitem] at h
      cases h
  | ok reading' => exact ⟨reading', rfl, (finish_cons hitem rest).symm.trans h⟩

theorem suite_setValue {arguments arguments' : Arguments} {option : ValueOption} {octets : Octets}
    (h : arguments.setValue option octets = .ok arguments') :
    arguments'.suite = arguments.suite := by
  cases option with
  | harness =>
      obtain ⟨text, -, rfl⟩ := Arguments.map_textOf_eq_ok h
      rfl
  | browser =>
      obtain ⟨text, -, rfl⟩ := Arguments.map_textOf_eq_ok h
      rfl
  | analyzer =>
      obtain ⟨text, -, rfl⟩ := Arguments.map_textOf_eq_ok h
      rfl
  | log =>
      obtain ⟨-, rfl⟩ := Arguments.map_pathOf_eq_ok h
      rfl
  | config =>
      obtain ⟨-, rfl⟩ := Arguments.map_pathOf_eq_ok h
      rfl

theorem hasSuite_eq {reading : Reading} {arguments : Arguments}
    (h : reading.settle = .ok arguments) : reading.hasSuite = arguments.suite.isSome := by
  obtain ⟨before, pending, escaped⟩ := reading
  cases pending with
  | none =>
      obtain rfl := Except.ok.inj h
      rfl
  | some pending =>
      cases pending with
      | awaiting option => cases h
      | valued option octets =>
          have haccept : before.accept (.value option octets) = .ok arguments := h
          obtain ⟨-, hput⟩ := Arguments.accept_eq_ok.mp haccept
          exact congrArg Option.isSome (suite_setValue hput).symm
      | suite octets =>
          obtain ⟨text, -, rfl⟩ := Arguments.map_textOf_eq_ok h
          rfl

theorem readPositional_eq {reading : Reading} {arguments : Arguments}
    (h : reading.settle = .ok arguments) (octets : Octets) :
    reading.readPositional octets =
      if arguments.suite.isSome then .error (.unexpected octets.shown)
      else .ok (reading.proceed arguments (some (.suite octets))) := by
  rw [readPositional, hasSuite_eq h, h]
  rfl

theorem readPlain_eq {reading : Reading} {arguments : Arguments}
    (h : reading.settle = .ok arguments) (octets : Octets) :
    reading.readPlain octets = reading.readPositional octets := by
  obtain ⟨before, pending, escaped⟩ := reading
  cases pending with
  | none => rfl
  | some pending =>
      cases pending with
      | awaiting option => cases h
      | valued option value => rfl
      | suite value => rfl

theorem foldlM_spelled {given : Given} {spelling : List Octets} (hspelled : given.Spelled spelling)
    {reading : Reading} {arguments arguments' : Arguments} (hopen : reading.escaped = false)
    (hsettle : reading.settle = .ok arguments) (haccept : arguments.accept given = .ok arguments') :
    ∃ reading', spelling.foldlM readItem reading = .ok reading' ∧
      reading'.settle = .ok arguments' ∧ reading'.escaped = false := by
  cases hspelled with
  | joined option octets =>
      have hgive : arguments.give option octets = .ok arguments' := haccept
      refine ⟨reading.proceed arguments' none, ?_, rfl, hopen⟩
      rw [List.foldlM_cons, readItem, hopen, Token.ofOctets_joined]
      simp only [readLong, Meaning.ofLong?_name, hsettle, hgive]
      rfl
  | separate option octets hplain =>
      refine ⟨⟨arguments, some (.valued option octets), false⟩, ?_, haccept, rfl⟩
      rw [List.foldlM_cons, readItem, hopen, Token.ofOctets_spelling]
      simp only [readLong, Meaning.ofLong?_name, hsettle]
      change [octets].foldlM readItem (reading.proceed arguments (some (.awaiting option))) = _
      rw [List.foldlM_cons, readItem, if_neg (by simp [proceed, hopen]),
        Token.ofOctets_plain hplain]
      change Except.ok (Reading.mk arguments _ reading.escaped) = _
      rw [hopen]
  | long flag =>
      obtain ⟨name, htoken, hname⟩ := Token.ofOctets_flag flag
      have hturn : arguments.turn (.flag flag) = .ok arguments' := haccept
      refine ⟨reading.proceed arguments' none, ?_, rfl, hopen⟩
      rw [List.foldlM_cons, readItem, hopen, htoken]
      simp only [readLong, hname, readSwitch, hsettle, hturn]
      rfl
  | short =>
      have hturn : arguments.turn (.flag .verbose) = .ok arguments' := haccept
      refine ⟨reading.proceed arguments' none, ?_, rfl, hopen⟩
      rw [List.foldlM_cons, readItem, hopen, Token.ofOctets_short]
      simp only [readCluster, Switch.ofShort?, readSwitch, hsettle, hturn]
      rfl
  | positional octets hplain =>
      obtain ⟨hfree, hput⟩ := Arguments.accept_eq_ok.mp haccept
      have hfree : arguments.suite.isSome = false := hfree
      refine ⟨reading.proceed arguments (some (.suite octets)), ?_, hput, hopen⟩
      rw [List.foldlM_cons, readItem, hopen, Token.ofOctets_plain hplain]
      simp only [readPlain_eq hsettle, readPositional_eq hsettle, hfree]
      rfl

theorem foldlM_phrased {givens : List Given} {items : List Octets} (hphrased : Phrased givens items)
    {reading : Reading} {arguments result : Arguments} (hopen : reading.escaped = false)
    (hsettle : reading.settle = .ok arguments)
    (haccept : givens.foldlM Arguments.accept arguments = .ok result) :
    ∃ reading', items.foldlM readItem reading = .ok reading' ∧ reading'.settle = .ok result ∧
      reading'.escaped = false := by
  induction hphrased generalizing reading arguments with
  | nil =>
      obtain rfl := foldlM_nil_eq_ok.mp haccept
      exact ⟨reading, rfl, hsettle, hopen⟩
  | cons hspelled hrest ih =>
      obtain ⟨arguments', hfirst, haccept⟩ := foldlM_cons_eq_ok.mp haccept
      obtain ⟨next, hnext, hsettle', hopen'⟩ := foldlM_spelled hspelled hopen hsettle hfirst
      obtain ⟨last, hlast, hresult⟩ := ih hopen' hsettle' haccept
      exact ⟨last, foldlM_append_eq_ok.mpr ⟨next, hnext, hlast⟩, hresult⟩

theorem readItem_dashes {reading : Reading} (hopen : reading.escaped = false) :
    reading.readItem Token.dashes = .ok { reading with escaped := true } := by
  rw [readItem, hopen, Token.ofOctets_dashes]
  rfl

theorem readItem_escaped {reading : Reading} {arguments : Arguments}
    (hescaped : reading.escaped = true) (hsettle : reading.settle = .ok arguments)
    (hfree : arguments.suite.isSome = false) (octets : Octets) :
    reading.readItem octets = .ok (reading.proceed arguments (some (.suite octets))) := by
  rw [readItem, hescaped, readPositional_eq hsettle, hfree]
  rfl

theorem settle_start : ({} : Reading).settle = .ok {} := rfl

theorem finish_of_sentence_from {reading : Reading} {arguments : Arguments} {givens : List Given}
    {items : List Octets} {result : Arguments} (hopen : reading.escaped = false)
    (hsettle : reading.settle = .ok arguments) (hsentence : Sentence givens items)
    (haccept : givens.foldlM Arguments.accept arguments = .ok result) :
    reading.finish items = .ok result := by
  cases hsentence with
  | phrase hphrased =>
      obtain ⟨last, hlast, hsettle, hopen⟩ := foldlM_phrased hphrased hopen hsettle haccept
      have hfinish := finish_append hlast []
      rw [List.append_nil] at hfinish
      exact hfinish.trans hsettle
  | closed hphrased =>
      obtain ⟨last, hlast, hsettle, hopen⟩ := foldlM_phrased hphrased hopen hsettle haccept
      rw [finish_append hlast, finish_cons (readItem_dashes hopen)]
      exact hsettle
  | escaped octets hphrased =>
      obtain ⟨arguments, hbefore, haccept⟩ := foldlM_append_eq_ok.mp haccept
      obtain ⟨last, hlast, hsettle, hopen⟩ := foldlM_phrased hphrased hopen hsettle hbefore
      obtain ⟨next, hnext, hnil⟩ := foldlM_cons_eq_ok.mp haccept
      obtain rfl := foldlM_nil_eq_ok.mp hnil
      obtain ⟨hfree, hput⟩ := Arguments.accept_eq_ok.mp hnext
      have hsettle' : Reading.settle { last with escaped := true } = .ok arguments := hsettle
      rw [finish_append hlast, finish_cons (readItem_dashes hopen),
        finish_cons (readItem_escaped rfl hsettle' hfree octets)]
      exact hput

theorem finish_of_sentence {givens : List Given} {items : List Octets} {result : Arguments}
    (hsentence : Sentence givens items)
    (haccept : givens.foldlM Arguments.accept {} = .ok result) :
    ({} : Reading).finish items = .ok result :=
  finish_of_sentence_from rfl settle_start hsentence haccept

/-! Reading on when what was read so far is out of order: only the value that an option waits for
can mend it. -/

def Waits (reading : Reading) (option : ValueOption) : Prop :=
  reading.pending = some (.awaiting option) ∧ reading.escaped = false

theorem readSwitch_of_error {reading : Reading} {fault : ArgumentFault}
    (h : reading.settle = .error fault) (switch : Switch) :
    reading.readSwitch switch = .error fault := by
  rw [readSwitch, h]

theorem readPositional_ne_ok {reading reading' : Reading} {fault : ArgumentFault}
    (h : reading.settle = .error fault) (octets : Octets) :
    reading.readPositional octets ≠ .ok reading' := by
  rw [readPositional, h]
  split
  · intro h
    cases h
  · intro h
    cases h

theorem readLong_ne_ok {reading reading' : Reading} {fault : ArgumentFault}
    (h : reading.settle = .error fault) (name : Octets) (value : Option Octets) :
    reading.readLong name value ≠ .ok reading' := by
  unfold readLong
  split
  · intro h
    cases h
  · intro h
    cases h
  · rw [readSwitch_of_error h]
    intro h
    cases h
  · rw [h]
    intro h
    cases h
  · rw [h]
    intro h
    cases h

theorem readCluster_ne_ok {reading reading' : Reading} {fault : ArgumentFault}
    (h : reading.settle = .error fault) {options : List (Option Char)} (hne : options ≠ []) :
    reading.readCluster options ≠ .ok reading' := by
  cases options with
  | nil => exact absurd rfl hne
  | cons first rest =>
      cases first with
      | none =>
          intro h
          cases h
      | some c =>
          rw [readCluster]
          split
          · intro h
            cases h
          · rw [readSwitch_of_error h]
            intro h
            cases h

theorem units_ne_nil (octet : UInt8) (rest : Octets) : Utf8.units (octet :: rest) ≠ [] := by
  rw [Utf8.units_cons]
  exact List.cons_ne_nil _ _

theorem readItem_of_error {reading reading' : Reading} {fault : ArgumentFault} {item : Octets}
    (hsettle : reading.settle = .error fault) (h : reading.readItem item = .ok reading') :
    (reading' = { reading with escaped := true }) ∨
      ∃ option, reading.Waits option ∧ Plain item ∧
        reading' = ⟨reading.arguments, some (.valued option item), false⟩ := by
  rw [readItem] at h
  split at h
  · exact absurd h (readPositional_ne_ok hsettle item)
  · rename_i hopen
    rcases Token.ofOctets_form item with
      ⟨htoken, hplain⟩ | ⟨htoken, -⟩ | ⟨name, value, htoken, -⟩ | ⟨first, rest, htoken, -⟩
    · rw [htoken] at h
      obtain ⟨before, pending, escaped⟩ := reading
      have hopen : escaped = false := Bool.eq_false_iff.mpr hopen
      subst hopen
      have hpositional : ∀ pending,
          Reading.settle ⟨before, pending, false⟩ = .error fault →
            Reading.readPositional ⟨before, pending, false⟩ item ≠ .ok reading' :=
        fun pending hpending => readPositional_ne_ok hpending item
      cases pending with
      | none => exact absurd h (hpositional _ hsettle)
      | some pending =>
          cases pending with
          | awaiting option =>
              obtain rfl := Except.ok.inj h
              exact Or.inr ⟨option, ⟨rfl, rfl⟩, hplain, rfl⟩
          | valued option value => exact absurd h (hpositional _ hsettle)
          | suite value => exact absurd h (hpositional _ hsettle)
    · rw [htoken] at h
      exact Or.inl (Except.ok.inj h).symm
    · rw [htoken] at h
      exact absurd h (readLong_ne_ok hsettle name value)
    · rw [htoken] at h
      exact absurd h (readCluster_ne_ok hsettle (units_ne_nil first rest))

theorem finish_ne_ok {reading : Reading} {fault : ArgumentFault}
    (hsettle : reading.settle = .error fault) (hwaits : ∀ option, ¬ reading.Waits option)
    (items : List Octets) (result : Arguments) : reading.finish items ≠ .ok result := by
  induction items generalizing reading with
  | nil =>
      rw [finish_nil, hsettle]
      intro h
      cases h
  | cons item items ih =>
      intro h
      obtain ⟨next, hnext, h⟩ := finish_cons_eq_ok h
      rcases readItem_of_error hsettle hnext with rfl | ⟨option, hoption, -, -⟩
      · refine ih ?_ ?_ h
        · exact hsettle
        · rintro option ⟨-, hopen⟩
          cases hopen
      · exact hwaits option hoption

inductive Read (before after : Reading) (arguments : Arguments) : Octets → Prop where
  | escape (h : after = { before with escaped := true }) : Read before after arguments Token.dashes
  | option (option : ValueOption)
      (h : after = before.proceed arguments (some (.awaiting option))) :
      Read before after arguments option.spelling
  | given (given : Given) (item : Octets) (hspelled : given.Spelled [item])
      (hsettle : after.settle = arguments.accept given) (hopen : after.escaped = false)
      (hwaits : ∀ option, ¬ after.Waits option) : Read before after arguments item

theorem map_proceed_eq_ok {reading reading' : Reading} {pending : Option Pending}
    {outcome : Except ArgumentFault Arguments}
    (h : outcome.map (fun arguments => reading.proceed arguments pending) = .ok reading') :
    ∃ arguments, outcome = .ok arguments ∧ reading' = reading.proceed arguments pending := by
  cases outcome with
  | error fault => cases h
  | ok arguments => exact ⟨arguments, rfl, (Except.ok.inj h).symm⟩

theorem not_waits_proceed (reading : Reading) (arguments : Arguments) (option : ValueOption) :
    ¬ (reading.proceed arguments none).Waits option := by
  rintro ⟨hpending, -⟩
  cases hpending

theorem readSwitch_eq_ok {reading reading' : Reading} {arguments : Arguments} {switch : Switch}
    (hsettle : reading.settle = .ok arguments) (h : reading.readSwitch switch = .ok reading') :
    ∃ flag arguments', switch = .flag flag ∧ arguments.accept (.flag flag) = .ok arguments' ∧
      reading' = reading.proceed arguments' none := by
  rw [readSwitch, hsettle] at h
  obtain ⟨arguments', hturn, hreading⟩ := map_proceed_eq_ok h
  cases switch with
  | flag flag => exact ⟨flag, arguments', rfl, hturn, hreading⟩
  | help => cases hturn
  | version => cases hturn

theorem read_of_readLong {reading reading' : Reading} {arguments : Arguments} {name : Octets}
    {value : Option Octets} (hopen : reading.escaped = false)
    (hsettle : reading.settle = .ok arguments) (h : reading.readLong name value = .ok reading') :
    Read reading reading' arguments
      (Token.dashes ++ name ++ (value.map (Token.equals :: ·)).getD []) := by
  unfold readLong at h
  split at h
  · cases h
  · cases h
  · rename_i switch hname
    obtain ⟨flag, arguments', rfl, haccept, rfl⟩ := readSwitch_eq_ok hsettle h
    have hitem :
        Token.dashes ++ name ++ (none.map (Token.equals :: ·)).getD [] = flag.spelling := by
      rw [Option.map_none, Option.getD_none, List.append_nil, Meaning.ofLong?_flag hname]
    rw [hitem]
    exact .given (.flag flag) _ (.long flag) haccept.symm hopen (not_waits_proceed _ _)
  · rename_i option hname
    rw [hsettle] at h
    obtain rfl := Except.ok.inj h
    have hitem :
        Token.dashes ++ name ++ (none.map (Token.equals :: ·)).getD [] = option.spelling := by
      rw [Option.map_none, Option.getD_none, List.append_nil, Meaning.ofLong?_option hname]
    rw [hitem]
    exact .option option rfl
  · rename_i option octets hname
    rw [hsettle] at h
    obtain ⟨arguments', hgive, rfl⟩ := map_proceed_eq_ok h
    rw [Meaning.ofLong?_option hname]
    exact .given (.value option octets) _ (.joined option octets) hgive.symm hopen
      (not_waits_proceed _ _)

theorem ofShort?_flag {c : Char} {flag : Flag} (h : Switch.ofShort? c = some (.flag flag)) :
    c = 'v' ∧ flag = .verbose := by
  unfold Switch.ofShort? at h
  split at h
  · obtain rfl := Switch.flag.inj (Option.some.inj h)
    exact ⟨rfl, rfl⟩
  · cases h
  · cases h
  · cases h

theorem readCluster_cons_eq_ok {reading reading' : Reading} {arguments : Arguments}
    {first : Option Char} {rest : List (Option Char)} (hsettle : reading.settle = .ok arguments)
    (h : reading.readCluster (first :: rest) = .ok reading') :
    ∃ arguments', first = some 'v' ∧ arguments.accept (.flag .verbose) = .ok arguments' ∧
      (reading.proceed arguments' none).readCluster rest = .ok reading' := by
  cases first with
  | none => cases h
  | some c =>
      rw [readCluster] at h
      split at h
      · cases h
      · rename_i switch hswitch
        split at h
        · cases h
        · rename_i next hnext
          obtain ⟨flag, arguments', rfl, haccept, rfl⟩ := readSwitch_eq_ok hsettle hnext
          obtain ⟨rfl, rfl⟩ := ofShort?_flag hswitch
          exact ⟨arguments', rfl, haccept, h⟩

theorem read_of_readCluster {reading reading' : Reading} {arguments : Arguments}
    {octets : Octets} (hne : octets ≠ []) (hopen : reading.escaped = false)
    (hsettle : reading.settle = .ok arguments)
    (h : reading.readCluster (Utf8.units octets) = .ok reading') :
    Read reading reading' arguments (Token.dash :: octets) := by
  cases hunits : Utf8.units octets with
  | nil =>
      cases octets with
      | nil => exact absurd rfl hne
      | cons octet rest => exact absurd hunits (units_ne_nil octet rest)
  | cons first rest =>
      rw [hunits] at h
      obtain ⟨arguments', rfl, haccept, h⟩ := readCluster_cons_eq_ok hsettle h
      cases rest with
      | nil =>
          obtain rfl := Except.ok.inj h
          rw [Utf8.encode_of_units octets ['v'] hunits]
          exact .given (.flag .verbose) _ .short haccept.symm hopen (not_waits_proceed _ _)
      | cons second rest =>
          have hsettle' : (reading.proceed arguments' none).settle = .ok arguments' := rfl
          obtain ⟨arguments'', -, hagain, -⟩ := readCluster_cons_eq_ok hsettle' h
          have hgives := (Arguments.gives_accept haccept (.flag .verbose)).mpr (Or.inr rfl)
          obtain ⟨hfree, -⟩ := Arguments.accept_eq_ok.mp hagain
          rw [Arguments.has_of_gives hgives] at hfree
          cases hfree

theorem read_of_readItem {reading reading' : Reading} {arguments : Arguments} {item : Octets}
    (hopen : reading.escaped = false) (hsettle : reading.settle = .ok arguments)
    (h : reading.readItem item = .ok reading') : Read reading reading' arguments item := by
  rw [readItem, hopen] at h
  rcases Token.ofOctets_form item with
    ⟨htoken, hplain⟩ | ⟨htoken, hitem⟩ | ⟨name, value, htoken, hitem⟩ | ⟨first, rest, htoken, hitem⟩
  · rw [htoken] at h
    have h : reading.readPlain item = .ok reading' := h
    rw [readPlain_eq hsettle, readPositional_eq hsettle] at h
    split at h
    · cases h
    · rename_i hfree
      obtain rfl := Except.ok.inj h
      refine .given (.suite item) item (.positional item hplain) ?_ hopen ?_
      · exact (if_neg hfree).symm
      · rintro option ⟨hpending, -⟩
        cases hpending
  · rw [htoken] at h
    rw [hitem]
    exact .escape (Except.ok.inj h).symm
  · rw [htoken] at h
    rw [hitem]
    exact read_of_readLong hopen hsettle h
  · rw [htoken] at h
    rw [hitem]
    exact read_of_readCluster (List.cons_ne_nil _ _) hopen hsettle h

theorem readItem_of_waits {reading reading' : Reading} {option : ValueOption} {item : Octets}
    {items : List Octets} {result : Arguments} (hwaits : reading.Waits option)
    (h : reading.readItem item = .ok reading') (hfinish : reading'.finish items = .ok result) :
    Plain item ∧ reading' = ⟨reading.arguments, some (.valued option item), false⟩ := by
  have hsettle : reading.settle = .error (.valueMissing option) := by
    rw [settle, hwaits.1]
    rfl
  rcases readItem_of_error hsettle h with rfl | ⟨option', hwaits', hplain, rfl⟩
  · have hsettle' :
        Reading.settle { reading with escaped := true } = .error (.valueMissing option) := hsettle
    refine absurd hfinish (finish_ne_ok hsettle' ?_ items result)
    rintro option' ⟨-, hopen⟩
    cases hopen
  · rw [Pending.awaiting.inj (Option.some.inj (hwaits.1.symm.trans hwaits'.1))]
    exact ⟨hplain, rfl⟩

theorem finish_escaped {reading : Reading} {arguments result : Arguments} {items : List Octets}
    (hescaped : reading.escaped = true) (hsettle : reading.settle = .ok arguments)
    (h : reading.finish items = .ok result) :
    (items = [] ∧ result = arguments) ∨
      ∃ octets, items = [octets] ∧ arguments.accept (.suite octets) = .ok result := by
  cases items with
  | nil =>
      rw [finish_nil, hsettle] at h
      exact Or.inl ⟨rfl, (Except.ok.inj h).symm⟩
  | cons octets items =>
      obtain ⟨next, hnext, h⟩ := finish_cons_eq_ok h
      rw [readItem, hescaped, if_pos rfl, readPositional_eq hsettle] at hnext
      split at hnext
      · cases hnext
      · rename_i hfree
        obtain rfl := Except.ok.inj hnext
        cases items with
        | nil =>
            refine Or.inr ⟨octets, rfl, Arguments.accept_eq_ok.mpr ⟨?_, h⟩⟩
            exact Bool.eq_false_iff.mpr hfree
        | cons second items =>
            obtain ⟨last, hlast, -⟩ := finish_cons_eq_ok h
            rw [readItem, if_pos (by exact hescaped)] at hlast
            cases hlast

theorem Sentence.cons {given : Given} {givens : List Given} {spelling items : List Octets}
    (hspelled : given.Spelled spelling) (h : Sentence givens items) :
    Sentence (given :: givens) (spelling ++ items) := by
  cases h with
  | phrase h => exact .phrase (.cons hspelled h)
  | closed h =>
      rw [← List.append_assoc]
      exact .closed (.cons hspelled h)
  | escaped octets h =>
      rw [← List.append_assoc, ← List.cons_append]
      exact .escaped octets (.cons hspelled h)

theorem sentence_of_finish {items : List Octets} {result : Arguments} :
    (∀ (reading : Reading) (arguments : Arguments), reading.escaped = false →
      reading.settle = .ok arguments → reading.finish items = .ok result →
        ∃ givens, Sentence givens items ∧
          givens.foldlM Arguments.accept arguments = .ok result) ∧
    ∀ (reading : Reading) (option : ValueOption), reading.Waits option →
      reading.finish items = .ok result →
        ∃ octets rest givens, items = octets :: rest ∧ Plain octets ∧ Sentence givens rest ∧
          (Given.value option octets :: givens).foldlM Arguments.accept reading.arguments =
            .ok result := by
  induction items with
  | nil =>
      constructor
      · intro reading arguments hopen hsettle h
        refine ⟨[], .phrase .nil, ?_⟩
        rw [finish_nil, hsettle] at h
        exact h
      · intro reading option hwaits h
        rw [finish_nil, settle, hwaits.1] at h
        cases h
  | cons item items ih =>
      obtain ⟨ihopen, ihwaits⟩ := ih
      constructor
      · intro reading arguments hopen hsettle h
        obtain ⟨next, hnext, hfinish⟩ := finish_cons_eq_ok h
        cases read_of_readItem hopen hsettle hnext with
        | escape hescaped =>
            subst hescaped
            have hsettle : settle { reading with escaped := true } = .ok arguments := hsettle
            rcases finish_escaped rfl hsettle hfinish with ⟨rfl, rfl⟩ | ⟨octets, rfl, haccept⟩
            · exact ⟨[], .closed .nil, rfl⟩
            · refine ⟨[.suite octets], .escaped octets .nil, ?_⟩
              exact foldlM_cons_eq_ok.mpr ⟨result, haccept, rfl⟩
        | option option hpending =>
            subst hpending
            have hwaits : (reading.proceed arguments (some (.awaiting option))).Waits option :=
              ⟨rfl, hopen⟩
            obtain ⟨octets, rest, givens, rfl, hplain, hsentence, haccept⟩ :=
              ihwaits _ option hwaits hfinish
            exact ⟨_, Sentence.cons (.separate option octets hplain) hsentence, haccept⟩
        | given given _ hspelled hsettle' hopen' hwaits =>
            cases haccept : arguments.accept given with
            | error fault =>
                rw [haccept] at hsettle'
                exact absurd hfinish (finish_ne_ok hsettle' hwaits items result)
            | ok arguments' =>
                rw [haccept] at hsettle'
                obtain ⟨givens, hsentence, hrest⟩ := ihopen next arguments' hopen' hsettle' hfinish
                exact ⟨_, Sentence.cons hspelled hsentence,
                  foldlM_cons_eq_ok.mpr ⟨arguments', haccept, hrest⟩⟩
      · intro reading option hwaits h
        obtain ⟨next, hnext, hfinish⟩ := finish_cons_eq_ok h
        obtain ⟨hplain, rfl⟩ := readItem_of_waits hwaits hnext hfinish
        cases hsettle : settle ⟨reading.arguments, some (.valued option item), false⟩ with
        | error fault =>
            refine absurd hfinish (finish_ne_ok hsettle ?_ items result)
            rintro option' ⟨hpending, -⟩
            cases hpending
        | ok arguments' =>
            obtain ⟨givens, hsentence, hrest⟩ := ihopen _ arguments' rfl hsettle hfinish
            exact ⟨item, items, givens, rfl, hplain, hsentence,
              foldlM_cons_eq_ok.mpr ⟨arguments', hsettle, hrest⟩⟩

end Reading

/-- The command lines that give arguments are the sentences of the language that are admissible,
and the arguments are what is given there, octet for octet. -/
theorem Arguments.read_eq_ok_iff (items : List Octets) :
    (∀ arguments, Arguments.read items = .ok arguments ↔
      ∃ givens, Sentence givens items ∧ Admissible givens ∧ arguments.Describes givens) ∧
    ((∃ arguments, Arguments.read items = .ok arguments) ↔
      ∃ givens, Sentence givens items ∧ Admissible givens) := by
  have hread : ∀ arguments, Arguments.read items = .ok arguments ↔
      ∃ givens, Sentence givens items ∧ givens.foldlM Arguments.accept {} = .ok arguments := by
    intro arguments
    constructor
    · intro h
      exact Reading.sentence_of_finish.1 {} {} rfl rfl h
    · rintro ⟨givens, hsentence, haccept⟩
      exact Reading.finish_of_sentence hsentence haccept
  constructor
  · intro arguments
    rw [hread]
    exact exists_congr fun givens => and_congr_right fun _ => Arguments.acceptAll_eq_ok
  · constructor
    · rintro ⟨arguments, h⟩
      obtain ⟨givens, hsentence, haccept⟩ := (hread arguments).mp h
      exact ⟨givens, hsentence, (Arguments.acceptAll_eq_ok.mp haccept).1⟩
    · rintro ⟨givens, hsentence, hadmissible⟩
      obtain ⟨arguments, haccept⟩ := Arguments.exists_acceptAll.mpr hadmissible
      exact ⟨arguments, (hread arguments).mpr ⟨givens, hsentence, haccept⟩⟩

end Reftest
