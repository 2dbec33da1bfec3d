import Reftest.Proofs.Arguments.Finality

namespace Reftest

theorem mem_middle {front rest : List Given} {given other : Given} :
    other ∈ front ++ given :: rest ↔ other ∈ front ++ rest ∨ other = given :=
  List.perm_middle.mem_iff.trans (List.mem_cons.trans or_comm)

theorem admissible_middle {front rest : List Given} {given : Given} :
    Admissible (front ++ given :: rest) ↔
      Admissible (front ++ rest) ∧ given.Valid ∧
        given.subject ∉ (front ++ rest).map Given.subject := by
  have hperm : ((front ++ given :: rest).map Given.subject).Perm
      ((given :: (front ++ rest)).map Given.subject) := List.perm_middle.map Given.subject
  constructor
  · intro h
    obtain ⟨hnew, hnodup⟩ := List.nodup_cons.mp (hperm.nodup_iff.mp h.nodup)
    exact ⟨⟨hnodup, fun other hmem => h.valid other (mem_middle.mpr (.inl hmem))⟩,
      h.valid given (mem_middle.mpr (.inr rfl)), hnew⟩
  · rintro ⟨hothers, hvalid, hnew⟩
    refine ⟨hperm.nodup_iff.mpr (List.nodup_cons.mpr ⟨hnew, hothers.nodup⟩), fun other hmem => ?_⟩
    rcases mem_middle.mp hmem with hother | rfl
    · exact hothers.valid other hother
    · exact hvalid

namespace Arguments

variable {arguments plain result : Arguments} {front givens : List Given} {flag : Flag}

theorem accept_flag (hfree : flag.isGiven arguments = false) :
    arguments.accept (.flag flag) = .ok (flag.give arguments) :=
  accept_eq_ok.mpr ⟨hfree, rfl⟩

theorem isGiven_of_foldlM (hadmissible : Admissible front) (hdescribes : arguments.Describes front)
    (h : givens.foldlM accept arguments = .ok plain) (hgiven : flag.isGiven arguments = true) :
    flag.isGiven plain = true := by
  obtain ⟨-, hplain⟩ := (acceptAll_from hadmissible hdescribes _ _).mp h
  refine (hplain.has_iff (.flag flag)).mpr ?_
  rw [List.map_append]
  exact List.mem_append_left _ ((hdescribes.has_iff (.flag flag)).mp hgiven)

theorem foldlM_give_iff (hadmissible : Admissible front) (hdescribes : arguments.Describes front)
    (hfree : flag.isGiven arguments = false) :
    givens.foldlM accept (flag.give arguments) = .ok result ↔
      ∃ plain, givens.foldlM accept arguments = .ok plain ∧ flag.isGiven plain = false ∧
        result = flag.give plain := by
  have haccept := accept_flag hfree
  have hgiven := (accept_iff_admissible hadmissible hdescribes).mp ⟨_, haccept⟩
  rw [acceptAll_from hgiven (hdescribes.append haccept), ← List.append_cons, admissible_middle]
  constructor
  · rintro ⟨⟨hothers, -, hnew⟩, hresult⟩
    obtain ⟨plain, hplain⟩ := exists_acceptAll_from hdescribes hothers
    obtain ⟨-, hplain'⟩ := (acceptAll_from hadmissible hdescribes _ _).mp hplain
    refine ⟨plain, hplain, Bool.eq_false_iff.mpr fun hhas => ?_, eq_of_gives fun given => ?_⟩
    · exact hnew ((hplain'.has_iff (.flag flag)).mp hhas)
    · rw [gives_give_flag, hplain' given, hresult given, mem_middle]
  · rintro ⟨plain, hplain, hnone, rfl⟩
    obtain ⟨hothers, hplain'⟩ := (acceptAll_from hadmissible hdescribes _ _).mp hplain
    refine ⟨⟨hothers, trivial, fun hmem => ?_⟩, fun given => ?_⟩
    · exact Bool.eq_false_iff.mp hnone ((hplain'.has_iff (.flag flag)).mpr hmem)
    · rw [gives_give_flag, hplain' given, mem_middle]

end Arguments

namespace Reading

variable {reading : Reading} {arguments result : Arguments} {flag : Flag} {front : List Given}
  {items rest : List Octets}

theorem readItem_flag (hopen : reading.escaped = false) :
    reading.readItem flag.spelling = reading.readSwitch (.flag flag) := by
  obtain ⟨name, htoken, hname⟩ := Token.ofOctets_flag flag
  rw [readItem, hopen, htoken]
  simp only [readLong, hname]
  rfl

theorem settle_of_readItem_flag {next : Reading} (hopen : reading.escaped = false)
    (h : reading.readItem flag.spelling = .ok next) :
    ∃ arguments, reading.settle = .ok arguments := by
  rw [readItem_flag hopen] at h
  cases hsettle : reading.settle with
  | error fault =>
      rw [readSwitch_of_error hsettle] at h
      cases h
  | ok arguments => exact ⟨arguments, rfl⟩

theorem finish_iff (hopen : reading.escaped = false) (hsettle : reading.settle = .ok arguments) :
    reading.finish items = .ok result ↔
      ∃ givens, Sentence givens items ∧ givens.foldlM Arguments.accept arguments = .ok result := by
  constructor
  · exact sentence_of_finish.1 reading arguments hopen hsettle
  · rintro ⟨givens, hsentence, haccept⟩
    exact finish_of_sentence_from hopen hsettle hsentence haccept

theorem finish_flag_iff (hopen : reading.escaped = false) (hsettle : reading.settle = .ok arguments)
    (hadmissible : Admissible front) (hdescribes : arguments.Describes front) :
    reading.finish (flag.spelling :: rest) = .ok result ↔
      ∃ plain, reading.finish rest = .ok plain ∧ flag.isGiven plain = false ∧
        result = flag.give plain := by
  have hrest (plain : Arguments) : reading.finish rest = .ok plain ↔
      ∃ givens, Sentence givens rest ∧ givens.foldlM Arguments.accept arguments = .ok plain :=
    finish_iff hopen hsettle
  simp only [hrest]
  cases hgiven : flag.isGiven arguments with
  | true =>
      have hitem : reading.readItem flag.spelling = .error (.flagRepeated flag) := by
        rw [readItem_flag hopen]
        exact readSwitch_of_turn hsettle (if_pos hgiven)
      rw [finish_error hitem]
      constructor
      · intro h
        cases h
      · rintro ⟨plain, ⟨givens, -, hplain⟩, hnone, -⟩
        rw [Arguments.isGiven_of_foldlM hadmissible hdescribes hplain hgiven] at hnone
        cases hnone
  | false =>
      have hitem : reading.readItem flag.spelling =
          .ok (reading.proceed (flag.give arguments) none) := by
        rw [readItem_flag hopen, readSwitch, hsettle]
        change (arguments.accept (.flag flag)).map _ = _
        rw [Arguments.accept_flag hgiven]
        rfl
      have hopen' : (reading.proceed (flag.give arguments) none).escaped = false := hopen
      have hsettle' : (reading.proceed (flag.give arguments) none).settle =
          .ok (flag.give arguments) := rfl
      rw [finish_cons hitem, finish_iff hopen' hsettle']
      simp only [Arguments.foldlM_give_iff hadmissible hdescribes hgiven]
      constructor
      · rintro ⟨givens, hsentence, plain, hplain, h⟩
        exact ⟨plain, ⟨givens, hsentence, hplain⟩, h⟩
      · rintro ⟨plain, ⟨givens, hsentence, hplain⟩, h⟩
        exact ⟨givens, hsentence, plain, hplain, h⟩

end Reading

namespace Arguments

variable {before result : Arguments} {flag : Flag} {front rest : List Octets}

theorem read_flag_iff_of_front (hdashes : Token.dashes ∉ front) (hfront : read front = .ok before) :
    read (front ++ flag.spelling :: rest) = .ok result ↔
      ∃ plain, read (front ++ rest) = .ok plain ∧ flag.isGiven plain = false ∧
        result = flag.give plain := by
  obtain ⟨reading, hfold, hsettle⟩ := Reading.finish_eq_ok hfront
  obtain ⟨givens, -, haccept⟩ := (Reading.finish_iff rfl Reading.settle_start).mp hfront
  obtain ⟨hadmissible, hdescribes⟩ := acceptAll_eq_ok.mp haccept
  have hread (items : List Octets) : read (front ++ items) = reading.finish items :=
    Reading.finish_append hfold items
  simp only [hread]
  exact Reading.finish_flag_iff (Reading.open_of_foldlM hfold hdashes) hsettle hadmissible
    hdescribes

/-- A flag can be added behind everything that is in order by itself, and nowhere else. -/
theorem read_insert_flag_iff (hdashes : Token.dashes ∉ front) :
    read (front ++ flag.spelling :: rest) = .ok result ↔
      (∃ before, read front = .ok before) ∧ ∃ plain, read (front ++ rest) = .ok plain ∧
        flag.isGiven plain = false ∧ result = flag.give plain := by
  constructor
  · intro h
    obtain ⟨last, hfold, -⟩ := Reading.finish_eq_ok h
    obtain ⟨reading, hfront, hrest⟩ := foldlM_append_eq_ok.mp hfold
    obtain ⟨next, hitem, -⟩ := foldlM_cons_eq_ok.mp hrest
    obtain ⟨before, hsettle⟩ :=
      Reading.settle_of_readItem_flag (Reading.open_of_foldlM hfront hdashes) hitem
    have hbefore : read front = .ok before := by
      have hfinish := Reading.finish_append hfront []
      rw [List.append_nil] at hfinish
      exact hfinish.trans hsettle
    exact ⟨⟨before, hbefore⟩, (read_flag_iff_of_front hdashes hbefore).mp h⟩
  · rintro ⟨⟨before, hbefore⟩, h⟩
    exact (read_flag_iff_of_front hdashes hbefore).mpr h

end Arguments

end Reftest
