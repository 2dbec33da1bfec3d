import Reftest.Proofs.Arguments.Grammar

namespace Reftest

theorem Token.ofOctets_joined (option : ValueOption) (octets : Octets) :
    Token.ofOctets (option.spelling ++ Token.equals :: octets) =
      .long (Octets.ofText option.name) (some octets) := by
  cases option <;> rfl

theorem Token.ofOctets_spelling (option : ValueOption) :
    Token.ofOctets option.spelling = .long (Octets.ofText option.name) none := by
  cases option <;> rfl

theorem Meaning.ofLong?_name (option : ValueOption) :
    Meaning.ofLong? (Octets.ofText option.name) = some (.option option) := by
  cases option <;> rfl

theorem Token.ofOctets_flag (flag : Flag) :
    ∃ name, Token.ofOctets flag.spelling = .long name none ∧
      Meaning.ofLong? name = some (.switch (.flag flag)) := by
  cases flag with
  | noOpen => exact ⟨Octets.ofText "no-open", rfl, rfl⟩
  | exitCode => exact ⟨Octets.ofText "exit-code", rfl, rfl⟩
  | verbose => exact ⟨Octets.ofText "verbose", rfl, rfl⟩

theorem units_short : Utf8.units [0x76] = [some 'v'] :=
  Utf8.units_encode ['v']

theorem Token.ofOctets_short : Token.ofOctets (Octets.ofText "-v") = .cluster [some 'v'] := by
  rw [← units_short]
  rfl

theorem Token.ofOctets_dashes : Token.ofOctets Token.dashes = .escape := rfl

theorem Token.ofOctets_plain {octets : Octets} (h : Plain octets) :
    Token.ofOctets octets = .plain octets := by
  rcases h with rfl | h
  · rfl
  · cases octets with
    | nil => rfl
    | cons first rest =>
        cases rest with
        | nil => rfl
        | cons second rest =>
            have hne : first ≠ Token.dash := fun heq => h (congrArg some heq)
            rw [Token.ofOctets, if_pos hne]

theorem Token.ofLong_split (octets : Octets) :
    octets = octets.takeWhile (· ≠ Token.equals) ++
      ((octets.dropWhile (· ≠ Token.equals)).tail?.map (Token.equals :: ·)).getD [] := by
  induction octets with
  | nil => rfl
  | cons first rest ih =>
      by_cases heq : first = Token.equals
      · subst heq
        simp
      · rw [List.takeWhile_cons_of_pos (by simpa using heq),
          List.dropWhile_cons_of_pos (by simpa using heq), List.cons_append, ← ih]

theorem Token.plain_of_ne {first : UInt8} {rest : Octets} (h : first ≠ Token.dash) :
    Plain (first :: rest) :=
  Or.inr fun heq => h (Option.some.inj heq)

theorem Token.ofOctets_form (item : Octets) :
    (Token.ofOctets item = .plain item ∧ Plain item) ∨
      (Token.ofOctets item = .escape ∧ item = Token.dashes) ∨
      (∃ name value, Token.ofOctets item = .long name value ∧
        item = Token.dashes ++ name ++ (value.map (Token.equals :: ·)).getD []) ∨
      ∃ first rest, Token.ofOctets item = .cluster (Utf8.units (first :: rest)) ∧
        item = Token.dash :: first :: rest := by
  fun_cases Token.ofOctets item with
  | case1 =>
      refine Or.inl ⟨rfl, Or.inr ?_⟩
      intro h
      cases h
  | case2 octet =>
      refine Or.inl ⟨rfl, ?_⟩
      by_cases h : octet = Token.dash
      · exact Or.inl (congrArg (fun octet => [octet]) h)
      · exact Token.plain_of_ne h
  | case3 first second rest h => exact Or.inl ⟨rfl, Token.plain_of_ne h⟩
  | case4 first second rest hfirst hsecond =>
      have hdash : first = Token.dash := Decidable.not_not.mp hfirst
      exact Or.inr (Or.inr (Or.inr ⟨second, rest, rfl, by rw [hdash]⟩))
  | case5 first second hfirst hsecond =>
      have hdash : first = Token.dash := Decidable.not_not.mp hfirst
      have hdash' : second = Token.dash := Decidable.not_not.mp hsecond
      exact Or.inr (Or.inl ⟨rfl, by rw [hdash, hdash']; rfl⟩)
  | case6 first second rest hfirst hsecond hrest =>
      have hdash : first = Token.dash := Decidable.not_not.mp hfirst
      have hdash' : second = Token.dash := Decidable.not_not.mp hsecond
      refine Or.inr (Or.inr (Or.inl ⟨_, _, rfl, ?_⟩))
      rw [List.append_assoc, ← Token.ofLong_split, hdash, hdash']
      rfl

theorem Meaning.mem_table {name : Octets} {meaning : Meaning}
    (h : Meaning.ofLong? name = some meaning) : (name, meaning) ∈ Meaning.table := by
  obtain ⟨before, after, htable, -⟩ := List.lookup_eq_some_iff.mp h
  rw [htable]
  exact List.mem_append_right _ List.mem_cons_self

theorem Meaning.ofLong?_option {name : Octets} {option : ValueOption}
    (h : Meaning.ofLong? name = some (.option option)) :
    Token.dashes ++ name = option.spelling := by
  have hmem := Meaning.mem_table h
  cases option <;> simp [Meaning.table] at hmem <;> subst hmem <;> rfl

theorem Meaning.ofLong?_flag {name : Octets} {flag : Flag}
    (h : Meaning.ofLong? name = some (.switch (.flag flag))) :
    Token.dashes ++ name = flag.spelling := by
  have hmem := Meaning.mem_table h
  cases flag <;> simp [Meaning.table] at hmem <;> subst hmem <;> rfl

end Reftest
