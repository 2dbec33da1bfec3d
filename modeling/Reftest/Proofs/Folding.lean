namespace Reftest

section

variable {Fault State Item : Type} {step : State → Item → Except Fault State}

theorem foldlM_nil_eq_ok {before after : State} :
    [].foldlM step before = .ok after ↔ before = after := by
  constructor
  · intro h
    exact Except.ok.inj h
  · intro h
    exact congrArg Except.ok h

theorem foldlM_cons_eq_ok {before after : State} {item : Item} {items : List Item} :
    (item :: items).foldlM step before = .ok after ↔
      ∃ next, step before item = .ok next ∧ items.foldlM step next = .ok after := by
  rw [List.foldlM_cons]
  cases step before item with
  | error fault =>
      constructor
      · intro h
        cases h
      · rintro ⟨next, hnext, -⟩
        cases hnext
  | ok next =>
      constructor
      · intro h
        exact ⟨next, rfl, h⟩
      · rintro ⟨next', hnext, h⟩
        obtain rfl := Except.ok.inj hnext
        exact h

theorem foldlM_append_eq_ok {before after : State} {left right : List Item} :
    (left ++ right).foldlM step before = .ok after ↔
      ∃ next, left.foldlM step before = .ok next ∧ right.foldlM step next = .ok after := by
  induction left generalizing before with
  | nil =>
      constructor
      · intro h
        exact ⟨before, rfl, h⟩
      · rintro ⟨next, hnext, h⟩
        rw [foldlM_nil_eq_ok.mp hnext]
        exact h
  | cons item left ih =>
      rw [List.cons_append, foldlM_cons_eq_ok]
      constructor
      · rintro ⟨next, hnext, h⟩
        obtain ⟨middle, hmiddle, h⟩ := ih.mp h
        exact ⟨middle, foldlM_cons_eq_ok.mpr ⟨next, hnext, hmiddle⟩, h⟩
      · rintro ⟨middle, hmiddle, h⟩
        obtain ⟨next, hnext, hmiddle⟩ := foldlM_cons_eq_ok.mp hmiddle
        exact ⟨next, hnext, ih.mpr ⟨middle, hmiddle, h⟩⟩

end

section

variable {Fault Value Result Item : Type}

def Reports (faults : List Fault) (outcome : Except Fault Value) : Prop :=
  match faults with
  | [] => ∃ value, outcome = .ok value
  | fault :: _ => outcome = .error fault

theorem reports_ok (value : Value) : Reports [] (.ok value : Except Fault Value) :=
  ⟨value, rfl⟩

theorem reports_error (fault : Fault) : Reports [fault] (.error fault : Except Fault Value) :=
  rfl

theorem Reports.map {faults : List Fault} {outcome : Except Fault Value}
    (h : Reports faults outcome) (f : Value → Result) : Reports faults (outcome.map f) := by
  cases faults with
  | nil =>
      obtain ⟨value, rfl⟩ := h
      exact ⟨f value, rfl⟩
  | cons fault faults =>
      have h : outcome = .error fault := h
      rw [h]
      rfl

theorem Reports.bind {first second : List Fault} {outcome : Except Fault Value}
    {next : Value → Except Fault Result} (hfirst : Reports first outcome)
    (hsecond : ∀ value, outcome = .ok value → Reports second (next value)) :
    Reports (first ++ second) (outcome >>= next) := by
  cases first with
  | nil =>
      obtain ⟨value, hvalue⟩ := hfirst
      rw [List.nil_append, hvalue]
      exact hsecond value hvalue
  | cons fault first =>
      have hfirst : outcome = .error fault := hfirst
      rw [hfirst]
      rfl

theorem reports_foldlM {faults : Item → List Fault} {step : Value → Item → Except Fault Value}
    (hstep : ∀ value item, Reports (faults item) (step value item)) (value : Value)
    (items : List Item) : Reports (items.flatMap faults) (items.foldlM step value) := by
  induction items generalizing value with
  | nil => exact reports_ok value
  | cons item items ih =>
      rw [List.flatMap_cons, List.foldlM_cons]
      exact (hstep value item).bind fun next _ => ih next

theorem reports_mapM {faults : Item → List Fault} {read : Item → Except Fault Value}
    (hread : ∀ item, Reports (faults item) (read item)) (items : List Item) :
    Reports (items.flatMap faults) (items.mapM read) := by
  induction items with
  | nil => exact reports_ok []
  | cons item items ih =>
      rw [List.flatMap_cons, List.mapM_cons]
      exact (hread item).bind fun value _ => ih.map (value :: ·)

theorem bind_eq_ok {next : Value → Except Fault Result} {outcome : Except Fault Value}
    {result : Result} (h : outcome >>= next = .ok result) :
    ∃ value, outcome = .ok value ∧ next value = .ok result := by
  cases outcome with
  | error fault => cases h
  | ok value => exact ⟨value, rfl, h⟩

theorem map_eq_ok {f : Value → Result} {outcome : Except Fault Value} {result : Result}
    (h : outcome.map f = .ok result) : ∃ value, outcome = .ok value ∧ result = f value := by
  cases outcome with
  | error fault => cases h
  | ok value => exact ⟨value, rfl, (Except.ok.inj h).symm⟩

theorem map_eq_error {f : Value → Result} {outcome : Except Fault Value} {fault : Fault}
    (h : outcome.map f = .error fault) : outcome = .error fault := by
  cases outcome with
  | error fault' =>
      cases h
      rfl
  | ok value => cases h

theorem toOption_eq_some {outcome : Except Fault Value} {value : Value} :
    outcome.toOption = some value ↔ outcome = .ok value := by
  cases outcome <;> simp [Except.toOption]

theorem mapError_eq_ok {Fault' : Type} {f : Fault → Fault'} {outcome : Except Fault Value}
    {value : Value} : outcome.mapError f = .ok value ↔ outcome = .ok value := by
  cases outcome with
  | error fault =>
      constructor
      · intro h
        cases h
      · intro h
        cases h
  | ok value' =>
      constructor
      · intro h
        obtain rfl := Except.ok.inj h
        rfl
      · intro h
        obtain rfl := Except.ok.inj h
        rfl

theorem mapM_cons_eq_ok {read : Item → Except Fault Value} {item : Item} {items : List Item}
    {values : List Value} :
    (item :: items).mapM read = .ok values ↔
      ∃ value rest, values = value :: rest ∧ read item = .ok value ∧
        items.mapM read = .ok rest := by
  rw [List.mapM_cons]
  constructor
  · intro h
    obtain ⟨value, hvalue, h⟩ := bind_eq_ok h
    obtain ⟨rest, hrest, h⟩ := bind_eq_ok h
    exact ⟨value, rest, (Except.ok.inj h).symm, hvalue, hrest⟩
  · rintro ⟨value, rest, rfl, hvalue, hrest⟩
    rw [hvalue, hrest]
    rfl

theorem mapM_eq_ok {read : Item → Except Fault Value} {items : List Item} {values : List Value} :
    items.mapM read = .ok values ↔
      items.length = values.length ∧ ∀ pair ∈ items.zip values, read pair.1 = .ok pair.2 := by
  induction items generalizing values with
  | nil =>
      constructor
      · intro h
        obtain rfl := Except.ok.inj h
        exact ⟨rfl, fun _ hmem => absurd hmem List.not_mem_nil⟩
      · rintro ⟨hlength, -⟩
        rw [List.length_eq_zero_iff.mp hlength.symm]
        rfl
  | cons item items ih =>
      rw [mapM_cons_eq_ok]
      constructor
      · rintro ⟨value, rest, rfl, hitem, hitems⟩
        obtain ⟨hlength, hpairs⟩ := ih.mp hitems
        refine ⟨congrArg (· + 1) hlength, ?_⟩
        intro pair hpair
        rcases List.mem_cons.mp hpair with rfl | hpair
        · exact hitem
        · exact hpairs pair hpair
      · rintro ⟨hlength, hpairs⟩
        obtain ⟨value, rest, rfl⟩ := List.exists_cons_of_length_eq_add_one hlength.symm
        refine ⟨value, rest, rfl, hpairs (item, value) List.mem_cons_self, ih.mpr ⟨?_, ?_⟩⟩
        · exact Nat.succ.inj hlength
        · intro pair hpair
          exact hpairs pair (List.mem_cons_of_mem _ hpair)

theorem Reports.ok_iff {faults : List Fault} {outcome : Except Fault Value}
    (h : Reports faults outcome) : (∃ value, outcome = .ok value) ↔ faults = [] := by
  cases faults with
  | nil => exact ⟨fun _ => rfl, fun _ => h⟩
  | cons fault faults =>
      have h : outcome = .error fault := h
      rw [h]
      constructor
      · rintro ⟨value, hvalue⟩
        cases hvalue
      · intro hnil
        cases hnil

end

end Reftest
