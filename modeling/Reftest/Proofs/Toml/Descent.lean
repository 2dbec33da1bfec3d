import Reftest.Proofs.Toml.Entries
import Reftest.Toml.Assembly

namespace Reftest.Toml

inductive Step where
  | name (name : String)
  | index (index : Nat)
  deriving DecidableEq, Repr

namespace Entries

/-- A part of a key enters a table: a new one, one that is there, or the latest element of a
sequence. -/
inductive Enters (entries : Entries) (part : KeyPart) : List Step → Entries → Prop where
  | new (hget : entries.get? part.name = none) : Enters entries part [.name part.name] []
  | table {origin : Origin} {span : Span} {inner : Entries}
      (hget : entries.get? part.name = some (.table origin span inner))
      (horigin : origin ≠ .inline) : Enters entries part [.name part.name] inner
  | tables {earlier : List (Span × List (String × Node))} {span : Span} {inner : Entries}
      (hget : entries.get? part.name = some (.tables earlier span inner)) :
      Enters entries part [.name part.name, .index earlier.length] inner

/-- The table that a part of a key enters becomes `inner'`.  One that is new is made. -/
inductive Replaces (made : Origin) (entries : Entries) (part : KeyPart) (inner' : Entries) :
    List Step → (inner result : Entries) → Prop where
  | new (hget : entries.get? part.name = none) :
      Replaces made entries part inner' [.name part.name] []
        (entries.append part.name (.table made part.span inner'))
  | table {origin : Origin} {span : Span} {inner : Entries}
      (hget : entries.get? part.name = some (.table origin span inner))
      (horigin : origin ≠ .inline) :
      Replaces made entries part inner' [.name part.name] inner
        (entries.set part.name (.table origin span inner'))
  | tables {earlier : List (Span × List (String × Node))} {span : Span} {inner : Entries}
      (hget : entries.get? part.name = some (.tables earlier span inner)) :
      Replaces made entries part inner' [.name part.name, .index earlier.length] inner
        (entries.set part.name (.tables earlier span inner'))

section

variable {entries inner inner' result : Entries} {part : KeyPart} {steps : List Step}

theorem Enters.follow? (h : entries.Enters part steps inner) (key : Key) :
    entries.follow? (part :: key) = inner.follow? key := by
  rw [Entries.follow?]
  cases h with
  | new hget => rw [hget]
  | @table origin span inner hget horigin =>
      rw [hget]
      cases origin with
      | inline => exact absurd rfl horigin
      | header => rfl
      | implied => rfl
      | dotted => rfl
  | tables hget => rw [hget]

theorem Replaces.enters {made : Origin} (h : Replaces made entries part inner' steps inner result) :
    entries.Enters part steps inner := by
  cases h with
  | new hget => exact .new hget
  | table hget horigin => exact .table hget horigin
  | tables hget => exact .tables hget

theorem enters_of_follow? {path : Key} {parent : Entries}
    (h : entries.follow? (part :: path) = some parent) :
    ∃ steps inner, entries.Enters part steps inner := by
  rw [Entries.follow?] at h
  split at h
  · rename_i hget
    exact ⟨_, _, .new hget⟩
  · cases h
  · rename_i origin span inner horigin hget
    exact ⟨_, _, .table hget horigin⟩
  · rename_i earlier span inner hget
    exact ⟨_, _, .tables hget⟩
  · cases h

theorem assign_single {value : Node} (h : entries.assign [part] value = some result) :
    entries.get? part.name = none ∧ result = entries.append part.name value := by
  rw [assign] at h
  split at h
  · cases h
  · rename_i hget
    exact ⟨hget, (Option.some.inj h).symm⟩

theorem assign_dotted {next : KeyPart} {key : Key} {value : Node}
    (h : entries.assign (part :: next :: key) value = some result) :
    ∃ steps inner inner', inner.assign (next :: key) value = some inner' ∧
      Replaces .dotted entries part inner' steps inner result := by
  rw [assign] at h
  split at h
  · rename_i hget
    obtain ⟨inner', hinner, h⟩ := Option.bind_eq_some_iff.mp h
    obtain rfl := Option.some.inj h
    exact ⟨_, _, inner', hinner, .new hget⟩
  · rename_i span inner hget
    obtain ⟨inner', hinner, h⟩ := Option.bind_eq_some_iff.mp h
    obtain rfl := Option.some.inj h
    exact ⟨_, _, inner', hinner, .table hget (by decide)⟩
  · rename_i span inner hget
    split at h
    · cases h
    · obtain ⟨inner', hinner, h⟩ := Option.bind_eq_some_iff.mp h
      obtain rfl := Option.some.inj h
      exact ⟨_, _, inner', hinner, .table hget (by decide)⟩
  · rename_i earlier span inner hget
    split at h
    · cases h
    · obtain ⟨inner', hinner, h⟩ := Option.bind_eq_some_iff.mp h
      obtain rfl := Option.some.inj h
      exact ⟨_, _, inner', hinner, .tables hget⟩
  · cases h

theorem within_cons {change : Entries → Option Entries} {path : Key}
    (h : entries.within change (part :: path) = some result) :
    ∃ steps inner inner', inner.within change path = some inner' ∧
      Replaces .implied entries part inner' steps inner result := by
  rw [within] at h
  split at h
  · rename_i hget
    obtain ⟨inner', hinner, h⟩ := Option.bind_eq_some_iff.mp h
    obtain rfl := Option.some.inj h
    exact ⟨_, _, inner', hinner, .new hget⟩
  · cases h
  · rename_i origin span inner horigin hget
    obtain ⟨inner', hinner, h⟩ := Option.bind_eq_some_iff.mp h
    obtain rfl := Option.some.inj h
    exact ⟨_, _, inner', hinner, .table hget horigin⟩
  · rename_i earlier span inner hget
    obtain ⟨inner', hinner, h⟩ := Option.bind_eq_some_iff.mp h
    obtain rfl := Option.some.inj h
    exact ⟨_, _, inner', hinner, .tables hget⟩
  · cases h

end

end Entries

end Reftest.Toml
