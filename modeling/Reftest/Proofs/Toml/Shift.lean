import Reftest.Proofs.Toml.Entries
import Reftest.Toml.Assignment

namespace Reftest.Toml

def Span.shift (width : Nat) (span : Span) : Span :=
  ⟨span.start + width, span.stop + width⟩

mutual

def Node.shift (width : Nat) : Node → Node
  | .scalar span value => .scalar (span.shift width) value
  | .array span items => .array (span.shift width) (Node.shiftItems width items)
  | .table origin span entries =>
    .table origin (span.shift width) (Node.shiftEntries width entries)
  | .tables earlier span entries =>
    .tables (Node.shiftEarlier width earlier) (span.shift width) (Node.shiftEntries width entries)

def Node.shiftItems (width : Nat) : List Node → List Node
  | [] => []
  | item :: items => item.shift width :: Node.shiftItems width items

def Node.shiftEntries (width : Nat) : List (String × Node) → List (String × Node)
  | [] => []
  | (name, node) :: entries => (name, node.shift width) :: Node.shiftEntries width entries

def Node.shiftEarlier (width : Nat) :
    List (Span × List (String × Node)) → List (Span × List (String × Node))
  | [] => []
  | (span, entries) :: earlier =>
    (span.shift width, Node.shiftEntries width entries) :: Node.shiftEarlier width earlier

end

def KeyPart.shift (width : Nat) (part : KeyPart) : KeyPart :=
  { part with span := part.span.shift width }

def Key.shift (width : Nat) (key : Key) : Key :=
  key.map (KeyPart.shift width)

def Assignment.shift (width : Nat) (assignment : Assignment) : Assignment :=
  ⟨assignment.key.shift width, assignment.value.shift width⟩

def Entries.shift (width : Nat) (entries : Entries) : Entries :=
  entries.map fun entry => (entry.1, entry.2.shift width)

theorem KeyPart.name_shift (width : Nat) (part : KeyPart) : (part.shift width).name = part.name :=
  rfl

namespace Node

theorem shiftItems_eq (width : Nat) (items : List Node) :
    shiftItems width items = items.map (shift width) := by
  induction items with
  | nil => rfl
  | cons item items ih => rw [shiftItems, ih, List.map_cons]

theorem shiftEntries_eq (width : Nat) (entries : List (String × Node)) :
    shiftEntries width entries = Entries.shift width entries := by
  induction entries with
  | nil => rfl
  | cons entry entries ih => rw [shiftEntries, ih, Entries.shift, Entries.shift, List.map_cons]

theorem shiftEarlier_eq (width : Nat) (earlier : List (Span × List (String × Node))) :
    shiftEarlier width earlier =
      earlier.map fun table => (table.1.shift width, Entries.shift width table.2) := by
  induction earlier with
  | nil => rfl
  | cons table earlier ih => rw [shiftEarlier, ih, List.map_cons, shiftEntries_eq]

@[simp] theorem shift_scalar (width : Nat) (span : Span) (value : Scalar) :
    (scalar span value).shift width = .scalar (span.shift width) value := by
  rw [shift]

@[simp] theorem shift_array (width : Nat) (span : Span) (items : List Node) :
    (array span items).shift width = .array (span.shift width) (items.map (shift width)) := by
  rw [shift, shiftItems_eq]

@[simp] theorem shift_table (width : Nat) (origin : Origin) (span : Span) (entries : Entries) :
    (table origin span entries).shift width =
      .table origin (span.shift width) (entries.shift width) := by
  rw [shift, shiftEntries_eq]

@[simp] theorem shift_tables (width : Nat) (earlier : List (Span × List (String × Node)))
    (span : Span) (entries : Entries) :
    (tables earlier span entries).shift width =
      .tables (earlier.map fun table => (table.1.shift width, Entries.shift width table.2))
        (span.shift width) (entries.shift width) := by
  rw [shift, shiftEarlier_eq, shiftEntries_eq]

theorem scalar_of_shift {width : Nat} {node : Node} {span : Span} {value : Scalar}
    (h : node.shift width = .scalar span value) : ∃ span', node = .scalar span' value := by
  cases node with
  | scalar span' value' =>
      rw [shift_scalar] at h
      cases h
      exact ⟨span', rfl⟩
  | array span' items =>
      rw [shift_array] at h
      cases h
  | table origin span' entries =>
      rw [shift_table] at h
      cases h
  | tables earlier span' entries =>
      rw [shift_tables] at h
      cases h

theorem items?_shift (width : Nat) (node : Node) :
    (node.shift width).items? = node.items?.map (·.map (shift width)) := by
  cases node with
  | scalar span value => rw [shift_scalar]; rfl
  | array span items => rw [shift_array]; rfl
  | table origin span entries => rw [shift_table]; rfl
  | tables earlier span entries =>
      rw [shift_tables]
      simp [items?, List.map_reverse, Function.comp_def]

end Node

namespace Entries

theorem get?_shift (width : Nat) (entries : Entries) (name : String) :
    (entries.shift width).get? name = (entries.get? name).map (Node.shift width) := by
  induction entries with
  | nil => rfl
  | cons entry entries ih =>
      obtain ⟨first, node⟩ := entry
      by_cases hname : name = first
      · subst hname
        rw [shift, List.map_cons, get?_cons_self, get?_cons_self]
        rfl
      · rw [shift, List.map_cons, get?_cons_of_ne hname, get?_cons_of_ne hname]
        exact ih

theorem append_shift (width : Nat) (entries : Entries) (name : String) (node : Node) :
    (entries.append name node).shift width =
      (entries.shift width).append name (node.shift width) :=
  List.map_append

theorem set_shift (width : Nat) (entries : Entries) (name : String) (node : Node) :
    (entries.set name node).shift width = (entries.shift width).set name (node.shift width) := by
  rw [set, shift, shift, set, List.map_map, List.map_map]
  congr 1
  funext entry
  dsimp only [Function.comp]
  split
  · rfl
  · rfl

theorem bind_shift {width : Nat} {outcome outcome' : Option Entries}
    {wrap wrap' : Entries → Entries}
    (houtcome : outcome' = outcome.map (shift width))
    (hwrap : ∀ inner, wrap' (inner.shift width) = (wrap inner).shift width) :
    (outcome'.bind fun inner => some (wrap' inner)) =
      (outcome.bind fun inner => some (wrap inner)).map (shift width) := by
  rw [houtcome]
  cases outcome with
  | none => rfl
  | some inner => exact congrArg some (hwrap inner)

theorem append_table_shift (width : Nat) (entries : Entries) (name : String) (origin : Origin)
    (span : Span) (inner : Entries) :
    (entries.shift width).append name (.table origin (span.shift width) (inner.shift width)) =
      (entries.append name (.table origin span inner)).shift width := by
  rw [append_shift, Node.shift_table]

theorem set_table_shift (width : Nat) (entries : Entries) (name : String) (origin : Origin)
    (span : Span) (inner : Entries) :
    (entries.shift width).set name (.table origin (span.shift width) (inner.shift width)) =
      (entries.set name (.table origin span inner)).shift width := by
  rw [set_shift, Node.shift_table]

theorem assign_shift (width : Nat) (key : Key) (value : Node) (entries : Entries) :
    (entries.shift width).assign (key.shift width) (value.shift width) =
      (entries.assign key value).map (shift width) := by
  induction key generalizing entries with
  | nil => rfl
  | cons part key ih =>
      cases key with
      | nil =>
          rw [Key.shift, List.map_cons, List.map_nil, assign, assign]
          rw [KeyPart.name_shift, get?_shift]
          cases entries.get? part.name with
          | none => exact congrArg some (append_shift ..).symm
          | some node => rfl
      | cons next key =>
          have hinner : ∀ inner : Entries, (inner.shift width).assign
              (next.shift width :: Key.shift width key) (value.shift width) =
                (inner.assign (next :: key) value).map (shift width) := ih
          rw [Key.shift, List.map_cons, List.map_cons, assign, assign]
          rw [KeyPart.name_shift, get?_shift]
          cases entries.get? part.name with
          | none => exact bind_shift (hinner []) fun inner => append_table_shift ..
          | some node =>
              cases node with
              | scalar span value =>
                  rw [Option.map_some, Node.shift_scalar]
                  rfl
              | array span items =>
                  rw [Option.map_some, Node.shift_array]
                  rfl
              | table origin span inner =>
                  rw [Option.map_some, Node.shift_table]
                  cases origin with
                  | inline => rfl
                  | header => rfl
                  | implied =>
                      dsimp only
                      rw [List.isEmpty_map]
                      cases key with
                      | nil => rfl
                      | cons last key =>
                          exact bind_shift (hinner inner) fun inner => set_table_shift ..
                  | dotted => exact bind_shift (hinner inner) fun inner => set_table_shift ..
              | tables earlier span inner =>
                  rw [Option.map_some, Node.shift_tables]
                  dsimp only
                  rw [List.isEmpty_map]
                  cases key with
                  | nil => rfl
                  | cons last key =>
                      refine bind_shift (hinner inner) fun inner => ?_
                      rw [set_shift, Node.shift_tables]

theorem assignAll_shift (width : Nat) (entries : Entries) (assignments : List Assignment) :
    (entries.shift width).assignAll (assignments.map (Assignment.shift width)) =
      (entries.assignAll assignments).map (shift width) := by
  induction assignments generalizing entries with
  | nil => rfl
  | cons assignment assignments ih =>
      rw [List.map_cons, assignAll, assignAll, List.foldlM_cons, List.foldlM_cons]
      have hassign : (entries.shift width).assign (assignment.shift width).key
          (assignment.shift width).value =
            (entries.assign assignment.key assignment.value).map (shift width) :=
        assign_shift width assignment.key assignment.value entries
      rw [hassign]
      cases entries.assign assignment.key assignment.value with
      | none => rfl
      | some next => exact ih next

end Entries

end Reftest.Toml
