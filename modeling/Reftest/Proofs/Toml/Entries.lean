import Reftest.Toml.Node

namespace Reftest.Toml.Entries

def Distinct (entries : Entries) : Prop :=
  (entries.map Prod.fst).Nodup

theorem lookup_cons_of_ne {α : Type} {name first : String} (h : name ≠ first) (value : α)
    (entries : List (String × α)) :
    List.lookup name ((first, value) :: entries) = entries.lookup name := by
  rw [List.lookup_cons, beq_false_of_ne h]

theorem mem_of_lookup {α : Type} {entries : List (String × α)} {name : String} {value : α}
    (h : entries.lookup name = some value) : (name, value) ∈ entries := by
  obtain ⟨before, after, rfl, -⟩ := List.lookup_eq_some_iff.mp h
  exact List.mem_append_right before List.mem_cons_self

theorem lookup_eq_some {α : Type} {entries : List (String × α)}
    (hdistinct : (entries.map Prod.fst).Nodup) {name : String} {value : α} :
    entries.lookup name = some value ↔ (name, value) ∈ entries := by
  constructor
  · exact mem_of_lookup
  · intro hmem
    induction entries with
    | nil => cases hmem
    | cons entry entries ih =>
        obtain ⟨first, other⟩ := entry
        obtain ⟨hnew, hdistinct⟩ := List.nodup_cons.mp hdistinct
        rcases List.mem_cons.mp hmem with heq | htail
        · obtain ⟨rfl, rfl⟩ := Prod.mk.inj heq
          exact List.lookup_cons_self
        · have hne : name ≠ first := by
            rintro rfl
            exact hnew (List.mem_map.mpr ⟨(name, value), htail, rfl⟩)
          rw [lookup_cons_of_ne hne]
          exact ih hdistinct htail

theorem get?_cons_self (name : String) (node : Node) (entries : Entries) :
    get? ((name, node) :: entries) name = some node :=
  List.lookup_cons_self

theorem get?_cons_of_ne {name first : String} (h : name ≠ first) (node : Node)
    (entries : Entries) : get? ((first, node) :: entries) name = entries.get? name :=
  lookup_cons_of_ne h node entries

theorem mem_of_get? {entries : Entries} {name : String} {node : Node}
    (h : entries.get? name = some node) : (name, node) ∈ entries :=
  mem_of_lookup h

theorem get?_eq_some_iff {entries : Entries} (hdistinct : entries.Distinct) {name : String}
    {node : Node} : entries.get? name = some node ↔ (name, node) ∈ entries :=
  lookup_eq_some hdistinct

theorem get?_eq_none_iff {entries : Entries} {name : String} :
    entries.get? name = none ↔ ∀ entry ∈ entries, entry.1 ≠ name := by
  rw [get?, List.lookup_eq_none_iff]
  constructor
  · intro h entry hentry heq
    exact bne_iff_ne.mp (h entry hentry) heq.symm
  · intro h entry hentry
    exact bne_iff_ne.mpr fun heq => h entry hentry heq.symm

theorem get?_append_eq_none {entries : Entries} {name other : String}
    (h : entries.get? name = none) (hne : other ≠ name) (node : Node) :
    Entries.get? (entries ++ [(other, node)]) name = none := by
  rw [get?_eq_none_iff]
  intro entry hentry
  rcases List.mem_append.mp hentry with hentry | hentry
  · exact get?_eq_none_iff.mp h entry hentry
  · rw [List.mem_singleton.mp hentry]
    exact hne

theorem Distinct.append {entries : Entries} (h : entries.Distinct) {name : String}
    (hnew : entries.get? name = none) (node : Node) : (entries.append name node).Distinct := by
  unfold Distinct Entries.append
  rw [List.map_append, List.nodup_append]
  refine ⟨h, List.nodup_cons.mpr ⟨List.not_mem_nil, List.nodup_nil⟩, ?_⟩
  intro key hkey other hother
  obtain ⟨entry, hentry, rfl⟩ := List.mem_map.mp hkey
  rw [List.mem_singleton.mp hother]
  exact get?_eq_none_iff.mp hnew entry hentry

theorem map_fst_set (entries : Entries) (name : String) (node : Node) :
    (entries.set name node).map Prod.fst = entries.map Prod.fst := by
  rw [set, List.map_map]
  apply List.map_congr_left
  intro entry hentry
  change (if entry.1 = name then (name, node) else entry).1 = entry.1
  split
  · rename_i h
    exact h.symm
  · rfl

theorem Distinct.set {entries : Entries} (h : entries.Distinct) (name : String) (node : Node) :
    (entries.set name node).Distinct := by
  unfold Distinct
  rw [map_fst_set]
  exact h

theorem Distinct.remove {entries : Entries} (h : entries.Distinct) (name : String) :
    (entries.remove name).Distinct :=
  (List.filter_sublist.map Prod.fst).nodup h

theorem get?_remove (entries : Entries) (name : String) :
    (entries.remove name).get? name = none := by
  rw [get?_eq_none_iff]
  intro entry hentry
  exact of_decide_eq_true (List.mem_filter.mp hentry).2

end Reftest.Toml.Entries
