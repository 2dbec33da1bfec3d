import Reftest.Proofs.Toml.Descent
import Reftest.Proofs.Toml.Extent

namespace Reftest.Toml

namespace Span

def first (span : Span) : Nat :=
  span.start

def last (span : Span) : Nat :=
  span.stop

end Span

namespace Node

def start (node : Node) : Nat :=
  node.span.first

def rest : Node → Nat
  | .array span _ => span.last
  | node => node.start

def Before (left right : Node) : Prop :=
  right.start < left.rest

/-- A node stands in front of a limit, and so does what is in it, in the order of the text. -/
inductive Laid (limit : Nat) : Node → Prop where
  | scalar {span : Span} {value : Scalar} (hlimit : limit ≤ span.first) :
      Laid limit (.scalar span value)
  | array {span : Span} {items : List Node} (hlimit : limit ≤ span.last)
      (hspan : span.last ≤ span.first)
      (hwithin : ∀ item ∈ items, span.last ≤ item.rest ∧ item.start ≤ span.first)
      (hordered : items.Pairwise Before) (hitems : ∀ item ∈ items, item.Laid limit) :
      Laid limit (.array span items)
  | table {origin : Origin} {span : Span} {entries : List (String × Node)}
      (hlimit : limit ≤ span.first) (hdistinct : Entries.Distinct entries)
      (hordered : entries.Pairwise fun left right => left.2.Before right.2)
      (hentries : ∀ entry ∈ entries, entry.2.Laid limit) : Laid limit (.table origin span entries)
  | tables {earlier : List (Span × List (String × Node))} {span : Span}
      {entries : List (String × Node)}
      (hspans : (span :: earlier.map Prod.fst).Pairwise fun later former =>
        later.first < former.first)
      (htables : ∀ table ∈ (span, entries) :: earlier,
        (Node.table .header table.1 table.2).Laid limit) : Laid limit (.tables earlier span entries)

theorem Laid.mono {limit limit' : Nat} {node : Node} (h : node.Laid limit) (hle : limit' ≤ limit) :
    node.Laid limit' := by
  induction h with
  | scalar hlimit => exact .scalar (Nat.le_trans hle hlimit)
  | array hlimit hspan hwithin hordered hitems ih =>
      exact .array (Nat.le_trans hle hlimit) hspan hwithin hordered ih
  | table hlimit hdistinct hordered hentries ih =>
      exact .table (Nat.le_trans hle hlimit) hdistinct hordered ih
  | tables hspans htables ih => exact .tables hspans ih

theorem Laid.le_first {limit : Nat} {origin : Origin} {span : Span}
    {entries : List (String × Node)} (h : (Node.table origin span entries).Laid limit) :
    limit ≤ span.first := by
  cases h with
  | table hlimit => exact hlimit

theorem Laid.le_rest {limit : Nat} {node : Node} (h : node.Laid limit) :
    limit ≤ node.rest ∧ node.rest ≤ node.start := by
  cases h with
  | scalar hlimit => exact ⟨hlimit, Nat.le_refl _⟩
  | array hlimit hspan => exact ⟨hlimit, hspan⟩
  | table hlimit => exact ⟨hlimit, Nat.le_refl _⟩
  | @tables earlier span entries hspans htables =>
      refine ⟨?_, Nat.le_refl _⟩
      have hrest : (Node.tables earlier span entries).rest =
          ((earlier.map Prod.fst).getLastD span).first := rfl
      rw [hrest, List.getLastD_eq_getLast?]
      cases hlast : (earlier.map Prod.fst).getLast? with
      | none => exact (htables _ List.mem_cons_self).le_first
      | some former =>
          obtain ⟨table, htable, rfl⟩ := List.mem_map.mp (List.mem_of_getLast? hlast)
          exact (htables table (List.mem_cons_of_mem _ htable)).le_first

end Node

namespace Entries

structure Laid (limit : Nat) (entries : Entries) : Prop where
  distinct : entries.Distinct
  ordered : entries.Pairwise fun left right => left.2.Before right.2
  laid : ∀ entry ∈ entries, entry.2.Laid limit

theorem laid_nil (limit : Nat) : Laid limit [] :=
  ⟨List.nodup_nil, List.Pairwise.nil, fun _ h => absurd h List.not_mem_nil⟩

theorem Laid.table {limit : Nat} {entries : Entries} (h : entries.Laid limit) (origin : Origin)
    {span : Span} (hlimit : limit ≤ span.first) : (Node.table origin span entries).Laid limit :=
  .table hlimit h.distinct h.ordered h.laid

theorem Laid.mono {limit limit' : Nat} {entries : Entries} (h : entries.Laid limit)
    (hle : limit' ≤ limit) : entries.Laid limit' :=
  ⟨h.distinct, h.ordered, fun entry hentry => (h.laid entry hentry).mono hle⟩

theorem Laid.append {limit limit' : Nat} {entries : Entries} (h : entries.Laid limit)
    {name : String} (hnew : entries.get? name = none) {node : Node} (hnode : node.Laid limit')
    (hle : limit' ≤ limit) (hstart : node.start < limit) :
    (entries.append name node).Laid limit' := by
  refine ⟨h.distinct.append hnew node, ?_, ?_⟩
  · refine List.pairwise_append.mpr ⟨h.ordered, List.pairwise_singleton _ _, ?_⟩
    intro left hleft right hright
    rw [List.mem_singleton.mp hright]
    exact Nat.lt_of_lt_of_le hstart (h.laid left hleft).le_rest.1
  · intro entry hentry
    rcases List.mem_append.mp hentry with hentry | hentry
    · exact (h.laid entry hentry).mono hle
    · rw [List.mem_singleton.mp hentry]
      exact hnode

theorem Laid.set {limit limit' : Nat} {entries : Entries} (h : entries.Laid limit)
    {name : String} {old : Node} (hold : entries.get? name = some old) {node : Node}
    (hnode : node.Laid limit') (hle : limit' ≤ limit) (hstart : node.start = old.start)
    (hrest : node.rest = old.rest) : (entries.set name node).Laid limit' := by
  have hplace : ∀ entry ∈ entries,
      (if entry.1 = name then (name, node) else entry).2.start = entry.2.start ∧
        (if entry.1 = name then (name, node) else entry).2.rest = entry.2.rest := by
    intro entry hentry
    split
    · rename_i hname
      have hentry : entries.get? entry.1 = some entry.2 :=
        (get?_eq_some_iff h.distinct).mpr hentry
      rw [hname, hold] at hentry
      rw [← Option.some.inj hentry]
      exact ⟨hstart, hrest⟩
    · exact ⟨rfl, rfl⟩
  refine ⟨h.distinct.set name node, ?_, ?_⟩
  · refine List.pairwise_map.mpr (h.ordered.imp_of_mem ?_)
    intro left right hleft hright hbefore
    unfold Node.Before
    rw [(hplace left hleft).2, (hplace right hright).1]
    exact hbefore
  · intro entry hentry
    obtain ⟨entry', hentry', rfl⟩ := List.mem_map.mp hentry
    split
    · exact hnode
    · exact (h.laid entry' hentry').mono hle

theorem Laid.remove {limit : Nat} {entries : Entries} (h : entries.Laid limit) (name : String) :
    (entries.remove name).Laid limit :=
  ⟨h.distinct.remove name, h.ordered.sublist List.filter_sublist,
    fun entry hentry => h.laid entry (List.mem_filter.mp hentry).1⟩

theorem Laid.of_table {limit : Nat} {origin : Origin} {span : Span} {inner : List (String × Node)}
    (h : (Node.table origin span inner).Laid limit) : limit ≤ span.first ∧ Laid limit inner := by
  cases h with
  | table hlimit hdistinct hordered hentries => exact ⟨hlimit, hdistinct, hordered, hentries⟩

theorem Laid.of_tables {limit : Nat} {earlier : List (Span × List (String × Node))} {span : Span}
    {inner : List (String × Node)} (h : (Node.tables earlier span inner).Laid limit) :
    limit ≤ span.first ∧ Laid limit inner := by
  cases h with
  | tables hspans htables => exact of_table (htables _ List.mem_cons_self)

theorem Laid.get? {limit : Nat} {entries : Entries} (h : entries.Laid limit) {name : String}
    {node : Node} (hnode : entries.get? name = some node) : node.Laid limit :=
  h.laid _ (mem_of_get? hnode)

theorem Laid.set_table {limit limit' : Nat} {entries : Entries} (h : entries.Laid limit)
    {name : String} {origin : Origin} {span : Span} {old inner : List (String × Node)}
    (hold : entries.get? name = some (.table origin span old)) (hle : limit' ≤ limit)
    (hinner : Laid limit' inner) : (entries.set name (.table origin span inner)).Laid limit' := by
  have hlimit := (Laid.of_table (h.get? hold)).1
  exact h.set hold (hinner.table origin (Nat.le_trans hle hlimit)) hle rfl rfl

theorem Laid.set_tables {limit limit' : Nat} {entries : Entries} (h : entries.Laid limit)
    {name : String} {earlier : List (Span × List (String × Node))} {span : Span}
    {old inner : List (String × Node)} (hold : entries.get? name = some (.tables earlier span old))
    (hle : limit' ≤ limit) (hinner : Laid limit' inner) :
    (entries.set name (.tables earlier span inner)).Laid limit' := by
  cases h.get? hold with
  | tables hspans htables =>
      obtain ⟨hlast, hformer⟩ := List.forall_mem_cons.mp htables
      refine h.set hold (.tables hspans (List.forall_mem_cons.mpr ⟨?_, ?_⟩)) hle rfl rfl
      · exact hinner.table .header (Nat.le_trans hle hlast.le_first)
      · exact fun table htable => (hformer table htable).mono hle

theorem Enters.laid {limit : Nat} {entries inner : Entries} {part : KeyPart} {steps : List Step}
    (h : entries.Enters part steps inner) (hlaid : entries.Laid limit) : inner.Laid limit := by
  cases h with
  | new => exact laid_nil limit
  | table hget => exact (Laid.of_table (hlaid.get? hget)).2
  | tables hget => exact (Laid.of_tables (hlaid.get? hget)).2

theorem Replaces.laid {made : Origin} {limit limit' : Nat} (hle : limit' ≤ limit)
    {entries inner inner' result : Entries} {part : KeyPart} {steps : List Step}
    (h : Replaces made entries part inner' steps inner result)
    (hpart : limit' ≤ part.start ∧ part.start < limit) (hlaid : entries.Laid limit)
    (hinner : inner'.Laid limit') : result.Laid limit' := by
  cases h with
  | new hget => exact hlaid.append hget (hinner.table made hpart.1) hle hpart.2
  | table hget => exact hlaid.set_table hget hle hinner
  | tables hget => exact hlaid.set_tables hget hle hinner

def Beyond (limit limit' : Nat) (key : Key) : Prop :=
  ∀ part ∈ key, limit' ≤ part.start ∧ part.start < limit

theorem assign_laid {limit limit' : Nat} (hle : limit' ≤ limit) {key : Key}
    (hkey : Beyond limit limit' key) {value : Node} (hvalue : value.Laid limit')
    (hstart : value.start < limit) {entries result : Entries} (h : entries.Laid limit)
    (hassign : entries.assign key value = some result) : result.Laid limit' := by
  induction key generalizing entries result with
  | nil => cases hassign
  | cons part key ih =>
      obtain ⟨hpart, hrest⟩ := List.forall_mem_cons.mp hkey
      cases key with
      | nil =>
          obtain ⟨hget, rfl⟩ := assign_single hassign
          exact h.append hget hvalue hle hstart
      | cons next key =>
          obtain ⟨steps, inner, inner', hinner, hreplaces⟩ := assign_dotted hassign
          exact hreplaces.laid hle hpart h (ih hrest (hreplaces.enters.laid h) hinner)

theorem within_laid {limit limit' : Nat} (hle : limit' ≤ limit)
    {change : Entries → Option Entries} {path : Key} (hpath : Beyond limit limit' path)
    {entries result : Entries}
    (hchange : ∀ parent result, entries.follow? path = some parent → parent.Laid limit →
      change parent = some result → result.Laid limit')
    (h : entries.Laid limit) (hwithin : entries.within change path = some result) :
    result.Laid limit' := by
  induction path generalizing entries result with
  | nil => exact hchange entries result rfl h hwithin
  | cons part path ih =>
      obtain ⟨hpart, hrest⟩ := List.forall_mem_cons.mp hpath
      obtain ⟨steps, inner, inner', hinner, hreplaces⟩ := within_cons hwithin
      have henters := hreplaces.enters
      rw [henters.follow?] at hchange
      exact hreplaces.laid hle hpart h (ih hrest hchange (henters.laid h) hinner)

theorem follow?_laid {limit : Nat} {path : Key} {entries inner : Entries} (h : entries.Laid limit)
    (hfollow : entries.follow? path = some inner) : inner.Laid limit := by
  induction path generalizing entries with
  | nil =>
      obtain rfl := Option.some.inj hfollow
      exact h
  | cons part path ih =>
      obtain ⟨steps, next, henters⟩ := enters_of_follow? hfollow
      rw [henters.follow?] at hfollow
      exact ih (henters.laid h) hfollow

theorem open?_cases {header : Header} {entries current : Entries}
    (h : entries.open? header = some current) :
    ∃ parent last, entries.follow? header.path.dropLast = some parent ∧
      header.path.getLast? = some last ∧
      (parent.get? last.name = none ∧ current = [] ∨
        (∃ earlier span inner, parent.get? last.name = some (.tables earlier span inner)) ∧
          header.element = true ∧ current = [] ∨
        (∃ span, parent.get? last.name = some (.table .implied span current)) ∧
          header.element = false) := by
  obtain ⟨parent, hparent, h⟩ := Option.bind_eq_some_iff.mp h
  obtain ⟨last, hlast, h⟩ := Option.bind_eq_some_iff.mp h
  refine ⟨parent, last, hparent, hlast, ?_⟩
  split at h
  · rename_i hget
    exact Or.inl ⟨hget, (Option.some.inj h).symm⟩
  · rename_i earlier span inner hget
    split at h
    · rename_i helement
      exact Or.inr (Or.inl ⟨⟨earlier, span, inner, hget⟩, helement, (Option.some.inj h).symm⟩)
    · cases h
  · rename_i span inner hget
    split at h
    · cases h
    · rename_i helement
      obtain rfl := Option.some.inj h
      exact Or.inr (Or.inr ⟨⟨span, hget⟩, Bool.eq_false_iff.mpr helement⟩)
  · cases h

theorem open?_laid {limit : Nat} {header : Header} {entries current : Entries}
    (h : entries.Laid limit) (hopen : entries.open? header = some current) :
    current.Laid limit := by
  obtain ⟨parent, last, hparent, -, hcases⟩ := open?_cases hopen
  rcases hcases with ⟨-, rfl⟩ | ⟨-, -, rfl⟩ | ⟨⟨span, hget⟩, -⟩
  · exact laid_nil limit
  · exact laid_nil limit
  · exact (Laid.of_table ((follow?_laid h hparent).get? hget)).2

theorem Laid.set_element {limit limit' : Nat} {entries : Entries} (h : entries.Laid limit)
    {name : String} {earlier : List (Span × List (String × Node))} {span next : Span}
    {inner table : List (String × Node)}
    (hold : entries.get? name = some (.tables earlier span inner)) (hle : limit' ≤ limit)
    (hnext : limit' ≤ next.first ∧ next.first < limit) (htable : Laid limit' table) :
    (entries.set name (.tables ((span, inner) :: earlier) next table)).Laid limit' := by
  cases h.get? hold with
  | tables hspans htables =>
      have hlast : (((span, inner) :: earlier).map Prod.fst).getLastD next =
          (earlier.map Prod.fst).getLastD span := by
        rw [List.map_cons, List.getLastD_cons]
      have hstart : (Node.tables ((span, inner) :: earlier) next table).start =
          (Node.tables earlier span inner).start := by
        have hfirst := congrArg Span.first hlast
        exact hfirst
      refine h.set hold ?_ hle hstart hstart
      refine .tables (List.Pairwise.cons ?_ hspans) (List.forall_mem_cons.mpr ⟨?_, ?_⟩)
      · intro former hformer
        have hlimit : limit ≤ span.first := (htables _ List.mem_cons_self).le_first
        rcases List.mem_cons.mp hformer with rfl | hformer
        · exact Nat.lt_of_lt_of_le hnext.2 hlimit
        · have hlater := List.rel_of_pairwise_cons hspans hformer
          omega
      · exact htable.table .header hnext.1
      · exact fun former hformer => (htables former hformer).mono hle

theorem close?_laid {limit limit' : Nat} (hle : limit' ≤ limit) {header : Header}
    (hstart : limit' ≤ header.span.first ∧ header.span.first < limit)
    (hpath : Beyond limit limit' header.path) {table entries result current : Entries}
    (htable : table.Laid limit') (h : entries.Laid limit)
    (hopen : entries.open? header = some current)
    (hclose : Entries.close? header table entries = some result) : result.Laid limit' := by
  obtain ⟨last, hlast, hwithin⟩ := Option.bind_eq_some_iff.mp hclose
  have hpath' : Beyond limit limit' header.path.dropLast :=
    fun part hpart => hpath part (List.dropLast_subset _ hpart)
  refine within_laid hle hpath' ?_ h hwithin
  intro parent result hfollow hparent hresult
  obtain ⟨parent', last', hfollow', hlast', hcases⟩ := open?_cases hopen
  obtain rfl := Option.some.inj (hfollow.symm.trans hfollow')
  obtain rfl := Option.some.inj (hlast.symm.trans hlast')
  split at hresult
  · rename_i helement
    rcases hcases with ⟨hget, -⟩ | ⟨⟨earlier, span, inner, hget⟩, -, -⟩ | ⟨-, htable⟩
    · rw [hget] at hresult
      obtain rfl := Option.some.inj hresult
      refine hparent.append hget ?_ hle hstart.2
      refine .tables (List.pairwise_singleton _ _) ?_
      intro element helement
      rw [List.mem_singleton.mp helement]
      exact htable.table .header hstart.1
    · rw [hget] at hresult
      obtain rfl := Option.some.inj hresult
      exact hparent.set_element hget hle hstart htable
    · rw [helement] at htable
      cases htable
  · obtain rfl := Option.some.inj hresult
    exact (hparent.remove last.name).append (get?_remove parent last.name)
      (htable.table .header hstart.1) hle hstart.2

end Entries

inductive Chain {Item : Type} (within : Nat → Nat → Item → Prop) :
    Nat → Nat → List Item → Prop where
  | nil {limit stop : Nat} (hle : stop ≤ limit) : Chain within limit stop []
  | cons {limit middle stop : Nat} {item : Item} {items : List Item}
      (hitem : within limit middle item) (hitems : Chain within middle stop items) :
      Chain within limit stop (item :: items)

structure Assignment.Within (limit stop : Nat) (assignment : Assignment) : Prop where
  le : stop ≤ limit
  key : Entries.Beyond limit stop assignment.key
  value : assignment.value.Laid stop
  start : assignment.value.start < limit

structure Header.Within (limit stop : Nat) (header : Header) : Prop where
  le : stop ≤ limit
  path : Entries.Beyond limit stop header.path
  start : stop ≤ header.span.first ∧ header.span.first < limit

theorem Header.Within.mono {limit stop stop' : Nat} {header : Header}
    (h : header.Within limit stop) (hle : stop' ≤ stop) : header.Within limit stop' := by
  refine ⟨Nat.le_trans hle h.le, ?_, ?_⟩
  · intro part hpart
    obtain ⟨hlow, hhigh⟩ := h.path part hpart
    exact ⟨Nat.le_trans hle hlow, hhigh⟩
  · exact ⟨Nat.le_trans hle h.start.1, h.start.2⟩

def Entry.Within (limit stop : Nat) : Entry → Prop
  | .header opened => opened.Within limit stop
  | .assignment _ assigned => assigned.Within limit stop

theorem Entries.assignAll_laid {limit stop : Nat} {assignments : List Assignment}
    (hchain : Chain Assignment.Within limit stop assignments) {entries result : Entries}
    (h : entries.Laid limit) (hassign : entries.assignAll assignments = some result) :
    result.Laid stop := by
  induction hchain generalizing entries with
  | nil hle =>
      obtain rfl := Option.some.inj hassign
      exact h.mono hle
  | cons hitem hitems ih =>
      rw [assignAll, List.foldlM_cons] at hassign
      obtain ⟨next, hnext, hrest⟩ := Option.bind_eq_some_iff.mp hassign
      exact ih (assign_laid hitem.le hitem.key hitem.value hitem.start h hnext) hrest

namespace Assembly

structure Laid (limit : Nat) (assembly : Assembly) : Prop where
  current : assembly.current.Laid limit
  closed : ∀ header, assembly.header = some header →
    ∃ before inner, assembly.closed.Laid before ∧ header.Within before limit ∧
      assembly.closed.open? header = some inner

theorem Laid.mono {limit limit' : Nat} {assembly : Assembly} (h : assembly.Laid limit)
    (hle : limit' ≤ limit) : assembly.Laid limit' := by
  refine ⟨h.current.mono hle, ?_⟩
  intro header hheader
  obtain ⟨before, inner, hclosed, hwithin, hopen⟩ := h.closed header hheader
  exact ⟨before, inner, hclosed, hwithin.mono hle, hopen⟩

theorem close_laid {limit : Nat} {assembly : Assembly} (h : assembly.Laid limit) :
    assembly.close.Laid limit := by
  unfold close
  cases hheader : assembly.header with
  | none => exact h.current
  | some header =>
      obtain ⟨before, inner, hclosed, hwithin, hopen⟩ := h.closed header hheader
      dsimp only
      cases hclose : Entries.close? header assembly.current assembly.closed with
      | none => exact hclosed.mono hwithin.le
      | some result =>
          exact Entries.close?_laid hwithin.le hwithin.start hwithin.path h.current hclosed hopen
            hclose

theorem add?_laid {limit stop : Nat} {assembly result : Assembly} (h : assembly.Laid limit)
    {entry : Entry} (hentry : entry.Within limit stop) (hadd : assembly.add? entry = some result) :
    result.Laid stop := by
  cases entry with
  | header header =>
      obtain ⟨current, hopen, hresult⟩ := Option.bind_eq_some_iff.mp hadd
      obtain rfl := Option.some.inj hresult
      have hclose := close_laid h
      refine ⟨(Entries.open?_laid hclose hopen).mono hentry.le, ?_⟩
      intro header' hheader
      obtain rfl := Option.some.inj hheader
      exact ⟨limit, current, hclose, hentry, hopen⟩
  | assignment start assignment =>
      obtain ⟨current, hassign, hresult⟩ := Option.bind_eq_some_iff.mp hadd
      obtain rfl := Option.some.inj hresult
      refine ⟨Entries.assign_laid hentry.le hentry.key hentry.value hentry.start h.current hassign,
        ?_⟩
      intro header' hreach
      obtain ⟨header, hheader, rfl⟩ := Option.map_eq_some_iff.mp hreach
      obtain ⟨before, inner, hclosed, hwithin, hopen⟩ := h.closed header hheader
      have hwithin := hwithin.mono hentry.le
      exact ⟨before, inner, hclosed, ⟨hwithin.le, hwithin.path, hwithin.start⟩, hopen⟩

theorem addAll_laid {limit stop : Nat} {entries : List Entry}
    (hchain : Chain Entry.Within limit stop entries) {assembly result : Assembly}
    (h : assembly.Laid limit) (hadd : assembly.addAll entries = .ok result) :
    result.Laid stop := by
  induction hchain generalizing assembly with
  | nil hle =>
      obtain rfl := Except.ok.inj hadd
      exact h.mono hle
  | cons hitem hitems ih =>
      rw [addAll] at hadd
      split at hadd
      · rename_i next hnext
        exact ih (add?_laid h hitem hnext) hadd
      · cases hadd

theorem laid_empty (limit : Nat) : empty.Laid limit := by
  refine ⟨Entries.laid_nil limit, ?_⟩
  intro header hheader
  cases hheader

end Assembly

end Reftest.Toml
