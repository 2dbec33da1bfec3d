import Reftest.Proofs.Toml.Order

/-!
What brought the nodes of a document into being.  A node is a value that was assigned, or a table
that a dotted key or a header opened; what is put into a table later changes nothing about that.
-/

namespace Reftest.Toml

namespace Node

def step? : Node → Step → Option Node
  | .table _ _ entries, .name name => Entries.get? entries name
  | _, .name _ => none
  | node, .index index => do
    let items ← node.items?
    items[index]?

def at? (node : Node) (path : List Step) : Option Node :=
  path.foldlM step? node

theorem at?_nil (node : Node) : node.at? [] = some node :=
  rfl

theorem at?_cons_eq_some {node inner : Node} {step : Step} {path : List Step} :
    node.at? (step :: path) = some inner ↔
      ∃ next, node.step? step = some next ∧ next.at? path = some inner := by
  rw [at?, List.foldlM_cons]
  exact Option.bind_eq_some_iff

theorem step?_array {span : Span} {items : List Node} {step : Step} {node : Node}
    (h : (Node.array span items).step? step = some node) :
    ∃ left right, items = left ++ node :: right ∧ step = .index left.length := by
  cases step with
  | name name => cases h
  | index index =>
      have hitem : items[index]? = some node := h
      obtain ⟨hindex, rfl⟩ := List.getElem?_eq_some_iff.mp hitem
      refine ⟨items.take index, items.drop (index + 1), ?_, ?_⟩
      · rw [← List.drop_eq_getElem_cons hindex, List.take_append_drop]
      · rw [List.length_take, Nat.min_eq_left (Nat.le_of_lt hindex)]

theorem step?_scalar {span : Span} {value : Scalar} (step : Step) :
    (Node.scalar span value).step? step = none := by
  cases step <;> rfl

theorem step?_tables {earlier : List (Span × List (String × Node))} {span : Span}
    {entries : List (String × Node)} {step : Step} {node : Node}
    (h : (Node.tables earlier span entries).step? step = some node) :
    ∃ later table former, (span, entries) :: earlier = later ++ table :: former ∧
      step = .index former.length ∧ node = .table .header table.1 table.2 := by
  cases step with
  | name name => cases h
  | index index =>
      change ((((span, entries) :: earlier).reverse.map fun table =>
        Node.table .header table.1 table.2)[index]?) = some node at h
      rw [List.getElem?_map, Option.map_eq_some_iff] at h
      obtain ⟨table, htable, rfl⟩ := h
      obtain ⟨hindex, rfl⟩ := List.getElem?_eq_some_iff.mp htable
      have hsplit := congrArg List.reverse
        (List.take_append_drop index ((span, entries) :: earlier).reverse)
      rw [List.drop_eq_getElem_cons hindex, List.reverse_append, List.reverse_cons,
        List.reverse_reverse, List.append_assoc, List.singleton_append] at hsplit
      refine ⟨_, _, _, hsplit.symm, ?_, rfl⟩
      rw [List.length_reverse, List.length_take, Nat.min_eq_left (Nat.le_of_lt hindex)]

theorem step?_table {origin : Origin} {span : Span} {entries : Entries} {step : Step}
    {node : Node} (h : (Node.table origin span entries).step? step = some node) :
    ∃ name, step = .name name ∧ entries.get? name = some node := by
  cases step with
  | name name => exact ⟨name, rfl, h⟩
  | index index => cases h

theorem Laid.step? {limit : Nat} {node next : Node} {step : Step} (h : node.Laid limit)
    (hstep : node.step? step = some next) : next.Laid limit := by
  cases h with
  | scalar hlimit =>
      rw [step?_scalar] at hstep
      cases hstep
  | array hlimit hspan hwithin hordered hitems =>
      obtain ⟨left, right, rfl, -⟩ := step?_array hstep
      exact hitems next (List.mem_append_right _ List.mem_cons_self)
  | table hlimit hdistinct hordered hentries =>
      obtain ⟨name, -, hget⟩ := step?_table hstep
      exact hentries _ (Entries.mem_of_get? hget)
  | tables hspans htables =>
      obtain ⟨later, table, former, hsplit, -, rfl⟩ := step?_tables hstep
      exact htables table (hsplit ▸ List.mem_append_right _ List.mem_cons_self)

theorem Laid.at? {limit : Nat} {node inner : Node} {path : List Step} (h : node.Laid limit)
    (hat : node.at? path = some inner) : inner.Laid limit := by
  induction path generalizing node with
  | nil => exact Option.some.inj hat ▸ h
  | cons step path ih =>
      obtain ⟨next, hstep, hpath⟩ := at?_cons_eq_some.mp hat
      exact ih (h.step? hstep) hpath

end Node

namespace Entries

def at? (entries : Entries) : List Step → Option Node
  | .name name :: path => do
    let node ← entries.get? name
    node.at? path
  | _ => none

theorem at?_eq_some {entries : Entries} {path : List Step} {node : Node}
    (h : entries.at? path = some node) :
    ∃ name rest next, path = .name name :: rest ∧ entries.get? name = some next ∧
      next.at? rest = some node := by
  unfold at? at h
  split at h
  · rename_i name rest
    obtain ⟨next, hget, hrest⟩ := Option.bind_eq_some_iff.mp h
    exact ⟨name, rest, next, rfl, hget, hrest⟩
  · cases h

theorem Laid.at? {limit : Nat} {entries : Entries} {path : List Step} {node : Node}
    (h : entries.Laid limit) (hat : entries.at? path = some node) : node.Laid limit := by
  obtain ⟨name, rest, next, rfl, hget, hrest⟩ := at?_eq_some hat
  exact (h.get? hget).at? hrest

/-- The path of the table that a key leads to: in the latest element of each sequence of tables. -/
def enter : Entries → Key → List Step
  | _, [] => []
  | entries, part :: key =>
    .name part.name ::
      match entries.get? part.name with
      | some (.table _ _ inner) => enter inner key
      | some (.tables earlier _ inner) => .index earlier.length :: enter inner key
      | _ => enter [] key

def pathTo (entries : Entries) (parents : Key) (part : KeyPart) : List Step :=
  entries.enter parents ++ [.name part.name]

def Lacks (entries : Entries) (parents : Key) (part : KeyPart) : Prop :=
  ∃ parent, entries.follow? parents = some parent ∧ parent.get? part.name = none

def elements (entries : Entries) (parents : Key) (part : KeyPart) : Nat :=
  match (entries.follow? parents).bind (·.get? part.name) with
  | some (.tables earlier _ _) => earlier.length + 1
  | _ => 0

def opened (entries : Entries) (header : Header) : List Step :=
  match header.path.getLast? with
  | none => []
  | some last =>
    let path := entries.pathTo header.path.dropLast last
    if header.element then
      path ++ [.index (entries.elements header.path.dropLast last)]
    else path

section

variable {entries inner : Entries} {part : KeyPart} {steps : List Step}

theorem Enters.enter (h : entries.Enters part steps inner) (key : Key) :
    entries.enter (part :: key) = steps ++ inner.enter key := by
  rw [Entries.enter]
  cases h with
  | new hget => rw [hget, List.singleton_append]
  | table hget => rw [hget, List.singleton_append]
  | tables hget =>
      rw [hget]
      rfl

theorem Enters.pathTo (h : entries.Enters part steps inner) (parents : Key) (last : KeyPart) :
    entries.pathTo (part :: parents) last = steps ++ inner.pathTo parents last := by
  rw [Entries.pathTo, h.enter, List.append_assoc]
  rfl

theorem Enters.lacks (h : entries.Enters part steps inner) {parents : Key} {last : KeyPart}
    (hlacks : inner.Lacks parents last) : entries.Lacks (part :: parents) last := by
  obtain ⟨parent, hparent, hnone⟩ := hlacks
  exact ⟨parent, (h.follow? parents).trans hparent, hnone⟩

end

end Entries

/-- What is taken for the origin of a value, and of the tables of each kind, under a path. -/
structure Provenance where
  value : List Step → Node → Prop
  dotted : List Step → Span → Prop
  implied : List Step → Span → Prop
  header : List Step → Span → Prop

def Node.IsValue : Node → Prop
  | .table .inline _ _ => True
  | .table _ _ _ => False
  | .tables _ _ _ => False
  | _ => True

/-- A node and all that was put into it has an origin. -/
inductive Traced (origins : Provenance) : List Step → Node → Prop where
  | value {path : List Step} {node : Node} (hvalue : node.IsValue) (h : origins.value path node) :
      Traced origins path node
  | dotted {path : List Step} {span : Span} {entries : List (String × Node)}
      (h : origins.dotted path span)
      (hentries : ∀ entry ∈ entries, Traced origins (path ++ [.name entry.1]) entry.2) :
      Traced origins path (.table .dotted span entries)
  | implied {path : List Step} {span : Span} {entries : List (String × Node)}
      (h : origins.implied path span)
      (hentries : ∀ entry ∈ entries, Traced origins (path ++ [.name entry.1]) entry.2) :
      Traced origins path (.table .implied span entries)
  | header {path : List Step} {span : Span} {entries : List (String × Node)}
      (h : origins.header path span)
      (hentries : ∀ entry ∈ entries, Traced origins (path ++ [.name entry.1]) entry.2) :
      Traced origins path (.table .header span entries)
  | tables {path : List Step} {earlier : List (Span × List (String × Node))} {span : Span}
      {entries : List (String × Node)}
      (h : ∀ later table former, (span, entries) :: earlier = later ++ table :: former →
        origins.header (path ++ [.index former.length]) table.1)
      (hentries : ∀ later table former, (span, entries) :: earlier = later ++ table :: former →
        ∀ entry ∈ table.2,
          Traced origins (path ++ [.index former.length] ++ [.name entry.1]) entry.2) :
      Traced origins path (.tables earlier span entries)

namespace Entries

variable {origins : Provenance} {base : List Step}

def Traced (origins : Provenance) (base : List Step) (entries : Entries) : Prop :=
  ∀ entry ∈ entries, Toml.Traced origins (base ++ [.name entry.1]) entry.2

theorem traced_nil (origins : Provenance) (base : List Step) : Traced origins base [] := by
  intro entry hentry
  cases hentry

theorem Traced.append {entries : Entries} (h : entries.Traced origins base) {name : String}
    {node : Node} (hnode : Toml.Traced origins (base ++ [.name name]) node) :
    (entries.append name node).Traced origins base := by
  intro entry hentry
  rcases List.mem_append.mp hentry with hentry | hentry
  · exact h entry hentry
  · rw [List.mem_singleton.mp hentry]
    exact hnode

theorem Traced.set {entries : Entries} (h : entries.Traced origins base) {name : String}
    {node : Node} (hnode : Toml.Traced origins (base ++ [.name name]) node) :
    (entries.set name node).Traced origins base := by
  intro entry hentry
  obtain ⟨old, hold, rfl⟩ := List.mem_map.mp hentry
  split
  · exact hnode
  · exact h old hold

theorem Traced.remove {entries : Entries} (h : entries.Traced origins base) (name : String) :
    (entries.remove name).Traced origins base :=
  fun entry hentry => h entry (List.mem_filter.mp hentry).1

theorem Traced.get? {entries : Entries} (h : entries.Traced origins base) {name : String}
    {node : Node} (hnode : entries.get? name = some node) :
    Toml.Traced origins (base ++ [.name name]) node :=
  h _ (mem_of_get? hnode)

end Entries

section

variable {origins : Provenance} {path : List Step}

theorem Traced.of_table {origin : Origin} {span : Span} {inner : List (String × Node)}
    (h : Traced origins path (.table origin span inner)) (horigin : origin ≠ .inline) :
    Entries.Traced origins path inner ∧ ∀ inner' : Entries, inner'.Traced origins path →
      Traced origins path (.table origin span inner') := by
  cases h with
  | value hvalue =>
      cases origin with
      | inline => exact absurd rfl horigin
      | header => cases hvalue
      | implied => cases hvalue
      | dotted => cases hvalue
  | dotted h hentries => exact ⟨hentries, fun _ hentries' => .dotted h hentries'⟩
  | implied h hentries => exact ⟨hentries, fun _ hentries' => .implied h hentries'⟩
  | header h hentries => exact ⟨hentries, fun _ hentries' => .header h hentries'⟩

theorem Traced.of_tables {earlier : List (Span × List (String × Node))} {span : Span}
    {inner : List (String × Node)} (h : Traced origins path (.tables earlier span inner)) :
    Entries.Traced origins (path ++ [.index earlier.length]) inner ∧
      ∀ inner' : Entries, inner'.Traced origins (path ++ [.index earlier.length]) →
        Traced origins path (.tables earlier span inner') := by
  cases h with
  | value hvalue => cases hvalue
  | tables h hentries =>
      refine ⟨hentries [] (span, inner) earlier rfl, ?_⟩
      intro inner' hinner'
      refine .tables ?_ ?_
      · intro later table former heq
        cases later with
        | nil =>
            obtain ⟨rfl, rfl⟩ := List.cons.inj heq
            exact h [] (span, inner) earlier rfl
        | cons last later =>
            obtain ⟨-, rfl⟩ := List.cons.inj heq
            exact h ((span, inner) :: later) table former rfl
      · intro later table former heq
        cases later with
        | nil =>
            obtain ⟨rfl, rfl⟩ := List.cons.inj heq
            exact hinner'
        | cons last later =>
            obtain ⟨-, rfl⟩ := List.cons.inj heq
            exact hentries ((span, inner) :: later) table former rfl

theorem traced_element {span : Span} {table : Entries}
    (hheader : origins.header (path ++ [.index 0]) span)
    (htable : table.Traced origins (path ++ [.index 0])) :
    Traced origins path (.tables [] span table) := by
  refine .tables ?_ ?_
  · intro later element former heq
    obtain ⟨rfl, heq⟩ | ⟨rest, rfl, heq⟩ := List.cons_eq_append_iff.mp heq
    · obtain ⟨rfl, rfl⟩ := List.cons.inj heq
      exact hheader
    · cases rest <;> cases heq
  · intro later element former heq
    obtain ⟨rfl, heq⟩ | ⟨rest, rfl, heq⟩ := List.cons_eq_append_iff.mp heq
    · obtain ⟨rfl, rfl⟩ := List.cons.inj heq
      exact htable
    · cases rest <;> cases heq

theorem Traced.next_element {earlier : List (Span × List (String × Node))} {span next : Span}
    {inner : List (String × Node)} {table : Entries}
    (h : Traced origins path (.tables earlier span inner))
    (hheader : origins.header (path ++ [.index (earlier.length + 1)]) next)
    (htable : table.Traced origins (path ++ [.index (earlier.length + 1)])) :
    Traced origins path (.tables ((span, inner) :: earlier) next table) := by
  cases h with
  | value hvalue => cases hvalue
  | tables h hentries =>
      refine .tables ?_ ?_
      · intro later element former heq
        cases later with
        | nil =>
            obtain ⟨rfl, rfl⟩ := List.cons.inj heq
            exact hheader
        | cons last later =>
            obtain ⟨-, heq⟩ := List.cons.inj heq
            exact h later element former heq
      · intro later element former heq
        cases later with
        | nil =>
            obtain ⟨rfl, rfl⟩ := List.cons.inj heq
            exact htable
        | cons last later =>
            obtain ⟨-, heq⟩ := List.cons.inj heq
            exact hentries later element former heq

end

/-- Where a node comes from that is found where paths lead: it is in a value, or its table was
opened. -/
inductive Explained (origins : Provenance) (leads : List Step → Option Node) :
    List Step → Node → Prop where
  | inside {front back : List Step} {value node : Node} (hvalue : value.IsValue)
      (hplace : leads front = some value) (h : origins.value front value)
      (hat : value.at? back = some node) : Explained origins leads (front ++ back) node
  | dotted {path : List Step} {span : Span} {entries : List (String × Node)}
      (h : origins.dotted path span) : Explained origins leads path (.table .dotted span entries)
  | implied {path : List Step} {span : Span} {entries : List (String × Node)}
      (h : origins.implied path span) : Explained origins leads path (.table .implied span entries)
  | header {path : List Step} {span : Span} {entries : List (String × Node)}
      (h : origins.header path span) : Explained origins leads path (.table .header span entries)
  | tables {path : List Step} {earlier : List (Span × List (String × Node))} {span : Span}
      {entries : List (String × Node)}
      (h : ∀ later table former, (span, entries) :: earlier = later ++ table :: former →
        origins.header (path ++ [.index former.length]) table.1) :
      Explained origins leads path (.tables earlier span entries)

section

variable {origins : Provenance} {leads : List Step → Option Node} {base path : List Step}
  {node inner : Node}

theorem explained_of_traced (h : Traced origins path node) (hleads : leads path = some node) :
    Explained origins leads path node := by
  cases h with
  | value hvalue h =>
      have hinside := Explained.inside hvalue hleads h (Node.at?_nil node)
      rw [List.append_nil] at hinside
      exact hinside
  | dotted h => exact .dotted h
  | implied h => exact .implied h
  | header h => exact .header h
  | tables h => exact .tables h

theorem Traced.at? (h : Traced origins base node)
    (hleads : ∀ later, leads (base ++ later) = node.at? later)
    (hat : node.at? path = some inner) : Explained origins leads (base ++ path) inner := by
  induction path generalizing base node with
  | nil =>
      obtain rfl := Option.some.inj hat
      rw [List.append_nil]
      refine explained_of_traced h ?_
      rw [← List.append_nil base, hleads, Node.at?_nil]
  | cons step path ih =>
      obtain ⟨next, hstep, hpath⟩ := Node.at?_cons_eq_some.mp hat
      have hnext : ∀ later, leads (base ++ [step] ++ later) = next.at? later := by
        intro later
        rw [List.append_assoc, List.singleton_append, hleads, Node.at?, List.foldlM_cons, hstep]
        rfl
      cases h with
      | value hvalue h =>
          refine .inside hvalue ?_ h hat
          rw [← List.append_nil base, hleads, Node.at?_nil]
      | dotted h hentries =>
          obtain ⟨name, rfl, hget⟩ := Node.step?_table hstep
          rw [List.append_cons]
          exact ih (hentries _ (Entries.mem_of_get? hget)) hnext hpath
      | implied h hentries =>
          obtain ⟨name, rfl, hget⟩ := Node.step?_table hstep
          rw [List.append_cons]
          exact ih (hentries _ (Entries.mem_of_get? hget)) hnext hpath
      | header h hentries =>
          obtain ⟨name, rfl, hget⟩ := Node.step?_table hstep
          rw [List.append_cons]
          exact ih (hentries _ (Entries.mem_of_get? hget)) hnext hpath
      | tables h hentries =>
          obtain ⟨later, table, former, htables, rfl, rfl⟩ := Node.step?_tables hstep
          rw [List.append_cons]
          exact ih (.header (h later table former htables) (hentries later table former htables))
            hnext hpath

end

theorem Entries.Traced.at? {origins : Provenance} {path : List Step} {entries : Entries}
    {node : Node} (h : entries.Traced origins []) (hat : entries.at? path = some node) :
    Explained origins entries.at? path node := by
  obtain ⟨name, rest, next, rfl, hget, hrest⟩ := Entries.at?_eq_some hat
  refine (h.get? hget).at? (fun later => ?_) hrest
  exact congrArg (Option.bind · (Node.at? · later)) hget

def Entries.IsTable (entries : Entries) (origin : Origin) (path : List Step) : Prop :=
  ∃ span inner, entries.at? path = some (.table origin span inner)

namespace Entries

variable {origins : Provenance} {base steps : List Step} {entries inner : Entries} {part : KeyPart}

theorem Enters.traced (henters : entries.Enters part steps inner)
    (h : entries.Traced origins base) : inner.Traced origins (base ++ steps) := by
  cases henters with
  | new => exact traced_nil _ _
  | table hget horigin => exact ((h.get? hget).of_table horigin).1
  | tables hget =>
      have hinner := (h.get? hget).of_tables.1
      rw [List.append_assoc] at hinner
      exact hinner

theorem Replaces.traced {made : Origin} {inner' result : Entries}
    (h : Replaces made entries part inner' steps inner result)
    (htraced : entries.Traced origins base)
    (hmade : entries.get? part.name = none → inner'.Traced origins (base ++ [.name part.name]) →
      Toml.Traced origins (base ++ [.name part.name]) (.table made part.span inner'))
    (hinner : inner'.Traced origins (base ++ steps)) : result.Traced origins base := by
  cases h with
  | new hget => exact htraced.append (hmade hget hinner)
  | table hget horigin => exact htraced.set (((htraced.get? hget).of_table horigin).2 inner' hinner)
  | tables hget =>
      refine htraced.set ((htraced.get? hget).of_tables.2 inner' ?_)
      rw [List.append_assoc]
      exact hinner

theorem follow?_traced {path : Key} (h : entries.Traced origins base)
    (hfollow : entries.follow? path = some inner) :
    inner.Traced origins (base ++ entries.enter path) := by
  induction path generalizing entries base with
  | nil =>
      obtain rfl := Option.some.inj hfollow
      rw [enter, List.append_nil]
      exact h
  | cons part path ih =>
      obtain ⟨steps, next, henters⟩ := enters_of_follow? hfollow
      rw [henters.follow?] at hfollow
      rw [henters.enter, ← List.append_assoc]
      exact ih (henters.traced h) hfollow

structure Accounts (origins : Provenance) (base : List Step) (entries : Entries) (key : Key)
    (value : Node) : Prop where
  value : ∀ parents part, key = parents ++ [part] →
    Toml.Traced origins (base ++ entries.pathTo parents part) value
  dotted : ∀ parents part rest, key = parents ++ part :: rest → rest ≠ [] →
    entries.Lacks parents part → origins.dotted (base ++ entries.pathTo parents part) part.span

theorem Accounts.tail {key : Key} {value : Node}
    (h : Accounts origins base entries (part :: key) value)
    (henters : entries.Enters part steps inner) :
    Accounts origins (base ++ steps) inner key value := by
  refine ⟨?_, ?_⟩
  · rintro parents last rfl
    rw [List.append_assoc, ← henters.pathTo]
    exact h.value (part :: parents) last rfl
  · rintro parents last rest rfl hrest hlacks
    rw [List.append_assoc, ← henters.pathTo]
    exact h.dotted (part :: parents) last rest rfl hrest (henters.lacks hlacks)

theorem assign_traced {key : Key} {value : Node} {result : Entries}
    (haccounts : Accounts origins base entries key value) (h : entries.Traced origins base)
    (hassign : entries.assign key value = some result) : result.Traced origins base := by
  induction key generalizing entries result base with
  | nil => cases hassign
  | cons part key ih =>
      cases key with
      | nil =>
          obtain ⟨-, rfl⟩ := assign_single hassign
          exact h.append (haccounts.value [] part rfl)
      | cons next key =>
          obtain ⟨steps, inner, inner', hinner, hreplaces⟩ := assign_dotted hassign
          have henters := hreplaces.enters
          refine hreplaces.traced h ?_ (ih (haccounts.tail henters) (henters.traced h) hinner)
          intro hget htable
          exact .dotted (haccounts.dotted [] part (next :: key) rfl (List.cons_ne_nil _ _)
            ⟨entries, rfl, hget⟩) htable

def Implies (origins : Provenance) (base : List Step) (entries : Entries) (path : Key) : Prop :=
  ∀ parents part rest, path = parents ++ part :: rest → entries.Lacks parents part →
    origins.implied (base ++ entries.pathTo parents part) part.span

theorem Implies.tail {path : Key} (h : Implies origins base entries (part :: path))
    (henters : entries.Enters part steps inner) : Implies origins (base ++ steps) inner path := by
  rintro parents last rest rfl hlacks
  rw [List.append_assoc, ← henters.pathTo]
  exact h (part :: parents) last rest rfl (henters.lacks hlacks)

def Keeps (origins : Provenance) (base : List Step) (change : Entries → Option Entries)
    (path : Key) (entries : Entries) : Prop :=
  ∀ parent result, entries.follow? path = some parent →
    parent.Traced origins (base ++ entries.enter path) → change parent = some result →
      result.Traced origins (base ++ entries.enter path)

theorem Keeps.tail {change : Entries → Option Entries} {path : Key}
    (h : Keeps origins base change (part :: path) entries)
    (henters : entries.Enters part steps inner) :
    Keeps origins (base ++ steps) change path inner := by
  intro parent result hfollow hparent hresult
  rw [List.append_assoc, ← henters.enter] at hparent ⊢
  exact h parent result ((henters.follow? path).trans hfollow) hparent hresult

theorem within_traced {change : Entries → Option Entries} {path : Key} {result : Entries}
    (himplies : Implies origins base entries path) (hkeeps : Keeps origins base change path entries)
    (h : entries.Traced origins base) (hwithin : entries.within change path = some result) :
    result.Traced origins base := by
  induction path generalizing entries result base with
  | nil =>
      unfold Keeps at hkeeps
      rw [enter, List.append_nil] at hkeeps
      exact hkeeps entries result rfl h hwithin
  | cons part path ih =>
      obtain ⟨steps, inner, inner', hinner, hreplaces⟩ := within_cons hwithin
      have henters := hreplaces.enters
      refine hreplaces.traced h ?_
        (ih (himplies.tail henters) (hkeeps.tail henters) (henters.traced h) hinner)
      intro hget htable
      exact .implied (himplies [] part path rfl ⟨entries, rfl, hget⟩) htable

theorem opened_eq {header : Header} {last : KeyPart} (hlast : header.path.getLast? = some last) :
    entries.opened header =
      if header.element then
        entries.pathTo header.path.dropLast last ++
          [.index (entries.elements header.path.dropLast last)]
      else entries.pathTo header.path.dropLast last := by
  rw [opened, hlast]

theorem elements_of_tables {parents : Key} {parent : Entries}
    {earlier : List (Span × List (String × Node))} {span : Span} {inner : List (String × Node)}
    (hfollow : entries.follow? parents = some parent)
    (hget : parent.get? part.name = some (.tables earlier span inner)) :
    entries.elements parents part = earlier.length + 1 := by
  rw [elements, hfollow, Option.bind_some, hget]

theorem elements_eq_zero {parents : Key} {parent : Entries}
    (hfollow : entries.follow? parents = some parent)
    (hget : ∀ earlier span inner, parent.get? part.name ≠ some (.tables earlier span inner)) :
    entries.elements parents part = 0 := by
  rw [elements, hfollow, Option.bind_some]
  split
  · rename_i earlier span inner htables
    exact absurd htables (hget earlier span inner)
  · rfl

theorem open?_traced {header : Header} {current : Entries} (h : entries.Traced origins [])
    (hopen : entries.open? header = some current) :
    current.Traced origins (entries.opened header) := by
  obtain ⟨parent, last, hparent, hlast, hcases⟩ := open?_cases hopen
  rcases hcases with ⟨-, rfl⟩ | ⟨-, -, rfl⟩ | ⟨⟨span, hget⟩, helement⟩
  · exact traced_nil _ _
  · exact traced_nil _ _
  · rw [opened_eq hlast, helement]
    exact (((follow?_traced h hparent).get? hget).of_table (by decide)).1

theorem close?_traced {header : Header} {table result : Entries}
    (himplies : Implies origins [] entries header.path.dropLast)
    (hheader : origins.header (entries.opened header) header.span)
    (htable : table.Traced origins (entries.opened header)) (h : entries.Traced origins [])
    (hclose : Entries.close? header table entries = some result) : result.Traced origins [] := by
  obtain ⟨last, hlast, hwithin⟩ := Option.bind_eq_some_iff.mp hclose
  rw [opened_eq hlast] at hheader htable
  refine within_traced himplies ?_ h hwithin
  intro parent result hfollow hparent hresult
  split at hresult
  · rename_i helement
    rw [if_pos helement] at hheader htable
    dsimp only at hresult
    split at hresult
    · rename_i earlier span inner hget
      obtain rfl := Option.some.inj hresult
      rw [elements_of_tables hfollow hget] at hheader htable
      exact hparent.set ((hparent.get? hget).next_element hheader htable)
    · rename_i hother
      obtain rfl := Option.some.inj hresult
      rw [elements_eq_zero hfollow hother] at hheader htable
      exact hparent.append (traced_element hheader htable)
  · rename_i helement
    rw [if_neg helement] at hheader htable
    obtain rfl := Option.some.inj hresult
    exact (hparent.remove last.name).append (.header hheader htable)

end Entries

end Reftest.Toml
