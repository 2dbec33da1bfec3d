import Reftest.Proofs.Toml.Embedding
import Reftest.Proofs.Toml.Makers
import Reftest.Proofs.Toml.Places

namespace Reftest.Toml

/-- A span marks `source`, behind which the text goes on with `below`. -/
structure Span.Covers (span : Span) (text source below : List Char) : Prop where
  suffix : source ++ below <:+ text
  start : span.start = (source ++ below).length
  stop : span.stop = below.length
  opens : ∃ c more, source = c :: more ∧ c ≠ '\n'

theorem Span.Covers.of_suffix {span : Span} {text text' source below : List Char}
    (h : span.Covers text source below) (hsuffix : text <:+ text') :
    span.Covers text' source below :=
  { h with suffix := h.suffix.trans hsuffix }

theorem covers_of_behind {text rest : List Char} {span : Span} (h : Behind rest text)
    (hspan : span = ⟨text.length, rest.length⟩) (hopens : text.head? ≠ some '\n') :
    ∃ source, text = source ++ rest ∧ span.Covers text source rest := by
  obtain ⟨c, more, rfl, taken, rfl⟩ := h
  refine ⟨c :: taken, rfl, List.suffix_refl _, ?_, ?_, c, taken, rfl, ?_⟩
  · rw [hspan]
    rfl
  · rw [hspan]
  · rintro rfl
    exact hopens rfl

/-- The part of a key behind `parents` is written as `source`. -/
def PartAt (text : List Char) (parents : Key) (part : KeyPart) (source below : List Char) : Prop :=
  ∃ place, Reaches NextPart text parents place ∧ skipBlanks place = source ++ below ∧
    KeyPart.read? (source ++ below) = .ok (some (part, below))

theorem head?_of_read? {text rest : List Char} {part : KeyPart}
    (h : KeyPart.read? text = .ok (some (part, rest))) : text.head? ≠ some '\n' := by
  intro hhead
  obtain ⟨more, rfl⟩ : ∃ more, text = '\n' :: more := by
    cases text with
    | nil => cases hhead
    | cons c more => exact ⟨more, by rw [Option.some.inj hhead]⟩
  cases h

theorem partAt_of_readKey {text rest : List Char} {parents others : Key} {part : KeyPart}
    (h : Key.read text = .ok (parents ++ part :: others, rest)) :
    ∃ source below, PartAt text parents part source below ∧
      part.span.Covers text source below := by
  obtain ⟨place, below, hplace, hpart⟩ := (readKey_eq_ok h).1.reaches rfl
  obtain ⟨hspan, hbehind⟩ := span_of_read? hpart
  obtain ⟨source, hsource, hcovers⟩ := covers_of_behind hbehind hspan (head?_of_read? hpart)
  have hsuffix := (suffix_skipBlanks place).trans (hplace.suffix fun _ _ _ => NextPart.suffix)
  exact ⟨source, below, ⟨place, hplace, hsource, hsource ▸ hpart⟩, hcovers.of_suffix hsuffix⟩

/-- In a value that begins a text, a path leads to what is written as `source`: the value itself,
an item of an array, what a pair of an inline table gives, or a table that the key of a pair leads
through. -/
inductive ValueSource : Nat → List Char → List Step → List Char → List Char → Prop where
  | whole {depth : Nat} {source below : List Char} {node : Node}
      (h : readValue depth (source ++ below) = .ok (node, below)) :
      ValueSource depth (source ++ below) [] source below
  | item {depth : Nat} {inner place start source below : List Char} {front : List Node}
      {path : List Step} (hfront : Reaches (NextItem (readValue depth)) inner front place)
      (hstart : skipGap place = .ok start) (h : ValueSource depth start path source below) :
      ValueSource (depth + 1) ('[' :: inner) (.index front.length :: path) source below
  | pair {depth : Nat} {inner place rest after source below : List Char}
      {front : List Assignment} {entries whole : Entries} {parents : Key} {part : KeyPart}
      {value : Node} {path : List Step}
      (hwhole : readInline (readValue depth) inner = .ok (whole, after))
      (hvalue : whole.at? (entries.pathTo parents part) = some value)
      (hfront : Reaches (NextPair (readValue depth)) inner front place)
      (hentries : Entries.assignAll [] front = some entries)
      (hkey : Key.read place = .ok (parents ++ [part], '=' :: rest))
      (h : ValueSource depth (skipBlanks rest) path source below) :
      ValueSource (depth + 1) ('{' :: inner) (entries.pathTo parents part ++ path) source below
  | part {depth : Nat} {inner place rest after source below : List Char}
      {front : List Assignment} {entries whole : Entries} {parents others : Key} {part : KeyPart}
      (hwhole : readInline (readValue depth) inner = .ok (whole, after))
      (hdotted : whole.IsTable .dotted (entries.pathTo parents part))
      (hfront : Reaches (NextPair (readValue depth)) inner front place)
      (hentries : Entries.assignAll [] front = some entries)
      (hkey : Key.read place = .ok (parents ++ part :: others, rest)) (hothers : others ≠ [])
      (hlacks : entries.Lacks parents part) (hpart : PartAt place parents part source below) :
      ValueSource (depth + 1) ('{' :: inner) (entries.pathTo parents part) source below

theorem values_of_readPairs {value : Reader Node} (hvalue : ReadsSpans value)
    {text rest : List Char} {pairs : List Assignment}
    (h : readPairs value text = .ok (pairs, rest)) : ∀ pair ∈ pairs, pair.value.IsValue := by
  intro pair hpair
  obtain ⟨front, back, hsplit⟩ := List.append_of_mem hpair
  obtain ⟨place, middle, more, -, -, hassigned⟩ := (readPairs_eq_ok h).reaches hsplit
  obtain ⟨behind, below, -, hnode, -, -⟩ := readAssigned_eq_ok hassigned
  exact (hvalue _ _ _ hnode).2.1

theorem valueSource_of_pairs {depth : Nat} {inner rest : List Char} {entries : Entries}
    (hvalue : ∀ {text rest : List Char} {value node : Node} {path : List Step},
      readValue depth text = .ok (value, rest) → value.at? path = some node →
        ∃ source below, ValueSource depth text path source below ∧
          node.span.Covers text source below)
    (h : readInline (readValue depth) inner = .ok (entries, rest)) {path : List Step} {node : Node}
    (hat : entries.at? path = some node) :
    ∃ source below, ValueSource (depth + 1) ('{' :: inner) path source below ∧
      node.span.Covers ('{' :: inner) source below := by
  obtain ⟨pairs, behind, hpairs, hassign, -⟩ := readInline_eq_ok h
  have hreads := readsSpans_readValue depth
  have htakes := readPairs_eq_ok hpairs
  have hnone : Entries.assignAll [] [] = some [] := rfl
  have htraced : entries.Traced (pairMakers pairs) [] :=
    Entries.assignAll_traced hnone (Entries.traced_nil _ _) (values_of_readPairs hreads hpairs)
      hassign
  have hsuffix : ∀ {place : List Char} {front : List Assignment},
      Reaches (NextPair (readValue depth)) inner front place → place <:+ '{' :: inner :=
    fun hplace => (hplace.suffix fun _ _ _ => NextPair.suffix hreads).trans
      (List.suffix_cons '{' inner)
  cases htraced.at? hat with
  | inside _ hplaced hpaired hinside =>
      cases hpaired with
      | intro hsplit hfront =>
          obtain ⟨place, middle, more, hplace, hkey, hassigned⟩ := htakes.reaches hsplit
          obtain ⟨rest', below', rfl, hnode, -, -⟩ := readAssigned_eq_ok hassigned
          obtain ⟨source, below, hsource, hcovers⟩ := hvalue hnode hinside
          refine ⟨source, below, .pair h hplaced hplace hfront hkey hsource,
            hcovers.of_suffix ?_⟩
          exact (suffix_skipBlanks rest').trans ((List.suffix_cons '=' rest').trans
            ((suffix_of_readKey hkey).trans (hsuffix hplace)))
  | dotted hled =>
      cases hled with
      | intro hsplit hfront hrest hlacks =>
          obtain ⟨place, middle, more, hplace, hkey, -⟩ := htakes.reaches hsplit
          obtain ⟨source, below, hpart, hcovers⟩ := partAt_of_readKey hkey
          exact ⟨source, below, .part h ⟨_, _, hat⟩ hplace hfront hkey hrest hlacks hpart,
            hcovers.of_suffix (hsuffix hplace)⟩
  | implied h => exact h.elim
  | header h => exact h.elim
  | tables h => exact (h [] _ _ rfl).elim

theorem valueSource_self {depth : Nat} {text rest : List Char} {value : Node}
    (h : readValue depth text = .ok (value, rest)) :
    ∃ source below, ValueSource depth text [] source below ∧
      value.span.Covers text source below := by
  obtain ⟨hbehind, -, hspan⟩ := readsSpans_readValue depth text value rest h
  obtain ⟨c, more, rfl, hleads⟩ := leads_of_readValue h
  have hopens : (c :: more).head? ≠ some '\n' := by
    intro hhead
    exact hleads.ne (by decide) (Option.some.inj hhead)
  obtain ⟨source, hsource, hcovers⟩ := covers_of_behind hbehind hspan hopens
  rw [hsource] at h ⊢
  exact ⟨source, rest, .whole h, hsource ▸ hcovers⟩

theorem valueSource_of_at? {depth : Nat} {text rest : List Char} {value node : Node}
    {path : List Step} (h : readValue depth text = .ok (value, rest))
    (hat : value.at? path = some node) :
    ∃ source below, ValueSource depth text path source below ∧
      node.span.Covers text source below := by
  induction depth generalizing text rest value node path with
  | zero =>
      cases path with
      | nil =>
          obtain rfl := Option.some.inj hat
          exact valueSource_self h
      | cons step path =>
          obtain ⟨next, hstep, -⟩ := Node.at?_cons_eq_some.mp hat
          obtain ⟨_, _, _, _, hdepth, -⟩ | ⟨_, _, _, _, hdepth, -⟩ | ⟨scalar, -, -, -, rfl⟩ :=
            readValue_cases h
          · cases hdepth
          · cases hdepth
          · rw [Node.step?_scalar] at hstep
            cases hstep
  | succ depth ih =>
      cases path with
      | nil =>
          obtain rfl := Option.some.inj hat
          exact valueSource_self h
      | cons step path =>
          obtain ⟨next, hstep, hpath⟩ := Node.at?_cons_eq_some.mp hat
          obtain ⟨inner, less, items, rfl, hdepth, hitems, rfl⟩ |
            ⟨inner, less, entries, rfl, hdepth, hentries, rfl⟩ | ⟨scalar, -, -, -, rfl⟩ :=
            readValue_cases h
          · obtain rfl := Nat.succ.inj hdepth
            obtain ⟨left, right, hsplit, rfl⟩ := Node.step?_array hstep
            obtain ⟨place, start, behind, hplace, hstart, hitem⟩ :=
              (readItems_eq_ok hitems).reaches hsplit
            obtain ⟨source, below, hsource, hcovers⟩ := ih hitem hpath
            refine ⟨source, below, .item hplace hstart hsource, hcovers.of_suffix ?_⟩
            have hsuffix := hplace.suffix fun _ _ _ => NextItem.suffix (readsSpans_readValue depth)
            exact (suffix_of_skipGap hstart).trans (hsuffix.trans (List.suffix_cons '[' inner))
          · obtain rfl := Nat.succ.inj hdepth
            obtain ⟨name, rfl, hget⟩ := Node.step?_table hstep
            refine valueSource_of_pairs ih hentries ?_
            exact Option.bind_eq_some_iff.mpr ⟨next, hget, hpath⟩
          · rw [Node.step?_scalar] at hstep
            cases hstep

def EntryAt (text : List Char) (front : List Entry) (place : List Char) : Prop :=
  ∃ spot, Reaches NextEntry text front spot ∧ Skips spot place

/-- From behind a header, the last value that is assigned under it reaches up to `below`. -/
inductive SectionEnd (text : List Char) :
    (front back : List Entry) → (behind below : List Char) → Prop where
  | done {front back : List Entry} {below : List Char}
      (hback : ∀ mark assigned others, back ≠ .assignment mark assigned :: others) :
      SectionEnd text front back below below
  | more {front back : List Entry} {mark : Mark} {assigned : Assignment}
      {place rest last behind below : List Char} (hplace : EntryAt text front place)
      (hkey : Key.read place = .ok (assigned.key, '=' :: rest))
      (hvalue : readValue depthLimit (skipBlanks rest) = .ok (assigned.value, last))
      (h : SectionEnd text (front ++ [.assignment mark assigned]) back last below) :
      SectionEnd text front (.assignment mark assigned :: back) behind below

/-- The table of a header is written from the header's brackets on. -/
inductive HeaderSource (text : List Char) (entries : List Entry) :
    List Step → List Char → List Char → Prop where
  | intro {front back : List Entry} {header : Header} {assembly : Assembly}
      {source inner behind below : List Char}
      (hstage : Stage entries front (.header header) back assembly)
      (hplace : EntryAt text front (source ++ below))
      (hheader : Bracketed (source ++ below) header inner behind)
      (hend : SectionEnd text (front ++ [.header header]) back behind below) :
      HeaderSource text entries (assembly.close.opened header) source below

/-- A path leads to what is written as `source` in a document: something in a value that is
assigned, a table named by a part of the key that brought it into being, the table of a header, or
a sequence of tables, which reaches from its first header to the end of its last table. -/
inductive Source (text : List Char) (entries : List Entry) (document : Entries) :
    List Step → List Char → List Char → Prop where
  | value {front back : List Entry} {mark : Mark} {parents : Key} {part : KeyPart} {value : Node}
      {assembly : Assembly} {place rest source below : List Char} {path : List Step}
      (hstage : Stage entries front (.assignment mark ⟨parents ++ [part], value⟩) back assembly)
      (hplace : EntryAt text front place)
      (hkey : Key.read place = .ok (parents ++ [part], '=' :: rest))
      (hvalue : document.at? (assembly.context ++ assembly.current.pathTo parents part) =
        some value)
      (h : ValueSource depthLimit (skipBlanks rest) path source below) :
      Source text entries document
        (assembly.context ++ assembly.current.pathTo parents part ++ path) source below
  | dotted {front back : List Entry} {mark : Mark} {parents others : Key} {part : KeyPart}
      {value : Node} {assembly : Assembly} {place source below : List Char}
      (hstage : Stage entries front (.assignment mark ⟨parents ++ part :: others, value⟩) back
        assembly)
      (hdotted : document.IsTable .dotted
        (assembly.context ++ assembly.current.pathTo parents part))
      (hothers : others ≠ []) (hlacks : assembly.current.Lacks parents part)
      (hplace : EntryAt text front place) (hpart : PartAt place parents part source below) :
      Source text entries document (assembly.context ++ assembly.current.pathTo parents part) source
        below
  | implied {front back : List Entry} {header : Header} {parents others : Key} {part : KeyPart}
      {assembly : Assembly} {place inner behind source below : List Char}
      (hstage : Stage entries front (.header header) back assembly)
      (himplied : document.IsTable .implied (assembly.close.pathTo parents part))
      (hpath : header.path = parents ++ part :: others) (hothers : others ≠ [])
      (hlacks : assembly.close.Lacks parents part) (hplace : EntryAt text front place)
      (hheader : Bracketed place header inner behind)
      (hpart : PartAt inner parents part source below) :
      Source text entries document (assembly.close.pathTo parents part) source below
  | header {path : List Step} {source below : List Char}
      (htable : document.IsTable .header path)
      (h : HeaderSource text entries path source below) :
      Source text entries document path source below
  | tables {path : List Step} {earlier : List (Span × List (String × Node))} {span : Span}
      {inner : List (String × Node)} {source below first below₀ latest : List Char}
      (htables : document.at? path = some (.tables earlier span inner))
      (hfirst : HeaderSource text entries (path ++ [.index 0]) first below₀)
      (hlast : HeaderSource text entries (path ++ [.index earlier.length]) latest below)
      (hsource : source ++ below = first ++ below₀) :
      Source text entries document path source below

section

variable {text : List Char} {entries : List Entry}

theorem entryAt_of_readAll {front back : List Entry} {entry : Entry}
    (h : Entry.readAll text = (front ++ entry :: back, none)) :
    ∃ place more, EntryAt text front place ∧ Entry.read place = .ok (entry, more) ∧
      Reaches NextEntry text (front ++ [entry]) more ∧ Entry.readAll more = (back, none) := by
  obtain ⟨spot, hspot, hrest⟩ := reaches_of_readAll h
  obtain ⟨more, ⟨place, hplace, hentry⟩, hback⟩ := nextEntry_of_readAll hrest
  exact ⟨place, more, ⟨spot, hspot, hplace⟩, hentry, hspot.concat ⟨place, hplace, hentry⟩, hback⟩

theorem EntryAt.suffix {front : List Entry} {place : List Char} (h : EntryAt text front place) :
    place <:+ text := by
  obtain ⟨spot, hspot, hplace⟩ := h
  exact hplace.suffix.trans (hspot.suffix fun _ _ _ => NextEntry.suffix)

theorem readAssignment {place more : List Char} {mark : Mark} {assigned : Assignment}
    (h : Entry.read place = .ok (.assignment mark assigned, more)) :
    ∃ rest below, Key.read place = .ok (assigned.key, '=' :: rest) ∧
      readValue depthLimit (skipBlanks rest) = .ok (assigned.value, below) ∧ more <:+ below := by
  obtain ⟨header, inner, behind, heq, -⟩ |
    ⟨assigned', middle, behind, heq, hkey, hassigned, hline⟩ := readEntry_cases h
  · cases heq
  · obtain ⟨-, rfl⟩ := Entry.assignment.inj heq
    obtain ⟨rest, below, rfl, hvalue, -, rfl⟩ := readAssigned_eq_ok hassigned
    exact ⟨rest, below, hkey, hvalue, (suffix_of_endLine hline).trans (suffix_skipBlanks below)⟩

theorem readHeaderEntry {place more : List Char} {header : Header}
    (h : Entry.read place = .ok (.header header, more)) :
    ∃ inner behind, Bracketed place header inner behind ∧ more <:+ behind := by
  obtain ⟨header', inner, behind, heq, hheader, hline⟩ | ⟨assigned, middle, behind, heq, -⟩ :=
    readEntry_cases h
  · obtain rfl := Entry.header.inj heq
    exact ⟨inner, behind, hheader, suffix_of_endLine hline⟩
  · cases heq

theorem values_of_readAll (h : Entry.readAll text = (entries, none)) :
    ∀ mark assigned, .assignment mark assigned ∈ entries → assigned.value.IsValue := by
  intro mark assigned hmem
  obtain ⟨front, back, rfl⟩ := List.append_of_mem hmem
  obtain ⟨place, more, -, hentry, -⟩ := entryAt_of_readAll h
  obtain ⟨rest, below, -, hvalue, -⟩ := readAssignment hentry
  exact (readsSpans_readValue _ _ _ _ hvalue).2.1

theorem sectionEnd_done {front back : List Entry} {behind : List Char} {header : Header}
    (hback : ∀ mark assigned others, back ≠ .assignment mark assigned :: others)
    (hover : header.over back = header) (hstop : header.span.stop = behind.length) :
    ∃ below, SectionEnd text front back behind below ∧ below <:+ behind ∧
      (header.over back).span = ⟨header.span.start, below.length⟩ := by
  refine ⟨behind, .done hback, List.suffix_refl _, ?_⟩
  rw [hover, ← hstop]

theorem sectionEnd_of_readAll {front back : List Entry} {spot behind : List Char} {header : Header}
    (hfront : Reaches NextEntry text front spot) (hback : Entry.readAll spot = (back, none))
    (hspot : spot <:+ behind) (hstop : header.span.stop = behind.length) :
    ∃ below, SectionEnd text front back behind below ∧ below <:+ behind ∧
      (header.over back).span = ⟨header.span.start, below.length⟩ := by
  induction back generalizing front spot behind header with
  | nil => exact sectionEnd_done (fun _ _ _ h => nomatch h) rfl hstop
  | cons entry back ih =>
      cases entry with
      | header other => exact sectionEnd_done (fun _ _ _ h => nomatch h) rfl hstop
      | assignment mark assigned =>
          obtain ⟨more, ⟨place, hplace, hentry⟩, hmore⟩ := nextEntry_of_readAll hback
          obtain ⟨rest, below, hkey, hvalue, hbelow⟩ := readAssignment hentry
          obtain ⟨hbehind, -, hspan⟩ := readsSpans_readValue _ _ _ _ hvalue
          have hstop' : (header.reach assigned.value.span.stop).span.stop = below.length :=
            congrArg Span.stop hspan
          obtain ⟨last, hend, hlast, hover⟩ :=
            ih (hfront.concat ⟨place, hplace, hentry⟩) hmore hbelow hstop'
          refine ⟨last, .more ⟨spot, hfront, hplace⟩ hkey hvalue hend, hlast.trans ?_, hover⟩
          have hrest : below <:+ rest := hbehind.suffix.trans (suffix_skipBlanks rest)
          have hassigned : rest <:+ place :=
            (List.suffix_cons '=' rest).trans (suffix_of_readKey hkey)
          exact hrest.trans (hassigned.trans (hplace.suffix.trans hspot))

theorem headerSource_of_headedBy (h : Entry.readAll text = (entries, none)) {path : List Step}
    {span : Span} (hheaded : HeadedBy entries path span) :
    ∃ source below, HeaderSource text entries path source below ∧
      span.Covers text source below := by
  cases hheaded with
  | @intro front back header assembly hstage =>
      rw [hstage.split] at h
      obtain ⟨place, more, hplace, hentry, hmore, hback⟩ := entryAt_of_readAll h
      obtain ⟨inner, behind, hheader, hbehind⟩ := readHeaderEntry hentry
      have hspan := hheader.span
      have hstop : header.span.stop = behind.length := congrArg Span.stop hspan
      obtain ⟨below, hend, hbelow, hover⟩ := sectionEnd_of_readAll hmore hback hbehind hstop
      obtain ⟨source, hsource, hcovers⟩ := covers_of_behind
        (hheader.behind_inner.trans_suffix (hbelow.trans hheader.suffix))
        (hover.trans (by rw [hspan])) (by rw [hheader.head?]; decide)
      rw [hsource] at hplace hheader
      exact ⟨source, below, .intro hstage hplace hheader hend,
        hcovers.of_suffix (hsource ▸ hplace.suffix)⟩

theorem exists_first_table (earlier : List (Span × List (String × Node))) (span : Span)
    (inner : List (String × Node)) :
    ∃ later first, (span, inner) :: earlier = later ++ [first] ∧
      (Node.tables earlier span inner).span = ⟨first.1.start, span.stop⟩ := by
  rcases List.eq_nil_or_concat earlier with rfl | ⟨later, first, rfl⟩
  · exact ⟨[], (span, inner), rfl, rfl⟩
  · rw [List.concat_eq_append]
    refine ⟨(span, inner) :: later, first, rfl, ?_⟩
    rw [Node.span, List.map_append, List.map_singleton, List.getLastD_concat]

theorem start_le_of_laid {earlier later : List (Span × List (String × Node))} {span : Span}
    {inner : List (String × Node)} {first : Span × List (String × Node)} {limit : Nat}
    (h : (Node.tables earlier span inner).Laid limit)
    (hsplit : (span, inner) :: earlier = later ++ [first]) : span.start ≤ first.1.start := by
  cases h with
  | tables hspans htables =>
      obtain ⟨-, rfl, -⟩ | ⟨others, -, rfl⟩ := cons_eq_append_cons hsplit
      · exact Nat.le_refl _
      · have hfirst : first.1 ∈ (others ++ [first]).map Prod.fst :=
          List.mem_map_of_mem (List.mem_append_right _ List.mem_cons_self)
        exact Nat.le_of_lt (List.rel_of_pairwise_cons hspans hfirst)

theorem source_of_tables (h : Entry.readAll text = (entries, none)) {document : Entries}
    {path : List Step} {earlier : List (Span × List (String × Node))} {span : Span}
    {inner : List (String × Node)} (hat : document.at? path = some (.tables earlier span inner))
    (hlaid : (Node.tables earlier span inner).Laid 0)
    (hheaders : ∀ later table former, (span, inner) :: earlier = later ++ table :: former →
      HeadedBy entries (path ++ [.index former.length]) table.1) :
    ∃ source below, Source text entries document path source below ∧
      (Node.tables earlier span inner).span.Covers text source below := by
  obtain ⟨later, first, hsplit, hspan⟩ := exists_first_table earlier span inner
  obtain ⟨opening, below₀, hfirst, hcovers₀⟩ :=
    headerSource_of_headedBy h (hheaders later first [] hsplit)
  obtain ⟨latest, below, hlast, hcovers⟩ :=
    headerSource_of_headedBy h (hheaders [] (span, inner) earlier rfl)
  -- The last table does not start in front of the first, so the stretch from the first header on
  -- is not empty.
  have hle : (latest ++ below).length ≤ (opening ++ below₀).length := by
    rw [← hcovers.start, ← hcovers₀.start]
    exact start_le_of_laid hlaid hsplit
  have hbehind : Behind below (opening ++ below₀) := by
    have hsuffix := List.suffix_of_suffix_length_le hcovers.suffix hcovers₀.suffix hle
    obtain ⟨c, more, rfl, -⟩ := hcovers.opens
    exact (behind_cons c (List.suffix_append more below)).of_suffix hsuffix
  have hopens : (opening ++ below₀).head? ≠ some '\n' := by
    obtain ⟨c, more, rfl, hc⟩ := hcovers₀.opens
    exact fun hhead => hc (Option.some.inj hhead)
  have hstretch : (Node.tables earlier span inner).span =
      ⟨(opening ++ below₀).length, below.length⟩ := by
    rw [hspan, hcovers₀.start, hcovers.stop]
  obtain ⟨source, hsource, hcovers'⟩ := covers_of_behind hbehind hstretch hopens
  exact ⟨source, below, .tables hat hfirst hlast hsource.symm,
    hcovers'.of_suffix hcovers₀.suffix⟩

theorem source_of_assignedBy (h : Entry.readAll text = (entries, none)) {document : Entries}
    {front back : List Step} {value node : Node} (hassigned : AssignedBy entries front value)
    (hvalue : document.at? front = some value) (hat : value.at? back = some node) :
    ∃ source below, Source text entries document (front ++ back) source below ∧
      node.span.Covers text source below := by
  cases hassigned with
  | intro hstage =>
      rw [hstage.split] at h
      obtain ⟨place, more, hplace, hentry, -⟩ := entryAt_of_readAll h
      obtain ⟨rest, behind, hkey, hread, -⟩ := readAssignment hentry
      obtain ⟨source, below, hsource, hcovers⟩ := valueSource_of_at? hread hat
      have hrest : skipBlanks rest <:+ place :=
        (suffix_skipBlanks rest).trans ((List.suffix_cons '=' rest).trans (suffix_of_readKey hkey))
      exact ⟨source, below, .value hstage hplace hkey hvalue hsource,
        hcovers.of_suffix (hrest.trans hplace.suffix)⟩

theorem source_of_dottedBy (h : Entry.readAll text = (entries, none)) {document : Entries}
    {path : List Step} {span : Span} (hdotted : DottedBy entries path span)
    (htable : document.IsTable .dotted path) :
    ∃ source below, Source text entries document path source below ∧
      span.Covers text source below := by
  cases hdotted with
  | intro hstage hothers hlacks =>
      rw [hstage.split] at h
      obtain ⟨place, more, hplace, hentry, -⟩ := entryAt_of_readAll h
      obtain ⟨rest, behind, hkey, -, -⟩ := readAssignment hentry
      obtain ⟨source, below, hpart, hcovers⟩ := partAt_of_readKey hkey
      exact ⟨source, below, .dotted hstage htable hothers hlacks hplace hpart,
        hcovers.of_suffix hplace.suffix⟩

theorem source_of_impliedBy (h : Entry.readAll text = (entries, none)) {document : Entries}
    {path : List Step} {span : Span} (himplied : ImpliedBy entries path span)
    (htable : document.IsTable .implied path) :
    ∃ source below, Source text entries document path source below ∧
      span.Covers text source below := by
  cases himplied with
  | intro hstage hpath hothers hlacks =>
      rw [hstage.split] at h
      obtain ⟨place, more, hplace, hentry, -⟩ := entryAt_of_readAll h
      obtain ⟨inner, behind, hheader, -⟩ := readHeaderEntry hentry
      obtain ⟨middle, hkey, -⟩ := hheader.readKey
      rw [hpath] at hkey
      obtain ⟨source, below, hpart, hcovers⟩ := partAt_of_readKey hkey
      exact ⟨source, below, .implied hstage htable hpath hothers hlacks hplace hheader hpart,
        hcovers.of_suffix (hheader.behind_inner.suffix.trans hplace.suffix)⟩

end

def SourceIn (text : List Char) (document : Entries) (path : List Step)
    (source below : List Char) : Prop :=
  ∃ entries, Entry.readAll (skipByteOrderMark text) = (entries, none) ∧
    Source (skipByteOrderMark text) entries document path source below

theorem suffix_skipByteOrderMark (text : List Char) : skipByteOrderMark text <:+ text := by
  cases text with
  | nil => exact List.suffix_refl _
  | cons c text =>
      rw [skipByteOrderMark]
      split
      · exact List.suffix_cons c text
      · exact List.suffix_refl _

/-- Every node of a document has its source in the text, at the place that its span marks. -/
theorem source_of_at? {text : List Char} {document : Entries} (h : readDocument text = .ok document)
    {path : List Step} {node : Node} (hat : document.at? path = some node) :
    ∃ source below, SourceIn text document path source below ∧
      node.span.Covers text source below := by
  have hlaid := (laid_of_readDocument h).at? hat
  suffices ∃ entries, Entry.readAll (skipByteOrderMark text) = (entries, none) ∧
      ∃ source below, Source (skipByteOrderMark text) entries document path source below ∧
        node.span.Covers (skipByteOrderMark text) source below by
    obtain ⟨entries, hall, source, below, hsource, hcovers⟩ := this
    exact ⟨source, below, ⟨entries, hall, hsource⟩,
      hcovers.of_suffix (suffix_skipByteOrderMark text)⟩
  unfold readDocument at h
  cases hall : Entry.readAll (skipByteOrderMark text) with
  | mk entries stop =>
      rw [hall] at h
      obtain ⟨assembly, hassembly, h⟩ := bind_eq_ok h
      split at h
      · cases h
      · obtain rfl := Except.ok.inj h
        have htraced := ((Assembly.traced_empty entries).addAll (values_of_readAll hall)
          hassembly).close fun _ => rfl
        rw [List.append_nil, List.nil_append] at htraced
        refine ⟨entries, rfl, ?_⟩
        cases htraced.at? hat with
        | inside _ hvalue hassigned hinside =>
            exact source_of_assignedBy hall hassigned hvalue hinside
        | dotted hdotted => exact source_of_dottedBy hall hdotted ⟨_, _, hat⟩
        | implied himplied => exact source_of_impliedBy hall himplied ⟨_, _, hat⟩
        | header hheaded =>
            obtain ⟨source, below, hsource, hcovers⟩ := headerSource_of_headedBy hall hheaded
            exact ⟨source, below, .header ⟨_, _, hat⟩ hsource, hcovers⟩
        | tables hheaders => exact source_of_tables hall hat hlaid hheaders

end Reftest.Toml
