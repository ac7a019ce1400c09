import RegisterWrites.Toml.Reader

/-!
# No key is given twice

In a document that has been read, no table has a key twice: not the document itself, and no table
in it, however deep it lies (`hasUniqueKeys_of_read?`). Keys enter a table where they are looked
up first, and the reader adds to the tables that it holds in no other way.
-/

namespace RegisterWrites.Toml

variable {key : String} {v : Value} {node : Node} {path : List String} {rest text : List Char}

/-- No table in a value has a key twice. -/
inductive Value.HasUniqueKeys : Value → Prop
  | string (text : String) : HasUniqueKeys (.string text)
  | integer (n : Int) : HasUniqueKeys (.integer n)
  | float (x : Decimal.Floating) : HasUniqueKeys (.float x)
  | boolean (b : Bool) : HasUniqueKeys (.boolean b)
  | moment : HasUniqueKeys .moment
  | array {items : List Value} (hitems : ∀ v ∈ items, v.HasUniqueKeys) :
    HasUniqueKeys (.array items)
  | table {entries : List (String × Value)} (hkeys : (entries.map Prod.fst).Nodup)
    (hvalues : ∀ entry ∈ entries, entry.2.HasUniqueKeys) : HasUniqueKeys (.table entries)

theorem Value.hasUniqueKeys_table {entries : List (String × Value)} :
    (Value.table entries).HasUniqueKeys ↔
      (entries.map Prod.fst).Nodup ∧ ∀ entry ∈ entries, entry.2.HasUniqueKeys := by
  constructor
  · intro h
    cases h with
    | table hkeys hvalues => exact ⟨hkeys, hvalues⟩
  · exact fun ⟨hkeys, hvalues⟩ => .table hkeys hvalues

theorem Value.HasUniqueKeys.of_perm {entries entries' : List (String × Value)}
    (h : (Value.table entries).HasUniqueKeys) (hperm : entries.Perm entries') :
    (Value.table entries').HasUniqueKeys := by
  obtain ⟨hkeys, hvalues⟩ := hasUniqueKeys_table.mp h
  exact .table ((hperm.map _).nodup_iff.mp hkeys) fun entry hentry =>
    hvalues entry (hperm.mem_iff.mpr hentry)

theorem Node.toEntries_eq_map (entries : Entries) :
    Node.toEntries entries = entries.map fun (key, node) => (key, node.toValue) := by
  induction entries with
  | nil => rfl
  | cons entry entries ih =>
    rw [Node.toEntries, ih]
    rfl

theorem Node.toItems_eq_map (items : List Entries) :
    Node.toItems items = items.map fun entries => .table (Node.toEntries entries) := by
  induction items with
  | nil => rfl
  | cons entries items ih =>
    rw [Node.toItems, ih]
    rfl

/-! ## Tables under construction -/

namespace Entries

variable {entries entries' : Entries} {made : Origin}
  {change : Origin → Entries → Option Entries} {fill : Entries → Option Entries}

/-- No table that has been made so far has a key twice. -/
def HasUniqueKeys (entries : Entries) : Prop :=
  (Value.table (Node.toEntries entries)).HasUniqueKeys

theorem hasUniqueKeys_iff : HasUniqueKeys entries ↔
    (entries.map Prod.fst).Nodup ∧ ∀ entry ∈ entries, entry.2.toValue.HasUniqueKeys := by
  unfold HasUniqueKeys
  rw [Value.hasUniqueKeys_table, Node.toEntries_eq_map, List.map_map, List.forall_mem_map]
  rfl

theorem hasUniqueKeys_nil : HasUniqueKeys [] :=
  hasUniqueKeys_iff.mpr ⟨List.nodup_nil, List.forall_mem_nil _⟩

theorem hasUniqueKeys_tables {items : List Entries} :
    (Node.tables items).toValue.HasUniqueKeys ↔ ∀ entries ∈ items, HasUniqueKeys entries := by
  rw [Node.toValue, Node.toItems_eq_map]
  constructor
  · intro h
    cases h with
    | array hitems => exact fun entries hentries => hitems _ (List.mem_map_of_mem hentries)
  · intro hitems
    exact .array (List.forall_mem_map.mpr hitems)

theorem HasUniqueKeys.of_lookup (h : HasUniqueKeys entries)
    (hlookup : entries.lookup key = some node) : node.toValue.HasUniqueKeys := by
  have hmem : (key, node) ∈ entries := by
    obtain ⟨before, after, rfl, -⟩ := List.lookup_eq_some_iff.mp hlookup
    exact List.mem_append_right _ List.mem_cons_self
  exact (hasUniqueKeys_iff.mp h).2 _ hmem

/-- A `key` enters a table where it is not there yet. -/
theorem HasUniqueKeys.append (h : HasUniqueKeys entries) (hlookup : entries.lookup key = none)
    (hnode : node.toValue.HasUniqueKeys) : HasUniqueKeys (entries ++ [(key, node)]) := by
  obtain ⟨hkeys, hvalues⟩ := hasUniqueKeys_iff.mp h
  have hnot : key ∉ entries.map Prod.fst := by
    rw [List.lookup_eq_none_iff] at hlookup
    intro hmem
    obtain ⟨entry, hentry, rfl⟩ := List.mem_map.mp hmem
    simpa using hlookup entry hentry
  refine hasUniqueKeys_iff.mpr ⟨?_, ?_⟩
  · rw [List.map_append, List.map_singleton]
    refine List.nodup_append.mpr ⟨hkeys, List.pairwise_singleton _ _, ?_⟩
    intro other hother last hlast heq
    rw [heq, List.mem_singleton.mp hlast] at hother
    exact hnot hother
  · exact List.forall_mem_append.mpr ⟨hvalues, List.forall_mem_singleton.mpr hnode⟩

theorem map_fst_replace (key : String) (node : Node) (entries : Entries) :
    (entries.replace key node).map Prod.fst = entries.map Prod.fst := by
  unfold Entries.replace
  rw [List.map_map]
  refine List.map_congr_left fun (k, n) _ => ?_
  by_cases hk : k = key
  · simp [hk]
  · simp [hk]

theorem HasUniqueKeys.replace (h : HasUniqueKeys entries) (hnode : node.toValue.HasUniqueKeys) :
    HasUniqueKeys (entries.replace key node) := by
  obtain ⟨hkeys, hvalues⟩ := hasUniqueKeys_iff.mp h
  refine hasUniqueKeys_iff.mpr ⟨?_, ?_⟩
  · rwa [map_fst_replace]
  · refine List.forall_mem_map.mpr fun entry hentry => ?_
    dsimp only
    split
    · exact hnode
    · exact hvalues entry hentry

theorem HasUniqueKeys.remove (h : HasUniqueKeys entries) : HasUniqueKeys (entries.remove key) := by
  obtain ⟨hkeys, hvalues⟩ := hasUniqueKeys_iff.mp h
  refine hasUniqueKeys_iff.mpr ⟨?_, fun entry hentry => hvalues entry (List.mem_filter.mp hentry).1⟩
  exact hkeys.sublist (List.filter_sublist.map Prod.fst)

theorem lookup_remove (key : String) (entries : Entries) :
    (entries.remove key).lookup key = none := by
  rw [List.lookup_eq_none_iff]
  intro entry hentry
  have hne := (List.mem_filter.mp hentry).2
  rw [decide_eq_true_eq] at hne
  exact bne_iff_ne.mpr (Ne.symm hne)

/-- What `change` preserves in one table, `Entries.modify?` preserves with it at the end of a
path. -/
theorem HasUniqueKeys.of_modify? {origin : Origin}
    (hchange : ∀ {origin entries entries'}, HasUniqueKeys entries →
      change origin entries = some entries' → HasUniqueKeys entries')
    (h : HasUniqueKeys entries)
    (hmodify : modify? made change path origin entries = some entries') :
    HasUniqueKeys entries' := by
  -- at each key of the path the table behind it is changed first, and then put back in its place
  induction path generalizing origin entries entries' with
  | nil => exact hchange h hmodify
  | cons key path ih =>
    rw [modify?] at hmodify
    split at hmodify
    · next hlookup =>
      obtain ⟨inner, hinner, hmodify⟩ := Option.bind_eq_some_iff.mp hmodify
      cases hmodify
      exact h.append hlookup (ih hasUniqueKeys_nil hinner)
    · cases hmodify
    · next inner hlookup =>
      split at hmodify
      · cases hmodify
      · obtain ⟨inner', hinner, hmodify⟩ := Option.bind_eq_some_iff.mp hmodify
        cases hmodify
        exact h.replace (ih (h.of_lookup hlookup) hinner)
    · next items hlookup =>
      obtain ⟨last, hlast, hmodify⟩ := Option.bind_eq_some_iff.mp hmodify
      obtain ⟨last', hlast', hmodify⟩ := Option.bind_eq_some_iff.mp hmodify
      cases hmodify
      have hitems := hasUniqueKeys_tables.mp (h.of_lookup hlookup)
      have hfront : ∀ inner ∈ items.dropLast, HasUniqueKeys inner :=
        fun inner hinner => hitems inner ((List.dropLast_sublist items).subset hinner)
      have hlastUnique := ih (hitems last (List.mem_of_getLast? hlast)) hlast'
      exact h.replace (hasUniqueKeys_tables.mpr
        (List.forall_mem_append.mpr ⟨hfront, List.forall_mem_singleton.mpr hlastUnique⟩))

theorem HasUniqueKeys.of_insert? (h : HasUniqueKeys entries) (hv : v.HasUniqueKeys)
    (hinsert : entries.insert? path key v = some entries') : HasUniqueKeys entries' := by
  refine of_modify? ?_ h hinsert
  intro origin entries entries' h hchange
  split at hchange
  · next hnew =>
    cases hchange
    exact h.append hnew.2 hv
  · cases hchange

section Fill

variable (hfill : ∀ {entries entries'}, HasUniqueKeys entries → fill entries = some entries' →
  HasUniqueKeys entries')

include hfill

theorem HasUniqueKeys.of_define? (h : HasUniqueKeys entries)
    (hdefine : entries.define? path key fill = some entries') :
    HasUniqueKeys entries' := by
  refine of_modify? ?_ h hdefine
  intro origin entries entries' h hchange
  split at hchange
  · next hlookup =>
    obtain ⟨inner, hinner, hchange⟩ := Option.bind_eq_some_iff.mp hchange
    cases hchange
    exact h.append hlookup (hfill hasUniqueKeys_nil hinner)
  · next inner hlookup =>
    obtain ⟨inner', hinner, hchange⟩ := Option.bind_eq_some_iff.mp hchange
    cases hchange
    exact h.remove.append (lookup_remove key entries) (hfill (h.of_lookup hlookup) hinner)
  · cases hchange

theorem HasUniqueKeys.of_append? (h : HasUniqueKeys entries)
    (happend : entries.append? path key fill = some entries') :
    HasUniqueKeys entries' := by
  refine of_modify? ?_ h happend
  intro origin entries entries' h hchange
  split at hchange
  · next hlookup =>
    obtain ⟨inner, hinner, hchange⟩ := Option.bind_eq_some_iff.mp hchange
    cases hchange
    refine h.append hlookup (hasUniqueKeys_tables.mpr ?_)
    exact List.forall_mem_singleton.mpr (hfill hasUniqueKeys_nil hinner)
  · next items hlookup =>
    obtain ⟨inner, hinner, hchange⟩ := Option.bind_eq_some_iff.mp hchange
    cases hchange
    have hitems := hasUniqueKeys_tables.mp (h.of_lookup hlookup)
    refine h.replace (hasUniqueKeys_tables.mpr (List.forall_mem_append.mpr ⟨hitems, ?_⟩))
    exact List.forall_mem_singleton.mpr (hfill hasUniqueKeys_nil hinner)
  · cases hchange

end Fill

end Entries

/-! ## Values -/

variable {readItem : List Char → Option (Value × List Char)} {steps depth : Nat}
  {entries entries' : Entries}

theorem hasUniqueKeys_of_readScalar? (h : readScalar? text = some (v, rest)) :
    v.HasUniqueKeys := by
  unfold readScalar? at h
  split at h
  · cases h
  · cases h
    exact .boolean true
  · cases h
    exact .boolean false
  split at h
  · obtain ⟨-, -, ⟨⟩⟩ := Option.map_eq_some_iff.mp h
    exact .string _
  split at h
  · cases h
    exact .moment
  split at h
  · cases h
    exact .float _
  · obtain ⟨-, -, ⟨⟩⟩ := Option.map_eq_some_iff.mp h
    exact .integer _

section Item

variable (hitem : ∀ {text v rest}, readItem text = some (v, rest) → v.HasUniqueKeys)

include hitem

theorem hasUniqueKeys_of_readItems? {items : List Value}
    (h : readItems? readItem steps text = some (items, rest)) : ∀ v ∈ items, v.HasUniqueKeys := by
  induction steps generalizing text items rest with
  | zero => cases h
  | succ steps ih =>
    rw [readItems?] at h
    split at h
    · cases h
      exact List.forall_mem_nil _
    obtain ⟨⟨item, more⟩, hread, h⟩ := Option.bind_eq_some_iff.mp h
    dsimp only at h
    split at h
    · obtain ⟨⟨others, end'⟩, hothers, ⟨⟩⟩ := Option.bind_eq_some_iff.mp h
      exact List.forall_mem_cons.mpr ⟨hitem hread, ih hothers⟩
    · cases h
      exact List.forall_mem_singleton.mpr (hitem hread)
    · cases h

theorem hasUniqueKeys_of_readPair? (h : readPair? readItem text = some ((path, key, v), rest)) :
    v.HasUniqueKeys := by
  obtain ⟨⟨⟨path', key'⟩, more⟩, -, h⟩ := Option.bind_eq_some_iff.mp h
  dsimp only at h
  split at h
  · obtain ⟨⟨v', end'⟩, hread, ⟨⟩⟩ := Option.bind_eq_some_iff.mp h
    exact hitem hread
  · cases h

theorem hasUniqueKeys_of_readInlineEntries? (hentries : entries.HasUniqueKeys)
    (h : readInlineEntries? readItem steps entries text = some (entries', rest)) :
    entries'.HasUniqueKeys := by
  induction steps generalizing entries text with
  | zero => cases h
  | succ steps ih =>
    obtain ⟨⟨⟨path, key, v⟩, more⟩, hpair, h⟩ := Option.bind_eq_some_iff.mp h
    obtain ⟨inserted, hinsert, h⟩ := Option.bind_eq_some_iff.mp h
    have hinserted := hentries.of_insert? (hasUniqueKeys_of_readPair? hitem hpair) hinsert
    split at h
    · exact ih hinserted h
    · cases h
      exact hinserted
    · cases h

theorem hasUniqueKeys_of_readInlineTable? (h : readInlineTable? readItem text = some (v, rest)) :
    v.HasUniqueKeys := by
  unfold readInlineTable? at h
  split at h
  · cases h
    exact Entries.hasUniqueKeys_nil
  · obtain ⟨⟨entries, more⟩, hentries, ⟨⟩⟩ := Option.map_eq_some_iff.mp h
    exact hasUniqueKeys_of_readInlineEntries? hitem Entries.hasUniqueKeys_nil hentries

end Item

theorem hasUniqueKeys_of_readValueWithin? (h : readValueWithin? depth text = some (v, rest)) :
    v.HasUniqueKeys := by
  induction depth generalizing text v rest with
  | zero => exact hasUniqueKeys_of_readScalar? h
  | succ depth ih =>
    unfold readValueWithin? at h
    split at h
    · next hdepth =>
      cases hdepth
      obtain ⟨⟨items, more⟩, hitems, ⟨⟩⟩ := Option.map_eq_some_iff.mp h
      exact .array (hasUniqueKeys_of_readItems? ih hitems)
    · next hdepth =>
      cases hdepth
      exact hasUniqueKeys_of_readInlineTable? ih h
    · exact hasUniqueKeys_of_readScalar? h

/-! ## Documents -/

/-- No table in the values of `pairs` has a key twice. -/
def Pairs.HasUniqueKeys (pairs : Pairs) : Prop := ∀ pair ∈ pairs, pair.2.2.HasUniqueKeys

/-- No table in the value of a line has a key twice, if the line has a value. -/
def Line.HasUniqueKeys : Line → Prop
  | .pair _ _ v => v.HasUniqueKeys
  | .header _ _ => True
  | .repeated _ _ => True

theorem hasUniqueKeys_of_readHeader? {line : Line} (h : readHeader? text = some (line, rest)) :
    line.HasUniqueKeys := by
  unfold readHeader? at h
  split at h
  · obtain ⟨⟨⟨path, key⟩, more⟩, -, h⟩ := Option.bind_eq_some_iff.mp h
    dsimp only at h
    split at h
    · cases h
      trivial
    · cases h
  · obtain ⟨⟨⟨path, key⟩, more⟩, -, h⟩ := Option.bind_eq_some_iff.mp h
    dsimp only at h
    split at h
    · cases h
      trivial
    · cases h

theorem hasUniqueKeys_of_readLine? {line : Line} (h : readLine? text = some (some line, rest)) :
    line.HasUniqueKeys := by
  unfold readLine? at h
  split at h
  · cases h
  · obtain ⟨⟨header, more⟩, hheader, h⟩ := Option.bind_eq_some_iff.mp h
    obtain ⟨_, -, ⟨⟩⟩ := Option.bind_eq_some_iff.mp h
    exact hasUniqueKeys_of_readHeader? hheader
  split at h
  · cases h
  · obtain ⟨⟨⟨path, key, v⟩, more⟩, hpair, h⟩ := Option.bind_eq_some_iff.mp h
    obtain ⟨_, -, ⟨⟩⟩ := Option.bind_eq_some_iff.mp h
    exact hasUniqueKeys_of_readPair? hasUniqueKeys_of_readValueWithin? hpair

theorem hasUniqueKeys_of_readLines? {lines : List Line} (h : readLines? steps text = some lines) :
    ∀ line ∈ lines, line.HasUniqueKeys := by
  induction steps generalizing text lines with
  | zero =>
    cases text with
    | nil =>
      cases h
      exact List.forall_mem_nil _
    | cons c text => cases h
  | succ steps ih =>
    cases text with
    | nil =>
      cases h
      exact List.forall_mem_nil _
    | cons c text =>
      obtain ⟨⟨line, more⟩, hline, h⟩ := Option.bind_eq_some_iff.mp h
      obtain ⟨others, hothers, ⟨⟩⟩ := Option.bind_eq_some_iff.mp h
      refine List.forall_mem_append.mpr ⟨?_, ih hothers⟩
      rintro _ hmem
      rw [Option.mem_toList] at hmem
      subst hmem
      exact hasUniqueKeys_of_readLine? hline

/-- The pairs and the headers of `blocks` are those of `lines`, so that they have no key twice
either. -/
theorem hasUniqueKeys_blocks {lines : List Line} (h : ∀ line ∈ lines, line.HasUniqueKeys) :
    (blocks lines).1.HasUniqueKeys ∧
      ∀ b ∈ (blocks lines).2, b.header.HasUniqueKeys ∧ b.pairs.HasUniqueKeys := by
  induction lines with
  | nil => exact ⟨List.forall_mem_nil _, List.forall_mem_nil _⟩
  | cons line lines ih =>
    rw [List.forall_mem_cons] at h
    obtain ⟨hpairs, hlater⟩ := ih h.2
    cases line with
    | pair path key v => exact ⟨List.forall_mem_cons.mpr ⟨h.1, hpairs⟩, hlater⟩
    | header path key =>
      exact ⟨List.forall_mem_nil _, List.forall_mem_cons.mpr ⟨⟨h.1, hpairs⟩, hlater⟩⟩
    | repeated path key =>
      exact ⟨List.forall_mem_nil _, List.forall_mem_cons.mpr ⟨⟨h.1, hpairs⟩, hlater⟩⟩

/-- What each `step` of a run preserves, the run preserves. -/
theorem of_foldlM_eq_some {σ α : Type} {p : σ → Prop} {step : σ → α → Option σ} {as : List α}
    {s s' : σ} (hstep : ∀ a ∈ as, ∀ {s s'}, p s → step s a = some s' → p s') (hs : p s)
    (h : as.foldlM step s = some s') : p s' := by
  induction as generalizing s with
  | nil =>
    cases h
    exact hs
  | cons a as ih =>
    rw [List.forall_mem_cons] at hstep
    rw [List.foldlM_cons] at h
    obtain ⟨next, hnext, h⟩ := Option.bind_eq_some_iff.mp h
    exact ih hstep.2 (hstep.1 hs hnext) h

theorem Entries.HasUniqueKeys.of_insertAll? {pairs : Pairs} (hpairs : pairs.HasUniqueKeys)
    (h : entries.HasUniqueKeys) (hinsert : insertAll? pairs entries = some entries') :
    entries'.HasUniqueKeys :=
  of_foldlM_eq_some (fun pair hpair _ _ h => h.of_insert? (hpairs pair hpair)) h hinsert

theorem Entries.HasUniqueKeys.of_enter? {b : Block} (hheader : b.header.HasUniqueKeys)
    (hpairs : b.pairs.HasUniqueKeys) (h : entries.HasUniqueKeys)
    (henter : b.enter? entries = some entries') : entries'.HasUniqueKeys := by
  obtain ⟨header, pairs⟩ := b
  cases header with
  | pair path key v =>
    have hall : Pairs.HasUniqueKeys ((path, key, v) :: pairs) :=
      List.forall_mem_cons.mpr ⟨hheader, hpairs⟩
    exact h.of_insertAll? hall henter
  | header path key => exact h.of_define? (HasUniqueKeys.of_insertAll? hpairs) henter
  | repeated path key => exact h.of_append? (HasUniqueKeys.of_insertAll? hpairs) henter

/-- **No key is given twice** in a document that `Document.read?` reads, nor in a table in it. -/
theorem hasUniqueKeys_of_read? {document : String} {entries : List (String × Value)}
    (h : Document.read? document = some entries) : (Value.table entries).HasUniqueKeys := by
  obtain ⟨lines, hlines, h⟩ := Option.bind_eq_some_iff.mp h
  obtain ⟨top, htop, h⟩ := Option.bind_eq_some_iff.mp h
  obtain ⟨made, hmade, ⟨⟩⟩ := Option.bind_eq_some_iff.mp h
  obtain ⟨hpairs, hblocks⟩ := hasUniqueKeys_blocks (hasUniqueKeys_of_readLines? hlines)
  have htopUnique : Entries.HasUniqueKeys top :=
    Entries.hasUniqueKeys_nil.of_insertAll? hpairs htop
  exact of_foldlM_eq_some (p := Entries.HasUniqueKeys)
    (fun b hb _ _ hentries => hentries.of_enter? (hblocks b hb).1 (hblocks b hb).2) htopUnique hmade

end RegisterWrites.Toml
