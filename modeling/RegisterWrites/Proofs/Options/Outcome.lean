import Mathlib.Data.List.Forall2
import Mathlib.Data.List.Nodup
import RegisterWrites.Proofs.Options.Entries
import RegisterWrites.Proofs.Options.Visits
import RegisterWrites.Proofs.Toml.Keys

/-!
# What comes of a document

The options that a document gives follow its keys (`agrees_of_ofEntries`), and do so in any other
order of these keys (`Rearranged.ofEntries_eq_ok`); the error, which depends on their order, is
that of the first key that is not as it should be. The main statement is `outcome_of_document`.
-/

namespace RegisterWrites

theorem Dialect.name_injective : Function.Injective Dialect.name := by
  intro d d' h
  cases d <;> cases d' <;> simp_all [Dialect.name]

theorem OffsetStyle.name_injective : Function.Injective OffsetStyle.name := by
  intro s s' h
  cases s <;> cases s' <;> simp_all [OffsetStyle.name]

theorem Strictness.name_injective : Function.Injective Strictness.name := by
  intro s s' h
  cases s <;> cases s' <;> simp_all [Strictness.name]

namespace Options

variable {entries entries' : List (String × Toml.Value)} {key : String} {v : Toml.Value}
  {o o' : Options}

/-! ## The options of a document -/

/-- The option `a` and the values `given` for it: `a` is what a given value `shows`, or, where none
is given, `byDefault`. -/
structure Follows {α : Type} (given : Toml.Value → Prop) (shows : Toml.Value → α → Prop)
    (byDefault a : α) : Prop where
  present : ∀ v, given v → shows v a
  absent : (∀ v, ¬ given v) → a = byDefault

/-- The options `o` that the keys `vs` say: each of them follows its key. -/
structure Agrees (vs : List Visit) (o : Options) : Prop where
  dialect : Follows (.option "grammar" · ∈ vs) (fun v d => v = .string d.name) .commented o.dialect
  offsetStyle : Follows (.part "offset_style" · ∈ vs) (fun v s => v = .string s.name) .verbatim
    o.emission.offsetStyle
  bytePrefix : Follows (.part "byte_prefix" · ∈ vs) (fun v b => v = .boolean b) false
    o.emission.bytePrefix
  strictness : Follows (.option "strictness" · ∈ vs) (fun v s => v = .string s.name) .off
    o.strictness
  maxLength : Follows (.option "max_length" · ∈ vs)
    (fun v m => ∃ n : Nat, v = .integer n ∧ m = some n) none o.maxLength

theorem lookup_eq_some_iff (h : (entries.map Prod.fst).Nodup) :
    entries.lookup key = some v ↔ (key, v) ∈ entries := by
  induction entries with
  | nil => simp
  | cons entry entries ih =>
    obtain ⟨k, w⟩ := entry
    rw [List.map_cons, List.nodup_cons] at h
    rw [List.lookup_cons, List.mem_cons, ← ih h.2]
    by_cases hk : key = k
    · subst hk
      have hnot : entries.lookup key ≠ some v := by
        rw [Ne, ih h.2]
        exact fun hmem => h.1 (List.mem_map.mpr ⟨_, hmem, rfl⟩)
      simp [hnot, eq_comm]
    · simp [hk, beq_eq_false_iff_ne.mpr hk]

theorem value?_eq_some_iff (h : (entries.map Prod.fst).Nodup) :
    value? entries key = some v ↔ (key, v) ∈ entries := by
  have hreverse : (entries.reverse.map Prod.fst).Nodup := by
    rwa [List.map_reverse, List.nodup_reverse]
  rw [value?, lookup_eq_some_iff hreverse, List.mem_reverse]

variable {α : Type} {given : Toml.Value → Prop} {shows : Toml.Value → α → Prop} {byDefault a b : α}

theorem follows_of_isChosen {decode : Toml.Value → Except OptionsError α}
    {value : Option Toml.Value} (hgiven : ∀ v, given v ↔ value = some v)
    (hshows : ∀ v a, given v → decode v = .ok a → shows v a)
    (h : IsChosen decode byDefault value a) : Follows given shows byDefault a := by
  cases value with
  | none => exact ⟨fun v hv => absurd ((hgiven v).mp hv) nofun, fun _ => h⟩
  | some v =>
    have hv := (hgiven v).mpr rfl
    refine ⟨fun w hw => ?_, fun hnone => absurd hv (hnone v)⟩
    cases (hgiven w).mp hw
    exact hshows v a hv h

theorem Follows.unique (hshows : ∀ v a b, shows v a → shows v b → a = b)
    (ha : Follows given shows byDefault a) (hb : Follows given shows byDefault b) : a = b := by
  by_cases h : ∃ v, given v
  · obtain ⟨v, hv⟩ := h
    exact hshows v a b (ha.present v hv) (hb.present v hv)
  · rw [ha.absent (not_exists.mp h), hb.absent (not_exists.mp h)]

theorem option_mem_visits_iff (h : (entries.map Prod.fst).Nodup) (hkey : key ≠ "emit") :
    .option key v ∈ visits entries ↔ value? entries key = some v := by
  rw [option_mem_visits, value?_eq_some_iff h]
  exact and_iff_left fun parts hparts => hkey (Prod.ext_iff.mp hparts).1

theorem part_mem_visits_iff (h : (Toml.Value.table entries).HasUniqueKeys)
    (hemission : ∀ v, ("emit", v) ∈ entries → ∃ parts, v = .table parts) :
    .part key v ∈ visits entries ↔ emissionValue? entries key = some v := by
  obtain ⟨hkeys, hvalues⟩ := Toml.Value.hasUniqueKeys_table.mp h
  rw [part_mem_visits, emissionValue?, Option.bind_eq_some_iff]
  constructor
  · rintro ⟨parts, hmem, hpart⟩
    have hparts := (Toml.Value.hasUniqueKeys_table.mp (hvalues _ hmem)).1
    exact ⟨_, (value?_eq_some_iff hkeys).mpr hmem, (value?_eq_some_iff hparts).mpr hpart⟩
  · rintro ⟨w, hw, hpart⟩
    have hmem := (value?_eq_some_iff hkeys).mp hw
    obtain ⟨parts, rfl⟩ := hemission w hmem
    have hparts := (Toml.Value.hasUniqueKeys_table.mp (hvalues _ hmem)).1
    exact ⟨parts, hmem, (value?_eq_some_iff hparts).mp hpart⟩

theorem string_of_decodeChoice {all : List α} {nameOf : α → String} {known : List String}
    {name : String} (h : decodeChoice (fun text => all.find? (nameOf · = text)) known
      (.string name) = .ok a) : Toml.Value.string name = .string (nameOf a) := by
  rw [decodeChoice, chooseName] at h
  split at h
  · next hfind =>
    cases h
    have hname := List.find?_some hfind
    rw [decide_eq_true_eq] at hname
    rw [hname]
  · cases h

theorem boolean_of_decodeFlag {flag : Bool} (h : decodeFlag v = .ok flag) : v = .boolean flag := by
  cases v with
  | boolean b =>
    cases h
    rfl
  | _ => cases h

theorem integer_of_decodeCount {n : Nat} (h : decodeCount v = .ok n) : v = .integer n := by
  cases v with
  | integer m =>
    rw [decodeCount] at h
    split at h
    · next hm =>
      cases h
      rw [Int.toNat_of_nonneg hm]
    · cases h
  | _ => cases h

/-- The options `o` of a document agree with its `visits`. -/
theorem agrees_of_ofEntries (hunique : (Toml.Value.table entries).HasUniqueKeys)
    (htyped : IsTyped entries) (h : ofEntries entries = .ok o) : Agrees (visits entries) o := by
  have hkeys := (Toml.Value.hasUniqueKeys_table.mp hunique).1
  have hgives := gives_of_ofEntries h
  constructor
  · refine follows_of_isChosen (fun v => option_mem_visits_iff hkeys (by decide)) ?_ hgives.dialect
    intro v d hv hdecode
    obtain ⟨name, rfl⟩ := htyped.dialect v (option_mem_visits.mp hv).1
    exact string_of_decodeChoice hdecode
  · refine follows_of_isChosen (fun v => part_mem_visits_iff hunique htyped.emission) ?_
      hgives.offsetStyle
    intro v s hv hdecode
    obtain ⟨parts, hmem, hpart⟩ := part_mem_visits.mp hv
    obtain ⟨name, rfl⟩ := htyped.offsetStyle parts v hmem hpart
    exact string_of_decodeChoice hdecode
  · refine follows_of_isChosen (fun v => part_mem_visits_iff hunique htyped.emission) ?_
      hgives.bytePrefix
    exact fun v b _ hdecode => boolean_of_decodeFlag hdecode
  · refine follows_of_isChosen (fun v => option_mem_visits_iff hkeys (by decide)) ?_
      hgives.strictness
    intro v s hv hdecode
    obtain ⟨name, rfl⟩ := htyped.strictness v (option_mem_visits.mp hv).1
    exact string_of_decodeChoice hdecode
  · refine follows_of_isChosen (fun v => option_mem_visits_iff hkeys (by decide)) ?_
      hgives.maxLength
    intro v m _ hdecode
    cases hcount : decodeCount v with
    | ok n =>
      rw [hcount] at hdecode
      cases hdecode
      exact ⟨n, integer_of_decodeCount hcount, rfl⟩
    | error cause =>
      rw [hcount] at hdecode
      cases hdecode

theorem Follows.unique_of_injective {nameOf : α → String} (hname : Function.Injective nameOf)
    (ha : Follows given (fun v a => v = .string (nameOf a)) byDefault a)
    (hb : Follows given (fun v a => v = .string (nameOf a)) byDefault b) : a = b :=
  ha.unique (fun _ _ _ h h' => hname (Toml.Value.string.inj (h.symm.trans h'))) hb

theorem Agrees.unique {vs : List Visit} (h : Agrees vs o) (h' : Agrees vs o') : o = o' := by
  obtain ⟨dialect, ⟨offsetStyle, bytePrefix⟩, strictness, maxLength⟩ := o
  obtain ⟨dialect', ⟨offsetStyle', bytePrefix'⟩, strictness', maxLength'⟩ := o'
  obtain rfl : dialect = dialect' := h.dialect.unique_of_injective Dialect.name_injective h'.dialect
  obtain rfl : offsetStyle = offsetStyle' :=
    h.offsetStyle.unique_of_injective OffsetStyle.name_injective h'.offsetStyle
  obtain rfl : strictness = strictness' :=
    h.strictness.unique_of_injective Strictness.name_injective h'.strictness
  obtain rfl : bytePrefix = bytePrefix' := by
    refine h.bytePrefix.unique ?_ h'.bytePrefix
    rintro _ _ _ rfl hb
    exact Toml.Value.boolean.inj hb
  obtain rfl : maxLength = maxLength' := by
    refine h.maxLength.unique ?_ h'.maxLength
    rintro _ _ _ ⟨n, rfl, rfl⟩ ⟨n', hn, rfl⟩
    rw [Int.ofNat_inj.mp (Toml.Value.integer.inj hn)]
  rfl

/-! ## Other orders -/

/-- The same entry, up to the order of the keys of the table under `emit`. -/
def SameEntry (entry entry' : String × Toml.Value) : Prop :=
  entry = entry' ∨ ∃ parts parts', entry = ("emit", .table parts) ∧
    entry' = ("emit", .table parts') ∧ parts.Perm parts'

/-- The same keys with the same values in another order: those of the document, and those of the
table under `emit`. -/
def Rearranged (entries entries' : List (String × Toml.Value)) : Prop :=
  ∃ middle, entries.Perm middle ∧ List.Forall₂ SameEntry middle entries'

theorem SameEntry.key_eq {entry entry' : String × Toml.Value} (h : SameEntry entry entry') :
    entry.1 = entry'.1 := by
  rcases h with rfl | ⟨parts, parts', rfl, rfl, -⟩
  · rfl
  · rfl

theorem SameEntry.hasUniqueKeys {entry entry' : String × Toml.Value} (h : SameEntry entry entry')
    (hunique : entry.2.HasUniqueKeys) : entry'.2.HasUniqueKeys := by
  rcases h with rfl | ⟨parts, parts', rfl, rfl, hparts⟩
  · exact hunique
  · exact hunique.of_perm hparts

theorem SameEntry.perm_visitsOf {entry entry' : String × Toml.Value} (h : SameEntry entry entry') :
    (visitsOf entry).Perm (visitsOf entry') := by
  rcases h with rfl | ⟨parts, parts', rfl, rfl, hparts⟩
  · exact .refl _
  · exact hparts.map _

/-- Lists that are the `SameEntry` one by one have the same keys, values in which no key is given
twice, and the same visits up to their order. -/
theorem spec_of_forall₂ (h : List.Forall₂ SameEntry entries entries') :
    entries.map Prod.fst = entries'.map Prod.fst ∧
      ((∀ entry ∈ entries, entry.2.HasUniqueKeys) → ∀ entry ∈ entries', entry.2.HasUniqueKeys) ∧
      (visits entries).Perm (visits entries') := by
  induction h with
  | nil => exact ⟨rfl, id, .refl _⟩
  | cons hentry _ ih =>
    obtain ⟨hkeys, hvalues, hvisits⟩ := ih
    refine ⟨?_, fun hunique => ?_, hentry.perm_visitsOf.append hvisits⟩
    · rw [List.map_cons, List.map_cons, hentry.key_eq, hkeys]
    · rw [List.forall_mem_cons] at hunique
      exact List.forall_mem_cons.mpr ⟨hentry.hasUniqueKeys hunique.1, hvalues hunique.2⟩

theorem Rearranged.perm_visits (h : Rearranged entries entries') :
    (visits entries).Perm (visits entries') := by
  obtain ⟨middle, hperm, hsame⟩ := h
  exact (hperm.flatMap_right visitsOf).trans (spec_of_forall₂ hsame).2.2

theorem Rearranged.hasUniqueKeys (h : Rearranged entries entries')
    (hunique : (Toml.Value.table entries).HasUniqueKeys) :
    (Toml.Value.table entries').HasUniqueKeys := by
  obtain ⟨middle, hperm, hsame⟩ := h
  obtain ⟨hkeys, hvalues⟩ := Toml.Value.hasUniqueKeys_table.mp (hunique.of_perm hperm)
  obtain ⟨hkeys', hvalues', -⟩ := spec_of_forall₂ hsame
  exact .table (hkeys' ▸ hkeys) (hvalues' hvalues)

theorem Agrees.of_perm {vs vs' : List Visit} (h : vs.Perm vs') (hagrees : Agrees vs o) :
    Agrees vs' o := by
  have hmem : ∀ visit, visit ∈ vs' ↔ visit ∈ vs := fun _ => h.mem_iff.symm
  constructor
  · simpa only [hmem] using hagrees.dialect
  · simpa only [hmem] using hagrees.offsetStyle
  · simpa only [hmem] using hagrees.bytePrefix
  · simpa only [hmem] using hagrees.strictness
  · simpa only [hmem] using hagrees.maxLength

theorem Rearranged.isTyped (h : Rearranged entries entries') (htyped : IsTyped entries) :
    IsTyped entries' := by
  rw [isTyped_iff] at htyped ⊢
  exact fun visit hvisit => htyped visit (h.perm_visits.mem_iff.mpr hvisit)

/-- What `Rearranged` changes does not matter to the options. -/
theorem Rearranged.ofEntries_eq_ok (h : Rearranged entries entries')
    (hunique : (Toml.Value.table entries).HasUniqueKeys) (htyped : IsTyped entries)
    (hok : ofEntries entries = .ok o) : ofEntries entries' = .ok o := by
  have hvisits := h.perm_visits
  have hsound := (exists_ofEntries_eq_ok_iff htyped).mp ⟨o, hok⟩
  obtain ⟨o', ho'⟩ := (exists_ofEntries_eq_ok_iff (h.isTyped htyped)).mpr
    fun visit hvisit => hsound visit (hvisits.mem_iff.mpr hvisit)
  have hagrees := (agrees_of_ofEntries hunique htyped hok).of_perm hvisits
  rw [ho', hagrees.unique (agrees_of_ofEntries (h.hasUniqueKeys hunique) (h.isTyped htyped) ho')]

/-- **What comes of a document.** A document that is read has no key twice. Let names stand where
names are wanted, and a table where a table is wanted (`IsTyped`). Then there are options exactly if
every one of the `visits`, of a key of the document or of the table under `emit`, is sound: the key
means something and has a value that it may have. Each option has the value of its key or is as by
default (`Agrees`), and no other options do; `Rearranged`, the same keys give the same options. Else
the first of the `visits` that is not as it should be decides the error (`Visit.Offends`). -/
theorem outcome_of_document :
    (∀ text entries, Toml.Document.read? text = some entries →
      (Toml.Value.table entries).HasUniqueKeys ∧ read text = ofEntries entries) ∧
    ∀ entries, (Toml.Value.table entries).HasUniqueKeys → IsTyped entries →
      ((∃ o, ofEntries entries = .ok o) ↔ ∀ visit ∈ visits entries, visit.IsSound) ∧
      (∀ o, ofEntries entries = .ok o →
        (∀ o', Agrees (visits entries) o' ↔ o' = o) ∧
        ∀ entries', Rearranged entries entries' → ofEntries entries' = .ok o) ∧
      ∀ e, ofEntries entries = .error e ↔ ∃ before visit after,
        visits entries = before ++ visit :: after ∧ (∀ earlier ∈ before, earlier.IsSound) ∧
          visit.Offends e := by
  refine ⟨fun text entries hread => ⟨Toml.hasUniqueKeys_of_read? hread, ?_⟩, ?_⟩
  · rw [read, hread]
  · intro entries hunique htyped
    refine ⟨exists_ofEntries_eq_ok_iff htyped, fun o ho => ⟨fun o' => ?_, ?_⟩, fun e =>
      ofEntries_eq_error_iff htyped⟩
    · have hagrees := agrees_of_ofEntries hunique htyped ho
      constructor
      · exact fun h => h.unique hagrees
      · rintro rfl
        exact hagrees
    · exact fun entries' h => h.ofEntries_eq_ok hunique htyped ho

/-- A document that sets two options, one of them in the table, leaves the others as they are by
default. Under `emit` a name for no style decides before a key behind it that means nothing. -/
theorem outcome_of_document_partial :
    read "grammar = 'bare'\n[emit]\nbyte_prefix = true" =
        .ok { dialect := .bare, emission := { bytePrefix := true } } ∧
      ofEntries [("strictness", .string "deny"), ("emit", .table [("offset_style", .string "raw")]),
        ("strict", .boolean true)] = .error (.unknownName "raw" ["verbatim", "prefixed"]) := by
  obtain ⟨hread, hentries⟩ := outcome_of_document
  constructor
  · let entries : List (String × Toml.Value) := [("grammar", .string "bare"),
      ("emit", .table [("byte_prefix", .boolean true)])]
    have hlines : Toml.readLines? 43 "grammar = 'bare'\n[emit]\nbyte_prefix = true".toList =
        some [.pair [] "grammar" (.string "bare"), .header [] "emit",
          .pair [] "byte_prefix" (.boolean true)] := by
      with_unfolding_all rfl
    have hdocument : Toml.Document.read? "grammar = 'bare'\n[emit]\nbyte_prefix = true" =
        some entries := by
      change (Toml.readLines? 43 "grammar = 'bare'\n[emit]\nbyte_prefix = true".toList >>= _) = _
      rw [hlines]
      with_unfolding_all rfl
    have hvisits : visits entries = [.option "grammar" (.string Dialect.bare.name),
        .part "byte_prefix" (.boolean true)] := rfl
    have htyped : IsTyped entries := by
      rw [isTyped_iff, hvisits]
      simp [Visit.IsTyped]
    obtain ⟨hunique, hof⟩ := hread _ _ hdocument
    obtain ⟨hok, hvalues, -⟩ := hentries _ hunique htyped
    obtain ⟨o, ho⟩ := hok.mpr (List.forall_mem_cons.mpr
      ⟨.dialect .bare, List.forall_mem_singleton.mpr (.bytePrefix true)⟩)
    have hagrees : Agrees (visits entries)
        { dialect := .bare, emission := { bytePrefix := true } } := by
      rw [hvisits]
      constructor <;> constructor <;> simp
    rw [hof, ho, ((hvalues o ho).1 _).mp hagrees]
  · let entries : List (String × Toml.Value) := [("strictness", .string "deny"),
      ("emit", .table [("offset_style", .string "raw")]), ("strict", .boolean true)]
    have hunique : (Toml.Value.table entries).HasUniqueKeys := by
      simp only [entries, Toml.Value.hasUniqueKeys_table, List.forall_mem_cons]
      exact ⟨by decide, .string _, ⟨by decide, .string _, List.forall_mem_nil _⟩, .boolean _,
        List.forall_mem_nil _⟩
    have htyped : IsTyped entries := by
      rw [isTyped_iff]
      simp [entries, visits, visitsOf, Visit.IsTyped]
    refine ((hentries _ hunique htyped).2.2 _).mpr ⟨[.option "strictness" (.string "deny")],
      .part "offset_style" (.string "raw"), _, rfl, ?_, ?_⟩
    · exact List.forall_mem_singleton.mpr (.strictness .deny)
    · refine .offsetStyle fun s => ?_
      cases s <;> decide

end Options

end RegisterWrites
