import Mathlib.Logic.Basic
import RegisterWrites.Options.Decode
import RegisterWrites.Proofs.Except

/-!
# The first key that is not as it should be

The keys of a document are taken up one after another, and those of the table under `emit` where
it stands (`visits`). Whether a key fails does not depend on what was taken up before it, so that
the first one that fails decides (`failure?_ofEntries`). Where names stand when names are wanted,
and a table where a table is wanted, a key either is sound or offends, and how it does is the error
(`exists_ofEntries_eq_ok_iff`, `ofEntries_eq_error_iff`).
-/

namespace RegisterWrites.Options

variable {entries : List (String × Toml.Value)} {entry : String × Toml.Value} {key : String}
  {v : Toml.Value} {e : OptionsError}

/-! ## The keys of a document, one after another -/

/-- A key as it is taken up: one of the document, or one of the table under `emit`. -/
inductive Visit
  | option (key : String) (v : Toml.Value)
  | part (key : String) (v : Toml.Value)

/-- What is taken up for one entry of the document. -/
def visitsOf : String × Toml.Value → List Visit
  | ("emit", .table parts) => parts.map fun (key, v) => .part key v
  | (key, v) => [.option key v]

/-- The keys of `entries` in the order in which they are taken up: that of the document, with the
keys of the table under `emit` in its place. -/
def visits (entries : List (String × Toml.Value)) : List Visit := entries.flatMap visitsOf

/-- The error of a key, if taking it up fails. -/
def Visit.failure? : Visit → Option OptionsError
  | .option key v => RegisterWrites.failure? (set {} key v)
  | .part key v => RegisterWrites.failure? (setEmission {} key v)

theorem failure?_setEmission (e : Emission) (key : String) (v : Toml.Value) :
    failure? (setEmission e key v) = failure? (setEmission {} key v) := by
  unfold setEmission
  split
  · rw [failure?_bind_pure, failure?_bind_pure]
  split
  · rw [failure?_bind_pure, failure?_bind_pure]
  · rfl

theorem failure?_decodeEmission (parts : List (String × Toml.Value)) :
    failure? (decodeEmission (.table parts)) =
      parts.findSome? fun entry => failure? (setEmission {} entry.1 entry.2) := by
  unfold decodeEmission
  apply failure?_foldlM
  exact fun e entry => failure?_setEmission e entry.1 entry.2

theorem failure?_set (o : Options) (key : String) (v : Toml.Value) :
    failure? (o.set key v) = failure? (set {} key v) := by
  unfold set
  split
  · rw [failure?_bind_pure, failure?_bind_pure]
  split
  · rw [failure?_bind_pure, failure?_bind_pure]
  split
  · rw [failure?_bind_pure, failure?_bind_pure]
  split
  · rw [failure?_bind_pure, failure?_bind_pure]
  · rfl

/-- Taking up `entry` fails as the first of its `visitsOf` does: the table under `emit` is checked
key by key where it stands. -/
theorem failure?_set_eq_findSome? (o : Options) (entry : String × Toml.Value) :
    failure? (o.set entry.1 entry.2) = (visitsOf entry).findSome? Visit.failure? := by
  unfold visitsOf
  split
  · next parts =>
    rw [List.findSome?_map]
    exact (failure?_bind_pure _ _).trans (failure?_decodeEmission parts)
  · rw [failure?_set, List.findSome?_singleton]
    rfl

theorem findSome?_flatMap {α β γ : Type} (f : α → List β) (g : β → Option γ) (as : List α) :
    (as.flatMap f).findSome? g = as.findSome? fun a => (f a).findSome? g := by
  induction as with
  | nil => rfl
  | cons a as ih =>
    rw [List.flatMap_cons, List.findSome?_append, ih, List.findSome?_cons]
    cases (f a).findSome? g with
    | none => rfl
    | some c => rfl

/-- The first of `visits` that fails decides for `ofEntries`. -/
theorem failure?_ofEntries (entries : List (String × Toml.Value)) :
    failure? (ofEntries entries) = (visits entries).findSome? Visit.failure? := by
  unfold ofEntries visits
  rw [findSome?_flatMap, ← failure?_foldlM fun o entry => failure?_set_eq_findSome? o entry]

/-! ## Sound and offending keys -/

/-- A key that means something, with a value that it may have. -/
inductive Visit.IsSound : Visit → Prop
  | dialect (d : Dialect) : IsSound (.option "grammar" (.string d.name))
  | strictness (s : Strictness) : IsSound (.option "strictness" (.string s.name))
  | maxLength (n : Nat) : IsSound (.option "max_length" (.integer n))
  | offsetStyle (s : OffsetStyle) : IsSound (.part "offset_style" (.string s.name))
  | bytePrefix (b : Bool) : IsSound (.part "byte_prefix" (.boolean b))

/-- A key that should not be there, or has no value that it may have, and the error for it. -/
inductive Visit.Offends : Visit → OptionsError → Prop
  | key {key : String} {v : Toml.Value} (h : key ∉ keys) :
    Offends (.option key v) (.unknownKey key keys)
  | partKey {key : String} {v : Toml.Value} (h : key ∉ emissionKeys) :
    Offends (.part key v) (.unknownKey key emissionKeys)
  | dialect {name : String} (h : ∀ d : Dialect, d.name ≠ name) :
    Offends (.option "grammar" (.string name)) (.unknownName name (Dialect.all.map Dialect.name))
  | strictness {name : String} (h : ∀ s : Strictness, s.name ≠ name) :
    Offends (.option "strictness" (.string name))
      (.unknownName name (Strictness.all.map Strictness.name))
  | offsetStyle {name : String} (h : ∀ s : OffsetStyle, s.name ≠ name) :
    Offends (.part "offset_style" (.string name))
      (.unknownName name (OffsetStyle.all.map OffsetStyle.name))
  | maxLength {v : Toml.Value} (h : ∀ n, v ≠ .integer n) :
    Offends (.option "max_length" v) (.wrongKind v .count)
  | negative {n : Int} (h : n < 0) : Offends (.option "max_length" (.integer n)) (.negative n)
  | bytePrefix {v : Toml.Value} (h : ∀ b, v ≠ .boolean b) :
    Offends (.part "byte_prefix" v) (.wrongKind v .boolean)

/-- A key that does not hold something else where a name or a table is wanted. -/
def Visit.IsTyped : Visit → Prop
  | .option key v => key ≠ "emit" ∧
    (key = "grammar" ∨ key = "strictness" → ∃ name, v = .string name)
  | .part key v => key = "offset_style" → ∃ name, v = .string name

variable {visit : Visit}

theorem Visit.IsSound.failure?_eq (h : visit.IsSound) : visit.failure? = none := by
  cases h with
  | dialect d => cases d <;> rfl
  | strictness s => cases s <;> rfl
  | maxLength n =>
    have hcount : decodeCount (.integer n) = .ok n := by
      rw [decodeCount, if_pos (Int.natCast_nonneg n)]
      rfl
    have hset : set {} "max_length" (.integer n) = .ok { maxLength := some n } := by
      rw [set, hcount]
      rfl
    exact failure?_eq_none_iff.mpr ⟨_, hset⟩
  | offsetStyle s => cases s <;> rfl
  | bytePrefix b => rfl

theorem failure?_decodeChoice {α : Type} {all : List α} {nameOf : α → String} {known : List String}
    {name : String} (h : ∀ a, nameOf a ≠ name) :
    failure? (decodeChoice (fun text => all.find? (nameOf · = text)) known (.string name)) =
      some (.unknownName name known) := by
  have hnone : all.find? (nameOf · = name) = none := by
    rw [List.find?_eq_none]
    intro a _
    rw [decide_eq_true_eq]
    exact h a
  rw [decodeChoice, chooseName, hnone]
  rfl

theorem set_of_notMem (h : key ∉ keys) (o : Options) :
    o.set key v = .error (.unknownKey key keys) := by
  simp only [keys, List.mem_cons, List.not_mem_nil, or_false, not_or] at h
  obtain ⟨hdialect, hemission, hstrictness, hmaxLength⟩ := h
  rw [set, if_neg hdialect, if_neg hemission, if_neg hstrictness, if_neg hmaxLength]

theorem setEmission_of_notMem (h : key ∉ emissionKeys) (e : Emission) :
    setEmission e key v = .error (.unknownKey key emissionKeys) := by
  simp only [emissionKeys, List.mem_cons, List.not_mem_nil, or_false, not_or] at h
  rw [setEmission, if_neg h.1, if_neg h.2]

theorem Visit.Offends.failure?_eq (h : visit.Offends e) : visit.failure? = some e := by
  cases h with
  | key hkey => exact failure?_eq_some_iff.mpr (set_of_notMem hkey {})
  | partKey hkey => exact failure?_eq_some_iff.mpr (setEmission_of_notMem hkey {})
  | dialect h => exact (failure?_bind_pure _ _).trans (failure?_decodeChoice h)
  | strictness h => exact (failure?_bind_pure _ _).trans (failure?_decodeChoice h)
  | offsetStyle h => exact (failure?_bind_pure _ _).trans (failure?_decodeChoice h)
  | @maxLength v h =>
    refine (failure?_bind_pure _ _).trans ?_
    cases v with
    | integer n => exact absurd rfl (h n)
    | _ => rfl
  | @negative n h =>
    have hcount : decodeCount (.integer n) = .error (.negative n) := if_neg (Int.not_le.mpr h)
    exact (failure?_bind_pure _ _).trans (failure?_eq_some_iff.mpr hcount)
  | @bytePrefix v h =>
    refine (failure?_bind_pure _ _).trans ?_
    cases v with
    | boolean b => exact absurd rfl (h b)
    | _ => rfl

theorem Visit.isSound_or_offends (h : visit.IsTyped) : visit.IsSound ∨ ∃ e, visit.Offends e := by
  cases visit with
  | option key v =>
    by_cases hkey : key ∈ keys
    · simp only [keys, List.mem_cons, List.not_mem_nil, or_false] at hkey
      rcases hkey with rfl | rfl | rfl | rfl
      · obtain ⟨name, rfl⟩ := h.2 (.inl rfl)
        rcases exists_or_forall_not fun d : Dialect => d.name = name with ⟨d, rfl⟩ | hname
        · exact .inl (.dialect d)
        · exact .inr ⟨_, .dialect hname⟩
      · exact absurd rfl h.1
      · obtain ⟨name, rfl⟩ := h.2 (.inr rfl)
        rcases exists_or_forall_not fun s : Strictness => s.name = name with ⟨s, rfl⟩ | hname
        · exact .inl (.strictness s)
        · exact .inr ⟨_, .strictness hname⟩
      · rcases exists_or_forall_not fun n => v = .integer n with ⟨n, rfl⟩ | hinteger
        · by_cases hn : 0 ≤ n
          · obtain ⟨m, rfl⟩ := Int.eq_ofNat_of_zero_le hn
            exact .inl (.maxLength m)
          · exact .inr ⟨_, .negative (Int.not_le.mp hn)⟩
        · exact .inr ⟨_, .maxLength hinteger⟩
    · exact .inr ⟨_, .key hkey⟩
  | part key v =>
    by_cases hkey : key ∈ emissionKeys
    · simp only [emissionKeys, List.mem_cons, List.not_mem_nil, or_false] at hkey
      rcases hkey with rfl | rfl
      · obtain ⟨name, rfl⟩ := h rfl
        rcases exists_or_forall_not fun s : OffsetStyle => s.name = name with ⟨s, rfl⟩ | hname
        · exact .inl (.offsetStyle s)
        · exact .inr ⟨_, .offsetStyle hname⟩
      · rcases exists_or_forall_not fun b => v = .boolean b with ⟨b, rfl⟩ | hflag
        · exact .inl (.bytePrefix b)
        · exact .inr ⟨_, .bytePrefix hflag⟩
    · exact .inr ⟨_, .partKey hkey⟩

theorem Visit.failure?_eq_none_iff (h : visit.IsTyped) : visit.failure? = none ↔ visit.IsSound := by
  constructor
  · intro hnone
    rcases visit.isSound_or_offends h with hsound | ⟨e, hoffends⟩
    · exact hsound
    · rw [hoffends.failure?_eq] at hnone
      cases hnone
  · exact fun hsound => hsound.failure?_eq

theorem Visit.failure?_eq_some_iff (h : visit.IsTyped) :
    visit.failure? = some e ↔ visit.Offends e := by
  constructor
  · intro hsome
    rcases visit.isSound_or_offends h with hsound | ⟨e', hoffends⟩
    · rw [hsound.failure?_eq] at hsome
      cases hsome
    · rw [hoffends.failure?_eq] at hsome
      cases hsome
      exact hoffends
  · exact fun hoffends => hoffends.failure?_eq

/-! ## Which documents give options -/

/-- The `entries` hold names where names are wanted, and a table where a table is wanted. -/
structure IsTyped (entries : List (String × Toml.Value)) : Prop where
  dialect : ∀ v, ("grammar", v) ∈ entries → ∃ name, v = .string name
  strictness : ∀ v, ("strictness", v) ∈ entries → ∃ name, v = .string name
  emission : ∀ v, ("emit", v) ∈ entries → ∃ parts, v = .table parts
  offsetStyle : ∀ parts v, ("emit", .table parts) ∈ entries → ("offset_style", v) ∈ parts →
    ∃ name, v = .string name

theorem option_mem_visitsOf : .option key v ∈ visitsOf entry ↔
    entry = (key, v) ∧ ∀ parts, entry ≠ ("emit", .table parts) := by
  unfold visitsOf
  split
  · next parts =>
    constructor
    · intro hmem
      obtain ⟨_, -, ⟨⟩⟩ := List.mem_map.mp hmem
    · exact fun h => absurd rfl (h.2 parts)
  · next key' v' hnot =>
    rw [List.mem_singleton]
    constructor
    · rintro ⟨⟩
      refine ⟨rfl, fun parts hparts => ?_⟩
      cases hparts
      exact hnot parts rfl rfl
    · rintro ⟨⟨⟩, -⟩
      rfl

theorem part_mem_visitsOf : .part key v ∈ visitsOf entry ↔
    ∃ parts, entry = ("emit", .table parts) ∧ (key, v) ∈ parts := by
  unfold visitsOf
  split
  · next parts =>
    constructor
    · intro hmem
      obtain ⟨_, hpart, ⟨⟩⟩ := List.mem_map.mp hmem
      exact ⟨parts, rfl, hpart⟩
    · rintro ⟨_, ⟨⟩, hpart⟩
      exact List.mem_map.mpr ⟨_, hpart, rfl⟩
  · next key' v' hnot =>
    rw [List.mem_singleton]
    constructor
    · rintro ⟨⟩
    · rintro ⟨parts, hparts, -⟩
      cases hparts
      exact absurd rfl (hnot parts rfl)

theorem option_mem_visits : .option key v ∈ visits entries ↔
    (key, v) ∈ entries ∧ ∀ parts, (key, v) ≠ ("emit", .table parts) := by
  simp only [visits, List.mem_flatMap, option_mem_visitsOf]
  constructor
  · rintro ⟨_, hmem, rfl, hnot⟩
    exact ⟨hmem, hnot⟩
  · exact fun ⟨hmem, hnot⟩ => ⟨_, hmem, rfl, hnot⟩

theorem part_mem_visits : .part key v ∈ visits entries ↔
    ∃ parts, ("emit", .table parts) ∈ entries ∧ (key, v) ∈ parts := by
  simp only [visits, List.mem_flatMap, part_mem_visitsOf]
  constructor
  · rintro ⟨_, hmem, parts, rfl, hpart⟩
    exact ⟨parts, hmem, hpart⟩
  · exact fun ⟨parts, hmem, hpart⟩ => ⟨_, hmem, parts, rfl, hpart⟩

theorem isTyped_iff : IsTyped entries ↔ ∀ visit ∈ visits entries, visit.IsTyped := by
  constructor
  · intro h visit hvisit
    cases visit with
    | option key v =>
      obtain ⟨hmem, hnot⟩ := option_mem_visits.mp hvisit
      refine ⟨?_, ?_⟩
      · rintro rfl
        obtain ⟨parts, rfl⟩ := h.emission v hmem
        exact hnot parts rfl
      · rintro (rfl | rfl)
        · exact h.dialect v hmem
        · exact h.strictness v hmem
    | part key v =>
      obtain ⟨parts, hmem, hpart⟩ := part_mem_visits.mp hvisit
      rintro rfl
      exact h.offsetStyle parts v hmem hpart
  · intro h
    have hoption : ∀ key v, (key, v) ∈ entries → (∀ parts, (key, v) ≠ ("emit", .table parts)) →
        (Visit.option key v).IsTyped :=
      fun key v hmem hnot => h _ (option_mem_visits.mpr ⟨hmem, hnot⟩)
    constructor
    · exact fun v hmem => (hoption _ v hmem (by simp)).2 (.inl rfl)
    · exact fun v hmem => (hoption _ v hmem (by simp)).2 (.inr rfl)
    · intro v hmem
      by_cases htable : ∃ parts, v = .table parts
      · exact htable
      · have hnot : ∀ parts, ("emit", v) ≠ ("emit", .table parts) :=
          fun parts hparts => htable ⟨parts, (Prod.ext_iff.mp hparts).2⟩
        exact absurd rfl (hoption _ v hmem hnot).1
    · exact fun parts v hmem hpart => h _ (part_mem_visits.mpr ⟨parts, hmem, hpart⟩) rfl

/-- A document gives options exactly if every one of its `visits` is sound. -/
theorem exists_ofEntries_eq_ok_iff (h : IsTyped entries) :
    (∃ o, ofEntries entries = .ok o) ↔ ∀ visit ∈ visits entries, visit.IsSound := by
  rw [← RegisterWrites.failure?_eq_none_iff, failure?_ofEntries, List.findSome?_eq_none_iff]
  exact forall₂_congr fun visit hvisit =>
    Visit.failure?_eq_none_iff (isTyped_iff.mp h visit hvisit)

/-- The first of `visits` that is not sound decides the error `e`. -/
theorem ofEntries_eq_error_iff (h : IsTyped entries) : ofEntries entries = .error e ↔
    ∃ before visit after, visits entries = before ++ visit :: after ∧
      (∀ earlier ∈ before, earlier.IsSound) ∧ visit.Offends e := by
  rw [← RegisterWrites.failure?_eq_some_iff, failure?_ofEntries, List.findSome?_eq_some_iff]
  refine exists₃_congr fun before visit after => and_congr_right fun hsplit => ?_
  have htyped := isTyped_iff.mp h
  rw [hsplit, List.forall_mem_append, List.forall_mem_cons] at htyped
  rw [Visit.failure?_eq_some_iff htyped.2.1, and_comm]
  refine and_congr_left fun _ => forall₂_congr fun earlier hearlier => ?_
  exact Visit.failure?_eq_none_iff (htyped.1 earlier hearlier)

end RegisterWrites.Options
