import Mathlib.Data.List.Induction
import RegisterWrites.Options.Decode
import RegisterWrites.Proofs.Except

/-!
# Options key by key

The options of a document are those of its keys, each taken for itself: an option has the value
of its key, or is as by default if the key is not there (`gives_of_ofEntries`). The keys are taken
one after another, and each changes its own option only (`set_eq_ok`, `setEmission_eq_ok`); what
that leaves in one field is said once, for any such run (`isChosen_of_foldlM`).
-/

namespace RegisterWrites.Options

variable {σ α : Type} {entries : List (String × Toml.Value)} {key : String} {v : Toml.Value}

/-- The value of `key`. No key of a document is given twice; of two values the last would count. -/
def value? (entries : List (String × Toml.Value)) (key : String) : Option Toml.Value :=
  entries.reverse.lookup key

/-- What `decode` makes of the value of a key, or, where there is none, the value `byDefault`. -/
def IsChosen (decode : Toml.Value → Except OptionsError α) (byDefault : α) :
    Option Toml.Value → α → Prop
  | none, a => a = byDefault
  | some v, a => decode v = .ok a

theorem IsChosen.unique {decode : Toml.Value → Except OptionsError α} {byDefault a b : α}
    {given : Option Toml.Value} (ha : IsChosen decode byDefault given a)
    (hb : IsChosen decode byDefault given b) : a = b := by
  cases given with
  | none => exact Eq.trans ha (Eq.symm hb)
  | some v => exact Except.ok.inj (Eq.trans (Eq.symm ha) hb)

theorem value?_concat (entries : List (String × Toml.Value)) (last : String) (v : Toml.Value)
    (key : String) :
    value? (entries ++ [(last, v)]) key = if key = last then some v else value? entries key := by
  unfold value?
  rw [List.reverse_append, List.reverse_singleton, List.singleton_append, List.lookup_cons]
  by_cases h : key = last
  · rw [if_pos h, beq_iff_eq.mpr h]
  · rw [if_neg h, beq_eq_false_iff_ne.mpr h]

/-- Keys that `set` takes up one after another leave in `field` what the value of `key` gives, if no
other key changes that field. -/
theorem isChosen_of_foldlM (field : σ → α) (decode : Toml.Value → Except OptionsError α)
    {set : σ → String → Toml.Value → Except OptionsError σ} {start s : σ}
    (hset : ∀ {s s' k v}, set s k v = .ok s' →
      if k = key then decode v = .ok (field s') else field s' = field s)
    (h : entries.foldlM (fun s (k, v) => set s k v) start = .ok s) :
    IsChosen decode (field start) (value? entries key) (field s) := by
  induction entries using List.reverseRecOn generalizing s with
  | nil =>
    cases h
    rfl
  | append_singleton entries last ih =>
    obtain ⟨k, v⟩ := last
    rw [List.foldlM_append] at h
    obtain ⟨s', hbefore, hlast⟩ := bind_eq_ok_iff.mp h
    rw [List.foldlM_cons] at hlast
    obtain ⟨_, hlast, ⟨⟩⟩ := bind_eq_ok_iff.mp hlast
    have hfield := hset hlast
    rw [value?_concat]
    by_cases hk : k = key
    · rw [if_pos hk] at hfield
      rw [if_pos hk.symm]
      exact hfield
    · rw [if_neg hk] at hfield
      rw [if_neg (Ne.symm hk), hfield]
      exact ih hbefore

/-! ## The keys for writing descriptors -/

variable {e e' : Emission} {o o' : Options}

/-- One `key` changes one field of `e`. -/
theorem setEmission_eq_ok (h : setEmission e key v = .ok e') :
    (if key = "offset_style" then decodeOffsetStyle v = .ok e'.offsetStyle
      else e'.offsetStyle = e.offsetStyle) ∧
    (if key = "byte_prefix" then decodeFlag v = .ok e'.bytePrefix
      else e'.bytePrefix = e.bytePrefix) := by
  unfold setEmission at h
  split at h
  · next hkey =>
    obtain ⟨style, hstyle, ⟨⟩⟩ := bind_eq_ok_iff.mp h
    subst hkey
    exact ⟨hstyle, rfl⟩
  split at h
  · next hkey =>
    obtain ⟨flag, hflag, ⟨⟩⟩ := bind_eq_ok_iff.mp h
    subst hkey
    exact ⟨rfl, hflag⟩
  · cases h

/-- The value of `key` under `emit`: by its name in a table, and by its place among `emissionKeys`
in a list. -/
def part? (key : String) : Toml.Value → Option Toml.Value
  | .table entries => value? entries key
  | .array items => items[emissionKeys.idxOf key]?
  | _ => none

theorem decodeEmission_eq_ok (h : decodeEmission v = .ok e) :
    IsChosen decodeOffsetStyle .verbatim (part? "offset_style" v) e.offsetStyle ∧
    IsChosen decodeFlag false (part? "byte_prefix" v) e.bytePrefix := by
  unfold decodeEmission at h
  split at h
  · have hstyle := isChosen_of_foldlM Emission.offsetStyle decodeOffsetStyle
      (fun hset => (setEmission_eq_ok hset).1) h
    have hflag := isChosen_of_foldlM Emission.bytePrefix decodeFlag
      (fun hset => (setEmission_eq_ok hset).2) h
    exact ⟨hstyle, hflag⟩
  · cases h
    exact ⟨rfl, rfl⟩
  · obtain ⟨style, hstyle, ⟨⟩⟩ := bind_eq_ok_iff.mp h
    exact ⟨hstyle, rfl⟩
  · obtain ⟨style, hstyle, h⟩ := bind_eq_ok_iff.mp h
    obtain ⟨flag, hflag, ⟨⟩⟩ := bind_eq_ok_iff.mp h
    exact ⟨hstyle, hflag⟩
  · cases h
  · cases h

/-! ## All keys -/

theorem set_eq_ok (h : o.set key v = .ok o') :
    (if key = "grammar" then decodeDialect v = .ok o'.dialect else o'.dialect = o.dialect) ∧
    (if key = "emit" then decodeEmission v = .ok o'.emission else o'.emission = o.emission) ∧
    (if key = "strictness" then decodeStrictness v = .ok o'.strictness
      else o'.strictness = o.strictness) ∧
    (if key = "max_length" then (decodeCount v).map some = .ok o'.maxLength
      else o'.maxLength = o.maxLength) := by
  unfold set at h
  split at h
  · next hkey =>
    obtain ⟨dialect, hdialect, ⟨⟩⟩ := bind_eq_ok_iff.mp h
    subst hkey
    exact ⟨hdialect, rfl, rfl, rfl⟩
  split at h
  · next hkey =>
    obtain ⟨emission, hemission, ⟨⟩⟩ := bind_eq_ok_iff.mp h
    subst hkey
    exact ⟨rfl, hemission, rfl, rfl⟩
  split at h
  · next hkey =>
    obtain ⟨strictness, hstrictness, ⟨⟩⟩ := bind_eq_ok_iff.mp h
    subst hkey
    exact ⟨rfl, rfl, hstrictness, rfl⟩
  split at h
  · next hkey =>
    obtain ⟨n, hn, ⟨⟩⟩ := bind_eq_ok_iff.mp h
    subst hkey
    refine ⟨rfl, rfl, rfl, ?_⟩
    rw [if_pos rfl, hn]
    rfl
  · cases h

/-- The value of `key`, one of `emissionKeys`, among `entries`. -/
def emissionValue? (entries : List (String × Toml.Value)) (key : String) : Option Toml.Value :=
  (value? entries "emit").bind (part? key)

/-- The options `o` that `entries` give: each has the value of its key, or that by default. -/
structure Gives (entries : List (String × Toml.Value)) (o : Options) : Prop where
  dialect : IsChosen decodeDialect .commented (value? entries "grammar") o.dialect
  offsetStyle : IsChosen decodeOffsetStyle .verbatim (emissionValue? entries "offset_style")
    o.emission.offsetStyle
  bytePrefix : IsChosen decodeFlag false (emissionValue? entries "byte_prefix")
    o.emission.bytePrefix
  strictness : IsChosen decodeStrictness .off (value? entries "strictness") o.strictness
  maxLength : IsChosen (fun v => (decodeCount v).map some) none (value? entries "max_length")
    o.maxLength

theorem gives_of_ofEntries (h : ofEntries entries = .ok o) : Gives entries o := by
  have hdialect := isChosen_of_foldlM dialect decodeDialect (fun hset => (set_eq_ok hset).1) h
  have hemission := isChosen_of_foldlM emission decodeEmission
    (fun hset => (set_eq_ok hset).2.1) h
  have hstrictness := isChosen_of_foldlM strictness decodeStrictness
    (fun hset => (set_eq_ok hset).2.2.1) h
  have hmaxLength := isChosen_of_foldlM maxLength (fun v => (decodeCount v).map some)
    (fun hset => (set_eq_ok hset).2.2.2) h
  have hparts : IsChosen decodeOffsetStyle .verbatim (emissionValue? entries "offset_style")
        o.emission.offsetStyle ∧
      IsChosen decodeFlag false (emissionValue? entries "byte_prefix") o.emission.bytePrefix := by
    unfold emissionValue?
    cases hvalue : value? entries "emit" with
    | none =>
      rw [hvalue] at hemission
      have hdefault : o.emission = {} := hemission
      rw [hdefault]
      exact ⟨rfl, rfl⟩
    | some v =>
      rw [hvalue] at hemission
      exact decodeEmission_eq_ok hemission
  exact ⟨hdialect, hparts.1, hparts.2, hstrictness, hmaxLength⟩

end RegisterWrites.Options
