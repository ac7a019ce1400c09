import Mathlib.Data.List.Forall2
import Mathlib.Data.List.Induction
import RegisterWrites.Proofs.Command.Spelling

/-!
# The job of a command line

Which job a command line asks for. `Draft.Holds d items` is what a `Draft` knows of the items that
it has taken up: the value of each setting, and how often each flag was met. One item more changes
one value or one count (`Draft.Assigned`, `Draft.Raised`), so that a run over `items` comes to a
draft exactly if it holds them (`Draft.foldlM_take_eq_ok_iff`). `Job.Takes job items` says the same
of the finished job, field by field. The main statement is `ofArguments_eq_convert_iff`.
-/

namespace RegisterWrites.Command

variable {text : String} {arguments : List String} {item : Item} {items : List Item} {f : Flag}
  {s : Setting} {d d' : Draft} {job : Job}

/-! ## What a draft knows -/

/-- The texts that `items` give for the value of `s`, in their order. -/
def values (s : Setting) (items : List Item) : List String :=
  items.filterMap fun
    | .setting s' text => if s' = s then some text else none
    | .flag _ => none

/-- The `path` is `text` as it is, and not empty. -/
def IsPath (text path : String) : Prop := text = path ∧ path ≠ ""

/-- The number `n` below 2 ^ 64 that `text` writes in decimal digits, perhaps behind a plus sign. -/
def IsCount (text : String) (n : Nat) : Prop :=
  ∃ mark digits, text.toList = mark ++ digits ∧ (mark = [] ∨ mark = ['+']) ∧ digits ≠ [] ∧
    (∀ c ∈ digits, c.isDigit = true) ∧ n = Nat.ofDigitChars 10 digits 0 ∧ n < UInt64.size

theorem path?_eq_some_iff {path : String} : path? text = some path ↔ IsPath text path := by
  unfold path? IsPath
  by_cases h : text = ""
  · subst h
    simp
  · rw [if_neg h, Option.some.injEq]
    constructor
    · rintro rfl
      exact ⟨rfl, h⟩
    · exact fun hpath => hpath.1

theorem format_ofName?_eq_some_iff {format : Format} :
    Format.ofName? text = some format ↔ text = format.name := by
  constructor
  · intro h
    simpa [eq_comm] using List.find?_some h
  · rintro rfl
    cases format <;> decide

theorem strictness_ofName?_eq_some_iff {strictness : Strictness} :
    Strictness.ofName? text = some strictness ↔ text = strictness.name := by
  constructor
  · intro h
    simpa [eq_comm] using List.find?_some h
  · rintro rfl
    cases strictness <;> decide

/-- The number that `digits` denote, if it is below 2 ^ 64. -/
def countOfDigits? (digits : List Char) : Option Nat :=
  if digits ≠ [] ∧ digits.all Char.isDigit ∧ Nat.ofDigitChars 10 digits 0 < UInt64.size then
    some (Nat.ofDigitChars 10 digits 0)
  else none

theorem count?_of_plus {digits : List Char} (h : text.toList = '+' :: digits) :
    count? text = countOfDigits? digits := by
  unfold count?
  simp only [h]
  rfl

theorem count?_of_head (h : text.toList.head? ≠ some '+') :
    count? text = countOfDigits? text.toList := by
  unfold count?
  generalize text.toList = digits at h ⊢
  cases digits with
  | nil => rfl
  | cons c digits =>
    have hc : c ≠ '+' := by simpa using h
    simp only
    split
    · next heq => exact absurd (List.cons.inj heq).1 hc
    · rfl

theorem countOfDigits?_eq_some_iff {digits : List Char} {n : Nat} :
    countOfDigits? digits = some n ↔ digits ≠ [] ∧ (∀ c ∈ digits, c.isDigit = true) ∧
      n = Nat.ofDigitChars 10 digits 0 ∧ n < UInt64.size := by
  rw [countOfDigits?, Option.ite_none_right_eq_some, Option.some.injEq, List.all_eq_true]
  constructor
  · rintro ⟨⟨hne, hall, hlt⟩, rfl⟩
    exact ⟨hne, hall, rfl, hlt⟩
  · rintro ⟨hne, hall, rfl, hlt⟩
    exact ⟨⟨hne, hall, hlt⟩, rfl⟩

theorem count?_eq_some_iff {n : Nat} : count? text = some n ↔ IsCount text n := by
  constructor
  · intro h
    by_cases hhead : text.toList.head? = some '+'
    · obtain ⟨digits, htext⟩ := List.head?_eq_some_iff.mp hhead
      rw [count?_of_plus htext, countOfDigits?_eq_some_iff] at h
      exact ⟨['+'], digits, htext, .inr rfl, h⟩
    · rw [count?_of_head hhead, countOfDigits?_eq_some_iff] at h
      exact ⟨[], text.toList, rfl, .inl rfl, h⟩
  · rintro ⟨mark, digits, htext, rfl | rfl, hn⟩
    · rw [List.nil_append] at htext
      have hhead : text.toList.head? ≠ some '+' := by
        rw [htext]
        intro hplus
        have hdigit := hn.2.1 '+' (List.mem_of_mem_head? hplus)
        cases hdigit
      rw [count?_of_head hhead, htext]
      exact countOfDigits?_eq_some_iff.mpr hn
    · rw [count?_of_plus htext]
      exact countOfDigits?_eq_some_iff.mpr hn

namespace Draft

/-- The value that `d` has for a setting is the one that the `texts` say: there is one text if there
is a value, and else there is none. -/
def Keeps (d : Draft) : Setting → List String → Prop
  | .file, texts => List.Forall₂ IsPath texts d.file.toList
  | .format, texts => List.Forall₂ (fun text a => text = a.name) texts d.format.toList
  | .output, texts => List.Forall₂ IsPath texts d.output.toList
  | .optionsFile, texts => List.Forall₂ IsPath texts d.optionsFile.toList
  | .strictness, texts => List.Forall₂ (fun text a => text = a.name) texts d.strictness.toList
  | .maxLength, texts => List.Forall₂ IsCount texts d.maxLength.toList

/-- How often `d` has met a flag. -/
def times (d : Draft) : Flag → Nat
  | .bare => d.bare.toNat
  | .prefixOffset => d.prefixOffset.toNat
  | .prefixBytes => d.prefixBytes.toNat
  | .verbose => d.verbosity
  | .quiet => d.quiet.toNat

/-! ### One item more -/

theorem fill_eq_ok_iff {α : Type} {read? : String → Option α} {old new : Option α} :
    fill s old read? text = .ok new ↔ old = none ∧ ∃ a, read? text = some a ∧ new = some a := by
  unfold fill
  cases read? text with
  | none => simp
  | some a =>
    cases old with
    | none => simp [eq_comm]
    | some b => simp

theorem up_eq_ok_iff {old new : Bool} : up f old = .ok new ↔ old = false ∧ new = true := by
  unfold up
  cases old <;> cases new <;> simp

/-- All that assigning `text` to `s` does: there is one text more for `s`, and nothing else has
changed. -/
structure Assigned (d : Draft) (s : Setting) (text : String) (d' : Draft) : Prop where
  keeps (texts : List String) : d'.Keeps s (texts ++ [text]) ↔ d.Keeps s texts
  others (other : Setting) (h : other ≠ s) : d'.Keeps other = d.Keeps other
  times : d'.times = d.times

/-- All that raising `f` does: it was met once more, and nothing else has changed. -/
structure Raised (d : Draft) (f : Flag) (d' : Draft) : Prop where
  times : d'.times f = d.times f + 1
  others (other : Flag) (h : other ≠ f) : d'.times other = d.times other
  keeps : d'.Keeps = d.Keeps

/-- Where drafts keep the value of `s`, with what `Draft.assign` reads and what the other parts of a
draft see of it. -/
structure SettingSlot (s : Setting) (α : Type) where
  get : Draft → Option α
  set : Draft → Option α → Draft
  read? : String → Option α
  Writes : String → α → Prop
  read?_eq_some_iff : ∀ text a, read? text = some a ↔ Writes text a
  assign_eq : ∀ d text,
      Draft.assign d s text = (do return set d (← fill s (get d) read? text)) := by
    intros; rfl
  get_set : ∀ d a, get (set d a) = a := by intros; rfl
  set_get : ∀ d a, set (set d a) (get d) = d := by intros; rfl
  keeps_iff : ∀ d texts, Keeps d s texts ↔ List.Forall₂ Writes texts (get d).toList := by
    intros; rfl
  keeps_set : ∀ d a other, other ≠ s → Keeps (set d a) other = Keeps d other := by
    intro d a other h
    cases other <;> first | rfl | exact absurd rfl h
  times_set : ∀ d a, times (set d a) = times d := by intros; rfl

theorem SettingSlot.assigned {α : Type} (slot : SettingSlot s α) (text : String) :
    (∀ d d' : Draft, d.assign s text = .ok d' → d.Assigned s text d') ∧
      ∀ (d' : Draft) texts, d'.Keeps s (texts ++ [text]) →
        ∃ d : Draft, d.assign s text = .ok d' := by
  constructor
  · intro d d' h
    rw [slot.assign_eq] at h
    obtain ⟨new, hfill, hd⟩ := bind_eq_ok_iff.mp h
    cases hd
    obtain ⟨hold, a, ha, rfl⟩ := fill_eq_ok_iff.mp hfill
    refine ⟨fun texts => ?_, fun other hother => slot.keeps_set d _ other hother,
      slot.times_set d _⟩
    rw [slot.keeps_iff, slot.keeps_iff, slot.get_set, hold, Option.toList_some, Option.toList_none,
      List.forall₂_nil_right_iff]
    constructor
    · intro htexts
      simpa using htexts.length_eq
    · rintro rfl
      exact .cons ((slot.read?_eq_some_iff text a).mp ha) .nil
  · intro d' texts h
    rw [slot.keeps_iff] at h
    cases hnew : slot.get d' with
    | none =>
      rw [hnew] at h
      simp at h
    | some a =>
      rw [hnew] at h
      obtain rfl : texts = [] := by simpa using h.length_eq
      have ha := (slot.read?_eq_some_iff text a).mpr (List.forall₂_cons.mp h).1
      refine ⟨slot.set d' none, ?_⟩
      rw [slot.assign_eq, slot.get_set, fill_eq_ok_iff.mpr ⟨rfl, a, ha, rfl⟩, ← hnew]
      exact congrArg Except.ok (slot.set_get d' none)

theorem assigned (s : Setting) (text : String) :
    (∀ d d' : Draft, d.assign s text = .ok d' → d.Assigned s text d') ∧
      ∀ (d' : Draft) texts, d'.Keeps s (texts ++ [text]) →
        ∃ d : Draft, d.assign s text = .ok d' := by
  cases s with
  | file =>
    exact SettingSlot.assigned
      { get := (·.file), set := fun d a => { d with file := a }
        read? := path?, Writes := IsPath
        read?_eq_some_iff := fun _ _ => path?_eq_some_iff } text
  | format =>
    exact SettingSlot.assigned
      { get := (·.format), set := fun d a => { d with format := a }
        read? := Format.ofName?, Writes := fun text a => text = a.name
        read?_eq_some_iff := fun _ _ => format_ofName?_eq_some_iff } text
  | output =>
    exact SettingSlot.assigned
      { get := (·.output), set := fun d a => { d with output := a }
        read? := path?, Writes := IsPath
        read?_eq_some_iff := fun _ _ => path?_eq_some_iff } text
  | optionsFile =>
    exact SettingSlot.assigned
      { get := (·.optionsFile), set := fun d a => { d with optionsFile := a }
        read? := path?, Writes := IsPath
        read?_eq_some_iff := fun _ _ => path?_eq_some_iff } text
  | strictness =>
    exact SettingSlot.assigned
      { get := (·.strictness), set := fun d a => { d with strictness := a }
        read? := Strictness.ofName?, Writes := fun text a => text = a.name
        read?_eq_some_iff := fun _ _ => strictness_ofName?_eq_some_iff } text
  | maxLength =>
    exact SettingSlot.assigned
      { get := (·.maxLength), set := fun d a => { d with maxLength := a }
        read? := count?, Writes := IsCount
        read?_eq_some_iff := fun _ _ => count?_eq_some_iff } text

/-- Where drafts keep whether `f` is up, if it is met at most once, with what `Draft.raise` does and
what the other parts of a draft see of it. -/
structure FlagSlot (f : Flag) where
  get : Draft → Bool
  set : Draft → Bool → Draft
  raise_eq : ∀ d, Draft.raise d f = (do return set d (← up f (get d))) := by intros; rfl
  get_set : ∀ d a, get (set d a) = a := by intros; rfl
  set_get : ∀ d a, set (set d a) (get d) = d := by intros; rfl
  times_eq : ∀ d, times d f = (get d).toNat := by intros; rfl
  times_set : ∀ d a other, other ≠ f → times (set d a) other = times d other := by
    intro d a other h
    cases other <;> first | rfl | exact absurd rfl h
  keeps_set : ∀ d a, Keeps (set d a) = Keeps d := by intros; rfl

theorem FlagSlot.raised (slot : FlagSlot f) : (∀ d d' : Draft, d.raise f = .ok d' → d.Raised f d') ∧
    ∀ d' : Draft, 0 < d'.times f → ∃ d : Draft, d.raise f = .ok d' := by
  constructor
  · intro d d' h
    rw [slot.raise_eq] at h
    obtain ⟨new, hup, hd⟩ := bind_eq_ok_iff.mp h
    cases hd
    obtain ⟨hold, rfl⟩ := up_eq_ok_iff.mp hup
    refine ⟨?_, fun other hother => slot.times_set d _ other hother, slot.keeps_set d _⟩
    rw [slot.times_eq, slot.times_eq, slot.get_set, hold]
    rfl
  · intro d' h
    rw [slot.times_eq] at h
    have hnew : slot.get d' = true := by
      cases hget : slot.get d' with
      | false => rw [hget] at h; cases h
      | true => rfl
    refine ⟨slot.set d' false, ?_⟩
    rw [slot.raise_eq, slot.get_set, up_eq_ok_iff.mpr ⟨rfl, rfl⟩, ← hnew]
    exact congrArg Except.ok (slot.set_get d' false)

theorem raised (f : Flag) : (∀ d d' : Draft, d.raise f = .ok d' → d.Raised f d') ∧
    ∀ d' : Draft, 0 < d'.times f → ∃ d : Draft, d.raise f = .ok d' := by
  cases f with
  | bare =>
    exact FlagSlot.raised { get := (·.bare), set := fun d a => { d with bare := a } }
  | prefixOffset =>
    exact FlagSlot.raised
      { get := (·.prefixOffset), set := fun d a => { d with prefixOffset := a } }
  | prefixBytes =>
    exact FlagSlot.raised { get := (·.prefixBytes), set := fun d a => { d with prefixBytes := a } }
  | quiet =>
    exact FlagSlot.raised { get := (·.quiet), set := fun d a => { d with quiet := a } }
  | verbose =>
    -- This flag counts, so the draft in front of it is the one with one less.
    constructor
    · rintro d _ ⟨⟩
      refine ⟨rfl, ?_, rfl⟩
      intro other hother
      cases other <;> first | rfl | exact absurd rfl hother
    · intro d' h
      have hpos : 0 < d'.verbosity := h
      refine ⟨{ d' with verbosity := d'.verbosity - 1 }, ?_⟩
      change Except.ok { d' with verbosity := d'.verbosity - 1 + 1 } = Except.ok d'
      rw [Nat.sub_add_cancel hpos]

/-! ### All items -/

/-- What `d` has taken up are the `items`: the value of each setting, and each flag as often as it
was met. -/
structure Holds (d : Draft) (items : List Item) : Prop where
  keeps (s : Setting) : d.Keeps s (values s items)
  times (f : Flag) : d.times f = items.count (.flag f)

theorem values_append_flag (s : Setting) (items : List Item) (f : Flag) :
    values s (items ++ [.flag f]) = values s items := by
  rw [values, List.filterMap_append]
  exact List.append_nil _

theorem values_append_self (s : Setting) (items : List Item) (text : String) :
    values s (items ++ [.setting s text]) = values s items ++ [text] := by
  rw [values, List.filterMap_append]
  simp [values]

theorem values_append_of_ne {other : Setting} (h : other ≠ s) (items : List Item)
    (text : String) : values other (items ++ [.setting s text]) = values other items := by
  rw [values, List.filterMap_append]
  simp [values, h.symm]

theorem count_append_of_ne {other : Item} (h : other ≠ item) (items : List Item) :
    (items ++ [item]).count other = items.count other := by
  rw [List.count_append, List.count_singleton]
  simp [h.symm]

theorem Raised.holds_iff (h : d.Raised f d') : d'.Holds (items ++ [.flag f]) ↔ d.Holds items := by
  have hkeeps : ∀ s, d'.Keeps s (values s (items ++ [.flag f])) ↔ d.Keeps s (values s items) := by
    intro s
    rw [values_append_flag, h.keeps]
  have htimes : ∀ other, d'.times other = (items ++ [Item.flag f]).count (.flag other) ↔
      d.times other = items.count (.flag other) := by
    intro other
    by_cases hother : other = f
    · subst hother
      rw [h.times, List.count_append, List.count_singleton_self, Nat.add_right_cancel_iff]
    · rw [h.others other hother, count_append_of_ne fun heq => hother (Item.flag.inj heq)]
  exact ⟨fun hd => ⟨fun s => (hkeeps s).mp (hd.keeps s), fun g => (htimes g).mp (hd.times g)⟩,
    fun hd => ⟨fun s => (hkeeps s).mpr (hd.keeps s), fun g => (htimes g).mpr (hd.times g)⟩⟩

theorem Assigned.holds_iff (h : d.Assigned s text d') :
    d'.Holds (items ++ [.setting s text]) ↔ d.Holds items := by
  have hkeeps : ∀ other, d'.Keeps other (values other (items ++ [.setting s text])) ↔
      d.Keeps other (values other items) := by
    intro other
    by_cases hother : other = s
    · subst hother
      rw [values_append_self, h.keeps]
    · rw [values_append_of_ne hother, h.others other hother]
  have htimes : ∀ f, d'.times f = (items ++ [Item.setting s text]).count (.flag f) ↔
      d.times f = items.count (.flag f) := by
    intro f
    have hne : Item.flag f ≠ .setting s text := nofun
    rw [h.times, count_append_of_ne hne]
  exact ⟨fun hd => ⟨fun s => (hkeeps s).mp (hd.keeps s), fun f => (htimes f).mp (hd.times f)⟩,
    fun hd => ⟨fun s => (hkeeps s).mpr (hd.keeps s), fun f => (htimes f).mpr (hd.times f)⟩⟩

/-- **One step** of `take` leads to a draft that holds `items` and `item` exactly from one that
holds `items`. -/
theorem holds_append_singleton_iff :
    d'.Holds (items ++ [item]) ↔ ∃ d : Draft, d.Holds items ∧ d.take item = .ok d' := by
  cases item with
  | flag f =>
    obtain ⟨hraised, hexists⟩ := raised f
    constructor
    · intro h
      have hpos : 0 < d'.times f := by
        rw [h.times f, List.count_append, List.count_singleton_self]
        exact Nat.succ_pos _
      obtain ⟨d, hd⟩ := hexists d' hpos
      exact ⟨d, (hraised d d' hd).holds_iff.mp h, hd⟩
    · rintro ⟨d, h, hd⟩
      exact (hraised d d' hd).holds_iff.mpr h
  | setting s text =>
    obtain ⟨hassigned, hexists⟩ := assigned s text
    constructor
    · intro h
      have htext := h.keeps s
      rw [values_append_self] at htext
      obtain ⟨d, hd⟩ := hexists d' _ htext
      exact ⟨d, (hassigned d d' hd).holds_iff.mp h, hd⟩
    · rintro ⟨d, h, hd⟩
      exact (hassigned d d' hd).holds_iff.mpr h

theorem holds_nil_iff : d.Holds [] ↔ d = {} := by
  constructor
  · rintro ⟨hkeeps, htimes⟩
    have hnone : ∀ {α : Type} {R : String → α → Prop} {value : Option α},
        List.Forall₂ R [] value.toList → value = none := by
      intro α R value h
      cases value with
      | none => rfl
      | some a => cases h
    have hdown : ∀ {up : Bool}, up.toNat = 0 → up = false := Bool.toNat_eq_zero.mp
    obtain ⟨file, format, output, optionsFile, bare, prefixOffset, prefixBytes, strictness,
      maxLength, verbosity, quiet⟩ := d
    obtain rfl := hnone (hkeeps .file)
    obtain rfl := hnone (hkeeps .format)
    obtain rfl := hnone (hkeeps .output)
    obtain rfl := hnone (hkeeps .optionsFile)
    obtain rfl := hnone (hkeeps .strictness)
    obtain rfl := hnone (hkeeps .maxLength)
    obtain rfl := hdown (htimes .bare)
    obtain rfl := hdown (htimes .prefixOffset)
    obtain rfl := hdown (htimes .prefixBytes)
    obtain rfl : verbosity = 0 := htimes .verbose
    obtain rfl := hdown (htimes .quiet)
    rfl
  · rintro rfl
    refine ⟨fun s => ?_, fun f => ?_⟩
    · cases s <;> exact .nil
    · cases f <;> rfl

/-- **A run of `take` over all items**, in any order, comes to `d` exactly if `d` holds them. -/
theorem foldlM_take_eq_ok_iff : items.foldlM take {} = .ok d ↔ d.Holds items := by
  induction items using List.reverseRecOn generalizing d with
  | nil =>
    rw [holds_nil_iff]
    exact ⟨fun h => (Except.ok.inj h).symm, fun h => congrArg Except.ok h.symm⟩
  | append_singleton items item ih =>
    rw [List.foldlM_append, bind_eq_ok_iff, holds_append_singleton_iff]
    refine exists_congr fun e => and_congr ih ?_
    rw [List.foldlM_cons]
    exact iff_of_eq (congrArg (· = Except.ok d) (bind_pure _))

end Draft

/-! ## The job of the items -/

/-- The job that `items` ask for. A setting is given at most once, and the file of the document
in any case; every flag but `verbose` is given at most once, and `quiet` not together with
`verbose`. -/
structure Job.Takes (job : Job) (items : List Item) : Prop where
  file : List.Forall₂ IsPath (values .file items) [job.file]
  format : ∃ given : Option Format, job.format = given.getD .initializer ∧
    List.Forall₂ (fun text a => text = a.name) (values .format items) given.toList
  output : List.Forall₂ IsPath (values .output items) job.output.toList
  optionsFile : List.Forall₂ IsPath (values .optionsFile items) job.optionsFile.toList
  strictness : List.Forall₂ (fun text a => text = a.name) (values .strictness items)
    job.strictness.toList
  maxLength : List.Forall₂ IsCount (values .maxLength items) job.maxLength.toList
  bare : items.count (.flag .bare) = job.bare.toNat
  prefixOffset : items.count (.flag .prefixOffset) = job.prefixOffset.toNat
  prefixBytes : items.count (.flag .prefixBytes) = job.prefixBytes.toNat
  verbosity : items.count (.flag .verbose) = job.verbosity
  quiet : items.count (.flag .quiet) = job.quiet.toNat
  loud : job.quiet = true → job.verbosity = 0

theorem exists_finish_iff :
    (∃ d : Draft, d.Holds items ∧ d.finish = .ok job) ↔ job.Takes items := by
  constructor
  · rintro ⟨d, ⟨hkeeps, htimes⟩, hfinish⟩
    unfold Draft.finish at hfinish
    by_cases hloud : d.quiet = true ∧ 0 < d.verbosity
    · rw [if_pos hloud] at hfinish
      cases hfinish
    · rw [if_neg hloud] at hfinish
      have hfile := hkeeps .file
      unfold Draft.Keeps at hfile
      simp only at hfile
      cases hd : d.file with
      | none => rw [hd] at hfinish; cases hfinish
      | some file =>
        rw [hd] at hfinish hfile
        cases hfinish
        exact ⟨hfile, ⟨d.format, rfl, hkeeps .format⟩, hkeeps .output, hkeeps .optionsFile,
          hkeeps .strictness, hkeeps .maxLength, (htimes .bare).symm, (htimes .prefixOffset).symm,
          (htimes .prefixBytes).symm, (htimes .verbose).symm, (htimes .quiet).symm,
          fun hquiet => Nat.eq_zero_of_not_pos fun hpos => hloud ⟨hquiet, hpos⟩⟩
  · intro h
    obtain ⟨given, hformat, hgiven⟩ := h.format
    let d : Draft :=
      { file := some job.file, format := given, output := job.output
        optionsFile := job.optionsFile, bare := job.bare, prefixOffset := job.prefixOffset
        prefixBytes := job.prefixBytes, strictness := job.strictness, maxLength := job.maxLength
        verbosity := job.verbosity, quiet := job.quiet }
    refine ⟨d, ⟨fun s => ?_, fun f => ?_⟩, ?_⟩
    · cases s with
      | file => exact h.file
      | format => exact hgiven
      | output => exact h.output
      | optionsFile => exact h.optionsFile
      | strictness => exact h.strictness
      | maxLength => exact h.maxLength
    · cases f with
      | bare => exact h.bare.symm
      | prefixOffset => exact h.prefixOffset.symm
      | prefixBytes => exact h.prefixBytes.symm
      | verbose => exact h.verbosity.symm
      | quiet => exact h.quiet.symm
    · have hloud : ¬(job.quiet = true ∧ 0 < job.verbosity) :=
        fun hboth => Nat.ne_of_gt hboth.2 (h.loud hboth.1)
      rw [Draft.finish, if_neg hloud]
      simp only [d, ← hformat]

/-- **What the command line asks for** is a conversion exactly if it spells items of which a job can
be made, and then it is this job. -/
theorem ofArguments_eq_convert_iff : Request.ofArguments arguments = .ok (.convert job) ↔
    ∃ items, Spells arguments items ∧ job.Takes items := by
  rw [Request.ofArguments, takeArguments_eq_convert_iff]
  simp only [bind_eq_ok_iff, Draft.foldlM_take_eq_ok_iff, exists_finish_iff]

end RegisterWrites.Command
