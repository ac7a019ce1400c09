import RegisterWrites.Text.Character
import RegisterWrites.Text.Line

/-!
# Runs of characters

A greedy reader takes a run of characters of one class, as long as possible. Which run that
is has a description without the reader (`takeWhile_dropWhile_iff`): all of the run lies in
the class, and what follows it does not begin in the class (`EndsRun`).

Blanks and digits, which meet in a register document, are apart (`isHexDigit_of_isBlank`).
-/

namespace RegisterWrites.Text

/-! ## What ends a run -/

section Run

variable {p : Char → Bool} {c : Char} {a b text run rest rest' : List Char}

/-- The `text` does not begin with a character of the class `p`, so that a run of the class in front
of it ends there. -/
def EndsRun (p : Char → Bool) (text : List Char) : Prop :=
  ∀ c ∈ text.head?, p c = false

@[simp] theorem endsRun_nil : EndsRun p [] := by
  intro c hc
  cases hc

@[simp] theorem endsRun_cons : EndsRun p (c :: text) ↔ p c = false := by
  simp [EndsRun]

theorem EndsRun.of_append (h : EndsRun p (a ++ b)) : EndsRun p a := by
  cases a with
  | nil => exact endsRun_nil
  | cons c a => exact endsRun_cons.mpr (endsRun_cons.mp h)

theorem EndsRun.append (ha : EndsRun p a) (hb : a = [] → EndsRun p b) : EndsRun p (a ++ b) := by
  cases a with
  | nil => exact hb rfl
  | cons c a => exact endsRun_cons.mpr (endsRun_cons.mp ha)

theorem endsRun_dropWhile (p : Char → Bool) (text : List Char) :
    EndsRun p (text.dropWhile p) := by
  intro c hc
  have h := List.head?_dropWhile_not p text
  rw [Option.mem_def.mp hc] at h
  simpa using h

theorem EndsRun.takeWhile_eq_nil (h : EndsRun p rest) : rest.takeWhile p = [] := by
  cases rest with
  | nil => rfl
  | cons c rest => simp [endsRun_cons.mp h]

theorem EndsRun.dropWhile_eq (h : EndsRun p rest) : rest.dropWhile p = rest := by
  cases rest with
  | nil => rfl
  | cons c rest => simp [endsRun_cons.mp h]

theorem ne_of_class {d : Char} (hc : p c = true) (hd : p d = false) : c ≠ d := by
  rintro rfl
  rw [hc] at hd
  cases hd

theorem notMem_of_class (hrun : ∀ d ∈ run, p d = true) (hc : p c = false) : c ∉ run :=
  fun hmem => ne_of_class (hrun c hmem) hc rfl

/-- **The longest run** of the class `p` at the front of `text`, and the `rest` that it leaves. -/
theorem takeWhile_dropWhile_iff :
    text.takeWhile p = run ∧ text.dropWhile p = rest ↔
      run ++ rest = text ∧ (∀ c ∈ run, p c = true) ∧ EndsRun p rest := by
  constructor
  · rintro ⟨rfl, rfl⟩
    refine ⟨List.takeWhile_append_dropWhile, ?_, endsRun_dropWhile p text⟩
    exact List.all_eq_true.mp List.all_takeWhile
  · rintro ⟨rfl, hrun, hrest⟩
    rw [List.takeWhile_append_of_pos hrun, List.dropWhile_append_of_pos hrun,
      hrest.takeWhile_eq_nil, hrest.dropWhile_eq, List.append_nil]
    exact ⟨rfl, rfl⟩

/-- **A run and what ends it** can be told from the text that they make up. -/
theorem append_inj_of_endsRun (ha : ∀ c ∈ a, p c = true) (hb : ∀ c ∈ b, p c = true)
    (hrest : EndsRun p rest) (hrest' : EndsRun p rest') :
    a ++ rest = b ++ rest' ↔ a = b ∧ rest = rest' := by
  constructor
  · intro h
    obtain ⟨ha', hd⟩ := takeWhile_dropWhile_iff.mpr ⟨rfl, ha, hrest⟩
    obtain ⟨hb', hd'⟩ := takeWhile_dropWhile_iff.mpr ⟨rfl, hb, hrest'⟩
    rw [h] at ha' hd
    exact ⟨ha'.symm.trans hb', hd.symm.trans hd'⟩
  · rintro ⟨rfl, rfl⟩
    rfl

end Run

/-! ## Classes that are apart -/

section Class

variable {c : Char}

theorem isHexDigit_iff : isHexDigit c = true ↔
    ('0' ≤ c ∧ c ≤ '9') ∨ ('A' ≤ c ∧ c ≤ 'F') ∨ ('a' ≤ c ∧ c ≤ 'f') := by
  unfold isHexDigit hexDigit?
  split
  · simp [*]
  · split
    · simp [*]
    · split <;> simp [*]

/-- Blanks lie outside the printed part of ASCII, the space apart. -/
theorem toNat_of_isBlank (h : isBlank c = true) : c.toNat ≤ 32 ∨ 133 ≤ c.toNat := by
  rw [isBlank, inRanges_iff] at h
  obtain ⟨r, hr, hlo, hhi⟩ := h
  have hall : blankRanges.all (fun r => r.2.toNat ≤ 32 || 133 ≤ r.1.toNat) = true := by decide
  have hrange := List.all_eq_true.mp hall r hr
  rw [Bool.or_eq_true, decide_eq_true_eq, decide_eq_true_eq] at hrange
  rw [UInt32.le_iff_toNat_le] at hlo hhi
  have hc : c.toNat = c.val.toNat := rfl
  omega

/-- The letters and digits of ASCII lie between `'0'` and `'z'`. -/
theorem toNat_of_isAlphanum (h : c.isAlphanum = true) : 48 ≤ c.toNat ∧ c.toNat ≤ 122 := by
  change (decide ('A' ≤ c ∧ c ≤ 'Z') || (decide ('a' ≤ c) && decide (c ≤ 'z')) ||
    (decide ('0' ≤ c) && decide (c ≤ '9'))) = true at h
  simp only [Bool.or_eq_true, Bool.and_eq_true, decide_eq_true_eq, Char.le_def,
    UInt32.le_iff_toNat_le, Char.toNat_val, Char.reduceToNat] at h
  omega

theorem isHexDigit_of_isBlank (h : isBlank c = true) : isHexDigit c = false := by
  have hc := toNat_of_isBlank h
  rw [Bool.eq_false_iff]
  intro hd
  rw [isHexDigit_iff] at hd
  simp only [Char.le_def, UInt32.le_iff_toNat_le, Char.toNat_val, Char.reduceToNat] at hd
  omega

theorem isBlank_of_isHexDigit (h : isHexDigit c = true) : isBlank c = false := by
  rw [Bool.eq_false_iff]
  intro hb
  rw [isHexDigit_of_isBlank hb] at h
  cases h

theorem byteLength_of_isHexDigit {digits : List Char} (h : ∀ c ∈ digits, isHexDigit c = true) :
    byteLength digits = digits.length := by
  induction digits with
  | nil => rfl
  | cons c digits ih =>
    rw [List.forall_mem_cons] at h
    have hc : c.utf8Size = 1 := by
      have hdigit := isHexDigit_iff.mp h.1
      rw [Char.utf8Size_eq_one_iff, UInt32.le_iff_toNat_le]
      simp only [Char.le_def, UInt32.le_iff_toNat_le, Char.toNat_val, Char.reduceToNat] at hdigit
      change c.toNat ≤ 127
      omega
    rw [byteLength_cons, ih h.2, hc, List.length_cons, Nat.add_comm]

end Class

end RegisterWrites.Text
