import Mathlib.Data.List.Induction
import Mathlib.Data.Nat.Digits.Defs
import RegisterWrites.Proofs.Reading.Parts

/-!
# Numbers of literals

The text of a literal is not checked, so that it may denote no number. It does if digits stand
behind the mark, with one plus sign at most in front of them, and the number is that of all
digits (`Denotes`). To read it, 32 bits are enough: the number grows with every digit, so that
a step overflows only on the way to a number that does not fit (`pushDigits?_eq_some_iff`).
The main statement is `toUInt32?_denotes`.
-/

namespace RegisterWrites

open Text

namespace Text

variable {c : Char} {ds : List Char} {n v : UInt32} {k : Nat}

/-! ## The number of digits -/

theorem hexNumber_concat (ds : List Char) (c : Char) :
    hexNumber (ds ++ [c]) = 16 * hexNumber ds + hexValue c := by
  rw [hexNumber, List.foldl_append]
  rfl

theorem ofDigits_reverse_hexValue (ds : List Char) :
    Nat.ofDigits 16 (ds.reverse.map hexValue) = hexNumber ds := by
  induction ds using List.reverseRecOn with
  | nil => rfl
  | append_singleton ds c ih =>
    rw [List.reverse_append, List.reverse_singleton, List.singleton_append, List.map_cons,
      Nat.ofDigits_cons, ih, hexNumber_concat, Nat.add_comm]

/-! ## Digit by digit -/

/-- The number `k`, if 32 bits are enough for it. -/
def fit? (k : Nat) : Option UInt32 :=
  if k < UInt32.size then some (UInt32.ofNat k) else none

theorem fit?_eq_some_iff : fit? k = some v ↔ k = v.toNat := by
  rw [fit?, Option.ite_none_right_eq_some, Option.some.injEq]
  constructor
  · rintro ⟨hk, rfl⟩
    exact (UInt32.toNat_ofNat_of_lt' hk).symm
  · rintro rfl
    exact ⟨v.toNat_lt, UInt32.ofNat_toNat⟩

/-- The number `n` with the digit `c` behind it, if neither the product nor the sum overflows. -/
def pushDigit? (n : UInt32) (c : Char) : Option UInt32 := do
  let shifted ← fit? (n.toNat * 16)
  let d ← hexDigit? c
  fit? (shifted.toNat + d)

/-- Up to a number of 32 bits, every number is one. -/
theorem exists_toNat_eq (h : k ≤ v.toNat) : ∃ n : UInt32, k = n.toNat :=
  ⟨UInt32.ofNat k, (UInt32.toNat_ofNat_of_lt' (Nat.lt_of_le_of_lt h v.toNat_lt)).symm⟩

theorem pushDigit?_eq_some_iff : pushDigit? n c = some v ↔
    isHexDigit c = true ∧ 16 * n.toNat + hexValue c = v.toNat := by
  simp only [pushDigit?, Option.bind_eq_bind, Option.bind_eq_some_iff, fit?_eq_some_iff,
    isHexDigit, Option.isSome_iff_exists]
  constructor
  · rintro ⟨shifted, hshifted, d, hd, hsum⟩
    refine ⟨⟨d, hd⟩, ?_⟩
    rw [hexValue, hd, Option.getD_some]
    omega
  · rintro ⟨⟨d, hd⟩, hsum⟩
    rw [hexValue, hd, Option.getD_some] at hsum
    have hle : n.toNat * 16 ≤ v.toNat := by omega
    obtain ⟨shifted, hshifted⟩ := exists_toNat_eq hle
    refine ⟨shifted, hshifted, d, hd, ?_⟩
    omega

/-- The number of the digits `ds`, read one after another. -/
def pushDigits? (ds : List Char) : Option UInt32 :=
  ds.foldlM pushDigit? 0

theorem pushDigits?_concat (ds : List Char) (c : Char) :
    pushDigits? (ds ++ [c]) = (pushDigits? ds).bind fun n => pushDigit? n c := by
  simp [pushDigits?]

/-- **Digits are read in 32 bits** exactly if they are digits whose number fits. -/
theorem pushDigits?_eq_some_iff : pushDigits? ds = some v ↔
    (∀ c ∈ ds, isHexDigit c = true) ∧ hexNumber ds = v.toNat := by
  induction ds using List.reverseRecOn generalizing v with
  | nil =>
    have hzero : pushDigits? [] = fit? (hexNumber []) := rfl
    rw [hzero, fit?_eq_some_iff]
    exact (and_iff_right (List.forall_mem_nil _)).symm
  | append_singleton ds c ih =>
    simp only [pushDigits?_concat, Option.bind_eq_some_iff, ih, pushDigit?_eq_some_iff,
      hexNumber_concat, List.forall_mem_append, List.forall_mem_singleton]
    constructor
    · rintro ⟨n, ⟨hds, hn⟩, hc, hv⟩
      rw [hn]
      exact ⟨⟨hds, hc⟩, hv⟩
    · rintro ⟨⟨hds, hc⟩, hv⟩
      -- the number in front of the last digit is no greater, and fits as well
      have hle : hexNumber ds ≤ v.toNat := by omega
      obtain ⟨n, hn⟩ := exists_toNat_eq hle
      rw [hn] at hv
      exact ⟨n, ⟨hds, hn⟩, hc, hv⟩

end Text

namespace HexLiteral

variable {l : HexLiteral} {digits : List Char} {v : UInt32} {n : Nat}

/-! ## What a literal denotes -/

/-- The text of `l` is digits behind a mark and a plus sign, both of which may be missing, and `n`
is the number of the digits, the last of which counts least. -/
def Denotes (l : HexLiteral) (n : Nat) : Prop :=
  ∃ mark ∈ marks, ∃ sign ∈ [[], ['+']], ∃ digits, l.text.toList = mark ++ (sign ++ digits) ∧
    digits ≠ [] ∧ (∀ c ∈ digits, isHexDigit c = true) ∧
    Nat.ofDigits 16 (digits.reverse.map hexValue) = n

theorem dropPlus_of_isHexDigit (h : ∀ c ∈ digits, isHexDigit c = true) :
    dropPlus digits = digits := by
  unfold dropPlus
  split
  · exact absurd (h '+' List.mem_cons_self) (by decide)
  · rfl

theorem exists_sign (digits : List Char) :
    ∃ sign ∈ [[], ['+']], digits = sign ++ dropPlus digits := by
  unfold dropPlus
  split
  · next rest => exact ⟨['+'], by simp, rfl⟩
  · exact ⟨[], by simp, rfl⟩

theorem splitMark_append_sign {mark sign : List Char} (hmark : mark ∈ marks)
    (hsign : sign ∈ [[], ['+']]) (hne : digits ≠ [])
    (hdigits : ∀ c ∈ digits, isHexDigit c = true) :
    splitMark (mark ++ (sign ++ digits)) = (mark, sign ++ digits) := by
  rw [List.mem_cons, List.mem_singleton] at hsign
  rcases hsign with rfl | rfl
  · have h := splitMark_append_digits hmark hne hdigits fun _ => endsRun_nil
    rwa [List.append_nil] at h
  · rcases mem_marks_iff.mp hmark with rfl | rfl | rfl <;> rfl

/-- What `l` denotes is read from the digits behind the sign alone. -/
theorem denotes_iff : l.Denotes n ↔ dropPlus l.digits ≠ [] ∧
    (∀ c ∈ dropPlus l.digits, isHexDigit c = true) ∧ hexNumber (dropPlus l.digits) = n := by
  constructor
  · rintro ⟨mark, hmark, sign, hsign, digits, htext, hne, hdigits, hn⟩
    have hsplit := splitMark_append_sign hmark hsign hne hdigits
    have hdrop : dropPlus l.digits = digits := by
      rw [HexLiteral.digits, htext, hsplit]
      rw [List.mem_cons, List.mem_singleton] at hsign
      rcases hsign with rfl | rfl
      · exact dropPlus_of_isHexDigit hdigits
      · rfl
    rw [ofDigits_reverse_hexValue] at hn
    rw [hdrop]
    exact ⟨hne, hdigits, hn⟩
  · rintro ⟨hne, hdigits, hn⟩
    obtain ⟨sign, hsign, hdrop⟩ := exists_sign l.digits
    have hsplit := splitMark_append l.text.toList
    have hmark := splitMark_mem_marks l.text.toList
    refine ⟨_, hmark, sign, hsign, dropPlus l.digits, ?_, hne, hdigits, ?_⟩
    · rw [← hdrop]
      exact hsplit.symm
    · rw [ofDigits_reverse_hexValue, hn]

theorem toUInt32?_eq_some_iff : l.toUInt32? = some v ↔ l.Denotes v.toNat := by
  rw [denotes_iff, toUInt32?, Option.ite_none_right_eq_some, Option.some.injEq, List.all_eq_true]
  constructor
  · rintro ⟨⟨hne, hdigits, hlt⟩, rfl⟩
    exact ⟨hne, hdigits, (UInt32.toNat_ofNat_of_lt' hlt).symm⟩
  · rintro ⟨hne, hdigits, hn⟩
    rw [hn]
    exact ⟨⟨hne, hdigits, v.toNat_lt⟩, UInt32.ofNat_toNat⟩

theorem toUInt32?_eq_pushDigits? (l : HexLiteral) : l.toUInt32? =
    if dropPlus l.digits = [] then none else pushDigits? (dropPlus l.digits) := by
  apply Option.ext
  intro v
  rw [toUInt32?_eq_some_iff, denotes_iff]
  by_cases hne : dropPlus l.digits = []
  · rw [if_pos hne]
    exact iff_of_false (fun h => h.1 hne) nofun
  · rw [if_neg hne, pushDigits?_eq_some_iff]
    exact and_iff_right hne

/-! ## Literals under the plain mark -/

theorem digits_marked (l : HexLiteral) : (HexLiteral.mk l.marked).digits = l.digits := by
  have htext : l.marked.toList = '0' :: 'x' :: l.digits := by
    rw [marked, String.toList_append, String.toList_ofList, String.toList_ofList]
    rfl
  rw [digits, htext]
  rfl

/-- **The number of a literal** of any text is read if `l` denotes one that fits in 32 bits, and
then it is that; else there is none. It is the same as if the digits were read one after another in
32 bits (`pushDigits?`). Under the plain mark (`marked`) a literal keeps its digits, and thereby its
number. -/
theorem toUInt32?_denotes (l : HexLiteral) :
    (∀ v, l.toUInt32? = some v ↔ l.Denotes v.toNat) ∧
    (l.toUInt32? = none ↔ ∀ n, l.Denotes n → 2 ^ 32 ≤ n) ∧
    (l.toUInt32? = if dropPlus l.digits = [] then none else pushDigits? (dropPlus l.digits)) ∧
    (HexLiteral.mk l.marked).digits = l.digits ∧
    (HexLiteral.mk l.marked).digitCount = l.digitCount ∧
    (HexLiteral.mk l.marked).toUInt32? = l.toUInt32? ∧
    (HexLiteral.mk l.marked).marked = l.marked := by
  have hdigits := digits_marked l
  refine ⟨fun v => toUInt32?_eq_some_iff, ?_, toUInt32?_eq_pushDigits? l, hdigits, ?_, ?_, ?_⟩
  · rw [Option.eq_none_iff_forall_ne_some]
    constructor
    · intro hnone n hn
      apply Nat.le_of_not_lt
      intro hlt
      have hfit : n = (UInt32.ofNat n).toNat := (UInt32.toNat_ofNat_of_lt' hlt).symm
      rw [hfit] at hn
      exact hnone _ (toUInt32?_eq_some_iff.mpr hn)
    · intro hbig v hv
      have hle := hbig v.toNat (toUInt32?_eq_some_iff.mp hv)
      exact Nat.not_lt.mpr hle v.toNat_lt
  · rw [digitCount, hdigits, digitCount]
  · rw [toUInt32?_eq_pushDigits?, hdigits, ← toUInt32?_eq_pushDigits?]
  · rw [marked, hdigits, marked]

end HexLiteral

end RegisterWrites
