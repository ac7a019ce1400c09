/-!
# Characters

Sets of characters, given by ranges of code points (`inRanges`), and the two of them on which
the reading of a document rests: blank characters (`isBlank`) and hexadecimal digits
(`isHexDigit`), with the numbers that lists of digits denote (`hexNumber`).
-/

namespace RegisterWrites.Text

/-! ## Ranges -/

/-- Whether `c` lies in one of `ranges`, both ends of which belong to it. -/
def inRanges (ranges : List (UInt32 × UInt32)) (c : Char) : Bool :=
  ranges.any fun (first, last) => first ≤ c.val && c.val ≤ last

theorem inRanges_iff {ranges : List (UInt32 × UInt32)} {c : Char} :
    inRanges ranges c = true ↔ ∃ r ∈ ranges, r.1 ≤ c.val ∧ c.val ≤ r.2 := by
  simp [inRanges]

/-! ## Blank characters -/

def blankRanges : List (UInt32 × UInt32) :=
  [(0x09, 0x0D), (0x1C, 0x20), (0x85, 0x85), (0xA0, 0xA0), (0x1680, 0x1680), (0x2000, 0x200A),
    (0x2028, 0x2029), (0x202F, 0x202F), (0x205F, 0x205F), (0x3000, 0x3000)]

def isBlank (c : Char) : Bool := inRanges blankRanges c

/-! ## Hexadecimal digits -/

/-- The value of `c` as an ASCII hexadecimal digit of either case. -/
def hexDigit? (c : Char) : Option Nat :=
  if '0' ≤ c ∧ c ≤ '9' then some (c.toNat - 48)
  else if 'A' ≤ c ∧ c ≤ 'F' then some (c.toNat - 55)
  else if 'a' ≤ c ∧ c ≤ 'f' then some (c.toNat - 87)
  else none

def isHexDigit (c : Char) : Bool := (hexDigit? c).isSome

/-- The value of `c` in a number to base 16; what is no digit counts as zero. -/
def hexValue (c : Char) : Nat := (hexDigit? c).getD 0

/-- The number that `digits` denote to base 16, the most significant first. -/
def hexNumber (digits : List Char) : Nat :=
  digits.foldl (fun n c => 16 * n + hexValue c) 0

theorem hexValue_lt (c : Char) : hexValue c < 16 := by
  unfold hexValue hexDigit?
  -- in each range, the last digit bounds the value
  split
  · next h =>
    have hlast : c.toNat ≤ 57 := h.2
    simp only [Option.getD_some]
    omega
  · split
    · next h =>
      have hlast : c.toNat ≤ 70 := h.2
      simp only [Option.getD_some]
      omega
    · split
      · next h =>
        have hlast : c.toNat ≤ 102 := h.2
        simp only [Option.getD_some]
        omega
      · simp only [Option.getD_none, Nat.zero_lt_succ]

end RegisterWrites.Text
