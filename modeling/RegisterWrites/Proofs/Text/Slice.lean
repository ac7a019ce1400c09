import Mathlib.Data.List.DropRight
import RegisterWrites.Error

/-!
# Parts of a text by their offsets

Whoever cuts a part out of a text by two byte offsets has to be sure of both: there is such a part
only where the offsets are places between characters and stand in their order
(`slice?_eq_some_iff`). A place can be looked up by such cuts alone (`SyntaxError.ofSlices?`). They
come to the same as the split of the document at the place, so that only the first of them can
fail, and it fails only where there is no place (`SyntaxError.ofSlices?_eq_at?`).
-/

namespace RegisterWrites

open Text

namespace Text

variable {cs part : List Char} {start stop : Nat}

/-- The part of `cs` between the byte offsets `start` and `stop`. There is none if one of them is
past the end or inside a character, or if `stop` is in front of `start`. -/
def slice? (start stop : Nat) (cs : List Char) : Option (List Char) := do
  let (front, _) ← splitAtByte? stop cs
  let (_, part) ← splitAtByte? start front
  return part

theorem slice?_eq_some_iff : slice? start stop cs = some part ↔
    ∃ before after, before ++ (part ++ after) = cs ∧ byteLength before = start ∧
      byteLength before + byteLength part = stop := by
  simp only [slice?, Option.bind_eq_bind, Option.bind_eq_some_iff, Option.pure_def,
    Option.some.injEq, Prod.exists]
  constructor
  · rintro ⟨front, after, hfront, before, _, hpart, rfl⟩
    obtain ⟨rfl, rfl⟩ := splitAtByte?_eq_some hfront
    obtain ⟨rfl, rfl⟩ := splitAtByte?_eq_some hpart
    exact ⟨before, after, (List.append_assoc _ _ _).symm, rfl, (byteLength_append _ _).symm⟩
  · rintro ⟨before, after, rfl, rfl, rfl⟩
    rw [← byteLength_append, ← List.append_assoc]
    exact ⟨before ++ part, after, splitAtByte?_append _ _, before, part,
      splitAtByte?_append _ _, rfl⟩

/-- The letter takes up two bytes, and there is no place between them. -/
example : slice? 1 2 "é".toList = none := by decide

theorem slice?_append (before part after : List Char) :
    slice? (byteLength before) (byteLength before + byteLength part)
      (before ++ (part ++ after)) = some part :=
  slice?_eq_some_iff.mpr ⟨before, after, rfl, rfl, rfl⟩

/-- Where the last line of `cs` begins: behind the last line feed, or else at the start. -/
def lastLineStart (cs : List Char) : Nat :=
  byteLength (cs.rdropWhile (· ≠ '\n'))

/-- The `lastLine` stands between `lastLineStart` and the end of what is `before`. -/
theorem slice?_lastLineStart (before rest : List Char) :
    slice? (lastLineStart before) (byteLength before) before = some (lastLine before) ∧
      slice? (lastLineStart before) (byteLength (before ++ rest)) (before ++ rest) =
        some (lastLine before ++ rest) := by
  have hsplit : before.rdropWhile (· ≠ '\n') ++ lastLine before = before :=
    List.rdropWhile_append_rtakeWhile
  generalize hfront : before.rdropWhile (· ≠ '\n') = front at hsplit
  rw [lastLineStart, hfront]
  constructor
  · refine slice?_eq_some_iff.mpr ⟨front, [], ?_, rfl, ?_⟩
    · rw [List.append_nil, hsplit]
    · rw [← byteLength_append, hsplit]
  · refine slice?_eq_some_iff.mpr ⟨front, [], ?_, rfl, ?_⟩
    · rw [List.append_nil, ← List.append_assoc, hsplit]
    · rw [← byteLength_append, ← List.append_assoc, hsplit]

end Text

namespace SyntaxError

/-- The error at the byte `offset`, from three parts of `document`: what stands in front of the
offset, the last line of that, and all that stands from the start of this line on. There is no error
if one of them is not there. -/
def ofSlices? (document : String) (offset : Nat) (expected : Option String) :
    Option SyntaxError := do
  let before ← slice? 0 offset document.toList
  let start := lastLineStart before
  let onLine ← slice? start (byteLength before) before
  let fromLine ← slice? start document.utf8ByteSize document.toList
  return ⟨lineBreaks before + 1, onLine.length + 1, offset, String.ofList (firstLine fromLine),
    expected⟩

/-- **A place by its cuts.** Of the three cuts of `ofSlices?` only the first can fail, where `at?`
does. -/
theorem ofSlices?_eq_at? (document : String) (offset : Nat) (expected : Option String) :
    ofSlices? document offset expected = at? document offset expected := by
  unfold ofSlices? at?
  cases hsplit : splitAtByte? offset document.toList with
  | none =>
    have hbefore : slice? 0 offset document.toList = none := by
      rw [slice?, hsplit]
      rfl
    rw [hbefore]
    rfl
  | some split =>
    obtain ⟨before, rest⟩ := split
    obtain ⟨hdocument, rfl⟩ := splitAtByte?_eq_some hsplit
    rw [← byteLength_toList, ← hdocument]
    have hbefore : slice? 0 (byteLength before) (before ++ rest) = some before :=
      slice?_eq_some_iff.mpr ⟨[], rest, rfl, rfl, Nat.zero_add _⟩
    obtain ⟨honLine, hfromLine⟩ := slice?_lastLineStart before rest
    simp only [hbefore, honLine, hfromLine, Option.bind_eq_bind, Option.bind_some,
      Option.pure_def, Option.map_some]
    rfl

end SyntaxError

end RegisterWrites
