import RegisterWrites.Proofs.Reading.Result
import RegisterWrites.Proofs.Text.Line

/-!
# Where a syntax error points

The place of a syntax error lies in front of what the reader left of the text. Hence the text
is readable up to the place, the error is that of what follows it, and no readable part of the
text that ends with a blank reaches beyond it (`place_of_parse_eq_error`). The longest readable
part need not end there: of `Size: 1, Offset: 2, Data: 0x` all but the last character is
readable, and yet the place is in front of the instruction.
-/

namespace RegisterWrites.Document

open Text

variable {dialect : Dialect} {text : String} {place : SyntaxError}

/-- The `place` of a syntax error lies in front of what the reader left. -/
theorem exists_left_of_parse_eq_error
    (h : (parse text dialect).result = .error (.unreadable place)) :
    ∃ before c after, before ++ c :: after = text.toList ∧
      left dialect text.toList = c :: after ∧
      place = SyntaxError.between before (c :: after)
        ((failedField? (c :: after)).map Field.clauseName) := by
  have hne : left dialect text.toList ≠ [] := fun hnil => isReadable_iff.mpr hnil place h
  have hchars := chars_of_readPieces dialect text.toList
  rw [result_parse_of_left_ne_nil hne hchars] at h
  obtain ⟨c, after, hleft⟩ := List.exists_cons_of_ne_nil hne
  rw [hleft] at h hchars
  cases h
  exact ⟨_, c, after, hchars, hleft, rfl⟩

/-- A readable part `a` of a text that ends with a blank was read before the reader stopped. -/
theorem byteLength_le_of_readable {a b before rest : List Char}
    (hrest : left dialect (a ++ b) = rest) (hbefore : before ++ rest = a ++ b)
    (ha : left dialect a = []) (hblank : ∀ c ∈ a.getLast?, isBlank c = true) :
    byteLength a ≤ byteLength before := by
  have hleft : left dialect b = rest := by
    rw [← (readPieces_append ha (.inl hblank)).1, hrest]
  have hb := congrArg byteLength (chars_of_readPieces dialect b)
  have hab := congrArg byteLength hbefore
  rw [hleft] at hb
  simp only [byteLength_append] at hb hab
  omega

/-- What the reader leaves of a text is refused in front of its first character. -/
theorem exists_parse_ofList_eq_error {rest : List Char} (hrest : left dialect rest = rest)
    (hne : rest ≠ []) : ∃ place : SyntaxError,
      (parse (String.ofList rest) dialect).result = .error (.unreadable place) ∧
        place.offset = 0 ∧ place.expected = (failedField? rest).map Field.clauseName := by
  have hleft : left dialect (String.ofList rest).toList = rest := by
    rw [String.toList_ofList, hrest]
  have hall : [] ++ left dialect (String.ofList rest).toList = (String.ofList rest).toList := by
    rw [hleft, String.toList_ofList, List.nil_append]
  refine ⟨_, result_parse_of_left_ne_nil (by rwa [hleft]) hall, rfl, ?_⟩
  rw [hleft]
  rfl

/-- A character `c` that is no blank stands on the line of its place, in the column of its place. -/
theorem getElem?_text_between {c : Char} (hc : isBlank c = false) (before after : List Char)
    (expected : Option String) :
    (SyntaxError.between before (c :: after) expected).text.toList[
      (SyntaxError.between before (c :: after) expected).column - 1]? = some c := by
  have hf : c ≠ '\n' := by
    rintro rfl
    exact absurd hc (by decide)
  have hr : c ≠ '\r' := by
    rintro rfl
    exact absurd hc (by decide)
  simp only [SyntaxError.between, String.toList_ofList, Nat.add_sub_cancel]
  exact getElem?_lineAround hf hr before after

/-- **The place of a syntax error** lies between two characters of `text`. The part `before` it is
readable; the `rest` is not, for the same reason; every readable part of the text that is empty or
ends with a blank ends before the place or at it. What stands behind it is no blank, and it stands
on the line of the error in the column of the error. -/
theorem place_of_parse_eq_error
    (h : (parse text dialect).result = .error (.unreadable place)) :
    place.offset < text.utf8ByteSize ∧
    ∃ (before rest : String) (c : Char), text = before ++ rest ∧
      before.utf8ByteSize = place.offset ∧ rest.toList.head? = some c ∧
      IsReadable dialect before ∧
      (∃ place', (parse rest dialect).result = .error (.unreadable place') ∧
        place'.offset = 0 ∧ place'.expected = place.expected) ∧
      (∀ a b : String, text = a ++ b → (∀ d ∈ a.toList.getLast?, isBlank d = true) →
        IsReadable dialect a → a.utf8ByteSize ≤ place.offset) ∧
      isBlank c = false ∧
      0 < place.column ∧ place.text.toList[place.column - 1]? = some c := by
  obtain ⟨before, c, after, htext, hleft, rfl⟩ := exists_left_of_parse_eq_error h
  have hblank : isBlank c = false := by
    have := endsRun_left dialect text.toList
    rwa [hleft, endsRun_cons] at this
  have hstuck : left dialect (c :: after) = c :: after := by
    rw [← hleft, left_left]
  have hread : left dialect before = [] := by
    have happ : before ++ left dialect text.toList = text.toList := by rw [hleft, htext]
    rw [left, readPieces_of_append_left happ]
  refine ⟨?_, String.ofList before, String.ofList (c :: after), c, ?_, ?_, ?_, ?_, ?_, ?_,
    hblank, Nat.succ_pos _, ?_⟩
  · have hpos := c.utf8Size_pos
    rw [← byteLength_toList, ← htext, byteLength_append, byteLength_cons]
    simp only [SyntaxError.between]
    omega
  · rw [← String.ofList_append, htext, String.ofList_toList]
  · rw [← byteLength_toList, String.toList_ofList]
    rfl
  · rw [String.toList_ofList]
    rfl
  · rw [isReadable_iff, String.toList_ofList, hread]
  · exact exists_parse_ofList_eq_error hstuck (List.cons_ne_nil _ _)
  · intro a b hab hlast hreadable
    rw [hab, String.toList_append] at htext hleft
    rw [← byteLength_toList]
    exact byteLength_le_of_readable hleft htext (isReadable_iff.mp hreadable) hlast
  · exact getElem?_text_between hblank before after _

/-- An unfinished mark spoils the whole instruction. The place is in front of it, though the
text is readable up to the last character. -/
theorem place_of_parse_eq_error_mark :
    (parse "\u00a0\r\nSize:1,Offset:2,Data:0x" .bare).result =
        .error (.unreadable ⟨2, 1, 4, "Size:1,Offset:2,Data:0x", some "data clause"⟩) ∧
      4 < "\u00a0\r\nSize:1,Offset:2,Data:0x".utf8ByteSize ∧
      ∀ a b : String, "\u00a0\r\nSize:1,Offset:2,Data:0x" = a ++ b →
        (∀ d ∈ a.toList.getLast?, isBlank d = true) → IsReadable .bare a →
        a.utf8ByteSize ≤ 4 := by
  have h : (parse "\u00a0\r\nSize:1,Offset:2,Data:0x" .bare).result =
      .error (.unreadable ⟨2, 1, 4, "Size:1,Offset:2,Data:0x", some "data clause"⟩) := by
    with_unfolding_all rfl
  obtain ⟨hlt, -, -, -, -, -, -, -, -, hprefix, -⟩ := place_of_parse_eq_error h
  exact ⟨h, hlt, hprefix⟩

end RegisterWrites.Document
