import Mathlib.Data.List.TakeWhile
import RegisterWrites.Error
import RegisterWrites.Proofs.Text.Line

/-!
# Lines and columns

A place in a text is given twice: by its offset in bytes, and by a line and a column. Both say
the same. Cut at its line feeds, a text falls into pieces; a place lies in exactly one of them
(`Locates.line_eq_iff`), and the number of the piece with the number of its characters in front
of the place (`Locates`) determines the offset and is ordered as the offsets are
(`Locates.offset_unique`, `Locates.lex`). The main statement is `SyntaxError.at?_locates`.
-/

namespace RegisterWrites

open Text

namespace Text

variable {a b cs before rest : List Char} {offset : Nat}

/-! ## Places between characters -/

/-- The `offset` falls between the bytes of a character of `cs`. -/
def InsideCharacter (offset : Nat) (cs : List Char) : Prop :=
  ∃ before c after, before ++ c :: after = cs ∧ byteLength before < offset ∧
    offset < byteLength before + c.utf8Size

theorem InsideCharacter.cons {c : Char} (h : InsideCharacter offset cs) :
    InsideCharacter (c.utf8Size + offset) (c :: cs) := by
  obtain ⟨before, d, after, rfl, hlow, hhigh⟩ := h
  refine ⟨c :: before, d, after, rfl, ?_, ?_⟩
  · rw [byteLength_cons]
    omega
  · rw [byteLength_cons]
    omega

theorem not_insideCharacter (before rest : List Char) :
    ¬ InsideCharacter (byteLength before) (before ++ rest) := by
  rintro ⟨front, c, after, htext, hlow, hhigh⟩
  -- the place lies in front of the character or behind it, whichever text is the longer
  rcases List.append_eq_append_iff.mp htext with ⟨part, rfl, hpart⟩ | ⟨part, rfl, -⟩
  · cases part with
    | nil =>
      rw [List.append_nil] at hlow
      exact Nat.lt_irrefl _ hlow
    | cons d part =>
      obtain ⟨rfl, -⟩ := List.cons.inj hpart
      rw [byteLength_append, byteLength_cons] at hhigh
      omega
  · rw [byteLength_append] at hlow
    omega

/-- There is no place at an `offset` past the end or inside a character, and only there. -/
theorem splitAtByte?_eq_none_iff :
    splitAtByte? offset cs = none ↔ byteLength cs < offset ∨ InsideCharacter offset cs := by
  constructor
  · intro h
    fun_induction splitAtByte? offset cs with
    | case1 cs => cases h
    | case2 n => exact .inl (Nat.succ_pos n)
    | case3 n c cs hc ih =>
      have hsize : c.utf8Size + (n + 1 - c.utf8Size) = n + 1 := Nat.add_sub_cancel' hc
      rcases ih (Option.map_eq_none_iff.mp h) with hpast | hinside
      · rw [byteLength_cons]
        exact .inl (by omega)
      · have hcons := hinside.cons (c := c)
        rw [hsize] at hcons
        exact .inr hcons
    | case4 n c cs hc =>
      exact .inr ⟨[], c, cs, rfl, Nat.succ_pos n, by simpa using hc⟩
  · intro h
    cases hsplit : splitAtByte? offset cs with
    | none => rfl
    | some split =>
      obtain ⟨before, rest⟩ := split
      obtain ⟨rfl, rfl⟩ := splitAtByte?_eq_some hsplit
      rcases h with hpast | hinside
      · rw [byteLength_append] at hpast
        omega
      · exact absurd hinside (not_insideCharacter before rest)

/-! ## The last line of what stands before a place -/

theorem lastLine_append_of_notMem (h : '\n' ∉ b) (a : List Char) :
    lastLine (a ++ b) = lastLine a ++ b := by
  have hreverse : '\n' ∉ b.reverse := fun hmem => h (List.mem_reverse.mp hmem)
  rw [lastLine, lastLine, List.reverse_append,
    List.takeWhile_append_of_pos (ne_lineFeed_of_notMem hreverse), List.reverse_append,
    List.reverse_reverse]

theorem lastLine_of_notMem (h : '\n' ∉ cs) : lastLine cs = cs :=
  lastLine_append_of_notMem h []

theorem exists_append_lastLine (h : '\n' ∈ cs) : ∃ front, front ++ '\n' :: lastLine cs = cs := by
  obtain ⟨after, front, hreverse, hafter⟩ :=
    List.eq_append_cons_of_mem (List.mem_reverse.mpr h)
  have hcs : front.reverse ++ ['\n'] ++ after.reverse = cs := by
    rw [← List.reverse_reverse cs, hreverse]
    simp
  have hlast : '\n' ∉ after.reverse := fun hmem => hafter (List.mem_reverse.mp hmem)
  refine ⟨front.reverse, ?_⟩
  rw [← hcs, lastLine_append (.inr (by simp)), lastLine_of_notMem hlast, List.append_cons]

/-! ## Pieces between line feeds -/

theorem length_splitOn (cs : List Char) : (cs.splitOn '\n').length = lineBreaks cs + 1 := by
  induction cs with
  | nil => rfl
  | cons c cs ih =>
    rw [List.splitOn_cons_eq_if_modifyHead]
    by_cases hc : c = '\n'
    · subst hc
      simp [ih, lineBreaks]
    · simp [ih, lineBreaks, hc]

/-- The pieces of `cs`, each with a line feed behind it, are `cs` and one line feed. -/
theorem flatMap_splitOn (cs : List Char) :
    (cs.splitOn '\n').flatMap (· ++ ['\n']) = cs ++ ['\n'] := by
  induction cs with
  | nil => rfl
  | cons c cs ih =>
    rw [List.splitOn_cons_eq_if_modifyHead]
    by_cases hc : c = '\n'
    · subst hc
      simp [ih]
    · obtain ⟨piece, pieces, hpieces⟩ := List.exists_cons_of_ne_nil (List.splitOn_ne_nil '\n' cs)
      rw [hpieces, List.flatMap_cons] at ih
      simp [hc, hpieces, ← ih]

/-- Where the piece with the number `k`, from 0, begins: behind the pieces in front of it and their
line feeds. -/
def pieceStart (pieces : List (List Char)) (k : Nat) : Nat :=
  byteLength ((pieces.take k).flatMap (· ++ ['\n']))

theorem pieceStart_succ {pieces : List (List Char)} {piece : List Char} {k : Nat}
    (h : pieces[k]? = some piece) :
    pieceStart pieces (k + 1) = pieceStart pieces k + byteLength piece + 1 := by
  have hfeed : byteLength ['\n'] = 1 := rfl
  rw [pieceStart, pieceStart, List.take_add_one, h, List.flatMap_append, byteLength_append,
    Option.toList_some, List.flatMap_singleton, byteLength_append, hfeed, Nat.add_assoc]

theorem pieceStart_mono (pieces : List (List Char)) {j k : Nat} (h : j ≤ k) :
    pieceStart pieces j ≤ pieceStart pieces k := by
  obtain ⟨n, rfl⟩ := Nat.exists_eq_add_of_le h
  rw [pieceStart, pieceStart, List.take_add, List.flatMap_append, byteLength_append]
  exact Nat.le_add_right _ _

/-- The pieces that end in `before` are as many as its line feeds, and take up all of it but its
last line. -/
theorem splitOn_lastLine (before rest : List Char) : ∃ front : List (List Char),
    (before ++ rest).splitOn '\n' = front ++ (lastLine before ++ rest).splitOn '\n' ∧
      front.length = lineBreaks before ∧
      byteLength (front.flatMap (· ++ ['\n'])) + byteLength (lastLine before) =
        byteLength before := by
  by_cases h : '\n' ∈ before
  · obtain ⟨front, hfront⟩ := exists_append_lastLine h
    refine ⟨front.splitOn '\n', ?_, ?_, ?_⟩
    · rw [← List.splitOn_append_cons_self, ← List.cons_append, ← List.append_assoc, hfront]
    · have hbreaks := congrArg lineBreaks hfront
      have hnone : lineBreaks (lastLine before) = 0 :=
        List.count_eq_zero.mpr (notMem_lastLine before)
      rw [List.append_cons, lineBreaks_append, lineBreaks_append, hnone] at hbreaks
      rw [length_splitOn, ← hbreaks]
      rfl
    · rw [flatMap_splitOn, ← byteLength_append, ← List.append_cons, hfront]
  · refine ⟨[], ?_, ?_, ?_⟩
    · rw [lastLine_of_notMem h]
      rfl
    · rw [lineBreaks, List.count_eq_zero.mpr h]
      rfl
    · rw [lastLine_of_notMem h]
      simp

theorem takeWhile_of_notMem (h : '\n' ∉ cs) : cs.takeWhile (· ≠ '\n') = cs :=
  List.takeWhile_eq_self_iff.mpr (ne_lineFeed_of_notMem h)

/-- The first piece of `cs`; there are more if a line feed ends it. -/
theorem splitOn_eq_cons (cs : List Char) : ∃ more,
    cs.splitOn '\n' = cs.takeWhile (· ≠ '\n') :: more ∧ ('\n' ∈ cs ↔ more ≠ []) := by
  by_cases h : '\n' ∈ cs
  · obtain ⟨piece, rest, rfl, hpiece⟩ := List.eq_append_cons_of_mem h
    refine ⟨rest.splitOn '\n', ?_, iff_of_true h (List.splitOn_ne_nil _ _)⟩
    rw [List.splitOn_append_cons_self_of_not_mem hpiece, takeWhile_append_lineFeed,
      takeWhile_of_notMem hpiece]
  · refine ⟨[], ?_, iff_of_false h fun hne => hne rfl⟩
    rw [List.splitOn_eq_singleton h, takeWhile_of_notMem h]

/-- The piece with the place between `before` and `rest`: what stands on its line. -/
def pieceAround (before rest : List Char) : List Char :=
  lastLine before ++ rest.takeWhile (· ≠ '\n')

theorem takeWhile_lastLine_append (before rest : List Char) :
    (lastLine before ++ rest).takeWhile (· ≠ '\n') = pieceAround before rest :=
  List.takeWhile_append_of_pos (ne_lineFeed_of_notMem (notMem_lastLine before))

theorem mem_lastLine_append_iff (before rest : List Char) :
    '\n' ∈ lastLine before ++ rest ↔ '\n' ∈ rest := by
  rw [List.mem_append, or_iff_right (notMem_lastLine before)]

theorem notMem_pieceAround (before rest : List Char) : '\n' ∉ pieceAround before rest := by
  intro h
  rw [← takeWhile_lastLine_append] at h
  simpa using List.all_eq_true.mp List.all_takeWhile _ h

/-- **The pieces of a text around a place.** As many end in `before` as there are line feeds in it;
then comes the `pieceAround` the place, and it is the last if no line feed follows. -/
theorem splitOn_place (before rest : List Char) : ∃ front more,
    (before ++ rest).splitOn '\n' = front ++ pieceAround before rest :: more ∧
      front.length = lineBreaks before ∧
      byteLength (front.flatMap (· ++ ['\n'])) + byteLength (lastLine before) =
        byteLength before ∧
      ('\n' ∈ rest ↔ more ≠ []) := by
  obtain ⟨front, hsplit, hlength, hbytes⟩ := splitOn_lastLine before rest
  obtain ⟨more, hmore, hended⟩ := splitOn_eq_cons (lastLine before ++ rest)
  rw [takeWhile_lastLine_append] at hmore
  rw [mem_lastLine_append_iff] at hended
  exact ⟨front, more, by rw [hsplit, hmore], hlength, hbytes, hended⟩

/-- The `lineAround` a place is the piece with it, without the carriage return in front of its line
feed. -/
theorem lineAround_eq (before rest : List Char) : lineAround before rest =
    if '\n' ∈ rest ∧ (pieceAround before rest).getLast? = some '\r' then
      (pieceAround before rest).dropLast
    else pieceAround before rest := by
  simp only [lineAround, firstLine, dropCarriageReturn, takeWhile_lastLine_append,
    mem_lastLine_append_iff]
  by_cases h : '\n' ∈ rest
  · simp only [h, if_true, true_and]
  · simp only [h, if_false, false_and]

/-! ## Lines and columns -/

/-- The `offset` lies in a text that is cut into `pieces` at its line feeds, by `line` and `column`,
both from 1: the line is the number of the `piece`, and the offset is behind as many of its
characters as the column says. -/
structure Locates (pieces : List (List Char)) (line column : Nat) (piece : List Char)
    (offset : Nat) : Prop where
  line_pos : 0 < line
  column_pos : 0 < column
  piece_eq : pieces[line - 1]? = some piece
  column_le : column - 1 ≤ piece.length
  offset_eq : offset = pieceStart pieces (line - 1) + byteLength (piece.take (column - 1))

section Locates

variable {pieces : List (List Char)} {piece piece' : List Char}
  {line line' column column' offset' j k : Nat}

theorem byteLength_take_le (piece : List Char) {m n : Nat} (h : m ≤ n) :
    byteLength (piece.take m) ≤ byteLength (piece.take n) := by
  obtain ⟨d, rfl⟩ := Nat.exists_eq_add_of_le h
  rw [List.take_add, byteLength_append]
  exact Nat.le_add_right _ _

theorem Locates.le (h : Locates pieces line column piece offset) :
    pieceStart pieces (line - 1) ≤ offset ∧
      offset ≤ pieceStart pieces (line - 1) + byteLength piece := by
  have htake := byteLength_take_le piece h.column_le
  rw [List.take_length] at htake
  have := h.offset_eq
  omega

theorem pieceStart_lt (hj : pieces[j]? = some piece) (h : j < k) :
    pieceStart pieces j + byteLength piece < pieceStart pieces k := by
  have hmono := pieceStart_mono pieces (Nat.succ_le_of_lt h)
  rw [pieceStart_succ hj] at hmono
  omega

/-- No other piece than that of `line` has the `offset`. -/
theorem Locates.line_eq_iff (h : Locates pieces line column piece offset)
    (hk : pieces[k]? = some piece') : k + 1 = line ↔
      pieceStart pieces k ≤ offset ∧ offset ≤ pieceStart pieces k + byteLength piece' := by
  have hpos := h.line_pos
  have hle := h.le
  constructor
  · rintro rfl
    rw [Nat.add_sub_cancel] at hle
    obtain rfl : piece' = piece := Option.some.inj (hk.symm.trans h.piece_eq)
    exact hle
  · rintro ⟨hlow, hhigh⟩
    -- another piece with the offset would end before this one begins, or begin behind its end
    rcases Nat.lt_trichotomy k (line - 1) with hlt | heq | hlt
    · have := pieceStart_lt hk hlt
      omega
    · omega
    · have := pieceStart_lt h.piece_eq hlt
      omega

theorem Locates.offset_unique (h : Locates pieces line column piece offset)
    (h' : Locates pieces line column piece' offset') : offset = offset' := by
  have hpiece : piece = piece' := Option.some.inj (h.piece_eq.symm.trans h'.piece_eq)
  rw [h.offset_eq, h'.offset_eq, hpiece]

/-- Offsets ascend with the line, and on one line with the column. -/
theorem Locates.lex (h : Locates pieces line column piece offset)
    (h' : Locates pieces line' column' piece' offset') (hlt : offset < offset') :
    line < line' ∨ line = line' ∧ column < column' := by
  have hpos := h.line_pos
  have hpos' := h'.line_pos
  have hle := h.le
  have hle' := h'.le
  rcases Nat.lt_trichotomy line line' with hline | rfl | hline
  · exact .inl hline
  · obtain rfl : piece = piece' := Option.some.inj (h.piece_eq.symm.trans h'.piece_eq)
    refine .inr ⟨rfl, Nat.lt_of_not_le fun hcolumn => ?_⟩
    have htake := byteLength_take_le piece (Nat.sub_le_sub_right hcolumn 1)
    have := h.offset_eq
    have := h'.offset_eq
    omega
  · have := pieceStart_lt h'.piece_eq (k := line - 1) (by omega)
    omega

end Locates

end Text

namespace SyntaxError

variable {document : String} {offset : Nat} {expected : Option String} {e : SyntaxError}

theorem at?_eq_some_iff : at? document offset expected = some e ↔
    ∃ before rest, before ++ rest = document.toList ∧ byteLength before = offset ∧
      e = between before rest expected := by
  rw [at?, Option.map_eq_some_iff]
  constructor
  · rintro ⟨⟨before, rest⟩, hsplit, rfl⟩
    obtain ⟨htext, hoffset⟩ := splitAtByte?_eq_some hsplit
    exact ⟨before, rest, htext, hoffset, rfl⟩
  · rintro ⟨before, rest, htext, rfl, rfl⟩
    refine ⟨(before, rest), ?_, rfl⟩
    rw [← htext, splitAtByte?_append]

theorem at?_eq_none_iff : at? document offset expected = none ↔
    document.utf8ByteSize < offset ∨ InsideCharacter offset document.toList := by
  rw [at?, Option.map_eq_none_iff, splitAtByte?_eq_none_iff, byteLength_toList]

/-- The `line` and the `column` of `SyntaxError.between` locate the place, and its `text` is the
piece of that line. -/
theorem locates_between (before rest : List Char) (expected : Option String) :
    ∃ piece, Locates ((before ++ rest).splitOn '\n') (between before rest expected).line
        (between before rest expected).column piece (byteLength before) ∧
      (between before rest expected).text.toList =
        (if (between before rest expected).line < ((before ++ rest).splitOn '\n').length ∧
          piece.getLast? = some '\r' then piece.dropLast else piece) ∧ '\n' ∉ piece := by
  obtain ⟨front, more, hpieces, hlength, hbytes, hended⟩ := splitOn_place before rest
  have hline : (between before rest expected).line = front.length + 1 := by
    rw [hlength]
    rfl
  have hcolumn : (between before rest expected).column = (lastLine before).length + 1 := rfl
  have hmore : '\n' ∈ rest ↔
      (between before rest expected).line < ((before ++ rest).splitOn '\n').length := by
    rw [hended, hline, hpieces, List.length_append, List.length_cons, ← List.length_pos_iff]
    omega
  refine ⟨pieceAround before rest, ⟨by omega, by omega, ?_, ?_, ?_⟩, ?_,
    notMem_pieceAround before rest⟩
  · rw [hline, Nat.add_sub_cancel, hpieces, List.getElem?_append_right (Nat.le_refl _),
      Nat.sub_self]
    rfl
  · rw [hcolumn, pieceAround, List.length_append]
    omega
  · rw [hline, hcolumn, Nat.add_sub_cancel, Nat.add_sub_cancel, pieceAround, List.take_left,
      pieceStart, hpieces, List.take_left, hbytes]
  · simp only [← hmore, ← lineAround_eq]
    exact String.toList_ofList

theorem exists_locates_of_at? (he : at? document offset expected = some e) :
    ∃ piece, Locates (document.toList.splitOn '\n') e.line e.column piece offset ∧
      e.text.toList = (if e.line < (document.toList.splitOn '\n').length ∧
        piece.getLast? = some '\r' then piece.dropLast else piece) ∧ '\n' ∉ piece := by
  obtain ⟨before, rest, htext, rfl, rfl⟩ := at?_eq_some_iff.mp he
  rw [← htext]
  exact locates_between before rest expected

/-- **Places and positions.** There is a place at an `offset` unless it is past the end of
`document` or inside a character of it. The `line` and the `column` of the place then locate the
offset (`Locates`): cut at its line feeds, the document has the offset in the piece with the number
of the line, and in no other, behind the characters of it that the column counts. So line and column
determine the offset, and ascend with it. The `text` of the place is that piece, without a carriage
return at its end if a line feed ends it. -/
theorem at?_locates (document : String) :
    (∀ offset expected, at? document offset expected = none ↔
      document.utf8ByteSize < offset ∨ InsideCharacter offset document.toList) ∧
    (∀ offset expected e, at? document offset expected = some e →
      e.offset = offset ∧ e.expected = expected ∧
      (∃ piece, Locates (document.toList.splitOn '\n') e.line e.column piece offset ∧
        e.text.toList = (if e.line < (document.toList.splitOn '\n').length ∧
          piece.getLast? = some '\r' then piece.dropLast else piece) ∧ '\n' ∉ e.text.toList) ∧
      ∀ k piece, (document.toList.splitOn '\n')[k]? = some piece →
        (k + 1 = e.line ↔ pieceStart (document.toList.splitOn '\n') k ≤ offset ∧
          offset ≤ pieceStart (document.toList.splitOn '\n') k + byteLength piece)) ∧
    ∀ offset offset' expected expected' e e', at? document offset expected = some e →
      at? document offset' expected' = some e' →
      (e.line = e'.line → e.column = e'.column → offset = offset') ∧
      (offset < offset' → e.line < e'.line ∨ e.line = e'.line ∧ e.column < e'.column) := by
  refine ⟨fun _ _ => at?_eq_none_iff, ?_, ?_⟩
  · intro offset expected e he
    obtain ⟨before, rest, -, hoffset, hbetween⟩ := at?_eq_some_iff.mp he
    obtain ⟨piece, hplace, htext, hfeed⟩ := exists_locates_of_at? he
    refine ⟨?_, ?_, ⟨piece, hplace, htext, ?_⟩, fun k piece' hpiece => ?_⟩
    · rw [hbetween, ← hoffset]
      rfl
    · rw [hbetween]
      rfl
    · rw [htext]
      split
      · exact fun hmem => hfeed (List.dropLast_subset piece hmem)
      · exact hfeed
    · exact hplace.line_eq_iff hpiece
  · intro offset offset' expected expected' e e' he he'
    obtain ⟨piece, hplace, -⟩ := exists_locates_of_at? he
    obtain ⟨piece', hplace', -⟩ := exists_locates_of_at? he'
    refine ⟨fun hline hcolumn => ?_, hplace.lex hplace'⟩
    rw [hline, hcolumn] at hplace
    exact hplace.offset_unique hplace'

/-- No place is inside of the letter; the carriage return in front of the line feed is dropped, and
the one at the end of the document stays. -/
theorem at?_locates_return :
    at? "é\r\n\r" 1 none = none ∧ at? "é\r\n\r" 2 none = some ⟨1, 2, 2, "é", none⟩ ∧
      at? "é\r\n\r" 5 none = some ⟨2, 2, 5, "\r", none⟩ ∧
      (∃ piece, Locates ("é\r\n\r".toList.splitOn '\n') 2 2 piece 5) ∧ (1 < 2 ∨ 1 = 2 ∧ 2 < 2) := by
  have hfirst : at? "é\r\n\r" 2 none = some ⟨1, 2, 2, "é", none⟩ := by
    with_unfolding_all rfl
  have hlast : at? "é\r\n\r" 5 none = some ⟨2, 2, 5, "\r", none⟩ := by
    with_unfolding_all rfl
  obtain ⟨hnone, hplace, hlex⟩ := at?_locates "é\r\n\r"
  refine ⟨(hnone 1 none).mpr (.inr ?_), hfirst, hlast, ?_, ?_⟩
  · exact ⟨[], 'é', ['\r', '\n', '\r'], rfl, by decide, by decide⟩
  · obtain ⟨-, -, ⟨piece, hpiece, -⟩, -⟩ := hplace 5 none _ hlast
    exact ⟨piece, hpiece⟩
  · exact (hlex 2 5 none none _ _ hfirst hlast).2 (by decide)

end SyntaxError

end RegisterWrites
