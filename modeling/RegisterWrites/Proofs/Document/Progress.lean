import RegisterWrites.Proofs.Document.Occurrence
import RegisterWrites.Proofs.Text.Position
import RegisterWrites.Proofs.Text.Slice

/-!
# Progress of the reader

A document is read piece by piece, and that comes to an end because every piece takes something
from the front of the text. To say so, the repetition is a relation for readers of any kind
(`Repeats`): one that takes nothing is an error, and one that does not advance may go on for ever.
The readers of pieces all advance (`Advances`), so that their repetition has exactly one outcome,
and it is no error (`repeats_readRecord?`).

An instruction is recorded with the offset at which it begins. These offsets ascend, the text can be
cut at all of them, and the lines counted from cut to cut are those of the instructions
(`locateFrom?_record`). The main statement is `reading_progress`.
-/

namespace RegisterWrites.Document

open Text

variable {dialect : Dialect} {text rest taken : List Char} {p : Piece} {s : Statement}

/-! ## Readers that advance -/

/-- The `rest` is left of `text` behind an offset that is a place between two characters, and not
the start. -/
def Advances (text rest : List Char) : Prop :=
  ∃ taken, taken ≠ [] ∧
    splitAtByte? (byteLength text - byteLength rest) text = some (taken, rest)

theorem advances_append (h : taken ≠ []) (rest : List Char) : Advances (taken ++ rest) rest := by
  refine ⟨taken, h, ?_⟩
  rw [byteLength_append, Nat.add_sub_cancel, splitAtByte?_append]

theorem Advances.exists_cons (h : Advances text rest) : ∃ c taken, c :: (taken ++ rest) = text := by
  obtain ⟨taken, hne, hsplit⟩ := h
  obtain ⟨rfl, -⟩ := splitAtByte?_eq_some hsplit
  obtain ⟨c, taken, rfl⟩ := List.exists_cons_of_ne_nil hne
  exact ⟨c, taken, rfl⟩

theorem Advances.length_lt (h : Advances text rest) : rest.length < text.length := by
  obtain ⟨c, taken, rfl⟩ := h.exists_cons
  rw [List.length_cons, List.length_append]
  omega

theorem Advances.byteLength_lt (h : Advances text rest) : byteLength rest < byteLength text := by
  obtain ⟨c, taken, rfl⟩ := h.exists_cons
  have hpos := c.utf8Size_pos
  rw [byteLength_cons, byteLength_append]
  omega

theorem advances_of_readStatement (h : readStatement text = .ok (s, rest)) :
    Advances text rest := by
  obtain ⟨-, -, rfl⟩ := readStatement_eq_ok_iff.mp h
  exact advances_append s.chars_ne_nil rest

theorem advances_of_readBlanks? (h : readBlanks? text = some (p, rest)) : Advances text rest := by
  obtain ⟨run, rfl, hne, rfl, -⟩ := readBlanks?_eq_some_iff.mp h
  exact advances_append hne rest

theorem advances_of_readComment? (h : readComment? text = some (p, rest)) :
    Advances text rest := by
  obtain ⟨hashes, remark, stop, rfl, -, rfl⟩ := readComment?_eq_some_iff.mp h
  exact advances_append (by simp [Piece.chars]) rest

theorem advances_of_readPiece? (h : readPiece? dialect text = some (p, rest)) :
    Advances text rest := by
  have hchars := chars_of_readPiece? h
  rw [← hchars]
  exact advances_append (chars_ne_nil_of_readPiece? h) rest

/-! ## Repetition -/

section Repetition

variable {α : Type} {read : List Char → Option (α × List Char)} {as as' : List α}
  {ending ending' : Except (List Char) (List Char)}

/-- What the repetition of `read` gives, and how it ends: in front of what `read` does not read, or
with an error in front of a reading that takes nothing. A repetition that goes on for ever is not
related to anything. -/
inductive Repeats (read : List Char → Option (α × List Char)) :
    List Char → List α → Except (List Char) (List Char) → Prop
  | stops {text : List Char} (h : read text = none) : Repeats read text [] (.ok text)
  | idles {text rest : List Char} {a : α} (h : read text = some (a, rest))
      (hidle : byteLength rest = byteLength text) : Repeats read text [] (.error text)
  | goesOn {text rest : List Char} {a : α} {as : List α}
      {ending : Except (List Char) (List Char)} (h : read text = some (a, rest))
      (hgoes : byteLength rest ≠ byteLength text) (hrest : Repeats read rest as ending) :
      Repeats read text (a :: as) ending

namespace Repeats

/-- A `text` has at most one list `as` and one `ending` to which the repetition comes. -/
theorem unique (h : Repeats read text as ending) (h' : Repeats read text as' ending') :
    as = as' ∧ ending = ending' := by
  induction h generalizing as' with
  | stops h =>
    cases h' with
    | stops => exact ⟨rfl, rfl⟩
    | idles h' => cases h.symm.trans h'
    | goesOn h' => cases h.symm.trans h'
  | idles h hidle =>
    cases h' with
    | stops h' => cases h.symm.trans h'
    | idles => exact ⟨rfl, rfl⟩
    | goesOn h' hgoes =>
      cases h.symm.trans h'
      exact absurd hidle hgoes
  | goesOn h hgoes _ ih =>
    cases h' with
    | stops h' => cases h.symm.trans h'
    | idles h' hidle =>
      cases h.symm.trans h'
      exact absurd hidle hgoes
    | goesOn h' _ hrest =>
      cases h.symm.trans h'
      obtain ⟨rfl, rfl⟩ := ih hrest
      exact ⟨rfl, rfl⟩

/-- A `read` that advances reads at most as often as `text` has characters. -/
theorem length_le (hread : ∀ text a rest, read text = some (a, rest) → Advances text rest)
    (h : Repeats read text as ending) : as.length ≤ text.length := by
  induction h with
  | stops => exact Nat.zero_le _
  | idles => exact Nat.zero_le _
  | goesOn h _ _ ih =>
    have hlt := (hread _ _ _ h).length_lt
    rw [List.length_cons]
    omega

end Repeats

end Repetition

/-! ## What is recorded of the pieces -/

/-- What is recorded of a piece: of an instruction, the offset `start` at which it begins. -/
def Piece.record (start : Nat) : Piece → Option (Nat × Statement)
  | instruction statement => some (start, statement)
  | blanks _ => none
  | comment .. => none

/-- The record of the piece at the front of `text`, which is left of `document`. Its offset is how
much shorter that is than the document. -/
def readRecord? (dialect : Dialect) (document text : List Char) :
    Option (Option (Nat × Statement) × List Char) :=
  (readPiece? dialect text).map fun (piece, rest) =>
    (piece.record (byteLength document - byteLength text), rest)

/-- The records of pieces of which the first begins at `offset`. -/
def records (offset : Nat) : List Piece → List (Option (Nat × Statement))
  | [] => []
  | piece :: pieces =>
    piece.record offset :: records (offset + byteLength piece.chars) pieces

theorem advances_of_readRecord? {document : List Char} {record : Option (Nat × Statement)}
    (h : readRecord? dialect document text = some (record, rest)) : Advances text rest := by
  obtain ⟨⟨p, rest'⟩, hp, heq⟩ := Option.map_eq_some_iff.mp h
  obtain ⟨-, rfl⟩ := Prod.mk.inj heq
  exact advances_of_readPiece? hp

/-- **The repetition comes to its end** in front of what `readPieces` leaves, and not to an
error. -/
theorem repeats_readRecord? (before text : List Char) :
    Repeats (readRecord? dialect (before ++ text)) text
      (records (byteLength before) (readPieces dialect text).1) (.ok (left dialect text)) := by
  induction text using readPieces.induct dialect generalizing before with
  | case1 text h =>
    have hrecord : readRecord? dialect (before ++ text) text = none := by
      rw [readRecord?, h, Option.map_none]
    rw [left, readPieces_of_none h]
    exact .stops hrecord
  | case2 text p rest h _ _ _ ih =>
    have hrecord : readRecord? dialect (before ++ text) text =
        some (p.record (byteLength before), rest) := by
      rw [readRecord?, h, Option.map_some, byteLength_append, Nat.add_sub_cancel]
    have hgoes := (advances_of_readPiece? h).byteLength_lt
    have hrest := ih (before ++ p.chars)
    rw [List.append_assoc, chars_of_readPiece? h, byteLength_append] at hrest
    rw [left_of_some h, readPieces_of_some h, records]
    exact .goesOn hrecord (Nat.ne_of_lt hgoes) hrest

/-- What was recorded of the instruction `l`, which was found. -/
def Located.record (l : Located) : Nat × Statement := (l.start, l.statement)

theorem filterMap_records (offset line : Nat) (ps : List Piece) :
    (records offset ps).filterMap id = (locate offset line ps).map Located.record := by
  induction ps generalizing offset line with
  | nil => rfl
  | cons p ps ih =>
    have hps := ih (offset + byteLength p.chars) (line + lineBreaks p.chars)
    cases p with
    | instruction s => exact congrArg (List.cons (offset, s)) hps
    | blanks run => exact hps
    | comment hashes remark stop => exact hps

/-! ## Lines and places by cuts -/

/-- The instructions of records, with their lines: each is as many lines below `line`, that of the
offset `counted`, as there are line feeds in the part of `document` from there up to it. There are
none if one of these parts is not there. -/
def locateFrom? (document : List Char) (counted line : Nat) :
    List (Nat × Statement) → Option (List Located)
  | [] => some []
  | (start, statement) :: more => do
    let part ← slice? counted start document
    let later ← locateFrom? document start (line + lineBreaks part) more
    return ⟨start, line + lineBreaks part, statement⟩ :: later

/-- **The document can be cut at every instruction**, and the cuts give the lines. In front of the
pieces `ps` stand `before`, which was counted, and `part`, which was not. -/
theorem locateFrom?_record (before part after : List Char) (line : Nat) (ps : List Piece) :
    locateFrom? (before ++ (part ++ (ps.flatMap Piece.chars ++ after))) (byteLength before) line
        ((locate (byteLength before + byteLength part) (line + lineBreaks part) ps).map
          Located.record) =
      some (locate (byteLength before + byteLength part) (line + lineBreaks part) ps) := by
  induction ps generalizing before part line with
  | nil => rfl
  | cons p ps ih =>
    rw [List.flatMap_cons, List.append_assoc]
    -- What is no instruction is counted with the part in front of it.
    have hskip := ih before (part ++ p.chars) line
    rw [byteLength_append, lineBreaks_append, List.append_assoc, ← Nat.add_assoc,
      ← Nat.add_assoc] at hskip
    cases p with
    | instruction s =>
      have hcut := slice?_append before part (s.chars ++ (ps.flatMap Piece.chars ++ after))
      have hlater := ih (before ++ part) s.chars (line + lineBreaks part)
      rw [List.append_assoc, byteLength_append] at hlater
      simp only [locate, Piece.chars, List.map_cons, Located.record, locateFrom?, hcut,
        Option.bind_eq_bind, Option.bind_some]
      rw [hlater]
      rfl
    | blanks run => exact hskip
    | comment hashes remark stop => exact hskip

/-- The place of a syntax error can be looked up by cuts, at the offset in front of what is
`left`. -/
theorem ofSlices?_left {text : String} (h : left dialect text.toList ≠ []) : ∃ place,
    SyntaxError.ofSlices? text (text.utf8ByteSize - byteLength (left dialect text.toList))
        ((failedField? (left dialect text.toList)).map Field.clauseName) = some place ∧
      (parse text dialect).result = .error (.unreadable place) := by
  have hchars := chars_of_readPieces dialect text.toList
  generalize (readPieces dialect text.toList).1.flatMap Piece.chars = before at hchars
  have hoffset : text.utf8ByteSize - byteLength (left dialect text.toList) = byteLength before := by
    rw [← byteLength_toList, ← congrArg byteLength hchars, byteLength_append, Nat.add_sub_cancel]
  rw [hoffset, SyntaxError.ofSlices?_eq_at?]
  exact ⟨_, SyntaxError.at?_eq_some_iff.mpr ⟨before, _, hchars, rfl, rfl⟩,
    result_parse_of_left_ne_nil h hchars⟩

/-! ## Progress -/

/-- **Progress of the reader.** The readers of instructions, blanks and comments fail, or they take
at least one character and leave the text behind a place between two characters (`Advances`). Behind
blanks no blank follows, and behind an instruction no digit. Their repetition (`Repeats`), which
might go on for ever or end with an error, therefore has one outcome, `rs` and `rest`, and this is
no error: there are at most as many records as `text` has characters. The offsets in them ascend.
The text can be cut at all of them to count the lines (`locateFrom?`), and if nothing is left, the
instructions with these lines are what the document holds. If something is left, the text can be cut
in front of it to look up the place (`SyntaxError.ofSlices?`), and the error is at this place. -/
theorem reading_progress (dialect : Dialect) (text : String) :
    ((∀ input s rest, readStatement input = .ok (s, rest) →
        Advances input rest ∧ EndsRun isHexDigit rest) ∧
      (∀ input p rest, readBlanks? input = some (p, rest) →
        Advances input rest ∧ EndsRun isBlank rest) ∧
      ∀ input p rest, readComment? input = some (p, rest) → Advances input rest) ∧
    ∃ (rs : List (Option (Nat × Statement))) (rest : List Char),
      (∀ as ending, Repeats (readRecord? dialect text.toList) text.toList as ending ↔
        as = rs ∧ ending = .ok rest) ∧
      rs.length ≤ text.length ∧
      ((rs.filterMap id).Pairwise fun r r' => r.1 < r'.1) ∧
      (∃ ls, locateFrom? text.toList 0 1 (rs.filterMap id) = some ls ∧
        (rest = [] → (parse text dialect).result = ls.mapM Located.toInstruction)) ∧
      (rest ≠ [] → ∃ place, SyntaxError.ofSlices? text (text.utf8ByteSize - byteLength rest)
          ((failedField? rest).map Field.clauseName) = some place ∧
        (parse text dialect).result = .error (.unreadable place)) := by
  refine ⟨⟨fun input s rest h => ?_, fun input p rest h => ?_,
    fun input p rest h => advances_of_readComment? h⟩, ?_⟩
  · obtain ⟨-, hend, -⟩ := readStatement_eq_ok_iff.mp h
    exact ⟨advances_of_readStatement h, hend.1⟩
  · obtain ⟨run, -, -, -, -, hend⟩ := readBlanks?_eq_some_iff.mp h
    exact ⟨advances_of_readBlanks? h, hend⟩
  have hrepeats : Repeats (readRecord? dialect text.toList) text.toList
      (records 0 (readPieces dialect text.toList).1) (.ok (left dialect text.toList)) :=
    repeats_readRecord? [] text.toList
  have hlocated := filterMap_records 0 1 (readPieces dialect text.toList).1
  refine ⟨_, _, fun as ending => ⟨fun h => h.unique hrepeats, ?_⟩, ?_, ?_,
    ⟨found dialect 0 1 text.toList, ?_, result_parse_of_left_eq_nil⟩, ofSlices?_left⟩
  · rintro ⟨rfl, rfl⟩
    exact hrepeats
  · rw [← String.length_toList]
    exact hrepeats.length_le fun _ _ _ => advances_of_readRecord?
  · rw [hlocated, List.pairwise_map]
    exact (pairwise_locate 0 1 _).imp And.left
  · have hcuts := locateFrom?_record [] [] (left dialect text.toList) 1
      (readPieces dialect text.toList).1
    rw [List.nil_append, List.nil_append, chars_of_readPieces] at hcuts
    rw [hlocated]
    exact hcuts

/-- Blanks of three and two bytes, and a letter of two bytes that is no piece: the text is cut
behind the blanks and in front of the letter. -/
theorem reading_progress_wide :
    (Advances "\u2003\n#".toList ['#'] ∧ EndsRun isBlank ['#']) ∧
      Advances "#a\nS".toList ['S'] ∧
      (Advances "Size:1,Offset:2,Data:3\u00a0".toList ['\u00a0'] ∧
        EndsRun isHexDigit ['\u00a0']) ∧
      (∃ rs : List (Option (Nat × Statement)),
        Repeats (readRecord? .commented "\u2003#a\nSize:1,Offset:2,Data:3\u00a0é".toList)
          "\u2003#a\nSize:1,Offset:2,Data:3\u00a0é".toList rs (.ok ['é']) ∧
        rs.length ≤ 28 ∧ (rs.filterMap id).map Prod.fst = [6] ∧
        ∃ place, SyntaxError.ofSlices? "\u2003#a\nSize:1,Offset:2,Data:3\u00a0é" 30 none =
            some place ∧
          (parse "\u2003#a\nSize:1,Offset:2,Data:3\u00a0é" .commented).result =
            .error (.unreadable place)) ∧
      ∃ (rs : List (Option (Nat × Statement))) (ls : List Located),
        (rs.filterMap id).map Prod.fst = [4] ∧
        locateFrom? "\n\u2003Size:1,Offset:2,Data:3".toList 0 1 (rs.filterMap id) = some ls ∧
        (parse "\n\u2003Size:1,Offset:2,Data:3" .bare).result =
          ls.mapM Located.toInstruction := by
  have hblanks : readBlanks? "\u2003\n#".toList =
      some (.blanks ['\u2003', '\n'], ['#']) := by
    with_unfolding_all rfl
  have hcomment : readComment? "#a\nS".toList = some (.comment ['#'] ['a'] '\n', ['S']) := by
    with_unfolding_all rfl
  have hstatement : readStatement "Size:1,Offset:2,Data:3\u00a0".toList =
      .ok (⟨⟨⟨none, none⟩, ⟨"1"⟩⟩, ⟨none, none⟩, ⟨⟨none, none⟩, ⟨"2"⟩⟩, ⟨none, none⟩,
        ⟨⟨none, none⟩, ⟨"3"⟩⟩⟩, ['\u00a0']) := by
    with_unfolding_all rfl
  obtain ⟨⟨hs, hb, hc⟩, rs, rest, hends, hlength, -, -, hplace⟩ :=
    reading_progress .commented "\u2003#a\nSize:1,Offset:2,Data:3\u00a0é"
  obtain ⟨-, rs', rest', hends', -, -, ⟨ls, hcuts, hresult⟩, -⟩ :=
    reading_progress .bare "\n\u2003Size:1,Offset:2,Data:3"
  obtain ⟨rfl, hrest⟩ := (hends _ _).mp (repeats_readRecord? [] _)
  obtain ⟨rfl, hrest'⟩ := (hends' _ _).mp (repeats_readRecord? [] _)
  have hleft : left .commented "\u2003#a\nSize:1,Offset:2,Data:3\u00a0é".toList = ['é'] := by
    with_unfolding_all rfl
  have hleft' : left .bare "\n\u2003Size:1,Offset:2,Data:3".toList = [] := by
    with_unfolding_all rfl
  obtain rfl := Except.ok.inj (hrest.symm.trans (congrArg Except.ok hleft))
  obtain rfl := Except.ok.inj (hrest'.symm.trans (congrArg Except.ok hleft'))
  refine ⟨hb _ _ _ hblanks, hc _ _ _ hcomment, hs _ _ _ hstatement,
    ⟨_, (hends _ _).mpr ⟨rfl, rfl⟩, hlength, ?_, hplace (List.cons_ne_nil _ _)⟩,
    _, ls, ?_, hcuts, hresult rfl⟩
  · with_unfolding_all rfl
  · with_unfolding_all rfl

end RegisterWrites.Document
