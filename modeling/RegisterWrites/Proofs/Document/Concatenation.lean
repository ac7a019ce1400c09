import RegisterWrites.Proofs.Document.Language
import RegisterWrites.Proofs.Text.Line

/-!
# Documents one after another

A document in front of another does not change how the other is read; it only moves it, by
its bytes and its line breaks (`moved`). The main statement is `parse_append`: instructions
are moved for any two documents, and so is the error of the second if the first consists of
whole lines.
-/

namespace RegisterWrites

open Text

/-! ## Things moved by a text in front of them -/

def SyntaxError.moved (bytes lines : Nat) (e : SyntaxError) : SyntaxError :=
  { e with line := e.line + lines, offset := e.offset + bytes }

def Error.moved (bytes lines : Nat) : Error → Error
  | .unreadable place => .unreadable (place.moved bytes lines)
  | .sizeOutOfRange line text => .sizeOutOfRange (line + lines) text
  | .fieldInconsistency line declared actual => .fieldInconsistency (line + lines) declared actual
  | .capacityExceeded line length max => .capacityExceeded (line + lines) length max

def Instruction.moved (lines : Nat) (i : Instruction) : Instruction :=
  { i with line := i.line + lines }

namespace Document

def Located.moved (bytes lines : Nat) (l : Located) : Located :=
  { l with start := l.start + bytes, line := l.line + lines }

variable {dialect : Dialect} {a b : List Char} {ls : List Located} {is : List Instruction}
  {e : Error} {bytes lines : Nat}

theorem locate_add (offset line bytes lines : Nat) (ps : List Piece) :
    locate (offset + bytes) (line + lines) ps =
      (locate offset line ps).map (Located.moved bytes lines) := by
  induction ps generalizing offset line with
  | nil => rfl
  | cons p ps ih =>
    have hps := ih (offset + byteLength p.chars) (line + lineBreaks p.chars)
    rw [Nat.add_right_comm, Nat.add_right_comm line] at hps
    rw [locate_cons, locate_cons offset, List.map_append, hps]
    cases p <;> rfl

theorem found_add (offset line bytes lines : Nat) (text : List Char) :
    found dialect (offset + bytes) (line + lines) text =
      (found dialect offset line text).map (Located.moved bytes lines) :=
  locate_add offset line bytes lines _

theorem toInstruction_moved (bytes lines : Nat) (l : Located) :
    (l.moved bytes lines).toInstruction =
      (l.toInstruction.map (Instruction.moved lines)).mapError (Error.moved bytes lines) := by
  simp only [Located.toInstruction, Located.moved]
  split <;> rfl

theorem mapM_moved (bytes lines : Nat) (ls : List Located) :
    (ls.map (Located.moved bytes lines)).mapM Located.toInstruction =
      ((ls.mapM Located.toInstruction).map (List.map (Instruction.moved lines))).mapError
        (Error.moved bytes lines) := by
  induction ls with
  | nil => rfl
  | cons l ls ih =>
    rw [List.map_cons, List.mapM_cons, List.mapM_cons, ih, toInstruction_moved]
    cases l.toInstruction with
    | error e => rfl
    | ok i => cases ls.mapM Located.toInstruction <;> rfl

/-- A place behind whole lines `a` is the same place of the text without them, `moved` by them. -/
theorem between_append (ha : a = [] ∨ a.getLast? = some '\n') (before rest : List Char)
    (expected : Option String) : SyntaxError.between (a ++ before) rest expected =
      (SyntaxError.between before rest expected).moved (byteLength a) (lineBreaks a) := by
  unfold SyntaxError.between SyntaxError.moved lineAround
  simp only [lastLine_append ha, lineBreaks_append, byteLength_append, SyntaxError.mk.injEq,
    and_true, true_and]
  omega

/-- What is found in `b` behind the document `a` is found behind its instructions. -/
theorem mapM_found_append (ha : left dialect a = []) (hab : Detached a b)
    (his : (found dialect 0 1 a).mapM Located.toInstruction = .ok is) :
    (found dialect 0 1 (a ++ b)).mapM Located.toInstruction =
      (((found dialect 0 1 b).mapM Located.toInstruction).map fun js =>
        is ++ js.map (Instruction.moved (lineBreaks a))).mapError
        (Error.moved (byteLength a) (lineBreaks a)) := by
  rw [(readPieces_append ha hab).2, found_add, List.mapM_append, his, mapM_moved]
  cases (found dialect 0 1 b).mapM Located.toInstruction <;> rfl

/-- Behind whole lines `a` the reader leaves what it leaves of `b` alone, and the error in front of
that is moved. -/
theorem result_parse_append_of_left_ne_nil {a b : String} (ha : left dialect a.toList = [])
    (hlines : a.toList = [] ∨ a.toList.getLast? = some '\n') (hb : left dialect b.toList ≠ [])
    (he : (parse b dialect).result = .error e) :
    (parse (a ++ b) dialect).result =
      .error (e.moved a.utf8ByteSize (lineBreaks a.toList)) := by
  have hleft : left dialect (a ++ b).toList = left dialect b.toList := by
    rw [String.toList_append, (readPieces_append ha (.of_lines hlines)).1]
  have hbefore := chars_of_readPieces dialect b.toList
  have hbefore' : (a.toList ++ (readPieces dialect b.toList).1.flatMap Piece.chars) ++
      left dialect (a ++ b).toList = (a ++ b).toList := by
    rw [hleft, List.append_assoc, hbefore, String.toList_append]
  rw [result_parse_of_left_ne_nil hb hbefore] at he
  cases he
  rw [result_parse_of_left_ne_nil (by rwa [hleft]) hbefore', between_append hlines,
    byteLength_toList, hleft]
  rfl

/-- **Documents add up.** Behind the document `a` the instructions of `b` follow, on lines moved by
the line breaks of `a`. Behind whole lines, an error of `b` stays what it is and is moved likewise
(`Error.moved`), a place by the bytes of `a` as well. -/
theorem parse_append {dialect : Dialect} {a b : String} {is : List Instruction}
    (ha : (parse a dialect).result = .ok is) :
    (∀ js, (parse b dialect).result = .ok js →
      (parse (a ++ b) dialect).result =
        .ok (is ++ js.map (Instruction.moved (lineBreaks a.toList)))) ∧
    (a = "" ∨ a.toList.getLast? = some '\n' → ∀ e, (parse b dialect).result = .error e →
      (parse (a ++ b) dialect).result =
        .error (e.moved a.utf8ByteSize (lineBreaks a.toList))) := by
  obtain ⟨hleft, his⟩ := result_parse_eq_ok_iff.mp ha
  constructor
  · intro js hb
    obtain ⟨hleft', hjs⟩ := result_parse_eq_ok_iff.mp hb
    obtain ⟨ss, hss⟩ := exists_written_of_left_eq_nil hleft'
    have hab : Detached a.toList b.toList := .inr hss.endsBefore
    rw [result_parse_eq_ok_iff, String.toList_append, (readPieces_append hleft hab).1,
      mapM_found_append hleft hab his, hjs]
    exact ⟨hleft', rfl⟩
  · intro hlines e hb
    have hlines' : a.toList = [] ∨ a.toList.getLast? = some '\n' :=
      hlines.imp_left fun h => by rw [h]; rfl
    by_cases hnil : left dialect b.toList = []
    · have hab : Detached a.toList b.toList := .of_lines hlines'
      have hleft' : left dialect (a ++ b).toList = [] := by
        rw [String.toList_append, (readPieces_append hleft hab).1, hnil]
      rw [result_parse_of_left_eq_nil hnil] at hb
      rw [result_parse_of_left_eq_nil hleft', String.toList_append,
        mapM_found_append hleft hab his, hb, byteLength_toList]
      rfl
    · exact result_parse_append_of_left_ne_nil hleft hlines' hnil hb

/-- A document of two lines in front of an instruction, and in front of one without data. -/
theorem parse_append_lines :
    (parse ("\nSize:1,Offset:2,Data:3\n" ++ "Size:4,Offset:5,Data:6") .bare).result =
        .ok [⟨2, 1, ⟨"1"⟩, ⟨"2"⟩, ⟨"3"⟩⟩, ⟨3, 4, ⟨"4"⟩, ⟨"5"⟩, ⟨"6"⟩⟩] ∧
      (parse ("\nSize:1,Offset:2,Data:3\n" ++ " Size:4,Offset:5") .bare).result =
        .error (.unreadable ⟨3, 2, 25, " Size:4,Offset:5", some "data clause"⟩) := by
  have ha : (parse "\nSize:1,Offset:2,Data:3\n" .bare).result =
      .ok [⟨2, 1, ⟨"1"⟩, ⟨"2"⟩, ⟨"3"⟩⟩] := by
    with_unfolding_all rfl
  have hb : (parse "Size:4,Offset:5,Data:6" .bare).result =
      .ok [⟨1, 4, ⟨"4"⟩, ⟨"5"⟩, ⟨"6"⟩⟩] := by
    with_unfolding_all rfl
  have hc : (parse " Size:4,Offset:5" .bare).result =
      .error (.unreadable ⟨1, 2, 1, " Size:4,Offset:5", some "data clause"⟩) := by
    with_unfolding_all rfl
  exact ⟨(parse_append ha).1 _ hb, (parse_append ha).2 (.inr (by decide)) _ hc⟩

end Document

end RegisterWrites
