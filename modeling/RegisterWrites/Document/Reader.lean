import RegisterWrites.Document.Syntax
import RegisterWrites.Error
import RegisterWrites.Log

/-!
# Reading register documents

Reading a register document, first as pieces (`readPieces`) and then as instructions (`parse`).
Every reader takes the text that is left and returns what it read with the text that follows. The
pieces are tried in the order instruction, blanks, comment; each takes as much as it can and gives
nothing back, so `0x` without a digit behind it is no literal. Reading is all or nothing: a document
with a place that no piece covers holds no instructions, whatever stands before that place.

What a piece was read from is its characters (`chars_of_readPiece?`); a piece is
never empty, and the reading of a document (`readPieces`) ends.
-/

namespace RegisterWrites.Document

/-! ## The parts of an instruction -/

/-- At most one blank, and what follows it. -/
def readSlot : List Char → Option Char × List Char
  | c :: rest => if Text.isBlank c then (some c, rest) else (none, c :: rest)
  | [] => (none, [])

/-- The `symbol` with at most one blank on either side. -/
def readSeparator? (symbol : Char) (text : List Char) : Option (Separator × List Char) :=
  let (before, text) := readSlot text
  match text with
  | [] => none
  | c :: text =>
    if c = symbol then
      let (after, text) := readSlot text
      some (⟨before, after⟩, text)
    else none

/-- A literal: the mark, if there is one, and all the digits behind it. -/
def readLiteral? (text : List Char) : Option (HexLiteral × List Char) :=
  let (mark, text) := HexLiteral.splitMark text
  let digits := text.takeWhile Text.isHexDigit
  if digits = [] then none
  else some (⟨String.ofList (mark ++ digits)⟩, text.dropWhile Text.isHexDigit)

/-- What follows a word, if the text begins with it. -/
def dropWord? : List Char → List Char → Option (List Char)
  | [], text => some text
  | _ :: _, [] => none
  | c :: word, d :: text => if c = d then dropWord? word text else none

/-- The key of `field`, a colon and a literal. -/
def readClause? (field : Field) (text : List Char) : Option (Clause × List Char) := do
  let text ← dropWord? field.keyword.toList text
  let (colon, text) ← readSeparator? ':' text
  let (literal, text) ← readLiteral? text
  return (⟨colon, literal⟩, text)

/-- A comma, and the clause of `field`. -/
def readNextClause? (field : Field) (text : List Char) :
    Option ((Separator × Clause) × List Char) := do
  let (comma, text) ← readSeparator? ',' text
  let (clause, text) ← readClause? field text
  return ((comma, clause), text)

/-- An instruction, or else the first field whose clause is not there. -/
def readStatement (text : List Char) : Except Field (Statement × List Char) := do
  let (size, text) ← (readClause? .size text).elim (throw .size) pure
  let ((afterSize, offset), text) ← (readNextClause? .offset text).elim (throw .offset) pure
  let ((afterOffset, data), text) ← (readNextClause? .data text).elim (throw .data) pure
  return (⟨size, afterSize, offset, afterOffset, data⟩, text)

/-! ## Pieces -/

/-- A run of blanks, as long as possible. -/
def readBlanks? (text : List Char) : Option (Piece × List Char) :=
  let run := text.takeWhile Text.isBlank
  if run = [] then none else some (.blanks run, text.dropWhile Text.isBlank)

/-- A comment: hashes, what may stand in a comment, and one blank. -/
def readComment? (text : List Char) : Option (Piece × List Char) :=
  let hashes := text.takeWhile (· = '#')
  let text := text.dropWhile (· = '#')
  let remark := text.takeWhile isRemark
  if hashes = [] then none
  else
    match text.dropWhile isRemark with
    | [] => none
    | stop :: rest => if Text.isBlank stop then some (.comment hashes remark stop, rest) else none

/-- The piece at the front of `text`. -/
def readPiece? (dialect : Dialect) (text : List Char) : Option (Piece × List Char) :=
  match readStatement text with
  | .ok (statement, rest) => some (.instruction statement, rest)
  | .error _ =>
    match readBlanks? text with
    | some reading => some reading
    | none =>
      match dialect with
      | .commented => readComment? text
      | .bare => none

/-! ## What is read is what stands there -/

theorem chars_of_readSlot (text : List Char) :
    (readSlot text).1.toList ++ (readSlot text).2 = text := by
  unfold readSlot
  split
  · split <;> rfl
  · rfl

theorem chars_of_readSeparator? {symbol : Char} {text rest : List Char} {s : Separator}
    (h : readSeparator? symbol text = some (s, rest)) : s.chars symbol ++ rest = text := by
  have hb := chars_of_readSlot text
  unfold readSeparator? at h
  generalize readSlot text = slot at h hb
  obtain ⟨before, text'⟩ := slot
  simp only at h hb
  split at h
  · exact absurd h (by simp)
  · rename_i c text''
    have ha := chars_of_readSlot text''
    split at h
    · rename_i hc
      subst hc
      simp only [Option.some.injEq, Prod.mk.injEq] at h
      obtain ⟨rfl, rfl⟩ := h
      simp only [Separator.chars, List.append_assoc, List.cons_append, ha, hb]
    · exact absurd h (by simp)

theorem chars_of_readLiteral? {text rest : List Char} {l : HexLiteral}
    (h : readLiteral? text = some (l, rest)) : l.text.toList ++ rest = text := by
  have hm := HexLiteral.splitMark_append text
  unfold readLiteral? at h
  generalize HexLiteral.splitMark text = split at h hm
  obtain ⟨mark, text'⟩ := split
  simp only at h hm
  split at h
  · exact absurd h (by simp)
  · simp only [Option.some.injEq, Prod.mk.injEq] at h
    obtain ⟨rfl, rfl⟩ := h
    rw [String.toList_ofList, List.append_assoc, List.takeWhile_append_dropWhile, hm]

theorem dropWord?_eq_some_iff {word text rest : List Char} :
    dropWord? word text = some rest ↔ word ++ rest = text := by
  fun_induction dropWord? word text with
  | case1 text => simp [eq_comm]
  | case2 => simp
  | case3 c word text ih => simp [ih]
  | case4 c word d text hcd => simp [hcd]

theorem chars_of_readClause? {field : Field} {text rest : List Char} {c : Clause}
    (h : readClause? field text = some (c, rest)) : c.chars field ++ rest = text := by
  simp only [readClause?, Option.bind_eq_bind, Option.bind_eq_some_iff, Option.pure_def,
    Option.some.injEq, Prod.mk.injEq, Prod.exists] at h
  obtain ⟨text', hk, colon, text'', hs, literal, rest', hl, rfl, rfl⟩ := h
  rw [Clause.chars, List.append_assoc, List.append_assoc, chars_of_readLiteral? hl,
    chars_of_readSeparator? hs, dropWord?_eq_some_iff.mp hk]

theorem chars_of_readNextClause? {field : Field} {text rest : List Char} {s : Separator}
    {c : Clause} (h : readNextClause? field text = some ((s, c), rest)) :
    s.chars ',' ++ c.chars field ++ rest = text := by
  simp only [readNextClause?, Option.bind_eq_bind, Option.bind_eq_some_iff, Option.pure_def,
    Option.some.injEq, Prod.mk.injEq, Prod.exists] at h
  obtain ⟨comma, text', hs, clause, rest', hc, ⟨rfl, rfl⟩, rfl⟩ := h
  rw [List.append_assoc, chars_of_readClause? hc, chars_of_readSeparator? hs]

/-- An instruction is read exactly if its three clauses are. -/
theorem readStatement_eq_ok {text rest : List Char} {s : Statement} :
    readStatement text = .ok (s, rest) ↔
      ∃ text₁ text₂, readClause? .size text = some (s.size, text₁) ∧
        readNextClause? .offset text₁ = some ((s.afterSize, s.offset), text₂) ∧
        readNextClause? .data text₂ = some ((s.afterOffset, s.data), rest) := by
  unfold readStatement
  cases h₁ : readClause? .size text with
  | none => simp [bind, Except.bind, throw, throwThe, MonadExceptOf.throw]
  | some p =>
    obtain ⟨size, text₁⟩ := p
    cases h₂ : readNextClause? .offset text₁ with
    | none =>
      simp only [Option.elim, bind, Except.bind, pure, Except.pure, throw, throwThe,
        MonadExceptOf.throw, h₂, reduceCtorEq, false_iff, not_exists]
      grind
    | some p =>
      obtain ⟨⟨afterSize, offset⟩, text₂⟩ := p
      cases h₃ : readNextClause? .data text₂ with
      | none =>
        simp only [Option.elim, bind, Except.bind, pure, Except.pure, throw, throwThe,
          MonadExceptOf.throw, h₂, h₃, reduceCtorEq, false_iff, not_exists]
        grind
      | some p =>
        obtain ⟨⟨afterOffset, data⟩, text₃⟩ := p
        obtain ⟨size', afterSize', offset', afterOffset', data'⟩ := s
        simp only [Option.elim, bind, Except.bind, pure, Except.pure, h₂, h₃]
        grind

theorem chars_of_readStatement {text rest : List Char} {s : Statement}
    (h : readStatement text = .ok (s, rest)) : s.chars ++ rest = text := by
  obtain ⟨text₁, text₂, h₁, h₂, h₃⟩ := readStatement_eq_ok.mp h
  have h₁ := chars_of_readClause? h₁
  have h₂ := chars_of_readNextClause? h₂
  have h₃ := chars_of_readNextClause? h₃
  simp only [Statement.chars, List.append_assoc] at h₁ h₂ h₃ ⊢
  rw [h₃, h₂, h₁]

theorem chars_of_readBlanks? {text rest : List Char} {p : Piece}
    (h : readBlanks? text = some (p, rest)) : p.chars ++ rest = text := by
  unfold readBlanks? at h
  simp only at h
  split at h
  · exact absurd h (by simp)
  · simp only [Option.some.injEq, Prod.mk.injEq] at h
    obtain ⟨rfl, rfl⟩ := h
    exact List.takeWhile_append_dropWhile

theorem chars_of_readComment? {text rest : List Char} {p : Piece}
    (h : readComment? text = some (p, rest)) : p.chars ++ rest = text := by
  unfold readComment? at h
  simp only at h
  split at h
  · exact absurd h (by simp)
  · split at h
    · exact absurd h (by simp)
    · rename_i stop rest' hd
      split at h
      · simp only [Option.some.injEq, Prod.mk.injEq] at h
        obtain ⟨rfl, rfl⟩ := h
        rw [Piece.chars, List.append_assoc, List.append_assoc, List.singleton_append, ← hd,
          List.takeWhile_append_dropWhile, List.takeWhile_append_dropWhile]
      · exact absurd h (by simp)

/-- A piece was read from its characters. -/
theorem chars_of_readPiece? {dialect : Dialect} {text rest : List Char} {p : Piece}
    (h : readPiece? dialect text = some (p, rest)) : p.chars ++ rest = text := by
  unfold readPiece? at h
  split at h
  · rename_i hs
    simp only [Option.some.injEq, Prod.mk.injEq] at h
    obtain ⟨rfl, rfl⟩ := h
    exact chars_of_readStatement hs
  · split at h
    · rename_i hb
      rw [h] at hb
      exact chars_of_readBlanks? hb
    · split at h
      · exact chars_of_readComment? h
      · exact absurd h (by simp)

/-! ## The whole document -/

theorem Statement.chars_ne_nil (s : Statement) : s.chars ≠ [] := by
  simp [Statement.chars, Clause.chars, Field.keyword]

/-- A piece that was read holds at least one character. -/
theorem chars_ne_nil_of_readPiece? {dialect : Dialect} {text rest : List Char} {p : Piece}
    (h : readPiece? dialect text = some (p, rest)) : p.chars ≠ [] := by
  unfold readPiece? at h
  split at h
  · simp only [Option.some.injEq, Prod.mk.injEq] at h
    obtain ⟨rfl, rfl⟩ := h
    exact Statement.chars_ne_nil _
  · split at h
    · rename_i hb
      rw [h] at hb
      unfold readBlanks? at hb
      simp only at hb
      split at hb
      · exact absurd hb (by simp)
      · rename_i hne
        simp only [Option.some.injEq, Prod.mk.injEq] at hb
        obtain ⟨rfl, rfl⟩ := hb
        exact hne
    · split at h
      · unfold readComment? at h
        simp only at h
        split at h
        · exact absurd h (by simp)
        · split at h
          · exact absurd h (by simp)
          · split at h
            · simp only [Option.some.injEq, Prod.mk.injEq] at h
              obtain ⟨rfl, rfl⟩ := h
              simp [Piece.chars]
            · exact absurd h (by simp)
      · exact absurd h (by simp)

/-- Reading a piece leaves less text. -/
theorem length_lt_of_readPiece? {dialect : Dialect} {text rest : List Char} {p : Piece}
    (h : readPiece? dialect text = some (p, rest)) : rest.length < text.length := by
  have hc := chars_of_readPiece? h
  have hn := List.length_pos_iff.mpr (chars_ne_nil_of_readPiece? h)
  rw [← hc, List.length_append]
  omega

/-- The pieces of a document, as many as can be read one after another, and the text that is
left. -/
def readPieces (dialect : Dialect) (text : List Char) : List Piece × List Char :=
  match _h : readPiece? dialect text with
  | none => ([], text)
  | some (piece, rest) =>
    let (pieces, left) := readPieces dialect rest
    (piece :: pieces, left)
termination_by text.length
decreasing_by exact length_lt_of_readPiece? _h

theorem readPieces_of_none {dialect : Dialect} {text : List Char}
    (h : readPiece? dialect text = none) : readPieces dialect text = ([], text) := by
  rw [readPieces]
  split
  · rfl
  · rename_i h'
    rw [h] at h'
    exact absurd h' (by simp)

theorem readPieces_of_some {dialect : Dialect} {text rest : List Char} {p : Piece}
    (h : readPiece? dialect text = some (p, rest)) :
    readPieces dialect text =
      (p :: (readPieces dialect rest).1, (readPieces dialect rest).2) := by
  rw [readPieces]
  split
  · rename_i h'
    rw [h] at h'
    exact absurd h' (by simp)
  · rename_i h'
    rw [h] at h'
    simp only [Option.some.injEq, Prod.mk.injEq] at h'
    obtain ⟨rfl, rfl⟩ := h'
    rfl

/-! ## The instructions of a document -/

/-- An instruction, with the offset in bytes and the line at which it begins. -/
structure Located where
  start : Nat
  line : Nat
  statement : Statement

/-- The instructions among pieces of which the first begins at `offset`, on `line`. -/
def locate (offset line : Nat) : List Piece → List Located
  | [] => []
  | piece :: pieces =>
    let later := locate (offset + Text.byteLength piece.chars)
      (line + Text.lineBreaks piece.chars) pieces
    match piece with
    | .instruction statement => ⟨offset, line, statement⟩ :: later
    | _ => later

/-- The literal `l` in quotes, as the log shows it. -/
def quoteLiteral (l : HexLiteral) : String := "\"" ++ l.text ++ "\""

/-- The report of the instruction `l`, which was found. -/
def Located.entry (l : Located) : Entry where
  level := .trace
  speaker := .reader
  message := "instruction at byte " ++ toString l.start ++ ": (" ++
    quoteLiteral l.statement.size.literal ++ ", " ++
    quoteLiteral l.statement.offset.literal ++ ", " ++
    quoteLiteral l.statement.data.literal ++ ")"

/-- The instruction that `l` writes, if its size fits in 32 bits. -/
def Located.toInstruction (l : Located) : Except Error Instruction :=
  let literal := l.statement.size.literal
  match literal.toUInt32? with
  | none => .error (.sizeOutOfRange l.line literal.text)
  | some size =>
    .ok ⟨l.line, size, literal, l.statement.offset.literal, l.statement.data.literal⟩

/-- The field whose clause cannot be read, if `text` begins with the key of a size. -/
def failedField? (text : List Char) : Option Field :=
  if (dropWord? Field.size.keyword.toList text).isSome then
    match readStatement text with
    | .error field => some field
    | .ok _ => none
  else none

/-- The place where the reading of a document stopped behind `pieces`, if anything is `left`. -/
def stop? (pieces : List Piece) (left : List Char) : Option SyntaxError :=
  if left = [] then none
  else
    some (SyntaxError.between (pieces.flatMap Piece.chars) left
      ((failedField? left).map Field.clauseName))

/-- The instructions of a document, in order. The log reports each that was found, and their number
if all of the document could be read. -/
def parse (text : String) (dialect : Dialect) : Logged Error (List Instruction) := do
  let (pieces, left) := readPieces dialect text.toList
  let found := locate 0 1 pieces
  Logged.tell (found.map Located.entry)
  match stop? pieces left with
  | some place => Logged.fail (.unreadable place)
  | none =>
    let instructions ← Logged.ofExcept (found.mapM Located.toInstruction)
    Logged.tell [⟨.debug, .reader, "parsed " ++ toString instructions.length ++
      " instruction(s) with the " ++ dialect.name ++ " grammar"⟩]
    return instructions

end RegisterWrites.Document
