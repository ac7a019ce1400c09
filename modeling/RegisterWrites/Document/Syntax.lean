import RegisterWrites.Instruction
import RegisterWrites.Options
import RegisterWrites.Text.Character

/-!
# The written form of register documents

The written form of a register document, with nothing lost: a document is a list of
pieces, and every piece knows its characters (`Piece.chars`). Which pieces a dialect
admits is `Piece.IsAdmitted`.

    document    := piece*
    piece       := instruction | blank+ | comment
    instruction := "Size" colon hex comma "Offset" colon hex comma "Data" colon hex
    colon       := blank? ":" blank?
    comma       := blank? "," blank?
    hex         := ("0x" | "0X")? digit+
    comment     := "#"+ remark* blank
-/

namespace RegisterWrites.Document

/-- A character that a comment may hold: an ASCII letter or digit, a space, or one of
`- , ( ) : / .`. -/
def isRemark (c : Char) : Bool :=
  c.isAlphanum || [' ', '-', ',', '(', ')', ':', '/', '.'].contains c

/-- A colon or a comma with at most one blank on either side. -/
structure Separator where
  before : Option Char
  after : Option Char
  deriving DecidableEq, Repr

/-- What follows the key of a field: a colon and a literal. -/
structure Clause where
  colon : Separator
  literal : HexLiteral
  deriving DecidableEq, Repr

/-- An instruction as it stands in a document. -/
structure Statement where
  size : Clause
  /-- The comma between size and offset. -/
  afterSize : Separator
  offset : Clause
  /-- The comma between offset and data. -/
  afterOffset : Separator
  data : Clause
  deriving DecidableEq, Repr

inductive Piece
  | instruction (statement : Statement)
  | blanks (run : List Char)
  /-- A comment: its hashes, its text, and the blank that ends it. -/
  | comment (hashes remark : List Char) (stop : Char)
  deriving DecidableEq, Repr

/-! ## The characters of each part -/

def Separator.chars (symbol : Char) (s : Separator) : List Char :=
  s.before.toList ++ symbol :: s.after.toList

/-- A clause with the key of `field` in front. -/
def Clause.chars (field : Field) (c : Clause) : List Char :=
  field.keyword.toList ++ c.colon.chars ':' ++ c.literal.text.toList

def Statement.chars (s : Statement) : List Char :=
  s.size.chars .size ++ s.afterSize.chars ',' ++ s.offset.chars .offset ++
    s.afterOffset.chars ',' ++ s.data.chars .data

def Piece.chars : Piece → List Char
  | instruction statement => statement.chars
  | blanks run => run
  | comment hashes remark stop => hashes ++ remark ++ [stop]

/-! ## What is admitted -/

/-- A literal of the grammar: an optional mark and at least one hexadecimal digit. -/
def IsHex (l : HexLiteral) : Prop :=
  l.digits ≠ [] ∧ ∀ c ∈ l.digits, Text.isHexDigit c = true

/-- What stands `before` and `after` the symbol of the separator `s` is blank. -/
def Separator.IsAdmitted (s : Separator) : Prop :=
  (∀ c ∈ s.before, Text.isBlank c = true) ∧ ∀ c ∈ s.after, Text.isBlank c = true

/-- The `colon` has blanks beside it, and the `literal` is one of the grammar. -/
def Clause.IsAdmitted (c : Clause) : Prop :=
  c.colon.IsAdmitted ∧ IsHex c.literal

def Statement.IsAdmitted (s : Statement) : Prop :=
  s.size.IsAdmitted ∧ s.afterSize.IsAdmitted ∧ s.offset.IsAdmitted ∧
    s.afterOffset.IsAdmitted ∧ s.data.IsAdmitted

/-- The pieces of which a document in `dialect` may be made. A comment extends over all the spaces
that follow it, so that its `stop` is none. -/
def Piece.IsAdmitted (dialect : Dialect) : Piece → Prop
  | instruction statement => statement.IsAdmitted
  | blanks run => run ≠ [] ∧ ∀ c ∈ run, Text.isBlank c = true
  | comment hashes remark stop =>
    dialect = .commented ∧ (hashes ≠ [] ∧ ∀ c ∈ hashes, c = '#') ∧
      (∀ c ∈ remark, isRemark c = true) ∧ Text.isBlank stop = true ∧ stop ≠ ' '

instance (l : HexLiteral) : Decidable (IsHex l) :=
  decidable_of_iff (l.digits ≠ [] ∧ l.digits.all Text.isHexDigit = true) (by simp [IsHex])

instance (s : Separator) : Decidable s.IsAdmitted :=
  decidable_of_iff (s.before.all Text.isBlank = true ∧ s.after.all Text.isBlank = true)
    (by simp [Separator.IsAdmitted, Option.all_eq_true])

instance (c : Clause) : Decidable c.IsAdmitted :=
  inferInstanceAs (Decidable (c.colon.IsAdmitted ∧ IsHex c.literal))

instance (s : Statement) : Decidable s.IsAdmitted :=
  inferInstanceAs (Decidable (s.size.IsAdmitted ∧ s.afterSize.IsAdmitted ∧
    s.offset.IsAdmitted ∧ s.afterOffset.IsAdmitted ∧ s.data.IsAdmitted))

end RegisterWrites.Document
