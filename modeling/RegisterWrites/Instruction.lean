import RegisterWrites.Text.Character
import RegisterWrites.Text.Line

/-!
# Register instructions

Register instructions: how many bytes to write, at which offset, and the bytes (`Instruction`).
Only the size is read as a number; offset and data are kept as they were written, as literals
(`HexLiteral`). A literal is an optional mark, `0x` or `0X`, and digits; the text of a literal is
taken as it comes, so what stands behind the mark need not be digits.
-/

namespace RegisterWrites

/-! ## Hexadecimal literals -/

/-- A literal, as written. -/
structure HexLiteral where
  text : String
  deriving DecidableEq, Repr

namespace HexLiteral

/-- Splits a text behind the mark `0x` or `0X` at its front, if there is one. -/
def splitMark : List Char → List Char × List Char
  | '0' :: 'x' :: rest => (['0', 'x'], rest)
  | '0' :: 'X' :: rest => (['0', 'X'], rest)
  | cs => ([], cs)

/-- Whether the literal begins with a mark. -/
def isMarked (l : HexLiteral) : Bool := !(splitMark l.text.toList).1.isEmpty

/-- What stands behind the mark. -/
def digits (l : HexLiteral) : List Char := (splitMark l.text.toList).2

/-- The size of the `digits` in bytes. -/
def digitCount (l : HexLiteral) : Nat := Text.byteLength l.digits

/-- The literal under the mark `0x`, whatever mark it was written with. -/
def marked (l : HexLiteral) : String := "0x" ++ String.ofList l.digits

/-- Digits without the one plus sign that may stand before a number. -/
def dropPlus : List Char → List Char
  | '+' :: rest => rest
  | cs => cs

/-- The number that the literal denotes, if its `digits` are digits and the number fits in 32 bits.
However long the literal, the bound is on its value. -/
def toUInt32? (l : HexLiteral) : Option UInt32 :=
  let digits := dropPlus l.digits
  if digits ≠ [] ∧ digits.all Text.isHexDigit ∧ Text.hexNumber digits < UInt32.size then
    some (UInt32.ofNat (Text.hexNumber digits))
  else none

theorem splitMark_append (cs : List Char) : (splitMark cs).1 ++ (splitMark cs).2 = cs := by
  unfold splitMark
  split <;> rfl

end HexLiteral

/-! ## Instructions -/

/-- The three parts of an instruction, in the order in which they are written. -/
inductive Field
  | size
  | offset
  | data
  deriving DecidableEq, Repr

namespace Field

/-- The key under which the part is written; case matters. -/
def keyword : Field → String
  | size => "Size"
  | offset => "Offset"
  | data => "Data"

def ofKeyword? (text : String) : Option Field :=
  [size, offset, data].find? (·.keyword = text)

/-- The part of a document that holds the field, in words. -/
def clauseName : Field → String
  | size => "size clause"
  | offset => "offset clause"
  | data => "data clause"

end Field

/-- An instruction to write bytes to registers. -/
structure Instruction where
  /-- The line, from 1, on which the instruction begins. -/
  line : Nat
  /-- The number of bytes that the instruction declares. -/
  size : UInt32
  sizeLiteral : HexLiteral
  /-- The address of the first register. -/
  offset : HexLiteral
  /-- The bytes, the most significant first. -/
  data : HexLiteral
  deriving DecidableEq, Repr

namespace Instruction

/-- The number of bytes that the data of `i` holds once an odd digit is completed. -/
def payloadLength (i : Instruction) : Nat := (i.data.digitCount + 1) / 2

/-- Whether the last digit of the data of `i` needs completing. -/
def hasOddData (i : Instruction) : Bool := i.data.digitCount % 2 = 1

/-- The instruction in its plainest form: its literals as written, one space after each colon and
comma. -/
def render (i : Instruction) : String :=
  Field.size.keyword ++ ": " ++ i.sizeLiteral.text ++ ", " ++
    Field.offset.keyword ++ ": " ++ i.offset.text ++ ", " ++
    Field.data.keyword ++ ": " ++ i.data.text

/-- The text of `render` for each of `instructions`, one on a line. -/
def renderAll (instructions : List Instruction) : String :=
  String.join (instructions.map fun i => i.render ++ "\n")

end Instruction

end RegisterWrites
