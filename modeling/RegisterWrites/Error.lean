import RegisterWrites.Text.Line

/-!
# Errors

What can go wrong, by cause, and the words for it (`Error.message`). A `SyntaxError` turns a whole
document down; the two problems of a descriptor, `fieldInconsistency` and `capacityExceeded`, fail
a conversion only where the options ask for that.
-/

namespace RegisterWrites

/-- Where in a document reading stopped, and what stands there. -/
structure SyntaxError where
  /-- The line, from 1. -/
  line : Nat
  /-- The column, from 1, counted in characters. -/
  column : Nat
  /-- The offset from the start of the document, in bytes. -/
  offset : Nat
  /-- The line, without what ends it. -/
  text : String
  /-- The part of an instruction that could not be read, if an instruction had begun. -/
  expected : Option String
  deriving DecidableEq, Repr

namespace SyntaxError

/-- The error at the place between `before` and `rest`. -/
def between (before rest : List Char) (expected : Option String) : SyntaxError where
  line := Text.lineBreaks before + 1
  column := (Text.lastLine before).length + 1
  offset := Text.byteLength before
  text := String.ofList (Text.lineAround before rest)
  expected := expected

/-- The error at the byte `offset` of `document`. There is none at an offset that is not a place
between two characters. -/
def at? (document : String) (offset : Nat) (expected : Option String) : Option SyntaxError :=
  (Text.splitAtByte? offset document.toList).map fun (before, rest) =>
    between before rest expected

def message (e : SyntaxError) : String :=
  "line " ++ toString e.line ++ ", column " ++ toString e.column ++
    ": expected an instruction, a blank line, or a comment" ++
    (match e.expected with
      | some part => " (instruction failed in its " ++ part ++ ")"
      | none => "") ++
    "\n  | " ++ e.text

end SyntaxError

/-- Why a document, or its conversion, is turned down. -/
inductive Error
  /-- The document cannot be read beyond `place`. -/
  | unreadable (place : SyntaxError)
  /-- The declared size `text` needs more than 32 bits. -/
  | sizeOutOfRange (line : Nat) (text : String)
  /-- The size is `declared`, and the bytes given are `actual`. -/
  | fieldInconsistency (line declared actual : Nat)
  /-- A write of `length` bytes does not fit into a buffer of `max` bytes. -/
  | capacityExceeded (line length max : Nat)
  deriving DecidableEq, Repr

def Error.message : Error → String
  | unreadable place => "syntax error on " ++ place.message
  | sizeOutOfRange line text =>
    "line " ++ toString line ++ ": size `" ++ text ++ "` does not fit in 32 bits"
  | fieldInconsistency line declared actual =>
    "line " ++ toString line ++ ": declared size " ++ toString declared ++
      " but data holds " ++ toString actual ++ " byte(s)"
  | capacityExceeded line length max =>
    "line " ++ toString line ++ ": write of " ++ toString length ++
      " byte(s) exceeds the " ++ toString max ++ " byte buffer"

end RegisterWrites
