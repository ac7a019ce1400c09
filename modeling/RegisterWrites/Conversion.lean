import RegisterWrites.Descriptor
import RegisterWrites.Document.Reader
import RegisterWrites.Text.Grid

/-!
# From documents to descriptors

From instructions to descriptors (`encodeAll`), and from a document to descriptors (`convert`).
Nothing is encoded before the whole document has been read. On the way a descriptor is checked
against its declared size and against the buffer of whoever reads it: `Descriptor.problems` finds
what is wrong, and `Descriptor.check` passes over it, reports it or fails, as the strictness of the
options says. `Comparison.render` shows instructions side by side with their descriptors, as a
table to read.
-/

namespace RegisterWrites

namespace Descriptor

/-! ## Checks -/

/-- The problem of a `length` that is not the number of bytes, if `d` has it. -/
def inconsistency? (d : Descriptor) : Option Error :=
  if d.isConsistent then none
  else some (.fieldInconsistency d.line (d.length - 1) d.payload.length)

/-- The room that `d` needs: its `length`, or the bytes that are there if they are more. -/
def neededLength (d : Descriptor) : Nat := max d.length d.byteCount

/-- The problem of a write that does not fit into a buffer of `maxLength` bytes, if `d` has it. -/
def overflow? (maxLength : Option Nat) (d : Descriptor) : Option Error :=
  match maxLength with
  | none => none
  | some max =>
    if max < d.neededLength then some (.capacityExceeded d.line d.neededLength max) else none

/-- What is wrong with `d`, in the order in which it is reported. -/
def problems (maxLength : Option Nat) (d : Descriptor) : List Error :=
  d.inconsistency?.toList ++ (d.overflow? maxLength).toList

def problemEntry (problem : Error) : Entry := ⟨.warn, .checks, problem.message⟩

/-- Passes over the `problems` of `d`, reports all of them, or fails with the first. -/
def check (o : Options) (d : Descriptor) : Logged Error Unit :=
  match o.strictness with
  | .off => pure ()
  | .warn => Logged.tell ((d.problems o.maxLength).map problemEntry)
  | .deny =>
    match d.problems o.maxLength with
    | [] => pure ()
    | problem :: _ => Logged.fail problem

end Descriptor

/-! ## Conversion -/

/-- The report of a last digit that had to be completed when `i` was encoded as `d`. -/
def paddingEntry (i : Instruction) (d : Descriptor) : Entry :=
  ⟨.warn, .conversion, "line " ++ toString i.line ++ ": data `" ++ i.data.text ++
    "` has an odd number of digits, last byte padded to " ++
    ((d.payload.head?.map ByteToken.digits).getD "")⟩

/-- Encodes `i` and checks the descriptor. -/
def Instruction.encodeChecked (o : Options) (i : Instruction) : Logged Error Descriptor := do
  let descriptor := i.encode
  if descriptor.padded then Logged.tell [paddingEntry i descriptor]
  descriptor.check o
  return descriptor

/-- Encodes and checks instructions in order, up to the first that fails. -/
def encodeAll (o : Options) : List Instruction → Logged Error (List Descriptor)
  | [] => pure []
  | i :: rest => do
    let descriptor ← i.encodeChecked o
    let descriptors ← encodeAll o rest
    return descriptor :: descriptors

def convert (text : String) (o : Options) : Logged Error (List Descriptor) := do
  let instructions ← Document.parse text o.dialect
  Logged.tell [⟨.info, .conversion,
    "read " ++ toString instructions.length ++ " register instruction(s)"⟩]
  Logged.tell [⟨.trace, .conversion, "encoding with " ++ o.summary⟩]
  encodeAll o instructions

end RegisterWrites

namespace RegisterWrites.Comparison

/-! ## Instructions beside their descriptors -/

/-- The columns of the table: four of numbers, moved to the right, and four of text. -/
def columns : List Text.Column :=
  [⟨"#", .right⟩, ⟨"Line", .right⟩, ⟨"Size", .right⟩, ⟨"Offset", .left⟩, ⟨"Data", .left⟩,
    ⟨"Length", .right⟩, ⟨"Bytes", .left⟩, ⟨"Padded", .left⟩]

/-- The row of `i` and `d`, with the number `index`. -/
def cells (e : Emission) (index : Nat) (i : Instruction) (d : Descriptor) : List String :=
  [toString index, toString i.line, toString i.size.toNat, i.offset.text, i.data.text,
    toString d.length, " ".intercalate (d.tokens e), if d.padded then "yes" else ""]

/-- The rows of the table, numbered from 0. A row needs an instruction and a descriptor, so the
longer list is cut to the shorter. -/
def rows (e : Emission) (is : List Instruction) (ds : List Descriptor) : List (List String) :=
  (is.zip ds).mapIdx fun index (i, d) => cells e index i d

def render (e : Emission) (is : List Instruction) (ds : List Descriptor) : String :=
  Text.Grid.render columns (rows e is ds)

end RegisterWrites.Comparison
