/-!
# Options

What a user can choose: which documents are read (`Dialect`), how descriptors are written out
(`Emission`), and how strictly they are checked (`Strictness`).
-/

namespace RegisterWrites

/-- What a document may hold besides instructions and blank space. -/
inductive Dialect
  /-- Comments that begin with `#`. -/
  | commented
  /-- Nothing. -/
  | bare
  deriving DecidableEq, Repr, Inhabited

/-- How the address of a descriptor is written. -/
inductive OffsetStyle
  /-- As in the document. -/
  | verbatim
  /-- Under the mark `0x`. -/
  | prefixed
  deriving DecidableEq, Repr, Inhabited

/-- What happens to a descriptor that disagrees with its declared size or the buffer. -/
inductive Strictness
  /-- It is not checked. -/
  | off
  /-- The disagreement is reported. -/
  | warn
  /-- The document is turned down. -/
  | deny
  deriving DecidableEq, Repr, Inhabited

namespace Dialect

def name : Dialect → String
  | commented => "commented"
  | bare => "bare"

def all : List Dialect := [commented, bare]

def ofName? (text : String) : Option Dialect := all.find? (·.name = text)

end Dialect

namespace OffsetStyle

def name : OffsetStyle → String
  | verbatim => "verbatim"
  | prefixed => "prefixed"

def all : List OffsetStyle := [verbatim, prefixed]

def ofName? (text : String) : Option OffsetStyle := all.find? (·.name = text)

end OffsetStyle

namespace Strictness

def name : Strictness → String
  | off => "off"
  | warn => "warn"
  | deny => "deny"

def all : List Strictness := [off, warn, deny]

def ofName? (text : String) : Option Strictness := all.find? (·.name = text)

end Strictness

/-- How the bytes of a descriptor are written. -/
structure Emission where
  offsetStyle : OffsetStyle := .verbatim
  /-- Whether each byte of the payload stands under the mark `0x`. -/
  bytePrefix : Bool := false
  deriving DecidableEq, Repr, Inhabited

/-- Everything that a conversion depends on besides the document. -/
structure Options where
  dialect : Dialect := .commented
  emission : Emission := {}
  strictness : Strictness := .off
  /-- How many bytes the buffer of the reader of the descriptors holds, the address included. -/
  maxLength : Option Nat := none
  deriving DecidableEq, Repr, Inhabited

namespace Options

/-- A truth value as `summary` writes it. -/
def summaryFlag : Bool → String
  | true => "true"
  | false => "false"

/-- The options `o` on one line, for the log. -/
def summary (o : Options) : String :=
  "Options \x7b grammar: " ++
    (match o.dialect with
      | .commented => "Commented"
      | .bare => "Bare") ++
    ", emit: EmitOptions \x7b offset_style: " ++
    (match o.emission.offsetStyle with
      | .verbatim => "Verbatim"
      | .prefixed => "Prefixed") ++
    ", byte_prefix: " ++ summaryFlag o.emission.bytePrefix ++ " \x7d, strictness: " ++
    (match o.strictness with
      | .off => "Off"
      | .warn => "Warn"
      | .deny => "Deny") ++
    ", max_length: " ++
    (match o.maxLength with
      | none => "None"
      | some n => "Some(" ++ toString n ++ ")") ++
    " \x7d"

end Options

end RegisterWrites
