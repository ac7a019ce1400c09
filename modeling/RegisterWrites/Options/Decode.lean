import RegisterWrites.Options
import RegisterWrites.Text.Quoted
import RegisterWrites.Toml.Reader

/-!
# Options in TOML

Options as the keys and values of a TOML document give them (`Options.ofEntries`). Every key is
optional; the keys are taken in the order of the document, and the first that is not as it should be
decides the error (`OptionsError`).
-/

namespace RegisterWrites

/-- What a value was to be. -/
inductive Wanted
  | boolean
  /-- A number that is not negative. -/
  | count
  /-- The options for writing descriptors. -/
  | emission
  deriving DecidableEq, Repr

/-- Why a document gives no options. -/
inductive OptionsError
  /-- The text is no document. -/
  | malformed
  /-- The key means nothing here; the `known` ones do. -/
  | unknownKey (key : String) (known : List String)
  /-- The `name` is that of no choice; the `known` ones are. -/
  | unknownName (name : String) (known : List String)
  /-- A choice is given by something else than a name. -/
  | notAName
  /-- The value `found` is of another kind than was `wanted`. -/
  | wrongKind (found : Toml.Value) (wanted : Wanted)
  /-- The number `n` must not be negative. -/
  | negative (n : Int)

namespace OptionsError

/-- A value in a message: its kind, and what it is if it is short. -/
def describe : Toml.Value → String
  | .string text => "string " ++ Text.quote text
  | .integer n => "integer `" ++ toString n ++ "`"
  | .float x => "floating point `" ++ x.render ++ "`"
  | .boolean b => "boolean `" ++ Options.summaryFlag b ++ "`"
  | .moment => "map"
  | .array _ => "sequence"
  | .table _ => "map"

def describeWanted : Wanted → String
  | .boolean => "a boolean"
  | .count => "u64"
  | .emission => "struct EmitOptions"

/-- A choice of `names` in a message. -/
def describeNames (names : List String) : String :=
  match names.map fun name => "`" ++ name ++ "`" with
  | [one, other] => one ++ " or " ++ other
  | quoted => "one of " ++ ", ".intercalate quoted

def message : OptionsError → String
  | malformed => "malformed document"
  | unknownKey key known => "unknown field `" ++ key ++ "`, expected " ++ describeNames known
  | unknownName name known => "unknown variant `" ++ name ++ "`, expected " ++ describeNames known
  | notAName => "wanted string or table"
  | wrongKind found wanted =>
    "invalid type: " ++ describe found ++ ", expected " ++ describeWanted wanted
  | negative n => "invalid value: integer `" ++ toString n ++ "`, expected u64"

end OptionsError

namespace Options

/-! ## Single values -/

/-- The choice of the given `name`, which is one of the `known` names. -/
def chooseName {α : Type} (ofName? : String → Option α) (known : List String) (name : String) :
    Except OptionsError α :=
  match ofName? name with
  | some a => .ok a
  | none => .error (.unknownName name known)

/-- A choice: its name, or a table whose only key is its name and holds nothing. -/
def decodeChoice {α : Type} (ofName? : String → Option α) (known : List String) :
    Toml.Value → Except OptionsError α
  | .string name => chooseName ofName? known name
  | .table [(name, content)] => do
    let a ← chooseName ofName? known name
    match content with
    | .table [] => return a
    | .array [] => return a
    | _ => throw .notAName
  | _ => .error .notAName

def decodeDialect : Toml.Value → Except OptionsError Dialect :=
  decodeChoice Dialect.ofName? (Dialect.all.map Dialect.name)

def decodeOffsetStyle : Toml.Value → Except OptionsError OffsetStyle :=
  decodeChoice OffsetStyle.ofName? (OffsetStyle.all.map OffsetStyle.name)

def decodeStrictness : Toml.Value → Except OptionsError Strictness :=
  decodeChoice Strictness.ofName? (Strictness.all.map Strictness.name)

def decodeFlag : Toml.Value → Except OptionsError Bool
  | .boolean b => .ok b
  | v => .error (.wrongKind v .boolean)

/-- A number that is not negative. -/
def decodeCount : Toml.Value → Except OptionsError Nat
  | .integer n => if 0 ≤ n then .ok n.toNat else .error (.negative n)
  | v => .error (.wrongKind v .count)

/-! ## Tables -/

/-- The keys of the options for writing descriptors. -/
def emissionKeys : List String := ["offset_style", "byte_prefix"]

/-- Takes up `key`, one of `emissionKeys`, with its value `v`. -/
def setEmission (e : Emission) (key : String) (v : Toml.Value) : Except OptionsError Emission :=
  if key = "offset_style" then do return { e with offsetStyle := ← decodeOffsetStyle v }
  else if key = "byte_prefix" then do return { e with bytePrefix := ← decodeFlag v }
  else .error (.unknownKey key emissionKeys)

/-- The key under which a date or a time presents itself where a table is wanted. -/
def momentKey : String := "$__toml_private_datetime"

/-- The options for writing descriptors: a table, or their values alone in a list, in the order of
`emissionKeys`, from which the last may be missing. -/
def decodeEmission : Toml.Value → Except OptionsError Emission
  | .table entries => entries.foldlM (fun e (key, v) => setEmission e key v) {}
  | .array [] => .ok {}
  | .array [style] => do return { offsetStyle := ← decodeOffsetStyle style }
  | .array (style :: flag :: _) => do
    let offsetStyle ← decodeOffsetStyle style
    return { offsetStyle, bytePrefix := ← decodeFlag flag }
  | .moment => .error (.unknownKey momentKey emissionKeys)
  | v => .error (.wrongKind v .emission)

def keys : List String := ["grammar", "emit", "strictness", "max_length"]

/-- Takes up one `key` of the options, with its value `v`. -/
def set (o : Options) (key : String) (v : Toml.Value) : Except OptionsError Options :=
  if key = "grammar" then do return { o with dialect := ← decodeDialect v }
  else if key = "emit" then do return { o with emission := ← decodeEmission v }
  else if key = "strictness" then do return { o with strictness := ← decodeStrictness v }
  else if key = "max_length" then do return { o with maxLength := some (← decodeCount v) }
  else .error (.unknownKey key keys)

/-- The options that the keys and values of `entries` give, taken up in order; what is not given is
as it is by default. -/
def ofEntries (entries : List (String × Toml.Value)) : Except OptionsError Options :=
  entries.foldlM (fun o (key, v) => o.set key v) {}

def read (text : String) : Except OptionsError Options :=
  match Toml.Document.read? text with
  | some entries => ofEntries entries
  | none => .error .malformed

end Options

end RegisterWrites
