import RegisterWrites.Toml.Number
import RegisterWrites.Toml.Text
import RegisterWrites.Toml.Value

/-!
# Reading TOML

Reading a TOML document. Values and keys are read from the text that is left; a
document is a sequence of blocks, each a header and the keys below it, which are
entered into the tables one after another (`Document.read?`). Whatever breaks a rule
of the format leaves no document at all.
-/

namespace RegisterWrites.Toml

/-- Less than this many arrays and tables may lie in each other, and a key has fewer parts than
this. -/
def depthLimit : Nat := 80

/-! ## Keys -/

def isBareKey (c : Char) : Bool := c.isAlphanum || c = '_' || c = '-'

def readKeyPart? (text : List Char) : Option (String × List Char) :=
  match readLineText? text with
  | some (cs, rest) => some (String.ofList cs, rest)
  | none =>
    match text.takeWhile isBareKey with
    | [] => none
    | cs => some (String.ofList cs, text.dropWhile isBareKey)

/-- The parts of a key, with spaces around them and points between them; `parts` bounds their
number. -/
def readKeyWithin? : Nat → List Char → Option (List String × List Char)
  | 0, _ => none
  | parts + 1, text => do
    let (part, rest) ← readKeyPart? (dropSpaces text)
    match dropSpaces rest with
    | '.' :: rest =>
      let (more, rest) ← readKeyWithin? parts rest
      return (part :: more, rest)
    | rest => return ([part], rest)

/-- A key: the path to its table and its last part. -/
def readKey? (text : List Char) : Option ((List String × String) × List Char) := do
  let (parts, rest) ← readKeyWithin? (depthLimit - 1) text
  let key ← parts.getLast?
  return ((parts.dropLast, key), rest)

/-! ## Values -/

/-- A value that is neither an array nor a table. -/
def readScalar? (text : List Char) : Option (Value × List Char) :=
  match text with
  | [] => none
  | 't' :: 'r' :: 'u' :: 'e' :: rest => some (.boolean true, rest)
  | 'f' :: 'a' :: 'l' :: 's' :: 'e' :: rest => some (.boolean false, rest)
  | c :: _ =>
    if c = '"' ∨ c = '\'' then
      (readText? text).map fun (cs, rest) => (.string (String.ofList cs), rest)
    else
      match readMoment? text with
      | some rest => some (.moment, rest)
      | none =>
        match readFloat? text with
        | some (x, rest) => some (.float x, rest)
        | none => (readInteger? text).map fun (n, rest) => (.integer n, rest)

/-- The items of an array, each read by `readItem`, up to its closing bracket; `steps` bounds their
number. A comma may follow the last. -/
def readItems? (readItem : List Char → Option (Value × List Char)) :
    Nat → List Char → Option (List Value × List Char)
  | 0, _ => none
  | steps + 1, text =>
    match dropFiller text with
    | ']' :: rest => some ([], rest)
    | text => do
      let (item, rest) ← readItem text
      match dropFiller rest with
      | ',' :: rest =>
        let (items, rest) ← readItems? readItem steps rest
        return (item :: items, rest)
      | ']' :: rest => return ([item], rest)
      | _ => none

/-- A key, an equals sign and a value, which `readItem` reads. -/
def readPair? (readItem : List Char → Option (Value × List Char)) (text : List Char) :
    Option ((List String × String × Value) × List Char) := do
  let ((path, key), rest) ← readKey? text
  match rest with
  | '=' :: rest =>
    let (v, rest) ← readItem (dropSpaces rest)
    return ((path, key, v), rest)
  | _ => none

/-- The `entries` of a table on one line and those that follow them, up to its closing brace;
`steps` bounds their number. No comma may follow the last. -/
def readInlineEntries? (readItem : List Char → Option (Value × List Char)) :
    Nat → Entries → List Char → Option (Entries × List Char)
  | 0, _, _ => none
  | steps + 1, entries, text => do
    let ((path, key, v), rest) ← readPair? readItem text
    let entries ← entries.insert? path key v
    match dropSpaces rest with
    | ',' :: rest => readInlineEntries? readItem steps entries rest
    | '}' :: rest => return (entries, rest)
    | _ => none

/-- A table on one line, behind its opening brace. -/
def readInlineTable? (readItem : List Char → Option (Value × List Char)) (text : List Char) :
    Option (Value × List Char) :=
  match dropSpaces text with
  | '}' :: rest => some (.table [], rest)
  | _ => (readInlineEntries? readItem (text.length + 1) [] text).map fun (entries, rest) =>
    (.table (Node.toEntries entries), rest)

/-- A value with at most `depth` arrays and tables around any other. -/
def readValueWithin? : Nat → List Char → Option (Value × List Char)
  | depth + 1, '[' :: rest =>
    (readItems? (readValueWithin? depth) (rest.length + 1) rest).map fun (items, rest) =>
      (.array items, rest)
  | depth + 1, '\x7b' :: rest => readInlineTable? (readValueWithin? depth) rest
  | _, text => readScalar? text

def readValue? (text : List Char) : Option (Value × List Char) :=
  readValueWithin? (depthLimit - 1) text

/-! ## Documents -/

/-- A line of a document that says something. -/
inductive Line
  | pair (path : List String) (key : String) (v : Value)
  /-- The header of a table. -/
  | header (path : List String) (key : String)
  /-- The header of one of several tables. -/
  | repeated (path : List String) (key : String)

/-- The header of a table, behind its opening bracket. -/
def readHeader? (text : List Char) : Option (Line × List Char) :=
  match text with
  | '[' :: text => do
    let ((path, key), rest) ← readKey? text
    match rest with
    | ']' :: ']' :: rest => return (.repeated path key, rest)
    | _ => none
  | text => do
    let ((path, key), rest) ← readKey? text
    match rest with
    | ']' :: rest => return (.header path key, rest)
    | _ => none

/-- What a line says, if it says something, and what follows the line. -/
def readLine? (text : List Char) : Option (Option Line × List Char) :=
  match dropSpaces text with
  | [] => some (none, [])
  | '[' :: text => do
    let (line, rest) ← readHeader? text
    return (some line, ← readTrailing? rest)
  | c :: text =>
    match readTrailing? (c :: text) with
    | some rest => some (none, rest)
    | none => do
      let ((path, key, v), rest) ← readPair? readValue? (c :: text)
      return (some (.pair path key v), ← readTrailing? rest)

/-- The lines of a document that say something; `steps` bounds the number of all lines. -/
def readLines? : Nat → List Char → Option (List Line)
  | _, [] => some []
  | 0, _ => none
  | steps + 1, text => do
    let (line, rest) ← readLine? text
    return line.toList ++ (← readLines? steps rest)

/-- Keys with their values, below one header. -/
abbrev Pairs := List (List String × String × Value)

structure Block where
  header : Line
  pairs : Pairs

/-- The keys before the first header, and the blocks. -/
def blocks : List Line → Pairs × List Block
  | [] => ([], [])
  | .pair path key v :: lines =>
    let (pairs, later) := blocks lines
    ((path, key, v) :: pairs, later)
  | header :: lines =>
    let (pairs, later) := blocks lines
    ([], ⟨header, pairs⟩ :: later)

def Entries.insertAll? (pairs : Pairs) (entries : Entries) : Option Entries :=
  pairs.foldlM (fun entries (path, key, v) => entries.insert? path key v) entries

/-- Enters the block `b` into the `entries` of a document. -/
def Block.enter? (entries : Entries) (b : Block) : Option Entries :=
  match b.header with
  | .header path key => entries.define? path key (Entries.insertAll? b.pairs)
  | .repeated path key => entries.append? path key (Entries.insertAll? b.pairs)
  | .pair path key v => Entries.insertAll? ((path, key, v) :: b.pairs) entries

/-- A text without the mark that may stand in front of a file. -/
def dropByteOrderMark : List Char → List Char
  | '\uFEFF' :: text => text
  | text => text

/-- The keys and values of a document in the order in which they were made, if `text` is well
formed. -/
def Document.read? (text : String) : Option (List (String × Value)) := do
  let text := dropByteOrderMark text.toList
  let lines ← readLines? (text.length + 1) text
  let (pairs, later) := blocks lines
  let top ← Entries.insertAll? pairs []
  let entries ← later.foldlM Block.enter? top
  return Node.toEntries entries

end RegisterWrites.Toml
