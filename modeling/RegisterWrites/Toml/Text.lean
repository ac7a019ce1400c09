import RegisterWrites.Text.Character

/-!
# Blank space and text in TOML

What stands between the values of a TOML document, which is spaces, line ends and comments, and
the four kinds of text in it: on one line or on several, with escapes or without (`readText?`). A
reader takes the text that is left and returns what it read, if that counts, with what follows. One
that has passed the opening quotes of a text returns its characters and what follows the closing
quotes.
-/

namespace RegisterWrites.Toml

/-! ## Blank space -/

def isSpace (c : Char) : Bool := c = ' ' || c = '\t'

/-- A character that a line of text may hold: a tab, or any character that is no ASCII control
character. -/
def isPlain (c : Char) : Bool := c = '\t' || (0x20 ≤ c.val && c.val ≠ 0x7F)

def dropSpaces (text : List Char) : List Char := text.dropWhile isSpace

/-- What follows the end of a line: a line feed, or a carriage return and a line feed. -/
def readLineEnd? : List Char → Option (List Char)
  | '\n' :: rest => some rest
  | '\r' :: '\n' :: rest => some rest
  | _ => none

/-- What follows a comment, up to the end of its line. -/
def dropComment : List Char → List Char
  | '#' :: rest => rest.dropWhile isPlain
  | text => text

/-- What follows the rest of the line of a value: spaces, a comment, and the end of the line or of
the document. -/
def readTrailing? (text : List Char) : Option (List Char) :=
  match dropComment (dropSpaces text) with
  | [] => some []
  | rest => readLineEnd? rest

/-- Drops spaces, line ends and comments, as they may stand between the items of an array; `steps`
bounds the number of lines. -/
def dropFillerWithin : Nat → List Char → List Char
  | 0, text => text
  | steps + 1, text =>
    match readLineEnd? (dropComment (dropSpaces text)) with
    | some rest => dropFillerWithin steps rest
    | none => dropSpaces text

def dropFiller (text : List Char) : List Char := dropFillerWithin text.length text

/-! ## Text -/

/-- The character of the code that `digits` denote to base 16. A code that is no character's is
refused. -/
def charOfCode? (digits : List Char) : Option Char :=
  let n := Text.hexNumber digits
  if digits.all Text.isHexDigit ∧ n.isValidChar then some (Char.ofNat n) else none

/-- The character for which a letter stands behind a backslash. -/
def charOfLetter? : Char → Option Char
  | 'b' => some '\x08'
  | 't' => some '\t'
  | 'n' => some '\n'
  | 'f' => some '\x0C'
  | 'r' => some '\r'
  | '"' => some '"'
  | '\\' => some '\\'
  | _ => none

/-- The character that an escape stands for, behind the backslash. -/
def readEscape? : List Char → Option (Char × List Char)
  | 'u' :: rest => (charOfCode? (rest.take 4)).bind fun c =>
    if (rest.take 4).length = 4 then some (c, rest.drop 4) else none
  | 'U' :: rest => (charOfCode? (rest.take 8)).bind fun c =>
    if (rest.take 8).length = 8 then some (c, rest.drop 8) else none
  | letter :: rest => (charOfLetter? letter).map (·, rest)
  | [] => none

/-- The rest of a text on one line with escapes, behind its opening quote; `steps` bounds its
length. -/
def readBasicWithin? : Nat → List Char → Option (List Char × List Char)
  | 0, _ => none
  | _ + 1, [] => none
  | _ + 1, '"' :: rest => some ([], rest)
  | steps + 1, '\\' :: rest => do
    let (c, rest) ← readEscape? rest
    let (cs, rest) ← readBasicWithin? steps rest
    return (c :: cs, rest)
  | steps + 1, c :: rest =>
    if isPlain c then (readBasicWithin? steps rest).map fun (cs, rest) => (c :: cs, rest)
    else none

/-- The rest of a text on one line without escapes, behind its opening quote. -/
def readLiteral? (text : List Char) : Option (List Char × List Char) :=
  match text.dropWhile fun c => isPlain c && c ≠ '\'' with
  | '\'' :: rest => some (text.takeWhile fun c => isPlain c && c ≠ '\'', rest)
  | _ => none

def endsLine (text : List Char) : Bool := (readLineEnd? (dropSpaces text)).isSome

/-- Drops spaces and line ends; `steps` bounds the number of lines. -/
def dropBreaksWithin : Nat → List Char → List Char
  | 0, text => text
  | steps + 1, text =>
    match readLineEnd? (dropSpaces text) with
    | some rest => dropBreaksWithin steps rest
    | none => dropSpaces text

/-- What a run of `quote` does in a text on several lines: up to two belong to the text; three close
it, and up to two more before those belong to the text. -/
def closeQuotes? (quote : Char) (text : List Char) : Option (List Char × List Char) :=
  let run := (text.takeWhile (· = quote)).length
  if run < 3 then none
  else
    let kept := min (run - 3) 2
    some (List.replicate kept quote, text.drop (kept + 3))

/-- The rest of a text on several lines with escapes; `steps` bounds its length. A backslash at the
end of a line takes away the break and all the space before the next character. -/
def readMultilineBasicWithin? : Nat → List Char → Option (List Char × List Char)
  | 0, _ => none
  | _ + 1, [] => none
  | steps + 1, '\\' :: rest =>
    if endsLine rest then
      readMultilineBasicWithin? steps (dropBreaksWithin rest.length rest)
    else do
      let (c, rest) ← readEscape? rest
      let (cs, rest) ← readMultilineBasicWithin? steps rest
      return (c :: cs, rest)
  | steps + 1, c :: rest =>
    match closeQuotes? '"' (c :: rest) with
    | some closed => some closed
    | none =>
      match readLineEnd? (c :: rest) with
      | some rest => (readMultilineBasicWithin? steps rest).map fun (cs, rest) => ('\n' :: cs, rest)
      | none =>
        if isPlain c then
          (readMultilineBasicWithin? steps rest).map fun (cs, rest) => (c :: cs, rest)
        else none

/-- The rest of a text on several lines without escapes; `steps` bounds its length. -/
def readMultilineLiteralWithin? : Nat → List Char → Option (List Char × List Char)
  | 0, _ => none
  | _ + 1, [] => none
  | steps + 1, c :: rest =>
    match closeQuotes? '\'' (c :: rest) with
    | some closed => some closed
    | none =>
      match readLineEnd? (c :: rest) with
      | some rest =>
        (readMultilineLiteralWithin? steps rest).map fun (cs, rest) => ('\n' :: cs, rest)
      | none =>
        if isPlain c then
          (readMultilineLiteralWithin? steps rest).map fun (cs, rest) => (c :: cs, rest)
        else none

/-- A text of several lines begins behind the line end that may follow its quotes. -/
def dropFirstLineEnd (text : List Char) : List Char := (readLineEnd? text).getD text

/-- A text on one line, as it may also stand for a key. -/
def readLineText? : List Char → Option (List Char × List Char)
  | '"' :: rest => readBasicWithin? (rest.length + 1) rest
  | '\'' :: rest => readLiteral? rest
  | _ => none

def readText? : List Char → Option (List Char × List Char)
  | '"' :: '"' :: '"' :: rest => readMultilineBasicWithin? (rest.length + 1) (dropFirstLineEnd rest)
  | '\'' :: '\'' :: '\'' :: rest =>
    readMultilineLiteralWithin? (rest.length + 1) (dropFirstLineEnd rest)
  | text => readLineText? text

end RegisterWrites.Toml
