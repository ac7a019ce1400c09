import RegisterWrites.Decimal
import RegisterWrites.Text.Character

/-!
# Numbers, dates and times in TOML

The numbers of a TOML document (`readInteger?`, `readFloat?`), and its dates and times
(`readMoment?`). Digits of a number may be set apart by underscores, each of which stands between
two digits. Integers must fit in 64 bits with a sign; of floating point numbers only the positive
ones may not be too large. A date must be one of the calendar.
-/

namespace RegisterWrites.Toml

open RegisterWrites.Decimal (Binary64 Floating)

/-! ## Numbers -/

/-- More digits, each perhaps behind one underscore, and what follows them. There is no answer where
an underscore has no digit behind it. -/
def readMoreDigits? (isDigit : Char → Bool) : List Char → Option (List Char × List Char)
  | [] => some ([], [])
  | '_' :: d :: rest =>
    if isDigit d then (readMoreDigits? isDigit rest).map fun (ds, rest) => (d :: ds, rest)
    else none
  | c :: rest =>
    if isDigit c then (readMoreDigits? isDigit rest).map fun (ds, rest) => (c :: ds, rest)
    else if c = '_' then none
    else some ([], c :: rest)

/-- Digits, at least one, with underscores between them. -/
def readDigits? (isDigit : Char → Bool) : List Char → Option (List Char × List Char)
  | [] => none
  | c :: rest =>
    if isDigit c then (readMoreDigits? isDigit rest).map fun (ds, rest) => (c :: ds, rest)
    else none

/-- Whether a minus stands in front, and what follows the sign, if there is one. -/
def readSign : List Char → Bool × List Char
  | '-' :: rest => (true, rest)
  | '+' :: rest => (false, rest)
  | text => (false, text)

/-- The digits of a decimal integer: a zero alone, or digits of which the first is none. -/
def readWhole? : List Char → Option (List Char × List Char)
  | '0' :: rest => some (['0'], rest)
  | text => readDigits? Char.isDigit text

/-- The number that `digits` denote to base 10. -/
def decimalNumber (digits : List Char) : Nat := Nat.ofDigitChars 10 digits 0

/-- The integer `n`, if it fits in 64 bits with a sign. -/
def bounded? (n : Int) : Option Int :=
  if Int64.minValue.toInt ≤ n ∧ n ≤ Int64.maxValue.toInt then some n else none

/-- An integer to `base` 16, 8 or 2, behind its mark. -/
def readRadix? (base : Nat) (isDigit : Char → Bool) (text : List Char) :
    Option (Int × List Char) := do
  let (digits, rest) ← readDigits? isDigit text
  let n ← bounded? (digits.foldl (fun (n : Nat) d => base * n + Text.hexValue d) 0 : Nat)
  return (n, rest)

def readInteger? : List Char → Option (Int × List Char)
  | '0' :: 'x' :: rest => readRadix? 16 Text.isHexDigit rest
  | '0' :: 'o' :: rest => readRadix? 8 (fun c => '0' ≤ c && c ≤ '7') rest
  | '0' :: 'b' :: rest => readRadix? 2 (fun c => c = '0' || c = '1') rest
  | text => do
    let (negative, text) := readSign text
    let (digits, rest) ← readWhole? text
    let n : Int := decimalNumber digits
    return (← bounded? (if negative then -n else n), rest)

/-- The digits behind the point of a number; none if there is no point. -/
def readFraction? : List Char → Option (List Char × List Char)
  | '.' :: rest => readDigits? Char.isDigit rest
  | text => some ([], text)

/-- The exponent of a number, if there is one. -/
def readExponent? : List Char → Option (Option Int × List Char)
  | c :: rest =>
    if c = 'e' ∨ c = 'E' then do
      let (negative, rest) := readSign rest
      let (digits, rest) ← readDigits? Char.isDigit rest
      let n : Int := decimalNumber digits
      return (some (if negative then -n else n), rest)
    else some (none, c :: rest)
  | [] => some (none, [])

/-- A floating point number: a decimal integer with a fraction, an exponent or both. -/
def readDecimal? (text : List Char) : Option (Floating × List Char) := do
  let (negative, text) := readSign text
  let (whole, text) ← readWhole? text
  let (fraction, text) ← readFraction? text
  let (exponent, rest) ← readExponent? text
  if fraction = [] ∧ exponent = none then none
  else
    let power := exponent.getD 0 - fraction.length
    match Binary64.ofDecimal? (decimalNumber (whole ++ fraction)) power with
    | some magnitude => return (.finite negative magnitude, rest)
    | none => if negative then return (.infinite true, rest) else none

/-- An infinity or what is no number, by name. -/
def readNamedNumber? (text : List Char) : Option (Floating × List Char) :=
  let (negative, text) := readSign text
  match text with
  | 'i' :: 'n' :: 'f' :: rest => some (.infinite negative, rest)
  | 'n' :: 'a' :: 'n' :: rest => some (.notANumber, rest)
  | _ => none

def readFloat? (text : List Char) : Option (Floating × List Char) :=
  (readDecimal? text).orElse fun _ => readNamedNumber? text

/-! ## Dates and times -/

/-- A number of exactly `count` digits, from `low` to `high`. -/
def readFixed? (count low high : Nat) (text : List Char) : Option (Nat × List Char) :=
  let digits := text.take count
  let n := Nat.ofDigitChars 10 digits 0
  if digits.length = count ∧ digits.all Char.isDigit ∧ low ≤ n ∧ n ≤ high then
    some (n, text.drop count)
  else none

def readMark? (mark : Char) : List Char → Option (List Char)
  | c :: rest => if c = mark then some rest else none
  | [] => none

def daysOfMonth (year month : Nat) : Nat :=
  if month = 2 then
    if year % 4 = 0 ∧ (year % 100 ≠ 0 ∨ year % 400 = 0) then 29 else 28
  else if month = 4 ∨ month = 6 ∨ month = 9 ∨ month = 11 then 30
  else 31

def readDate? (text : List Char) : Option (List Char) := do
  let (year, text) ← readFixed? 4 0 9999 text
  let text ← readMark? '-' text
  let (month, text) ← readFixed? 2 1 12 text
  let text ← readMark? '-' text
  let (_, text) ← readFixed? 2 1 (daysOfMonth year month) text
  return text

/-- What follows the fraction of a second, if there is one. -/
def dropSecondFraction : List Char → List Char
  | '.' :: d :: rest => if d.isDigit then rest.dropWhile Char.isDigit else '.' :: d :: rest
  | text => text

/-- What follows a time; a minute may have a leap second. -/
def readTime? (text : List Char) : Option (List Char) := do
  let (_, text) ← readFixed? 2 0 23 text
  let text ← readMark? ':' text
  let (_, text) ← readFixed? 2 0 59 text
  let text ← readMark? ':' text
  let (_, text) ← readFixed? 2 0 60 text
  return dropSecondFraction text

/-- What follows the offset of a time from that of the zero meridian. -/
def readOffset? : List Char → Option (List Char)
  | 'Z' :: rest => some rest
  | 'z' :: rest => some rest
  | sign :: rest =>
    if sign = '+' ∨ sign = '-' then do
      let (_, rest) ← readFixed? 2 0 23 rest
      let rest ← readMark? ':' rest
      let (_, rest) ← readFixed? 2 0 59 rest
      return rest
    else none
  | [] => none

/-- What follows the time behind a date, and the offset of that time if it has one. -/
def readDayTime? : List Char → Option (List Char)
  | mark :: rest =>
    if mark = 'T' ∨ mark = 't' ∨ mark = ' ' then
      (readTime? rest).map fun rest => (readOffset? rest).getD rest
    else none
  | [] => none

def readMoment? (text : List Char) : Option (List Char) :=
  match readDate? text with
  | some rest => some ((readDayTime? rest).getD rest)
  | none => readTime? text

end RegisterWrites.Toml
