/-!
# The extent and the lines of texts

How much room a text takes: its size in bytes as UTF-8 (`byteLength`), its line breaks
(`lineBreaks`) and its lines (`lines`). The first two are measures on lists of characters that
add up over `++`, and a byte offset splits a text exactly where it falls between two characters
(`splitAtByte?`). A line ends with a line feed, which may have a carriage return before it;
neither belongs to the line. A carriage return that no line feed follows is a character like any
other.
-/

namespace RegisterWrites.Text

/-! ## Bytes and line breaks -/

def byteLength : List Char → Nat
  | [] => 0
  | c :: cs => c.utf8Size + byteLength cs

def lineBreaks (cs : List Char) : Nat := cs.count '\n'

/-- The text before the byte `offset` and the text after it. There is no answer for an offset past
the end or inside a character. -/
def splitAtByte? : Nat → List Char → Option (List Char × List Char)
  | 0, cs => some ([], cs)
  | _ + 1, [] => none
  | offset + 1, c :: cs =>
    if c.utf8Size ≤ offset + 1 then
      (splitAtByte? (offset + 1 - c.utf8Size) cs).map fun (before, rest) => (c :: before, rest)
    else none

@[simp] theorem byteLength_nil : byteLength [] = 0 := rfl

@[simp] theorem byteLength_cons (c : Char) (cs : List Char) :
    byteLength (c :: cs) = c.utf8Size + byteLength cs := rfl

@[simp] theorem byteLength_append (a b : List Char) :
    byteLength (a ++ b) = byteLength a + byteLength b := by
  induction a with
  | nil => simp
  | cons c a ih => simp [ih, Nat.add_assoc]

/-- The measure `byteLength` counts what `String.utf8ByteSize` counts. -/
theorem byteLength_toList (s : String) : byteLength s.toList = s.utf8ByteSize := by
  have h : ∀ cs, byteLength cs = (String.ofList cs).utf8ByteSize := by
    intro cs
    induction cs with
    | nil => simp
    | cons c cs ih =>
      rw [byteLength_cons, ih, ← List.singleton_append, String.ofList_append,
        String.utf8ByteSize_append, ← String.singleton_eq_ofList, String.utf8ByteSize_singleton]
  rw [h, String.ofList_toList]

@[simp] theorem lineBreaks_nil : lineBreaks [] = 0 := rfl

@[simp] theorem lineBreaks_append (a b : List Char) :
    lineBreaks (a ++ b) = lineBreaks a + lineBreaks b := by
  simp [lineBreaks]

/-- What `splitAtByte?` gives is a split of `cs`, with `offset` bytes in `before`. -/
theorem splitAtByte?_eq_some {offset : Nat} {cs before rest : List Char}
    (h : splitAtByte? offset cs = some (before, rest)) :
    before ++ rest = cs ∧ byteLength before = offset := by
  fun_induction splitAtByte? offset cs generalizing before with
  | case1 cs => simp_all
  | case2 => simp at h
  | case3 offset c cs hc ih =>
    simp only [Option.map_eq_some_iff, Prod.exists, Prod.mk.injEq] at h
    obtain ⟨b, r, hb, rfl, rfl⟩ := h
    obtain ⟨rfl, hl⟩ := ih hb
    simp only [List.cons_append, byteLength_cons, true_and]
    omega
  | case4 => simp at h

/-- Every place between two characters is found by the `byteLength` of what stands before it. -/
theorem splitAtByte?_append (before rest : List Char) :
    splitAtByte? (byteLength before) (before ++ rest) = some (before, rest) := by
  induction before with
  | nil => simp [splitAtByte?]
  | cons c cs ih =>
    have hc := c.utf8Size_pos
    obtain ⟨n, hn⟩ : ∃ n, c.utf8Size + byteLength cs = n + 1 :=
      ⟨c.utf8Size + byteLength cs - 1, by omega⟩
    rw [byteLength_cons, hn, List.cons_append, splitAtByte?, if_pos (by omega), ← hn,
      Nat.add_sub_cancel_left, ih]
    rfl

/-! ## Lines -/

/-- The lines of a text that begins with `c`, from those of its rest. -/
def consLine (c : Char) : List (List Char) → List (List Char)
  | [] => [[c]]
  | line :: rest => (c :: line) :: rest

/-- The lines of a text. A line feed at its very end begins no further line. -/
def lines : List Char → List (List Char)
  | [] => []
  | '\n' :: cs => [] :: lines cs
  | '\r' :: '\n' :: cs => [] :: lines cs
  | c :: cs => consLine c (lines cs)

/-- What stands behind the last line feed of `cs`, or all of `cs` if there is none. -/
def lastLine (cs : List Char) : List Char :=
  (cs.reverse.takeWhile (· ≠ '\n')).reverse

/-- The `line` without the carriage return at its end, if one stands there. -/
def dropCarriageReturn (line : List Char) : List Char :=
  if line.getLast? = some '\r' then line.dropLast else line

/-- The first line of `cs`, without what ends it. -/
def firstLine (cs : List Char) : List Char :=
  let line := cs.takeWhile (· ≠ '\n')
  if '\n' ∈ cs then dropCarriageReturn line else line

/-- The line on which the place between `before` and `rest` lies. -/
def lineAround (before rest : List Char) : List Char :=
  firstLine (lastLine before ++ rest)

/-- A text that is not empty and holds no line feed is its only line. -/
theorem lines_of_notMem {cs : List Char} (hne : cs ≠ []) (h : '\n' ∉ cs) : lines cs = [cs] := by
  fun_induction lines cs with
  | case1 => contradiction
  | case2 => simp at h
  | case3 => simp at h
  | case4 c cs _ _ ih =>
    by_cases hcs : cs = []
    · simp [hcs, lines, consLine]
    · rw [ih hcs fun hm => h (List.mem_cons_of_mem c hm), consLine]

/-! ## Padding -/

def spaces (count : Nat) : String := String.ofList (List.replicate count ' ')

/-- Appends spaces up to `width` characters; a longer `text` stays as it is. -/
def padRight (width : Nat) (text : String) : String := text ++ spaces (width - text.length)

theorem length_spaces (count : Nat) : (spaces count).length = count := by
  simp [spaces]

end RegisterWrites.Text
