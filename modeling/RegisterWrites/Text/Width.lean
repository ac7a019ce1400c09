import RegisterWrites.Text.Width.Character
import RegisterWrites.Text.Width.Emoji
import RegisterWrites.Text.Width.Ligature

/-!
# The width of texts

How many columns of a display a text takes (`Width.columns`). A character takes none, one or
two, and one sign takes three (`Width.charColumns`); a character that makes one picture or one
ligature with what follows it may add more or fewer. So a text is read from its end, and of
what has been read a `Width.Context` is kept for the character before it.

A terminal does not show all of a text (`shownWidth`): an escape sequence that sets a style is an
escape character, a bracket and all up to the letter `m`, and what it holds behind the escape
character takes no column. Main statement: a text of characters up to U+00A0 without escape
characters shows as many columns as it has characters (`shownWidth_of_le`).
-/

namespace RegisterWrites.Text.Width

/-- The last character up to which every character takes one column. -/
def lastNarrow : UInt32 := 0xA0

/-- The columns of `c` where it stands alone. -/
def charColumns (c : Char) : Nat :=
  if c.val ≤ lastNarrow then 1
  else if c = '\u17D8' then 3
  else if c = '\u17A4' || isWide c then 2
  else if isMark c then 0
  else 1

/-- What follows a character, as far as the character may become a part of it. -/
inductive Following
  /-- Nothing, or what no character becomes a part of. -/
  | plain
  /-- An emoji, which other emoji may complete. -/
  | emoji (tail : EmojiTail)
  | ligature (l : Ligature)
  deriving DecidableEq, Repr

namespace Following

/-- What follows the character before `c` if `c` becomes a part of nothing. -/
def of (c : Char) : Following :=
  match EmojiTail.of? c, Ligature.ending? c with
  | some tail, _ => emoji tail
  | none, some l => ligature l
  | none, none => plain

/-- What `c` adds to the columns of what follows it, of which it becomes a part, and what then
follows the character before it. -/
def extend? (c : Char) : Following → Option (Int × Following)
  | plain => none
  | emoji tail => (tail.extend? c).map fun (added, tail) => (added, emoji tail)
  | ligature l => (l.extend? c).map fun (added, l) => (added, l.elim plain ligature)

/-- What is left to be completed across a selector that is no part of it: a `ligature` reaches over
selectors, all else does not. -/
def ligatureOnly : Following → Following
  | ligature l => ligature l
  | plain | emoji _ => plain

/-- What is left to be completed across a selector of the emoji form, which the emoji before a
joiner or a keycap may have. -/
def behindEmojiForm : Following → Following
  | emoji tail => if tail.isJoined then emoji tail else plain
  | f => f.ligatureOnly

/-- Whether an emoji before it becomes a part of the same picture. -/
def isJoined : Following → Bool
  | emoji tail => tail.isJoined
  | plain | ligature _ => false

end Following

/-- The form that a selector behind a character asks for. -/
inductive Form
  | emoji
  | text
  deriving DecidableEq, Repr

def Form.ofSelector? (c : Char) : Option Form :=
  if c = '\uFE0F' then some .emoji else if c = '\uFE0E' then some .text else none

/-- What follows a character, and the form for which the selector behind it asks. -/
structure Context where
  following : Following
  form : Option Form
  deriving DecidableEq, Repr

namespace Context

/-- The context of `following` alone, without a selector. -/
def ofFollowing (following : Following) : Context := ⟨following, none⟩

def atEnd : Context := ofFollowing .plain

/-- The context `ctx` where the form for which it asks has no effect: only a ligature reaches over
the selector. -/
def withoutForm (ctx : Context) : Context :=
  if ctx.form == none then ctx else ofFollowing ctx.following.ligatureOnly

/-- The columns that `c` adds before `following`, where no form is asked for, and the context of the
character before it. -/
def extend (c : Char) (following : Following) : Int × Context :=
  match following.extend? c with
  | some (added, rest) => (added, ofFollowing rest)
  | none => (charColumns c, ofFollowing (.of c))

/-- The columns that `c` adds in the context `ctx`, and the context of the character before it. -/
def add (ctx : Context) (c : Char) : Int × Context :=
  if ctx.form == some .emoji && hasTwoForms c then
    (if ctx.following.isJoined then 0 else 2, ofFollowing (.emoji .whole))
  else
    let ctx := if ctx.form == some .emoji then ctx.withoutForm else ctx
    if c.val ≤ lastNarrow then (1, atEnd)
    else
      match Form.ofSelector? c with
      | some .emoji => (0, ⟨ctx.following.behindEmojiForm, some .emoji⟩)
      | some .text => (0, ⟨ctx.following.ligatureOnly, some .text⟩)
      | none =>
        if ctx.form == some .text && hasNarrowText c then (1, atEnd)
        else extend c ctx.withoutForm.following

end Context

/-- The columns of a text, and the context of a character before it. -/
def measure : List Char → Int × Context
  | [] => (0, .atEnd)
  | c :: cs =>
    let (rest, ctx) := measure cs
    let (added, before) := ctx.add c
    (rest + added, before)

def columns (cs : List Char) : Nat := (measure cs).1.toNat

/-- Where no form is asked for, a character up to `lastNarrow` takes one column, whatever follows
it. -/
theorem Context.add_of_le {c : Char} {ctx : Context} (hf : ctx.form = none)
    (h : c.val ≤ lastNarrow) : ctx.add c = (1, atEnd) := by
  simp [Context.add, hf, h]

theorem measure_of_le {cs : List Char} (h : ∀ c ∈ cs, c.val ≤ lastNarrow) :
    measure cs = ((cs.length : Int), .atEnd) := by
  induction cs with
  | nil => rfl
  | cons c cs ih =>
    rw [measure, ih fun x hx => h x (List.mem_cons_of_mem c hx)]
    have hc : Context.atEnd.add c = (1, .atEnd) :=
      Context.add_of_le rfl (h c List.mem_cons_self)
    simp [hc]

/-- A text of characters up to `lastNarrow` takes as many columns as it has characters. -/
theorem columns_of_le {cs : List Char} (h : ∀ c ∈ cs, c.val ≤ lastNarrow) :
    columns cs = cs.length := by
  simp [columns, measure_of_le h]

end RegisterWrites.Text.Width

namespace RegisterWrites.Text

/-! ## Escape sequences -/

/-- The character that begins an escape sequence. -/
def escape : Char := '\x1B'

/-- Where a character stands: outside of escape sequences, or at one of the places in one. -/
inductive EscapePlace
  | outside
  /-- Right behind an escape character. -/
  | begun
  /-- Behind the bracket of an escape sequence. -/
  | inside
  deriving DecidableEq, Repr

def isControl (c : Char) : Bool := c.val < 0x20 || 0x7F ≤ c.val && c.val < 0xA0

/-- The columns that `c` would take as a part of an escape sequence: none or one. -/
def unshown (c : Char) : Nat := if !isControl c && 0 < Width.charColumns c then 1 else 0

/-- The columns of a text that belong to escape sequences, read from the given place on. -/
def escapeWidth : EscapePlace → List Char → Nat
  | _, [] => 0
  | .outside, c :: cs => escapeWidth (if c = escape then .begun else .outside) cs
  | .begun, c :: cs =>
    if c = '[' then unshown c + escapeWidth .inside cs else escapeWidth .outside cs
  | .inside, c :: cs => unshown c + escapeWidth (if c = 'm' then .outside else .inside) cs

/-- The number of columns that `text` shows: its `columns` without those of its escape sequences. -/
def shownWidth (text : String) : Nat :=
  Width.columns text.toList - escapeWidth .outside text.toList

theorem escapeWidth_of_notMem {cs : List Char} (h : escape ∉ cs) :
    escapeWidth .outside cs = 0 := by
  induction cs with
  | nil => rfl
  | cons c cs ih =>
    rw [List.mem_cons, not_or] at h
    rw [escapeWidth, if_neg (Ne.symm h.1), ih h.2]

/-- A `text` of characters up to U+00A0 without `escape` shows each of them in a column of its
own. -/
theorem shownWidth_of_le {text : String} (h : ∀ c ∈ text.toList, c.val ≤ Width.lastNarrow)
    (he : escape ∉ text.toList) : shownWidth text = text.length := by
  rw [shownWidth, Width.columns_of_le h, escapeWidth_of_notMem he, String.length_toList]
  rfl

end RegisterWrites.Text
