import RegisterWrites.Text.Width.Character

/-!
# Ligatures

Letters of some scripts that take fewer columns together than apart. A ligature is known
by its last letter (`Ligature.ending?`); the characters before that letter may complete
it (`Ligature.extend?`), also over marks that only ask for a shape.
-/

namespace RegisterWrites.Text.Width

/-- Whether a character is an Arabic letter with the shape of alef. -/
def isAlef (c : Char) : Bool :=
  inRanges [(0x622, 0x623), (0x625, 0x625), (0x627, 0x627), (0x671, 0x673), (0x675, 0x675),
    (0x773, 0x774), (0x870, 0x882)] c

/-- Whether a character is an Arabic letter with the shape of lam. -/
def isLam (c : Char) : Bool :=
  inRanges [(0x644, 0x644), (0x6B5, 0x6B8), (0x76A, 0x76A), (0x8A6, 0x8A6), (0x8C7, 0x8C7)] c

/-- Whether a character is a Khmer letter that is written below another one. -/
def isSubscriptKhmer (c : Char) : Bool :=
  inRanges [(0x1780, 0x1782), (0x1784, 0x1787), (0x1789, 0x178C), (0x178E, 0x1793),
    (0x1795, 0x1798), (0x179B, 0x179D), (0x17A0, 0x17A0), (0x17A2, 0x17A2), (0x17A7, 0x17A7),
    (0x17AB, 0x17AC), (0x17AF, 0x17AF)] c

/-- Whether a character is a Tifinagh consonant. -/
def isTifinaghConsonant (c : Char) : Bool := inRanges [(0x2D31, 0x2D65), (0x2D6F, 0x2D6F)] c

/-- A ligature of which the last letter has been read, from the end of a text. Where it needs a
joiner before that letter, `joined` says whether the joiner has been read as well. -/
inductive Ligature
  /-- Arabic: an alef, which a lam takes in. -/
  | alef
  /-- Hebrew: a lamed, which an alef is joined to. -/
  | lamed (joined : Bool)
  /-- Khmer: a letter that stands below the one before it if a coeng sign is between them. -/
  | subscriptKhmer
  /-- Buginese: a letter ya, which the vowel signs before it are joined to. -/
  | ya (joined : Bool)
  /-- Buginese: a joined ya with the vowel sign i before it. -/
  | yaWithVowel
  /-- Tifinagh: a consonant, which another is joined to. -/
  | tifinagh (joined : Bool)
  /-- Tifinagh: a consonant with the sign before it that binds another. -/
  | boundTifinagh
  /-- Lisu: the second letter of a tone. -/
  | lisuTone
  /-- Old Turkic: a letter i, which the letter ec is joined to. -/
  | orkhonI (joined : Bool)
  deriving DecidableEq, Repr

namespace Ligature

/-- The ligature that `c` may end. -/
def ending? (c : Char) : Option Ligature :=
  if isAlef c then some .alef
  else if c = '\u05DC' then some (.lamed false)
  else if isSubscriptKhmer c then some .subscriptKhmer
  else if c = '\u1A10' then some (.ya false)
  else if isTifinaghConsonant c then some (.tifinagh false)
  else if inRanges [(0xA4FC, 0xA4FD)] c then some .lisuTone
  else if c.val = 0x10C03 then some (.orkhonI false)
  else none

/-- The ligature with a joiner (U+200D) before what has been read of it. -/
def join : Ligature → Ligature
  | lamed _ => lamed true
  | ya _ => ya true
  | tifinagh _ => tifinagh true
  | orkhonI _ => orkhonI true
  | l => l

/-- What the letter `c` adds to the columns of a ligature of which it becomes a part, and what is
left to be completed. There is no answer for a letter that becomes no part of it. -/
def attach? (c : Char) : Ligature → Option (Int × Option Ligature)
  | alef => if isLam c then some (0, none) else none
  | lamed joined => if joined && c == '\u05D0' then some (0, none) else none
  | subscriptKhmer => if c = '\u17D2' then some (-1, none) else none
  | ya joined => if joined && c == '\u1A17' then some (0, some yaWithVowel) else none
  | yaWithVowel => if c = '\u1A15' then some (0, none) else none
  | tifinagh joined =>
    if c = '\u2D7F' then some (1, some boundTifinagh)
    else if joined && isTifinaghConsonant c then some (0, none)
    else none
  | boundTifinagh => if isTifinaghConsonant c then some (-1, none) else none
  | lisuTone => if inRanges [(0xA4F8, 0xA4FB)] c then some (0, none) else none
  | orkhonI joined => if joined && c.val == 0x10C32 then some (0, none) else none

/-- Whether a ligature reaches over the mark `c`. Lam and alef join over every transparent mark, the
others over those of `ligatureMarkRanges`. -/
def reachesOver (c : Char) : Ligature → Bool
  | alef => isTransparent c
  | _ => isLigatureMark c

/-- What `c` adds to the columns of the ligature `l`, and what is left to be completed: a mark over
which `l` reaches adds nothing, a letter what `attach?` says. -/
def extend? (c : Char) (l : Ligature) : Option (Int × Option Ligature) :=
  if l.reachesOver c then some (0, some (if c = '\u200D' then l.join else l))
  else l.attach? c

end Ligature

end RegisterWrites.Text.Width
