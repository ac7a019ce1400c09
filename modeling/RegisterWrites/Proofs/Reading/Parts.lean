import RegisterWrites.Document.Reader
import RegisterWrites.Proofs.Text.Run

/-!
# What the readers of an instruction accept

Every reader of a part of an instruction is greedy and gives nothing back. Each is described
here without its code: it succeeds exactly where the text is an admitted part followed by
something at which the part ends. The statement at the end, `readStatement_eq_ok_iff`, says it
of a whole instruction, and nothing below this module is unfolded above it.

Inside an instruction a part always ends where the grammar says so, because a literal is
followed by a blank or a comma and a blank is followed by a symbol, a key or a literal. Only
the last literal meets text from outside the instruction (`HexLiteral.EndsBefore`).
-/

namespace RegisterWrites

open Text

/-! ## Where a literal ends -/

namespace HexLiteral

/-- Whether `c` makes a mark of a zero in front of it. -/
def isMarkLetter (c : Char) : Bool := c = 'x' || c = 'X'

/-- The text `rest` does not carry on with the literal `l` in front of it: it begins with no digit,
nor with a letter that would make a mark of a lone zero. -/
def EndsBefore (l : HexLiteral) (rest : List Char) : Prop :=
  EndsRun isHexDigit rest ∧ (l.text.toList = ['0'] → EndsRun isMarkLetter rest)

variable {l : HexLiteral} {a b : List Char}

theorem isMarkLetter_iff {x : Char} : isMarkLetter x = true ↔ x = 'x' ∨ x = 'X' := by
  rw [isMarkLetter, Bool.or_eq_true, decide_eq_true_eq, decide_eq_true_eq]

theorem endsBefore_nil (l : HexLiteral) : l.EndsBefore [] :=
  ⟨endsRun_nil, fun _ => endsRun_nil⟩

theorem EndsBefore.of_append (h : l.EndsBefore (a ++ b)) : l.EndsBefore a :=
  ⟨h.1.of_append, fun hl => (h.2 hl).of_append⟩

theorem EndsBefore.append (ha : l.EndsBefore a) (hb : a = [] → l.EndsBefore b) :
    l.EndsBefore (a ++ b) :=
  ⟨ha.1.append fun h => (hb h).1, fun hl => (ha.2 hl).append fun h => (hb h).2 hl⟩

theorem endsBefore_cons {c : Char} {rest : List Char} (hd : isHexDigit c = false)
    (hx : isMarkLetter c = false) : l.EndsBefore (c :: rest) :=
  ⟨endsRun_cons.mpr hd, fun _ => endsRun_cons.mpr hx⟩

theorem endsBefore_of_isBlank {c : Char} {rest : List Char} (h : isBlank c = true) :
    l.EndsBefore (c :: rest) := by
  refine endsBefore_cons (isHexDigit_of_isBlank h) ?_
  rw [Bool.eq_false_iff]
  intro hx
  rcases isMarkLetter_iff.mp hx with rfl | rfl
  · exact absurd h (by decide)
  · exact absurd h (by decide)

/-- The marks that a literal may bear; the first is none at all. -/
def marks : List (List Char) := [[], ['0', 'x'], ['0', 'X']]

theorem mem_marks_iff {mark : List Char} :
    mark ∈ marks ↔ mark = [] ∨ mark = ['0', 'x'] ∨ mark = ['0', 'X'] := by
  simp [marks]

theorem splitMark_mem_marks (text : List Char) : (splitMark text).1 ∈ marks := by
  unfold splitMark
  split <;> simp [marks]

theorem splitMark_of_isMarkLetter {x : Char} (hx : isMarkLetter x = true) (rest : List Char) :
    splitMark ('0' :: x :: rest) = (['0', x], rest) := by
  rcases isMarkLetter_iff.mp hx with rfl | rfl <;> rfl

/-- No mark is made of `digits` and what follows them. -/
theorem digits_append_ne {digits rest tail : List Char} {x : Char} (hx : isMarkLetter x = true)
    (hne : digits ≠ []) (hdigits : ∀ c ∈ digits, isHexDigit c = true)
    (hrest : digits = ['0'] → EndsRun isMarkLetter rest) : digits ++ rest ≠ '0' :: x :: tail := by
  intro h
  match digits with
  | [] => exact hne rfl
  | [c] =>
    simp only [List.cons_append, List.nil_append, List.cons.injEq] at h
    obtain ⟨rfl, rfl⟩ := h
    rw [endsRun_cons.mp (hrest rfl)] at hx
    cases hx
  | c :: d :: digits =>
    simp only [List.cons_append, List.cons.injEq] at h
    have hd := hdigits d (by simp)
    rw [h.2.1] at hd
    -- The second digit stands where the letter of the mark does, and is none.
    rcases isMarkLetter_iff.mp hx with rfl | rfl <;> cases hd

/-- A `mark` is found in front of `digits` that do not make one with what follows them. -/
theorem splitMark_append_digits {mark digits rest : List Char} (hmark : mark ∈ marks)
    (hne : digits ≠ []) (hdigits : ∀ c ∈ digits, isHexDigit c = true)
    (hrest : mark ++ digits = ['0'] → EndsRun isMarkLetter rest) :
    splitMark (mark ++ (digits ++ rest)) = (mark, digits ++ rest) := by
  rcases mem_marks_iff.mp hmark with rfl | rfl | rfl
  · rw [List.nil_append] at hrest ⊢
    unfold splitMark
    split
    · next h => exact absurd h (digits_append_ne rfl hne hdigits hrest)
    · next h => exact absurd h (digits_append_ne rfl hne hdigits hrest)
    · rfl
  · rfl
  · rfl

end HexLiteral

namespace Document

/-! ## Literals -/

section Literal

variable {l : HexLiteral} {text rest : List Char}

/-- A literal of the grammar is an optional mark and at least one digit. -/
theorem isHex_iff : IsHex l ↔ ∃ mark ∈ HexLiteral.marks, ∃ digits,
    l.text.toList = mark ++ digits ∧ digits ≠ [] ∧ ∀ c ∈ digits, isHexDigit c = true := by
  constructor
  · rintro ⟨hne, hdigits⟩
    have hsplit := HexLiteral.splitMark_append l.text.toList
    exact ⟨_, HexLiteral.splitMark_mem_marks _, l.digits, hsplit.symm, hne, hdigits⟩
  · rintro ⟨mark, hmark, digits, htext, hne, hdigits⟩
    have hsplit : HexLiteral.splitMark (mark ++ (digits ++ [])) = (mark, digits ++ []) :=
      HexLiteral.splitMark_append_digits hmark hne hdigits fun _ => endsRun_nil
    rw [List.append_nil, ← htext] at hsplit
    unfold IsHex HexLiteral.digits
    rw [hsplit]
    exact ⟨hne, hdigits⟩

theorem readLiteral?_eq_some_iff : readLiteral? text = some (l, rest) ↔
    IsHex l ∧ l.EndsBefore rest ∧ l.text.toList ++ rest = text := by
  constructor
  · intro h
    have hchars := chars_of_readLiteral? h
    have hmark := HexLiteral.splitMark_mem_marks text
    have happ := HexLiteral.splitMark_append text
    unfold readLiteral? at h
    generalize hsplit : HexLiteral.splitMark text = split at h hmark happ
    obtain ⟨mark, text'⟩ := split
    simp only at h hmark happ
    split at h
    · cases h
    · rename_i hne
      simp only [Option.some.injEq, Prod.mk.injEq] at h
      obtain ⟨rfl, rfl⟩ := h
      refine ⟨isHex_iff.mpr ⟨mark, hmark, _, String.toList_ofList, hne, ?_⟩,
        ⟨endsRun_dropWhile _ _, ?_⟩, hchars⟩
      · exact List.all_eq_true.mp List.all_takeWhile
      · intro hzero c hc
        rw [String.toList_ofList] at hzero hchars
        rw [Bool.eq_false_iff]
        intro hx
        obtain ⟨tail, htail⟩ := List.head?_eq_some_iff.mp hc
        -- A letter of a mark behind the lone zero would have been read as part of the mark.
        rw [htail, hzero] at hchars
        rw [← hchars, List.singleton_append, HexLiteral.splitMark_of_isMarkLetter hx] at hsplit
        obtain ⟨rfl, -⟩ := Prod.mk.inj hsplit
        cases hzero
  · rintro ⟨hl, hrest, rfl⟩
    obtain ⟨mark, hmark, digits, htext, hne, hdigits⟩ := isHex_iff.mp hl
    have hsplit : HexLiteral.splitMark (l.text.toList ++ rest) = (mark, digits ++ rest) := by
      rw [htext, List.append_assoc]
      exact HexLiteral.splitMark_append_digits hmark hne hdigits fun h => hrest.2 (htext.trans h)
    obtain ⟨htake, hdrop⟩ := takeWhile_dropWhile_iff.mpr ⟨rfl, hdigits, hrest.1⟩
    unfold readLiteral?
    simp only [hsplit, htake, hdrop, hne, if_false, ← htext, String.ofList_toList]

theorem endsRun_isBlank_literal (h : IsHex l) : EndsRun isBlank (l.text.toList ++ rest) := by
  obtain ⟨mark, hmark, digits, htext, hne, hdigits⟩ := isHex_iff.mp h
  rw [htext, List.append_assoc]
  rcases HexLiteral.mem_marks_iff.mp hmark with rfl | rfl | rfl
  · obtain ⟨c, digits, rfl⟩ := List.exists_cons_of_ne_nil hne
    exact endsRun_cons.mpr (isBlank_of_isHexDigit (hdigits c (by simp)))
  · exact endsRun_cons.mpr (by decide)
  · exact endsRun_cons.mpr (by decide)

/-- A literal is made of digits and the letter of its mark. -/
theorem mem_literal {c : Char} (h : IsHex l) (hc : c ∈ l.text.toList) :
    isHexDigit c = true ∨ HexLiteral.isMarkLetter c = true := by
  obtain ⟨mark, hmark, digits, htext, -, hdigits⟩ := isHex_iff.mp h
  rw [htext, List.mem_append] at hc
  rcases hc with hc | hc
  · have hmarks : HexLiteral.marks.all
        (·.all fun c => isHexDigit c || HexLiteral.isMarkLetter c) = true := by decide
    have := List.all_eq_true.mp (List.all_eq_true.mp hmarks mark hmark) c hc
    rwa [Bool.or_eq_true] at this
  · exact .inl (hdigits c hc)

end Literal

/-! ## Separators -/

section Separator

variable {symbol : Char} {slot : Option Char} {s : Separator} {text rest : List Char}

theorem readSlot_eq_iff : readSlot text = (slot, rest) ↔
    (∀ c ∈ slot, isBlank c = true) ∧ (slot = none → EndsRun isBlank rest) ∧
      slot.toList ++ rest = text := by
  constructor
  · intro h
    have hchars := chars_of_readSlot text
    rw [h] at hchars
    unfold readSlot at h
    split at h
    · split at h
      · next hc =>
        obtain ⟨rfl, rfl⟩ := Prod.mk.inj h
        exact ⟨by simpa using hc, nofun, hchars⟩
      · next hc =>
        obtain ⟨rfl, rfl⟩ := Prod.mk.inj h
        exact ⟨nofun, fun _ => endsRun_cons.mpr (by simpa using hc), hchars⟩
    · obtain ⟨rfl, rfl⟩ := Prod.mk.inj h
      exact ⟨nofun, fun _ => endsRun_nil, hchars⟩
  · rintro ⟨hslot, hrest, rfl⟩
    cases slot with
    | none =>
      cases rest with
      | nil => rfl
      | cons c rest => simp [readSlot, endsRun_cons.mp (hrest rfl)]
    | some c => simp [readSlot, hslot c rfl]

theorem readSeparator?_eq_some_iff (hs : isBlank symbol = false) :
    readSeparator? symbol text = some (s, rest) ↔
      s.IsAdmitted ∧ (s.after = none → EndsRun isBlank rest) ∧ s.chars symbol ++ rest = text := by
  constructor
  · intro h
    have hchars := chars_of_readSeparator? h
    unfold readSeparator? at h
    generalize hbefore : readSlot text = slot at h
    obtain ⟨before, text'⟩ := slot
    simp only at h
    split at h
    · cases h
    · rename_i c text''
      split at h
      · generalize hafter : readSlot text'' = slot at h
        obtain ⟨after, rest'⟩ := slot
        simp only [Option.some.injEq, Prod.mk.injEq] at h
        obtain ⟨rfl, rfl⟩ := h
        have hb := readSlot_eq_iff.mp hbefore
        have ha := readSlot_eq_iff.mp hafter
        exact ⟨⟨hb.1, ha.1⟩, ha.2.1, hchars⟩
      · cases h
  · rintro ⟨⟨hb, ha⟩, hrest, rfl⟩
    have hbefore : readSlot (s.chars symbol ++ rest) =
        (s.before, symbol :: (s.after.toList ++ rest)) := by
      rw [readSlot_eq_iff]
      refine ⟨hb, fun _ => endsRun_cons.mpr hs, ?_⟩
      rw [Separator.chars, List.append_assoc, List.cons_append]
    have hafter : readSlot (s.after.toList ++ rest) = (s.after, rest) :=
      readSlot_eq_iff.mpr ⟨ha, hrest, rfl⟩
    unfold readSeparator?
    simp only [hbefore, hafter, if_true]

/-- The character `c` stands beside the symbol of the separator `s`. -/
def Separator.Holds (s : Separator) (c : Char) : Prop :=
  s.before = some c ∨ s.after = some c

instance (s : Separator) (c : Char) : Decidable (s.Holds c) :=
  inferInstanceAs (Decidable (s.before = some c ∨ s.after = some c))

theorem Separator.mem_chars_iff {c : Char} : c ∈ s.chars symbol ↔ c = symbol ∨ s.Holds c := by
  rw [Separator.chars, List.mem_append, List.mem_cons, Option.mem_toList, Option.mem_toList,
    Separator.Holds, or_left_comm]

theorem Separator.IsAdmitted.isBlank_of_holds {c : Char} (h : s.IsAdmitted) (hc : s.Holds c) :
    isBlank c = true := by
  rcases hc with hc | hc
  · exact h.1 c hc
  · exact h.2 c hc

/-- A literal ends before a comma, with or without a blank in front of it. -/
theorem endsBefore_comma {l : HexLiteral} (h : s.IsAdmitted) :
    l.EndsBefore (s.chars ',' ++ rest) := by
  obtain ⟨before, after⟩ := s
  cases before with
  | none => exact HexLiteral.endsBefore_cons rfl rfl
  | some c => exact HexLiteral.endsBefore_of_isBlank (h.1 c rfl)

end Separator

/-! ## Clauses and instructions -/

section Clause

variable {field : Field} {c : Clause} {comma : Separator} {s : Statement} {text rest : List Char}

theorem endsRun_isBlank_clause : EndsRun isBlank (c.chars field ++ rest) := by
  cases field <;> exact endsRun_cons.mpr (by decide)

theorem readClause?_eq_some_iff : readClause? field text = some (c, rest) ↔
    c.IsAdmitted ∧ c.literal.EndsBefore rest ∧ c.chars field ++ rest = text := by
  simp only [readClause?, Option.bind_eq_bind, Option.bind_eq_some_iff, Option.pure_def,
    Option.some.injEq, Prod.mk.injEq, Prod.exists]
  constructor
  · rintro ⟨text₁, hkey, colon, text₂, hcolon, literal, rest', hliteral, rfl, rfl⟩
    rw [dropWord?_eq_some_iff] at hkey
    rw [readSeparator?_eq_some_iff (by decide)] at hcolon
    rw [readLiteral?_eq_some_iff] at hliteral
    refine ⟨⟨hcolon.1, hliteral.1⟩, hliteral.2.1, ?_⟩
    rw [Clause.chars, List.append_assoc, List.append_assoc, hliteral.2.2, hcolon.2.2, hkey]
  · rintro ⟨⟨hcolon, hliteral⟩, hrest, rfl⟩
    refine ⟨c.colon.chars ':' ++ (c.literal.text.toList ++ rest), ?_, c.colon,
      c.literal.text.toList ++ rest, ?_, c.literal, rest, ?_, rfl, rfl⟩
    · rw [dropWord?_eq_some_iff, Clause.chars, List.append_assoc, List.append_assoc]
    · rw [readSeparator?_eq_some_iff (by decide)]
      exact ⟨hcolon, fun _ => endsRun_isBlank_literal hliteral, rfl⟩
    · rw [readLiteral?_eq_some_iff]
      exact ⟨hliteral, hrest, rfl⟩

theorem readNextClause?_eq_some_iff : readNextClause? field text = some ((comma, c), rest) ↔
    (comma.IsAdmitted ∧ c.IsAdmitted) ∧ c.literal.EndsBefore rest ∧
      comma.chars ',' ++ (c.chars field ++ rest) = text := by
  simp only [readNextClause?, Option.bind_eq_bind, Option.bind_eq_some_iff, Option.pure_def,
    Option.some.injEq, Prod.mk.injEq, Prod.exists]
  constructor
  · rintro ⟨comma', text₁, hcomma, c', rest', hclause, ⟨rfl, rfl⟩, rfl⟩
    rw [readSeparator?_eq_some_iff (by decide)] at hcomma
    rw [readClause?_eq_some_iff] at hclause
    refine ⟨⟨hcomma.1, hclause.1⟩, hclause.2.1, ?_⟩
    rw [hclause.2.2, hcomma.2.2]
  · rintro ⟨⟨hcomma, hclause⟩, hrest, rfl⟩
    refine ⟨comma, c.chars field ++ rest, ?_, c, rest, ?_, ⟨rfl, rfl⟩, rfl⟩
    · rw [readSeparator?_eq_some_iff (by decide)]
      exact ⟨hcomma, fun _ => endsRun_isBlank_clause, rfl⟩
    · rw [readClause?_eq_some_iff]
      exact ⟨hclause, hrest, rfl⟩

/-- Whether `c` can stand in a key or in a literal, or is the symbol of a separator. -/
def isSolid (c : Char) : Bool :=
  isHexDigit c || HexLiteral.isMarkLetter c || ":,SizeOffsetData".toList.contains c

theorem Clause.IsAdmitted.mem_chars {d : Char} (h : c.IsAdmitted) (hd : d ∈ c.chars field) :
    isSolid d = true ∨ c.colon.Holds d := by
  simp only [isSolid, Bool.or_eq_true, List.contains_iff_mem]
  rw [Clause.chars, List.mem_append, List.mem_append, Separator.mem_chars_iff] at hd
  rcases hd with (hkey | rfl | hslot) | hliteral
  · have hkeys : field.keyword.toList ⊆ ":,SizeOffsetData".toList := by
      cases field <;> decide
    exact .inl (.inr (hkeys hkey))
  · exact .inl (.inr (by decide))
  · exact .inr hslot
  · exact .inl (.inl (mem_literal h.2 hliteral))

/-- The separators of the instruction `s`, in their order. -/
def Statement.separators (s : Statement) : List Separator :=
  [s.size.colon, s.afterSize, s.offset.colon, s.afterOffset, s.data.colon]

/-- The character `c` stands beside a colon or a comma of the instruction `s`. -/
def Statement.Holds (s : Statement) (c : Char) : Prop :=
  ∃ sep ∈ s.separators, sep.Holds c

instance (s : Statement) (c : Char) : Decidable (s.Holds c) :=
  inferInstanceAs (Decidable (∃ sep ∈ s.separators, sep.Holds c))

namespace Statement.IsAdmitted

variable {d : Char}

theorem separators (h : s.IsAdmitted) : ∀ sep ∈ s.separators, sep.IsAdmitted := by
  obtain ⟨hsize, hcomma, hoffset, hcomma', hdata⟩ := h
  simp only [Statement.separators, List.forall_mem_cons]
  exact ⟨hsize.1, hcomma, hoffset.1, hcomma', hdata.1, List.forall_mem_nil _⟩

theorem isBlank_of_holds (h : s.IsAdmitted) (hd : s.Holds d) : isBlank d = true := by
  obtain ⟨sep, hsep, hd⟩ := hd
  exact (h.separators sep hsep).isBlank_of_holds hd

theorem mem_chars (h : s.IsAdmitted) (hd : d ∈ s.chars) : isSolid d = true ∨ s.Holds d := by
  obtain ⟨hsize, -, hoffset, -, hdata⟩ := h
  have hsymbol : isSolid ',' = true := by decide
  have hslot : ∀ sep ∈ s.separators, sep.Holds d → s.Holds d :=
    fun sep hsep hd => ⟨sep, hsep, hd⟩
  simp only [Statement.separators, List.forall_mem_cons] at hslot
  obtain ⟨hsizeColon, hafterSize, hoffsetColon, hafterOffset, hdataColon, -⟩ := hslot
  simp only [Statement.chars, List.mem_append, Separator.mem_chars_iff] at hd
  rcases hd with (((hd | rfl | hd) | hd) | rfl | hd) | hd
  · exact (hsize.mem_chars hd).imp_right hsizeColon
  · exact .inl hsymbol
  · exact .inr (hafterSize hd)
  · exact (hoffset.mem_chars hd).imp_right hoffsetColon
  · exact .inl hsymbol
  · exact .inr (hafterOffset hd)
  · exact (hdata.mem_chars hd).imp_right hdataColon

end Statement.IsAdmitted

/-- **An instruction is read** exactly from its characters, where its last literal ends. -/
theorem readStatement_eq_ok_iff : readStatement text = .ok (s, rest) ↔
    s.IsAdmitted ∧ s.data.literal.EndsBefore rest ∧ s.chars ++ rest = text := by
  rw [readStatement_eq_ok]
  simp only [readClause?_eq_some_iff, readNextClause?_eq_some_iff]
  constructor
  · rintro ⟨text₁, text₂, ⟨hsize, -, rfl⟩, ⟨hoffset, -, rfl⟩, hdata, hrest, rfl⟩
    refine ⟨⟨hsize, hoffset.1, hoffset.2, hdata.1, hdata.2⟩, hrest, ?_⟩
    simp only [Statement.chars, List.append_assoc]
  · rintro ⟨⟨hsize, hcomma, hoffset, hcomma', hdata⟩, hrest, rfl⟩
    refine ⟨s.afterSize.chars ',' ++ (s.offset.chars .offset ++
        (s.afterOffset.chars ',' ++ (s.data.chars .data ++ rest))),
      s.afterOffset.chars ',' ++ (s.data.chars .data ++ rest),
      ⟨hsize, endsBefore_comma hcomma, ?_⟩,
      ⟨⟨hcomma, hoffset⟩, endsBefore_comma hcomma', rfl⟩, ⟨hcomma', hdata⟩, hrest, rfl⟩
    simp only [Statement.chars, List.append_assoc]

end Clause

end Document

end RegisterWrites
