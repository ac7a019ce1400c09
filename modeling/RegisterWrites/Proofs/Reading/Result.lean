import RegisterWrites.Proofs.Reading.Number
import RegisterWrites.Proofs.Reading.Pieces

/-!
# What comes of reading a document

The outcome of `parse` in terms of what is found in the text and what is left of it. If
nothing is left, every instruction found is taken over, or the first whose size does not fit
is the error; if something is left, the error points in front of it.
-/

namespace RegisterWrites

open Text

/-! ## Sizes -/

/-- A literal of the grammar denotes a number of 32 bits, or a greater one. -/
theorem HexLiteral.toUInt32?_of_isHex {l : HexLiteral} (h : Document.IsHex l) : l.toUInt32? =
    if hexNumber l.digits < UInt32.size then some (UInt32.ofNat (hexNumber l.digits))
    else none := by
  obtain ⟨hne, hdigits⟩ := h
  have hplus := dropPlus_of_isHexDigit hdigits
  have hall : l.digits.all isHexDigit = true := List.all_eq_true.mpr hdigits
  unfold toUInt32?
  simp only [hplus, hall, ne_eq, hne, not_false_eq_true, true_and]

namespace Document

variable {dialect : Dialect} {text : String} {before : List Char} {l : Located}
  {ls : List Located} {i : Instruction} {is : List Instruction}

theorem toInstruction_eq_ok_iff : l.toInstruction = .ok i ↔
    l.statement.size.literal.toUInt32? = some i.size ∧ i.line = l.line ∧
      i.sizeLiteral = l.statement.size.literal ∧ i.offset = l.statement.offset.literal ∧
      i.data = l.statement.data.literal := by
  obtain ⟨line, size, sizeLiteral, offset, data⟩ := i
  simp only [Located.toInstruction]
  cases hsize : l.statement.size.literal.toUInt32? with
  | none => simp
  | some value =>
    simp only [Except.ok.injEq, Instruction.mk.injEq, Option.some.injEq]
    grind

theorem toInstruction_eq_error {e : Error} (h : l.toInstruction = .error e) :
    e = .sizeOutOfRange l.line l.statement.size.literal.text := by
  simp only [Located.toInstruction] at h
  split at h
  · exact (Except.error.inj h).symm
  · cases h

section MapM

variable {α β γ ε : Type} {f : α → Except ε β} {as : List α} {bs : List β} {e : ε}

theorem mapM_eq_ok_iff : as.mapM f = .ok bs ↔ as.map f = bs.map .ok := by
  induction as generalizing bs with
  | nil => cases bs <;> simp [pure, Except.pure]
  | cons a as ih =>
    rw [List.mapM_cons, List.map_cons]
    cases bs with
    | nil => cases f a <;> cases as.mapM f <;> simp [bind, Except.bind, pure, Except.pure]
    | cons b bs =>
      rw [List.map_cons, List.cons.injEq, ← ih]
      cases f a <;> cases as.mapM f <;> simp [bind, Except.bind, pure, Except.pure]

/-- The first of `as` on which `f` fails decides. -/
theorem exists_of_mapM_eq_error (h : as.mapM f = .error e) : ∃ before a after,
    as = before ++ a :: after ∧ (∀ b ∈ before, ∃ c, f b = .ok c) ∧ f a = .error e := by
  induction as with
  | nil => cases h
  | cons a as ih =>
    rw [List.mapM_cons] at h
    cases ha : f a with
    | error e' =>
      rw [ha] at h
      cases h
      exact ⟨[], a, as, rfl, nofun, ha⟩
    | ok b =>
      cases has : as.mapM f with
      | error e' =>
        rw [ha, has] at h
        cases h
        obtain ⟨before, a', after, rfl, hbefore, ha'⟩ := ih has
        exact ⟨a :: before, a', after, rfl, List.forall_mem_cons.mpr ⟨⟨b, ha⟩, hbefore⟩, ha'⟩
      | ok bs =>
        rw [ha, has] at h
        cases h

theorem mem_of_mapM_eq_error (h : as.mapM f = .error e) : ∃ a ∈ as, f a = .error e := by
  obtain ⟨before, a, after, rfl, -, ha⟩ := exists_of_mapM_eq_error h
  exact ⟨a, List.mem_append_right before List.mem_cons_self, ha⟩

theorem exists_mapM_eq_ok (h : ∀ a ∈ as, ∃ b, f a = .ok b) : ∃ bs, as.mapM f = .ok bs := by
  cases has : as.mapM f with
  | error e =>
    obtain ⟨a, hmem, ha⟩ := mem_of_mapM_eq_error has
    obtain ⟨b, hb⟩ := h a hmem
    rw [hb] at ha
    cases ha
  | ok bs => exact ⟨bs, rfl⟩

theorem exists_of_mapM_eq_ok {b : β} (h : as.mapM f = .ok bs) (hb : b ∈ bs) :
    ∃ a ∈ as, f a = .ok b := by
  have hmem : Except.ok b ∈ as.map f := by
    rw [mapM_eq_ok_iff.mp h]
    exact List.mem_map_of_mem hb
  exact List.mem_map.mp hmem

theorem exists_ok_of_mapM_eq_ok {a : α} (h : as.mapM f = .ok bs) (ha : a ∈ as) :
    ∃ b ∈ bs, f a = .ok b := by
  have hmem : f a ∈ bs.map .ok := by
    rw [← mapM_eq_ok_iff.mp h]
    exact List.mem_map_of_mem ha
  obtain ⟨b, hb, hfa⟩ := List.mem_map.mp hmem
  exact ⟨b, hb, hfa.symm⟩

theorem exists_getElem?_of_mapM_eq_ok {b : β} {k : Nat} (h : as.mapM f = .ok bs)
    (hb : bs[k]? = some b) : ∃ a, as[k]? = some a ∧ f a = .ok b := by
  have hk := congrArg (·[k]?) (mapM_eq_ok_iff.mp h)
  simp only [List.getElem?_map, hb, Option.map_some] at hk
  exact Option.map_eq_some_iff.mp hk

/-- What `g'` sees of the results is what `g` sees of that from which they came, in order. -/
theorem map_eq_of_mapM_eq_ok {g : α → γ} {g' : β → γ}
    (hg : ∀ a ∈ as, ∀ b, f a = .ok b → g' b = g a) (h : as.mapM f = .ok bs) :
    bs.map g' = as.map g := by
  rw [mapM_eq_ok_iff] at h
  induction as generalizing bs with
  | nil => cases bs with
    | nil => rfl
    | cons b bs => cases h
  | cons a as ih =>
    cases bs with
    | nil => cases h
    | cons b bs =>
      obtain ⟨hb, hbs⟩ := List.cons.inj h
      rw [List.forall_mem_cons] at hg
      rw [List.map_cons, List.map_cons, hg.1 b hb, ih hg.2 hbs]

end MapM

/-- Size, offset and data of the instruction `s` as they stand in a document. -/
def Statement.literals (s : Statement) : HexLiteral × HexLiteral × HexLiteral :=
  (s.size.literal, s.offset.literal, s.data.literal)

theorem literals_of_mapM_eq_ok (h : ls.mapM Located.toInstruction = .ok is) :
    is.map (fun i => (i.sizeLiteral, i.offset, i.data)) =
      ls.map fun l => l.statement.literals := by
  refine map_eq_of_mapM_eq_ok (fun l _ i hi => ?_) h
  obtain ⟨-, -, hsize, hoffset, hdata⟩ := toInstruction_eq_ok_iff.mp hi
  rw [hsize, hoffset, hdata, Statement.literals]

theorem exists_toInstruction_eq_ok (h : IsHex l.statement.size.literal)
    (hsize : hexNumber l.statement.size.literal.digits < UInt32.size) :
    ∃ i, l.toInstruction = .ok i := by
  have hvalue := HexLiteral.toUInt32?_of_isHex h
  rw [if_pos hsize] at hvalue
  exact ⟨⟨_, _, _, _, _⟩, toInstruction_eq_ok_iff.mpr ⟨hvalue, rfl, rfl, rfl, rfl⟩⟩

/-! ## The outcome -/

theorem result_parse : (parse text dialect).result =
    match stop? (readPieces dialect text.toList).1 (left dialect text.toList) with
    | some place => .error (.unreadable place)
    | none => (found dialect 0 1 text.toList).mapM Located.toInstruction := by
  unfold parse left found
  simp only
  rw [Logged.bind_of_ok rfl]
  simp only
  cases stop? (readPieces dialect text.toList).1 (readPieces dialect text.toList).2 with
  | some place => rfl
  | none =>
    simp only
    cases (locate 0 1 (readPieces dialect text.toList).1).mapM Located.toInstruction with
    | error e => rw [Logged.bind_of_error rfl]
    | ok is =>
      rw [Logged.bind_of_ok rfl, Logged.bind_of_ok rfl]
      rfl

/-- If nothing is `left` of the text, the sizes decide. -/
theorem result_parse_of_left_eq_nil (h : left dialect text.toList = []) :
    (parse text dialect).result =
      (found dialect 0 1 text.toList).mapM Located.toInstruction := by
  rw [result_parse, stop?, if_pos h]

/-- If something is `left` of the text, the error lies in front of it. -/
theorem result_parse_of_left_ne_nil (h : left dialect text.toList ≠ [])
    (hbefore : before ++ left dialect text.toList = text.toList) :
    (parse text dialect).result = .error (.unreadable (SyntaxError.between before
      (left dialect text.toList)
      ((failedField? (left dialect text.toList)).map Field.clauseName))) := by
  have hread := chars_of_readPieces dialect text.toList
  obtain rfl : (readPieces dialect text.toList).1.flatMap Piece.chars = before :=
    List.append_cancel_right (hread.trans hbefore.symm)
  rw [result_parse, stop?, if_neg h]

/-- The `text` is read to its end; whether all sizes fit is another question. -/
def IsReadable (dialect : Dialect) (text : String) : Prop :=
  ∀ place, (parse text dialect).result ≠ .error (.unreadable place)

theorem isReadable_iff : IsReadable dialect text ↔ left dialect text.toList = [] := by
  constructor
  · intro h
    refine Classical.byContradiction fun hne => ?_
    exact h _ (result_parse_of_left_ne_nil hne (chars_of_readPieces _ _))
  · intro h place hplace
    rw [result_parse_of_left_eq_nil h] at hplace
    obtain ⟨l, -, hl⟩ := mem_of_mapM_eq_error hplace
    cases toInstruction_eq_error hl

theorem result_parse_eq_ok_iff : (parse text dialect).result = .ok is ↔
    left dialect text.toList = [] ∧
      (found dialect 0 1 text.toList).mapM Located.toInstruction = .ok is := by
  constructor
  · intro h
    have hleft : left dialect text.toList = [] := by
      refine isReadable_iff.mp fun place hplace => ?_
      rw [h] at hplace
      cases hplace
    exact ⟨hleft, (result_parse_of_left_eq_nil hleft).symm.trans h⟩
  · rintro ⟨hleft, his⟩
    exact (result_parse_of_left_eq_nil hleft).trans his

end Document

/-- What reading makes sure of: the literals of `i` are those of the grammar, and its size is the
number that its literal denotes. -/
structure Instruction.IsGrammatical (i : Instruction) : Prop where
  sizeLiteral : Document.IsHex i.sizeLiteral
  offset : Document.IsHex i.offset
  data : Document.IsHex i.data
  size : i.sizeLiteral.toUInt32? = some i.size

namespace Document

theorem isGrammatical_of_parse {dialect : Dialect} {text : String} {is : List Instruction}
    (h : (parse text dialect).result = .ok is) : ∀ i ∈ is, i.IsGrammatical := by
  intro i hi
  obtain ⟨-, his⟩ := result_parse_eq_ok_iff.mp h
  obtain ⟨l, hl, hli⟩ := exists_of_mapM_eq_ok his hi
  obtain ⟨hsize, -, hliteral, hoffset, hdata⟩ := toInstruction_eq_ok_iff.mp hli
  obtain ⟨⟨-, hs⟩, -, ⟨-, ho⟩, -, -, hd⟩ := isAdmitted_of_mem_found hl
  constructor
  · rwa [hliteral]
  · rwa [hoffset]
  · rwa [hdata]
  · rwa [hliteral]

end Document

end RegisterWrites
