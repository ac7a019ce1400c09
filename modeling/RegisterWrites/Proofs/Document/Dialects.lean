import RegisterWrites.Proofs.Reading.Result

/-!
# Documents with and without comments

What a document may hold besides instructions makes a difference only at a hash. In what is
read of a text a hash stands nowhere but in a comment, and begins it (`Piece.isAdmitted_bare_iff`,
`Piece.exists_chars_eq_cons`); hence the two dialects read the same pieces up to the first hash
(`readPieces_bare_of_notMem`), and there the dialect without comments stops
(`exists_left_bare`). The main statement is `parse_bare`.
-/

namespace RegisterWrites.Document

open Text

variable {p : Piece} {s : Statement} {c : Char} {a b text rest : List Char}

/-! ## Where a hash stands -/

theorem Statement.notMem_hash (h : s.IsAdmitted) : '#' ∉ s.chars := by
  intro hmem
  rcases h.mem_chars hmem with hsolid | hslot
  · exact absurd hsolid (by decide)
  · exact absurd (h.isBlank_of_holds hslot) (by decide)

/-- The dialect without comments admits the pieces without a hash. -/
theorem Piece.isAdmitted_bare_iff :
    p.IsAdmitted .bare ↔ p.IsAdmitted .commented ∧ '#' ∉ p.chars := by
  cases p with
  | instruction s => exact ⟨fun h => ⟨h, Statement.notMem_hash h⟩, fun h => h.1⟩
  | blanks run => exact ⟨fun h => ⟨h, notMem_of_class h.2 (by decide)⟩, fun h => h.1⟩
  | comment hashes remark stop =>
    constructor
    · rintro ⟨⟨⟩, -⟩
    · rintro ⟨⟨-, hhashes, -⟩, hnot⟩
      obtain ⟨hashes, rfl⟩ := hashes_eq_cons hhashes
      exact absurd (by simp [Piece.chars]) hnot

/-- A piece with a hash begins with one. -/
theorem Piece.exists_chars_eq_cons (h : p.IsAdmitted .commented) (hmem : '#' ∈ p.chars) :
    ∃ tail, p.chars = '#' :: tail := by
  cases p with
  | instruction s => exact absurd hmem (Statement.notMem_hash h)
  | blanks run => exact absurd hmem (notMem_of_class h.2 (by decide))
  | comment hashes remark stop =>
    obtain ⟨-, hhashes, -⟩ := h
    obtain ⟨hashes, rfl⟩ := hashes_eq_cons hhashes
    exact ⟨hashes ++ remark ++ [stop], rfl⟩

/-! ## The pieces of one text in both dialects -/

theorem readPiece?_bare_eq_some_iff : readPiece? .bare text = some (p, rest) ↔
    readPiece? .commented text = some (p, rest) ∧ '#' ∉ p.chars := by
  rw [readPiece?_eq_some_iff, readPiece?_eq_some_iff, Piece.isAdmitted_bare_iff]
  constructor
  · rintro ⟨⟨hp, hhash⟩, hends, htext⟩
    exact ⟨⟨hp, hends, htext⟩, hhash⟩
  · rintro ⟨⟨hp, hends, htext⟩, hhash⟩
    exact ⟨⟨hp, hhash⟩, hends, htext⟩

theorem readPiece?_bare_hash (rest : List Char) : readPiece? .bare ('#' :: rest) = none := by
  cases h : readPiece? .bare ('#' :: rest) with
  | none => rfl
  | some reading =>
    obtain ⟨p, rest'⟩ := reading
    have hne := chars_ne_nil_of_readPiece? h
    have hchars := chars_of_readPiece? h
    obtain ⟨c, tail, htail⟩ := List.exists_cons_of_ne_nil hne
    rw [htail, List.cons_append, List.cons.injEq] at hchars
    obtain ⟨rfl, -⟩ := hchars
    have hnot := (readPiece?_bare_eq_some_iff.mp h).2
    rw [htail] at hnot
    exact absurd List.mem_cons_self hnot

/-- As long as no hash is read, both dialects read the same. -/
theorem readPieces_bare_of_notMem
    (h : '#' ∉ (readPieces .commented text).1.flatMap Piece.chars) :
    readPieces .bare text = readPieces .commented text := by
  induction text using readPieces.induct .commented with
  | case1 text hnone =>
    have hbare : readPiece? .bare text = none := by
      cases hsome : readPiece? .bare text with
      | none => rfl
      | some reading =>
        rw [(readPiece?_bare_eq_some_iff.mp hsome).1] at hnone
        cases hnone
    rw [readPieces_of_none hnone, readPieces_of_none hbare]
  | case2 text p rest hsome _ _ _ ih =>
    rw [readPieces_of_some hsome, List.flatMap_cons, List.mem_append, not_or] at h
    have hbare := readPiece?_bare_eq_some_iff.mpr ⟨hsome, h.1⟩
    rw [readPieces_of_some hsome, readPieces_of_some hbare, ih h.2]

/-- If a hash is read, the dialect without comments stops in front of the first. -/
theorem exists_left_bare (h : '#' ∈ (readPieces .commented text).1.flatMap Piece.chars) :
    ∃ before after, before ++ '#' :: after = text ∧ '#' ∉ before ∧
      left .bare text = '#' :: after := by
  induction text using readPieces.induct .commented with
  | case1 text hnone =>
    rw [readPieces_of_none hnone] at h
    cases h
  | case2 text p rest hsome _ _ _ ih =>
    have hchars := chars_of_readPiece? hsome
    by_cases hp : '#' ∈ p.chars
    -- the first piece is a comment, so the text begins with the hash
    · obtain ⟨tail, htail⟩ := Piece.exists_chars_eq_cons (readPiece?_eq_some_iff.mp hsome).1 hp
      rw [htail, List.cons_append] at hchars
      refine ⟨[], tail ++ rest, hchars, List.not_mem_nil, ?_⟩
      rw [← hchars, left, readPieces_of_none (readPiece?_bare_hash _)]
    · rw [readPieces_of_some hsome, List.flatMap_cons, List.mem_append] at h
      obtain ⟨before, after, hrest, hnot, hleft⟩ := ih (h.resolve_left hp)
      have hbare := readPiece?_bare_eq_some_iff.mpr ⟨hsome, hp⟩
      refine ⟨p.chars ++ before, after, ?_, ?_, ?_⟩
      · rw [List.append_assoc, hrest, hchars]
      · rw [List.mem_append, not_or]
        exact ⟨hp, hnot⟩
      · rw [left_of_some hbare, hleft]

/-! ## Places in front of an offset -/

/-- The character `c` stands in `text` somewhere in front of the byte `offset`. -/
def OccursBefore (c : Char) (offset : Nat) (text : List Char) : Prop :=
  ∃ before after, before ++ c :: after = text ∧ byteLength before < offset

/-- In front of the offset of `b` in `a ++ b` stands what is in `a`. -/
theorem occursBefore_append : OccursBefore c (byteLength a) (a ++ b) ↔ c ∈ a := by
  constructor
  · rintro ⟨before, after, htext, hlt⟩
    rcases List.append_eq_append_iff.mp htext with ⟨part, rfl, hpart⟩ | ⟨part, rfl, hpart⟩
    · cases part with
      | nil =>
        rw [List.append_nil] at hlt
        exact absurd hlt (Nat.lt_irrefl _)
      | cons d part =>
        obtain ⟨rfl, -⟩ := List.cons.inj hpart
        exact List.mem_append_right _ List.mem_cons_self
    · rw [byteLength_append] at hlt
      omega
  · intro hmem
    obtain ⟨before, after, rfl⟩ := List.append_of_mem hmem
    refine ⟨before, after ++ b, ?_, ?_⟩
    · rw [List.append_assoc, List.cons_append]
    · have hpos := c.utf8Size_pos
      rw [byteLength_append, byteLength_cons]
      omega

/-- The byte offset at which the reading of `text` ends: that of the place at which it stops, or the
end of the text. -/
def stopOffset (dialect : Dialect) (text : String) : Nat :=
  match (parse text dialect).result with
  | .error (.unreadable place) => place.offset
  | _ => text.utf8ByteSize

theorem stopOffset_eq (dialect : Dialect) (text : String) : stopOffset dialect text =
    byteLength ((readPieces dialect text.toList).1.flatMap Piece.chars) := by
  have hchars := chars_of_readPieces dialect text.toList
  by_cases hnil : left dialect text.toList = []
  · have hreadable := isReadable_iff.mpr hnil
    rw [hnil, List.append_nil] at hchars
    rw [hchars, byteLength_toList]
    unfold stopOffset
    cases hresult : (parse text dialect).result with
    | ok is => rfl
    | error e =>
      cases e with
      | unreadable place => exact absurd hresult (hreadable place)
      | sizeOutOfRange => rfl
      | fieldInconsistency => rfl
      | capacityExceeded => rfl
  · rw [stopOffset, result_parse_of_left_ne_nil hnil hchars]
    rfl

/-! ## The outcome in both dialects -/

theorem result_parse_bare_of_notMem {text : String}
    (h : '#' ∉ (readPieces .commented text.toList).1.flatMap Piece.chars) :
    (parse text .bare).result = (parse text .commented).result := by
  have hsame := readPieces_bare_of_notMem h
  rw [result_parse, result_parse, left, left, found, found, hsame]

/-- The error at a hash names no part of an instruction. -/
theorem result_parse_bare_of_left {text : String} {before after : List Char}
    (hbefore : before ++ '#' :: after = text.toList)
    (hleft : left .bare text.toList = '#' :: after) : (parse text .bare).result =
      .error (.unreadable (SyntaxError.between before ('#' :: after) none)) := by
  have hne : left .bare text.toList ≠ [] := by
    rw [hleft]
    exact List.cons_ne_nil _ _
  rw [result_parse_of_left_ne_nil hne (hleft.symm ▸ hbefore), hleft]
  rfl

/-- **A document without comments** is read as it would be with them, well or badly, if no hash
stands in front of the `stopOffset` of that reading. If one does, reading without comments stops in
front of the first hash of `text`, and does not take it for a part of an instruction. Hence what is
read without comments is read with them in the same way. -/
theorem parse_bare (text : String) :
    (¬ OccursBefore '#' (stopOffset .commented text) text.toList →
      (parse text .bare).result = (parse text .commented).result) ∧
    (OccursBefore '#' (stopOffset .commented text) text.toList →
      ∃ place, (parse text .bare).result = .error (.unreadable place) ∧
        place.offset = byteLength (text.toList.takeWhile (· ≠ '#')) ∧
        place.expected = none) ∧
    ∀ is, (parse text .bare).result = .ok is → (parse text .commented).result = .ok is := by
  have hoccurs : OccursBefore '#' (stopOffset .commented text) text.toList ↔
      '#' ∈ (readPieces .commented text.toList).1.flatMap Piece.chars := by
    rw [stopOffset_eq]
    have hchars := chars_of_readPieces .commented text.toList
    rw [← occursBefore_append (b := left .commented text.toList), hchars]
  have hfirst : OccursBefore '#' (stopOffset .commented text) text.toList →
      ∃ place, (parse text .bare).result = .error (.unreadable place) ∧
        place.offset = byteLength (text.toList.takeWhile (· ≠ '#')) ∧
        place.expected = none := by
    intro h
    obtain ⟨before, after, hbefore, hnot, hleft⟩ := exists_left_bare (hoccurs.mp h)
    have htake : text.toList.takeWhile (· ≠ '#') = before := by
      refine (takeWhile_dropWhile_iff.mpr ⟨hbefore, fun c hc => ?_, endsRun_cons.mpr rfl⟩).1
      exact decide_eq_true (ne_of_mem_of_not_mem hc hnot)
    refine ⟨_, result_parse_bare_of_left hbefore hleft, ?_, rfl⟩
    rw [htake]
    rfl
  have hsame : ¬ OccursBefore '#' (stopOffset .commented text) text.toList →
      (parse text .bare).result = (parse text .commented).result :=
    fun h => result_parse_bare_of_notMem (mt hoccurs.mpr h)
  refine ⟨hsame, hfirst, fun is his => ?_⟩
  -- with a hash in front of the stop there would be an error
  rw [← hsame, his]
  intro h
  obtain ⟨place, hplace, -⟩ := hfirst h
  rw [his] at hplace
  cases hplace

/-- A hash in front of the end of reading and one at it. -/
theorem parse_bare_hash :
    (parse "\n # a\nSize:1" .commented).result =
        .error (.unreadable ⟨3, 1, 6, "Size:1", some "offset clause"⟩) ∧
      (∃ place, (parse "\n # a\nSize:1" .bare).result = .error (.unreadable place) ∧
        place.offset = 2 ∧ place.expected = none) ∧
      (parse "\n # a_" .bare).result = (parse "\n # a_" .commented).result := by
  have h : (parse "\n # a\nSize:1" .commented).result =
      .error (.unreadable ⟨3, 1, 6, "Size:1", some "offset clause"⟩) := by
    with_unfolding_all rfl
  have h' : (parse "\n # a_" .commented).result =
      .error (.unreadable ⟨2, 2, 2, " # a_", none⟩) := by
    with_unfolding_all rfl
  have hstop : stopOffset .commented "\n # a\nSize:1" = 6 := by
    rw [stopOffset, h]
  have hstop' : stopOffset .commented "\n # a_" = 2 := by
    rw [stopOffset, h']
  refine ⟨h, (parse_bare _).2.1 ?_, (parse_bare _).1 ?_⟩
  · rw [hstop]
    exact ⟨['\n', ' '], [' ', 'a', '\n', 'S', 'i', 'z', 'e', ':', '1'], by decide, by decide⟩
  · have hno : ¬ OccursBefore '#' (byteLength ['\n', ' ']) (['\n', ' '] ++ ['#', ' ', 'a', '_']) := by
      rw [occursBefore_append]
      decide
    rw [hstop']
    exact hno

end RegisterWrites.Document
