import RegisterWrites.Document.Reader
import RegisterWrites.Proofs.Reading.Parts

/-!
# What the reader of a document accepts

A piece is read exactly where its characters stand and where it ends
(`readPiece?_eq_some_iff`). Of the pieces of a whole text two things matter: the instructions
among them with their places (`found`) and what the reader leaves (`left`). Both follow the
text from piece to piece (`readPieces_chars_append`), whatever way the blanks of the text are
cut into runs, and therefore add up over `++` (`readPieces_append`). What was read of a text
is read from it alone as well (`readPieces_of_append_left`).
-/

namespace RegisterWrites.Document

open Text

variable {dialect : Dialect} {p : Piece} {s : Statement} {c : Char}
  {a b text run rest : List Char}

/-! ## Pieces -/

/-- A comment may hold spaces, but no other blanks. -/
theorem isRemark_of_isBlank (h : isBlank c = true) (hs : c ≠ ' ') : isRemark c = false := by
  have hc := toNat_of_isBlank h
  rw [Bool.eq_false_iff]
  intro hr
  simp only [isRemark, Bool.or_eq_true, List.contains_iff_mem, List.mem_cons, List.not_mem_nil,
    or_false] at hr
  obtain ha | rfl | rfl | rfl | rfl | rfl | rfl | rfl | rfl := hr
  · have := toNat_of_isAlphanum ha
    omega
  · exact hs rfl
  all_goals exact absurd h (by decide)

/-- The text behind a piece does not carry on with it. -/
def Piece.EndsBefore : Piece → List Char → Prop
  | instruction s, rest => s.data.literal.EndsBefore rest
  | blanks _, rest => EndsRun isBlank rest
  | comment .., _ => True

theorem Piece.EndsBefore.of_append (h : p.EndsBefore (a ++ b)) : p.EndsBefore a := by
  cases p with
  | instruction s => exact HexLiteral.EndsBefore.of_append h
  | blanks run => exact EndsRun.of_append h
  | comment => trivial

theorem Statement.chars_eq_cons (s : Statement) : ∃ tail, s.chars = 'S' :: tail :=
  ⟨_, rfl⟩

/-- The last character of an instruction is a digit. -/
theorem Statement.getLast?_chars (h : s.IsAdmitted) :
    ∃ c, s.chars.getLast? = some c ∧ isHexDigit c = true := by
  obtain ⟨-, -, -, -, -, hdata⟩ := h
  obtain ⟨mark, -, digits, htext, hne, hdigits⟩ := isHex_iff.mp hdata
  refine ⟨digits.getLast hne, ?_, hdigits _ (List.getLast_mem hne)⟩
  simp only [Statement.chars, Clause.chars, htext]
  simp [List.getLast?_append, List.getLast?_eq_some_getLast hne]

theorem readBlanks?_eq_some_iff : readBlanks? text = some (p, rest) ↔ ∃ run, p = .blanks run ∧
    run ≠ [] ∧ run ++ rest = text ∧ (∀ c ∈ run, isBlank c = true) ∧ EndsRun isBlank rest := by
  simp only [← takeWhile_dropWhile_iff]
  unfold readBlanks?
  simp only
  split
  · grind
  · grind

theorem hashes_eq_cons {hashes : List Char} (h : hashes ≠ [] ∧ ∀ c ∈ hashes, c = '#') :
    ∃ others, hashes = '#' :: others := by
  obtain ⟨c, others, rfl⟩ := List.exists_cons_of_ne_nil h.1
  obtain rfl : c = '#' := h.2 c List.mem_cons_self
  exact ⟨others, rfl⟩

/-- The hashes of a comment end where its `remark` begins. -/
theorem endsRun_hash {remark : List Char} {stop : Char}
    (hremark : ∀ c ∈ remark, isRemark c = true) (hstop : isBlank stop = true) :
    EndsRun (· = '#') (remark ++ stop :: rest) := by
  cases remark with
  | nil =>
    refine endsRun_cons.mpr (decide_eq_false ?_)
    rintro rfl
    exact absurd hstop (by decide)
  | cons c remark =>
    refine endsRun_cons.mpr (decide_eq_false ?_)
    rintro rfl
    exact absurd (hremark '#' (by simp)) (by decide)

theorem readComment?_eq_some_iff : readComment? text = some (p, rest) ↔
    ∃ hashes remark stop, p = .comment hashes remark stop ∧
      (Piece.comment hashes remark stop).IsAdmitted .commented ∧ p.chars ++ rest = text := by
  constructor
  · intro h
    have hchars := chars_of_readComment? h
    unfold readComment? at h
    simp only at h
    split at h
    · cases h
    · next hne =>
      split at h
      · cases h
      · next stop rest' hstop =>
        split at h
        · next hb =>
          simp only [Option.some.injEq, Prod.mk.injEq] at h
          obtain ⟨rfl, rfl⟩ := h
          have hend := endsRun_dropWhile isRemark (text.dropWhile (· = '#'))
          rw [hstop, endsRun_cons] at hend
          refine ⟨_, _, stop, rfl, ⟨rfl, ⟨hne, ?_⟩, ?_, hb, ?_⟩, hchars⟩
          · simpa using List.all_eq_true.mp (List.all_takeWhile (p := (· = '#')) (l := text))
          · exact List.all_eq_true.mp List.all_takeWhile
          · rintro rfl
            exact absurd hend (by decide)
        · cases h
  · rintro ⟨hashes, remark, stop, rfl, ⟨-, ⟨hne, hhash⟩, hremark, hstop, hspace⟩, rfl⟩
    have hend : EndsRun isRemark (stop :: rest) :=
      endsRun_cons.mpr (isRemark_of_isBlank hstop hspace)
    have hnohash : EndsRun (· = '#') (remark ++ stop :: rest) := endsRun_hash hremark hstop
    obtain ⟨htake, hdrop⟩ := takeWhile_dropWhile_iff.mpr ⟨rfl, by simpa using hhash, hnohash⟩
    obtain ⟨htake', hdrop'⟩ := takeWhile_dropWhile_iff.mpr ⟨rfl, hremark, hend⟩
    have hchars : (Piece.comment hashes remark stop).chars ++ rest =
        hashes ++ (remark ++ stop :: rest) := by
      simp [Piece.chars]
    unfold readComment?
    simp only [hchars, htake, hdrop, htake', hdrop', hne, hstop, if_false, if_true]

theorem readBlanks?_of_endsRun (h : EndsRun isBlank text) : readBlanks? text = none := by
  simp [readBlanks?, h.takeWhile_eq_nil]

/-- A `text` that begins with another letter than an instruction does is tried for blanks and
comments only. -/
theorem readPiece?_of_head_ne (h : text.head? ≠ some 'S') : readPiece? dialect text =
    match readBlanks? text with
    | some reading => some reading
    | none =>
      match dialect with
      | .commented => readComment? text
      | .bare => none := by
  unfold readPiece?
  split
  · next s rest hs =>
    obtain ⟨tail, htail⟩ := s.chars_eq_cons
    obtain ⟨-, -, rfl⟩ := readStatement_eq_ok_iff.mp hs
    rw [htail] at h
    exact absurd rfl h
  · rfl

/-- **A piece is read** exactly from its characters, where it ends. -/
theorem readPiece?_eq_some_iff : readPiece? dialect text = some (p, rest) ↔
    p.IsAdmitted dialect ∧ p.EndsBefore rest ∧ p.chars ++ rest = text := by
  constructor
  · intro h
    unfold readPiece? at h
    split at h
    · next hs =>
      simp only [Option.some.injEq, Prod.mk.injEq] at h
      obtain ⟨rfl, rfl⟩ := h
      exact readStatement_eq_ok_iff.mp hs
    · split at h
      · next hb =>
        rw [h, readBlanks?_eq_some_iff] at hb
        obtain ⟨run, rfl, hne, rfl, hrun, hrest⟩ := hb
        exact ⟨⟨hne, hrun⟩, hrest, rfl⟩
      · split at h
        · obtain ⟨hashes, remark, stop, rfl, hp, rfl⟩ := readComment?_eq_some_iff.mp h
          exact ⟨hp, trivial, rfl⟩
        · cases h
  · rintro ⟨hp, hrest, rfl⟩
    -- The three kinds of pieces begin with different characters, so that their order is idle.
    cases p with
    | instruction s =>
      have hs := readStatement_eq_ok_iff.mpr ⟨hp, hrest, rfl⟩
      unfold readPiece?
      simp only [Piece.chars, hs]
    | blanks run =>
      have hb := readBlanks?_eq_some_iff.mpr ⟨run, rfl, hp.1, rfl, hp.2, hrest⟩
      obtain ⟨c, run, rfl⟩ := List.exists_cons_of_ne_nil hp.1
      have hc : isBlank c = true := hp.2 c (by simp)
      rw [readPiece?_of_head_ne, Piece.chars, hb]
      rintro ⟨⟩
      exact absurd hc (by decide)
    | comment hashes remark stop =>
      have hc : readComment? ((Piece.comment hashes remark stop).chars ++ rest) =
          some (.comment hashes remark stop, rest) :=
        readComment?_eq_some_iff.mpr ⟨hashes, remark, stop, rfl, ⟨rfl, hp.2⟩, rfl⟩
      obtain ⟨rfl, hhashes, -⟩ := hp
      obtain ⟨hashes, rfl⟩ := hashes_eq_cons hhashes
      rw [readPiece?_of_head_ne, readBlanks?_of_endsRun, hc]
      · exact endsRun_cons.mpr (by decide)
      · rintro ⟨⟩

/-! ## All pieces of a text -/

/-- The instructions found in `text`, which begins at `offset`, on `line`. -/
def found (dialect : Dialect) (offset line : Nat) (text : List Char) : List Located :=
  locate offset line (readPieces dialect text).1

/-- What the reader leaves of `text`: nothing, or what does not begin with a piece. -/
def left (dialect : Dialect) (text : List Char) : List Char :=
  (readPieces dialect text).2

theorem readPiece?_nil : readPiece? dialect [] = none := by
  cases dialect <;> rfl

theorem readPieces_nil : readPieces dialect [] = ([], []) :=
  readPieces_of_none readPiece?_nil

@[simp] theorem left_nil : left dialect [] = [] := by
  rw [left, readPieces_nil]

@[simp] theorem found_nil (offset line : Nat) : found dialect offset line [] = [] := by
  unfold found
  rw [readPieces_nil]
  rfl

theorem readPiece?_left (dialect : Dialect) (text : List Char) :
    readPiece? dialect (left dialect text) = none := by
  unfold left
  induction text using readPieces.induct dialect with
  | case1 text h => rwa [readPieces_of_none h]
  | case2 text p rest h _ _ _ ih => rwa [readPieces_of_some h]

theorem left_left (dialect : Dialect) (text : List Char) :
    left dialect (left dialect text) = left dialect text := by
  show (readPieces dialect (left dialect text)).2 = _
  rw [readPieces_of_none (readPiece?_left dialect text)]

/-- What was read and what is `left` make up the text. -/
theorem chars_of_readPieces (dialect : Dialect) (text : List Char) :
    (readPieces dialect text).1.flatMap Piece.chars ++ left dialect text = text := by
  unfold left
  induction text using readPieces.induct dialect with
  | case1 text h => rw [readPieces_of_none h, List.flatMap_nil, List.nil_append]
  | case2 text p rest h _ _ _ ih =>
    rw [readPieces_of_some h, List.flatMap_cons, List.append_assoc, ih, chars_of_readPiece? h]

theorem endsRun_left (dialect : Dialect) (text : List Char) :
    EndsRun isBlank (left dialect text) := by
  have h := readPiece?_left dialect text
  intro c hc
  rw [Bool.eq_false_iff]
  intro hb
  obtain ⟨tail, htail⟩ := List.head?_eq_some_iff.mp hc
  have hspan := List.takeWhile_append_dropWhile (p := isBlank) (l := left dialect text)
  have hread : readPiece? dialect (left dialect text) =
      some (.blanks ((left dialect text).takeWhile isBlank),
        (left dialect text).dropWhile isBlank) := by
    refine readPiece?_eq_some_iff.mpr ⟨⟨?_, ?_⟩, endsRun_dropWhile _ _, hspan⟩
    · rw [htail, List.takeWhile_cons_of_pos hb]
      exact List.cons_ne_nil _ _
    · exact List.all_eq_true.mp List.all_takeWhile
  rw [h] at hread
  cases hread

theorem locate_cons (offset line : Nat) (p : Piece) (ps : List Piece) :
    locate offset line (p :: ps) = locate offset line [p] ++
      locate (offset + byteLength p.chars) (line + lineBreaks p.chars) ps := by
  cases p <;> rfl

theorem found_of_some (h : readPiece? dialect text = some (p, rest)) (offset line : Nat) :
    found dialect offset line text = locate offset line [p] ++
      found dialect (offset + byteLength p.chars) (line + lineBreaks p.chars) rest := by
  unfold found
  rw [readPieces_of_some h, locate_cons]

theorem left_of_some (h : readPiece? dialect text = some (p, rest)) :
    left dialect text = left dialect rest := by
  unfold left
  rw [readPieces_of_some h]

/-- Every instruction that is `found` is one of the grammar. -/
theorem isAdmitted_of_mem_found {offset line : Nat} {l : Located}
    (h : l ∈ found dialect offset line text) : l.statement.IsAdmitted := by
  induction text using readPieces.induct dialect generalizing offset line with
  | case1 text hnone =>
    rw [found, readPieces_of_none hnone] at h
    cases h
  | case2 text p rest hsome _ _ _ ih =>
    obtain ⟨hp, -, -⟩ := readPiece?_eq_some_iff.mp hsome
    rw [found_of_some hsome, List.mem_append] at h
    rcases h with h | h
    · cases p with
      | instruction s =>
        obtain rfl := List.mem_singleton.mp h
        exact hp
      | blanks run => cases h
      | comment hashes remark stop => cases h
    · exact ih h

/-- Blanks `run` in front of `rest` move what is found in it, whether or not it begins with further
blanks. -/
theorem readPieces_run_append (dialect : Dialect) (rest : List Char)
    (hrun : ∀ c ∈ run, isBlank c = true) :
    left dialect (run ++ rest) = left dialect rest ∧ ∀ offset line,
      found dialect offset line (run ++ rest) =
        found dialect (offset + byteLength run) (line + lineBreaks run) rest := by
  have hread : ∀ run rest, run ≠ [] → (∀ c ∈ run, isBlank c = true) → EndsRun isBlank rest →
      readPiece? dialect (run ++ rest) = some (.blanks run, rest) :=
    fun _ _ hne hrun hrest => readPiece?_eq_some_iff.mpr ⟨⟨hne, hrun⟩, hrest, rfl⟩
  by_cases hne : run = []
  · subst hne
    exact ⟨rfl, fun _ _ => rfl⟩
  obtain ⟨more, rest', rfl, hmore, hend⟩ : ∃ more rest', more ++ rest' = rest ∧
      (∀ c ∈ more, isBlank c = true) ∧ EndsRun isBlank rest' :=
    ⟨_, _, takeWhile_dropWhile_iff.mp ⟨rfl, rfl⟩⟩
  -- The reader takes the run and the blanks behind it as one piece.
  have hboth := hread (run ++ more) rest' (by simp [hne])
    (fun c hc => (List.mem_append.mp hc).elim (hrun c) (hmore c)) hend
  rw [List.append_assoc] at hboth
  by_cases hnone : more = []
  · subst hnone
    rw [List.append_nil, List.nil_append] at hboth
    exact ⟨left_of_some hboth, found_of_some hboth⟩
  · have hlate := hread more rest' hnone hmore hend
    refine ⟨(left_of_some hboth).trans (left_of_some hlate).symm, fun offset line => ?_⟩
    rw [found_of_some hboth, found_of_some hlate]
    simp only [Piece.chars, byteLength_append, lineBreaks_append, Nat.add_assoc]
    rfl

/-- **From piece to piece.** The piece `p` in front of `rest` adds itself to what is found in it. -/
theorem readPieces_chars_append (rest : List Char) (hp : p.IsAdmitted dialect)
    (hrest : ∀ s, p = .instruction s → s.data.literal.EndsBefore rest) :
    left dialect (p.chars ++ rest) = left dialect rest ∧ ∀ offset line,
      found dialect offset line (p.chars ++ rest) = locate offset line [p] ++
        found dialect (offset + byteLength p.chars) (line + lineBreaks p.chars) rest := by
  cases p with
  | instruction s =>
    have h := readPiece?_eq_some_iff.mpr ⟨hp, hrest s rfl, rfl⟩
    exact ⟨left_of_some h, found_of_some h⟩
  | blanks run => exact readPieces_run_append dialect rest hp.2
  | comment hashes remark stop =>
    have h : readPiece? dialect ((Piece.comment hashes remark stop).chars ++ rest) =
        some (.comment hashes remark stop, rest) :=
      readPiece?_eq_some_iff.mpr ⟨hp, trivial, rfl⟩
    exact ⟨left_of_some h, found_of_some h⟩

/-! ## Texts one after another -/

/-- No literal at the end of `a` carries on into `b`. -/
def Detached (a b : List Char) : Prop :=
  (∀ c ∈ a.getLast?, isBlank c = true) ∨ ∀ l : HexLiteral, l.EndsBefore b

theorem Detached.of_append (h : Detached (a ++ b) rest) : Detached b rest := by
  rcases h with h | h
  · refine .inl fun c hc => h c ?_
    rw [Option.mem_def] at hc ⊢
    rw [List.getLast?_append, hc]
    rfl
  · exact .inr h

/-- Detached from `rest`, the instruction `s` ends before it. -/
theorem Detached.endsBefore (h : Detached s.chars rest) (hs : s.IsAdmitted) :
    s.data.literal.EndsBefore rest := by
  rcases h with h | h
  · obtain ⟨c, hc, hd⟩ := s.getLast?_chars hs
    have hb := isBlank_of_isHexDigit hd
    rw [h c hc] at hb
    cases hb
  · exact h _

/-- Nothing carries on behind whole lines. -/
theorem Detached.of_lines (h : a = [] ∨ a.getLast? = some '\n') : Detached a b := by
  refine .inl fun c hc => ?_
  rcases h with rfl | h
  · cases hc
  · rw [h] at hc
    obtain rfl := Option.some.inj hc
    decide

/-- **A text that is read to its end** in front of another adds its instructions and moves those of
the other. -/
theorem readPieces_append (ha : left dialect a = []) (hab : Detached a b) :
    left dialect (a ++ b) = left dialect b ∧ ∀ offset line,
      found dialect offset line (a ++ b) = found dialect offset line a ++
        found dialect (offset + byteLength a) (line + lineBreaks a) b := by
  induction a using readPieces.induct dialect with
  | case1 a h =>
    have : a = [] := by
      rw [← ha, left, readPieces_of_none h]
    subst this
    refine ⟨rfl, fun offset line => ?_⟩
    rw [found_nil]
    rfl
  | case2 a p rest h _ _ _ ih =>
    obtain ⟨hp, hrest, rfl⟩ := readPiece?_eq_some_iff.mp h
    rw [left_of_some h] at ha
    obtain ⟨hleft, hfound⟩ := ih ha hab.of_append
    -- Only the last piece touches the second text; a run of blanks there may grow into it.
    have hend : ∀ s, p = .instruction s → s.data.literal.EndsBefore (rest ++ b) := by
      rintro s rfl
      refine HexLiteral.EndsBefore.append hrest fun hnil => ?_
      subst hnil
      rw [List.append_nil] at hab
      exact hab.endsBefore hp
    obtain ⟨hleft', hfound'⟩ := readPieces_chars_append (rest ++ b) hp hend
    rw [List.append_assoc]
    refine ⟨hleft'.trans hleft, fun offset line => ?_⟩
    rw [hfound', hfound, found_of_some h]
    simp only [byteLength_append, lineBreaks_append, Nat.add_assoc, List.append_assoc]

/-- **What was read of a text** is read, to its end, from that part alone. -/
theorem readPieces_of_append_left (h : a ++ left dialect text = text) :
    readPieces dialect a = ((readPieces dialect text).1, []) := by
  induction text using readPieces.induct dialect generalizing a with
  | case1 text hnone =>
    have hleft : left dialect text = text := by rw [left, readPieces_of_none hnone]
    rw [hleft, List.append_left_eq_self] at h
    rw [h, readPieces_nil, readPieces_of_none hnone]
  | case2 text p rest hsome _ _ _ ih =>
    obtain ⟨hp, hrest, rfl⟩ := readPiece?_eq_some_iff.mp hsome
    rw [left_of_some hsome] at h
    obtain ⟨a', ha'⟩ : ∃ a', a' ++ left dialect rest = rest :=
      ⟨_, chars_of_readPieces dialect rest⟩
    have happ : a ++ left dialect rest = (p.chars ++ a') ++ left dialect rest := by
      rw [h, List.append_assoc, ha']
    obtain rfl := List.append_cancel_right happ
    have hread : readPiece? dialect (p.chars ++ a') = some (p, a') := by
      rw [← ha'] at hrest
      exact readPiece?_eq_some_iff.mpr ⟨hp, hrest.of_append, rfl⟩
    rw [readPieces_of_some hread, ih ha', readPieces_of_some hsome]

end RegisterWrites.Document
