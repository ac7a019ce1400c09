import RegisterWrites.Proofs.Reading.Result

/-!
# The language of register documents

The documents of a dialect as a language, without a reader: a document is a row of
instructions, single blanks and comments in any order, with nothing required between them
(`Written`). The greedy reader accepts exactly this language and finds exactly the
instructions of it (`parse_language`).
-/

namespace RegisterWrites.Document

open Text

variable {dialect : Dialect} {text run : List Char} {s : Statement} {ss : List Statement}
  {c stop : Char} {hashes remark : List Char}

/-- The texts of `dialect`, with their instructions in order. -/
inductive Written (dialect : Dialect) : List Char → List Statement → Prop
  | nil : Written dialect [] []
  | instruction {s : Statement} {text : List Char} {ss : List Statement}
      (hs : s.IsAdmitted) (h : Written dialect text ss) :
      Written dialect (s.chars ++ text) (s :: ss)
  | blank {c : Char} {text : List Char} {ss : List Statement}
      (hc : isBlank c = true) (h : Written dialect text ss) :
      Written dialect (c :: text) ss
  | comment {hashes remark : List Char} {stop : Char} {text : List Char} {ss : List Statement}
      (hdialect : dialect = .commented)
      (hhashes : hashes ≠ [] ∧ ∀ c ∈ hashes, c = '#')
      (hremark : ∀ c ∈ remark, isRemark c = true)
      (hstop : isBlank stop = true ∧ stop ≠ ' ')
      (h : Written dialect text ss) :
      Written dialect (hashes ++ remark ++ stop :: text) ss

namespace Written

/-- The literal `l` does not carry on into a document behind it. -/
theorem endsBefore (h : Written dialect text ss) (l : HexLiteral) : l.EndsBefore text := by
  cases h with
  | nil => exact l.endsBefore_nil
  | @instruction s text ss hs h =>
    obtain ⟨tail, htail⟩ := s.chars_eq_cons
    rw [htail]
    exact HexLiteral.endsBefore_cons rfl rfl
  | blank hc h => exact HexLiteral.endsBefore_of_isBlank hc
  | @comment hashes remark stop text ss hdialect hhashes hremark hstop h =>
    obtain ⟨hashes, rfl⟩ := hashes_eq_cons hhashes
    exact HexLiteral.endsBefore_cons rfl rfl

theorem run_append (hrun : ∀ c ∈ run, isBlank c = true) (h : Written dialect text ss) :
    Written dialect (run ++ text) ss := by
  induction run with
  | nil => exact h
  | cons c run ih =>
    exact .blank (hrun c List.mem_cons_self) (ih fun c hc => hrun c (List.mem_cons_of_mem _ hc))

end Written

/-! ## The front of a document -/

theorem readPieces_instruction (hs : s.IsAdmitted) (h : Written dialect text ss) :
    left dialect (s.chars ++ text) = left dialect text ∧ ∀ offset line,
      found dialect offset line (s.chars ++ text) = ⟨offset, line, s⟩ ::
        found dialect (offset + byteLength s.chars) (line + lineBreaks s.chars) text := by
  have hpiece : Piece.IsAdmitted dialect (.instruction s) := hs
  exact readPieces_chars_append text hpiece fun _ _ => h.endsBefore _

theorem readPieces_blank (dialect : Dialect) (hc : isBlank c = true) (text : List Char) :
    left dialect (c :: text) = left dialect text ∧ ∀ offset line,
      found dialect offset line (c :: text) =
        found dialect (offset + byteLength [c]) (line + lineBreaks [c]) text :=
  readPieces_run_append dialect text (List.forall_mem_singleton.mpr hc)

/-- A comment breaks lines only with its `stop`. -/
theorem lineBreaks_comment (h : (Piece.comment hashes remark stop).IsAdmitted dialect) :
    lineBreaks (Piece.comment hashes remark stop).chars = lineBreaks [stop] := by
  obtain ⟨-, ⟨-, hhash⟩, hremark, -⟩ := h
  have hhashes : lineBreaks hashes = 0 :=
    List.count_eq_zero.mpr fun hmem => absurd (hhash '\n' hmem) (by decide)
  have hbody : lineBreaks remark = 0 :=
    List.count_eq_zero.mpr (notMem_of_class hremark (by decide))
  rw [Piece.chars, lineBreaks_append, lineBreaks_append, hhashes, hbody]
  omega

theorem readPieces_comment (h : (Piece.comment hashes remark stop).IsAdmitted dialect)
    (text : List Char) :
    left dialect (hashes ++ remark ++ stop :: text) = left dialect text ∧ ∀ offset line,
      found dialect offset line (hashes ++ remark ++ stop :: text) =
        found dialect (offset + byteLength (Piece.comment hashes remark stop).chars)
          (line + lineBreaks [stop]) text := by
  have hstep := readPieces_chars_append text h (by rintro s ⟨⟩)
  rw [lineBreaks_comment h, Piece.chars, List.append_assoc, List.singleton_append] at hstep
  exact hstep

/-- The instruction `l`, whatever bytes stand in front of it. -/
def Located.unplaced (l : Located) : Located := { l with start := 0 }

theorem mapM_unplaced (ls : List Located) :
    (ls.map Located.unplaced).mapM Located.toInstruction = ls.mapM Located.toInstruction := by
  rw [List.mapM_map]
  rfl

namespace Written

/-- A document is read to its end, and its instructions `ss` are found. -/
theorem readPieces (h : Written dialect text ss) : left dialect text = [] ∧
    ∀ offset line, (found dialect offset line text).map Located.statement = ss := by
  induction h with
  | nil => exact ⟨left_nil, fun _ _ => by rw [found_nil]; rfl⟩
  | instruction hs h ih =>
    have hstep := readPieces_instruction hs h
    refine ⟨hstep.1.trans ih.1, fun offset line => ?_⟩
    rw [hstep.2, List.map_cons, ih.2]
  | @blank c text ss hc h ih =>
    have hstep := readPieces_blank dialect hc text
    refine ⟨hstep.1.trans ih.1, fun offset line => ?_⟩
    rw [hstep.2, ih.2]
  | @comment hashes remark stop text ss hdialect hhashes hremark hstop h ih =>
    have hstep := readPieces_comment ⟨hdialect, hhashes, hremark, hstop⟩ text
    refine ⟨hstep.1.trans ih.1, fun offset line => ?_⟩
    rw [hstep.2, ih.2]

theorem isAdmitted (h : Written dialect text ss) : ∀ s ∈ ss, s.IsAdmitted := by
  induction h with
  | nil => exact fun s hs => nomatch hs
  | instruction hs _ ih => exact List.forall_mem_cons.mpr ⟨hs, ih⟩
  | blank _ _ ih => exact ih
  | comment _ _ _ _ _ ih => exact ih

end Written

/-- What is read to its end is `Written`. -/
theorem exists_written_of_left_eq_nil (h : left dialect text = []) :
    ∃ ss, Written dialect text ss := by
  induction text using readPieces.induct dialect with
  | case1 text hnone =>
    rw [left, readPieces_of_none hnone] at h
    subst h
    exact ⟨[], .nil⟩
  | case2 text p rest hsome _ _ _ ih =>
    rw [left_of_some hsome] at h
    obtain ⟨hp, -, rfl⟩ := readPiece?_eq_some_iff.mp hsome
    obtain ⟨ss, hss⟩ := ih h
    cases p with
    | instruction s => exact ⟨s :: ss, .instruction hp hss⟩
    | blanks run => exact ⟨ss, hss.run_append hp.2⟩
    | comment hashes remark stop =>
      obtain ⟨hdialect, hhashes, hremark, hstop⟩ := hp
      refine ⟨ss, ?_⟩
      rw [Piece.chars, List.append_assoc, List.singleton_append]
      exact .comment hdialect hhashes hremark hstop hss

/-- **The language of the reader.** It reads the texts that are `Written` in the dialect, all of
them and nothing else; and if every size fits in 32 bits, it returns the literals of the
instructions `ss` as they were written and in their order. -/
theorem parse_language (dialect : Dialect) (text : String) :
    (IsReadable dialect text ↔ ∃ ss, Written dialect text.toList ss) ∧
      ∀ ss, Written dialect text.toList ss →
        (∀ s ∈ ss, hexNumber s.size.literal.digits < UInt32.size) →
        ∃ is, (parse text dialect).result = .ok is ∧
          is.map (fun i => (i.sizeLiteral, i.offset, i.data)) =
            ss.map Statement.literals := by
  refine ⟨?_, fun ss h hsizes => ?_⟩
  · rw [isReadable_iff]
    exact ⟨exists_written_of_left_eq_nil, fun ⟨_, h⟩ => h.readPieces.1⟩
  · obtain ⟨hleft, hfound⟩ := h.readPieces
    have hmem : ∀ l ∈ found dialect 0 1 text.toList, l.statement ∈ ss := by
      intro l hl
      rw [← hfound 0 1]
      exact List.mem_map_of_mem hl
    have hok : ∀ l ∈ found dialect 0 1 text.toList, ∃ i, l.toInstruction = .ok i := fun l hl =>
      exists_toInstruction_eq_ok (h.isAdmitted _ (hmem l hl)).1.2 (hsizes _ (hmem l hl))
    obtain ⟨is, his⟩ := exists_mapM_eq_ok hok
    refine ⟨is, (result_parse_of_left_eq_nil hleft).trans his, ?_⟩
    rw [literals_of_mapM_eq_ok his, ← hfound 0 1, List.map_map]
    rfl

/-- Nothing needs to stand between a comment and an instruction, nor between two
instructions. -/
theorem parse_language_adjacent :
    ∃ is, (parse "##a \tSize:1,Offset:0x2,Data:3Size\n:4,Offset:5,Data:6" .commented).result =
        .ok is ∧
      is.map (fun i => (i.sizeLiteral, i.offset, i.data)) =
        [(⟨"1"⟩, ⟨"0x2"⟩, ⟨"3"⟩), (⟨"4"⟩, ⟨"5"⟩, ⟨"6"⟩)] := by
  let s₁ : Statement := ⟨⟨⟨none, none⟩, ⟨"1"⟩⟩, ⟨none, none⟩, ⟨⟨none, none⟩, ⟨"0x2"⟩⟩,
    ⟨none, none⟩, ⟨⟨none, none⟩, ⟨"3"⟩⟩⟩
  let s₂ : Statement := ⟨⟨⟨some '\n', none⟩, ⟨"4"⟩⟩, ⟨none, none⟩, ⟨⟨none, none⟩, ⟨"5"⟩⟩,
    ⟨none, none⟩, ⟨⟨none, none⟩, ⟨"6"⟩⟩⟩
  have htext : "##a \tSize:1,Offset:0x2,Data:3Size\n:4,Offset:5,Data:6".toList =
      ['#', '#'] ++ ['a', ' '] ++ '\t' :: (s₁.chars ++ (s₂.chars ++ [])) := by decide
  have hwritten : Written .commented
      "##a \tSize:1,Offset:0x2,Data:3Size\n:4,Offset:5,Data:6".toList [s₁, s₂] := by
    rw [htext]
    exact .comment rfl ⟨by decide, by simp⟩ (List.all_eq_true.mp (by decide)) (by decide)
      (.instruction (by decide) (.instruction (by decide) .nil))
  exact (parse_language .commented _).2 _ hwritten (by decide)

end RegisterWrites.Document
