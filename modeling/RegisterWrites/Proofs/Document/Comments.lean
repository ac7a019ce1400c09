import RegisterWrites.Proofs.Document.Dialects
import RegisterWrites.Proofs.Document.Language

/-!
# Comments left out

Comments say nothing: a document from which they are cut out (`stripComments`) is a document of
every dialect (`Written.stripComments`), with the same instructions on the same lines
(`map_found_stripComments`), because what ends a comment stays and a comment holds no line
break. The main statement is `parse_stripComments`.
-/

namespace RegisterWrites.Document

open Text

variable {dialect : Dialect} {c : Char} {a text : List Char} {ss : List Statement}

/-! ## Cutting out comments -/

/-- Whether `c` ends a comment, whatever that holds: a blank that is not a space. -/
def endsComment (c : Char) : Bool := isBlank c && c ≠ ' '

/-- A text without what stands from a hash up to the next character that ends a comment. -/
def stripComments : List Char → List Char
  | [] => []
  | c :: text =>
    if c = '#' then stripComments (text.dropWhile fun c => !endsComment c)
    else c :: stripComments text
termination_by text => text.length
decreasing_by
  · have := (text.dropWhile_sublist fun c => !endsComment c).length_le
    simp only [List.length_cons]
    omega
  · simp only [List.length_cons]
    omega

theorem stripComments_nil : stripComments [] = [] := by
  rw [stripComments]

theorem stripComments_cons (h : c ≠ '#') (text : List Char) :
    stripComments (c :: text) = c :: stripComments text := by
  rw [stripComments, if_neg h]

theorem stripComments_append (h : '#' ∉ a) (text : List Char) :
    stripComments (a ++ text) = a ++ stripComments text := by
  induction a with
  | nil => rfl
  | cons c a ih =>
    rw [List.mem_cons, not_or] at h
    rw [List.cons_append, stripComments_cons (Ne.symm h.1), ih h.2, List.cons_append]

/-- Of a comment `stripComments` keeps only the blank at its end. -/
theorem stripComments_comment {hashes remark : List Char} {stop : Char}
    (h : (Piece.comment hashes remark stop).IsAdmitted .commented) (text : List Char) :
    stripComments (hashes ++ remark ++ stop :: text) = stop :: stripComments text := by
  obtain ⟨-, hhashes, hremark, hblank, hspace⟩ := h
  obtain ⟨hashes, rfl⟩ := hashes_eq_cons hhashes
  -- neither a hash nor what a remark is made of ends a comment
  have hinside : ∀ c ∈ hashes ++ remark, (!endsComment c) = true := by
    intro c hc
    rw [Bool.not_eq_true', endsComment, Bool.and_eq_false_imp, decide_eq_false_iff_not]
    intro hb hs
    rcases List.mem_append.mp hc with hc | hc
    · obtain rfl := hhashes.2 c (List.mem_cons_of_mem _ hc)
      exact absurd hb (by decide)
    · have hr := hremark c hc
      rw [isRemark_of_isBlank hb hs] at hr
      cases hr
  have hend : EndsRun (fun c => !endsComment c) (stop :: text) := by
    simp [endsComment, hblank, hspace]
  have hstop : stop ≠ '#' := ne_of_class hblank (by decide)
  have hdrop := (takeWhile_dropWhile_iff.mpr ⟨rfl, hinside, hend⟩).2
  rw [List.cons_append, List.cons_append, stripComments, if_pos rfl, hdrop,
    stripComments_cons hstop]

/-! ## The document that is left -/

theorem Written.stripComments (dialect : Dialect) (h : Written .commented text ss) :
    Written dialect (stripComments text) ss := by
  induction h with
  | nil =>
    rw [stripComments_nil]
    exact .nil
  | instruction hs h ih =>
    rw [stripComments_append (Statement.notMem_hash hs)]
    exact .instruction hs ih
  | blank hc h ih =>
    rw [stripComments_cons (ne_of_class hc (by decide))]
    exact .blank hc ih
  | comment hdialect hhashes hremark hstop h ih =>
    rw [stripComments_comment ⟨hdialect, hhashes, hremark, hstop⟩]
    exact .blank hstop.1 ih

/-- Without its comments a document holds the same instructions, on the same lines. -/
theorem map_found_stripComments (dialect : Dialect) (h : Written .commented text ss)
    (offset offset' line : Nat) :
    (found dialect offset line (stripComments text)).map Located.unplaced =
      (found .commented offset' line text).map Located.unplaced := by
  -- behind the first comment the offsets differ, the lines never do
  induction h generalizing offset offset' line with
  | nil => rw [stripComments_nil, found_nil, found_nil]
  | @instruction s text ss hs h ih =>
    rw [stripComments_append (Statement.notMem_hash hs),
      (readPieces_instruction hs (h.stripComments dialect)).2, (readPieces_instruction hs h).2,
      List.map_cons, List.map_cons, ih]
    rfl
  | @blank c text ss hc h ih =>
    have hne : c ≠ '#' := ne_of_class hc (by decide)
    rw [stripComments_cons hne, (readPieces_blank dialect hc _).2,
      (readPieces_blank .commented hc text).2, ih]
  | @comment hashes remark stop text ss hdialect hhashes hremark hstop h ih =>
    have hpiece : Piece.IsAdmitted .commented (.comment hashes remark stop) :=
      ⟨hdialect, hhashes, hremark, hstop⟩
    rw [stripComments_comment hpiece, (readPieces_blank dialect hstop.1 _).2,
      (readPieces_comment hpiece text).2, ih]

/-- **Comments can be left out.** A `text` that is read to its end comes to the same without its
comments (`stripComments`), in either dialect: the same instructions on the same lines, or the same
size that does not fit. -/
theorem parse_stripComments {text : String} (h : IsReadable .commented text) :
    (parse (String.ofList (stripComments text.toList)) .bare).result =
        (parse text .commented).result ∧
      (parse (String.ofList (stripComments text.toList)) .commented).result =
        (parse text .commented).result := by
  have hleft := isReadable_iff.mp h
  obtain ⟨ss, hss⟩ := exists_written_of_left_eq_nil hleft
  have hsame : ∀ dialect, (parse (String.ofList (stripComments text.toList)) dialect).result =
      (parse text .commented).result := by
    intro dialect
    have hstripped : left dialect (String.ofList (stripComments text.toList)).toList = [] := by
      rw [String.toList_ofList]
      exact (hss.stripComments dialect).readPieces.1
    rw [result_parse_of_left_eq_nil hstripped, result_parse_of_left_eq_nil hleft,
      String.toList_ofList, ← mapM_unplaced, map_found_stripComments dialect hss 0 0 1,
      mapM_unplaced]
  exact ⟨hsame .bare, hsame .commented⟩

/-- A comment that looks like an instruction and ends at a tab, and one in front of the next
instruction. -/
theorem parse_stripComments_tab :
    String.ofList (stripComments "#Size:1,Offset:2,Data:3\tSize:4,Offset:5,Data:6##\n#a \r".toList) =
        "\tSize:4,Offset:5,Data:6\n\r" ∧
      (parse "\tSize:4,Offset:5,Data:6\n\r" .bare).result =
        (parse "#Size:1,Offset:2,Data:3\tSize:4,Offset:5,Data:6##\n#a \r" .commented).result := by
  have hstrip : String.ofList
      (stripComments "#Size:1,Offset:2,Data:3\tSize:4,Offset:5,Data:6##\n#a \r".toList) =
        "\tSize:4,Offset:5,Data:6\n\r" := by
    with_unfolding_all rfl
  have hread : (parse "#Size:1,Offset:2,Data:3\tSize:4,Offset:5,Data:6##\n#a \r"
      .commented).result = .ok [⟨1, 4, ⟨"4"⟩, ⟨"5"⟩, ⟨"6"⟩⟩] := by
    with_unfolding_all rfl
  have hreadable : IsReadable .commented
      "#Size:1,Offset:2,Data:3\tSize:4,Offset:5,Data:6##\n#a \r" := by
    intro place hplace
    rw [hread] at hplace
    cases hplace
  exact ⟨hstrip, hstrip ▸ (parse_stripComments hreadable).1⟩

end RegisterWrites.Document
