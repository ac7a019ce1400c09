import RegisterWrites.Proofs.Document.Place
import RegisterWrites.Proofs.Except

/-!
# Which clause an error names

An error in front of an instruction that has begun names the first of its clauses that is not
there. What is there of a text is said without a reader (`OpensClause`, `OpensNextClause`): a
clause stands at its front, and its literal is read to the end. The reader of an instruction
fails in the first clause that the text lacks (`readStatement_eq_error_iff`), and in front of what
a document leaves unread it always fails. The main statement is `expected_of_parse_eq_error`.
-/

namespace RegisterWrites.Document

open Text

variable {field : Field} {text rest : List Char}

/-! ## Clauses at the front of a text -/

/-- A clause of `field` stands at the front of `text`, and `rest` behind it. Its literal carries on
as far as it can, and does not give back a mark. -/
def OpensClause (field : Field) (text rest : List Char) : Prop :=
  ∃ c : Clause, c.IsAdmitted ∧ c.literal.EndsBefore rest ∧ c.chars field ++ rest = text

/-- A comma and a clause of `field` stand at the front of `text`, and `rest` behind them. -/
def OpensNextClause (field : Field) (text rest : List Char) : Prop :=
  ∃ (comma : Separator) (c : Clause), (comma.IsAdmitted ∧ c.IsAdmitted) ∧
    c.literal.EndsBefore rest ∧ comma.chars ',' ++ (c.chars field ++ rest) = text

/-- The field is the first of an instruction whose clause `text` does not have. -/
def LacksClause (text : List Char) : Field → Prop
  | .size => ¬ ∃ rest, OpensClause .size text rest
  | .offset => ∃ rest, OpensClause .size text rest ∧ ¬ ∃ rest', OpensNextClause .offset rest rest'
  | .data => ∃ rest rest', OpensClause .size text rest ∧ OpensNextClause .offset rest rest' ∧
      ¬ ∃ rest'', OpensNextClause .data rest' rest''

theorem opensClause_iff :
    OpensClause field text rest ↔ ∃ c, readClause? field text = some (c, rest) := by
  simp only [OpensClause, readClause?_eq_some_iff]

theorem opensNextClause_iff :
    OpensNextClause field text rest ↔ ∃ p, readNextClause? field text = some (p, rest) := by
  simp only [OpensNextClause, Prod.exists, readNextClause?_eq_some_iff]

theorem not_exists_opensClause_iff :
    (¬ ∃ rest, OpensClause field text rest) ↔ readClause? field text = none := by
  simp only [opensClause_iff, Option.eq_none_iff_forall_ne_some, Prod.forall, not_exists, ne_eq]
  exact forall_comm

theorem not_exists_opensNextClause_iff :
    (¬ ∃ rest, OpensNextClause field text rest) ↔ readNextClause? field text = none := by
  simp only [opensNextClause_iff, Option.eq_none_iff_forall_ne_some, not_exists, ne_eq]
  constructor
  · intro h p hp
    exact h p.2 p.1 hp
  · intro h rest p hp
    exact h (p, rest) hp

theorem OpensClause.isPrefix (h : OpensClause field text rest) :
    field.keyword.toList <+: text := by
  obtain ⟨c, -, -, rfl⟩ := h
  rw [Clause.chars, List.append_assoc, List.append_assoc]
  exact List.prefix_append _ _

/-! ## Where the reader of an instruction fails -/

/-- The reader tries the clauses in their order, and fails in the first that it does not read. -/
theorem readStatement_eq_error : readStatement text = .error field ↔
    readClause? .size text = none ∧ .size = field ∨
    ∃ size rest, readClause? .size text = some (size, rest) ∧
      (readNextClause? .offset rest = none ∧ .offset = field ∨
      ∃ offset rest', readNextClause? .offset rest = some (offset, rest') ∧
        readNextClause? .data rest' = none ∧ .data = field) := by
  simp only [readStatement, bind_eq_error_iff, elim_throw_eq_ok_iff, elim_throw_eq_error_iff,
    Prod.exists, pure_ne_error, and_false, exists_false, or_false]

/-- **An instruction cannot be read** because of the first clause that is not there. -/
theorem readStatement_eq_error_iff :
    readStatement text = .error field ↔ LacksClause text field := by
  rw [readStatement_eq_error]
  constructor
  · rintro (⟨hsize, rfl⟩ |
      ⟨size, rest, hsize, ⟨hoffset, rfl⟩ | ⟨offset, rest', hoffset, hdata, rfl⟩⟩)
    · exact not_exists_opensClause_iff.mpr hsize
    · exact ⟨rest, opensClause_iff.mpr ⟨size, hsize⟩, not_exists_opensNextClause_iff.mpr hoffset⟩
    · exact ⟨rest, rest', opensClause_iff.mpr ⟨size, hsize⟩,
        opensNextClause_iff.mpr ⟨offset, hoffset⟩, not_exists_opensNextClause_iff.mpr hdata⟩
  · intro h
    cases field with
    | size => exact .inl ⟨not_exists_opensClause_iff.mp h, rfl⟩
    | offset =>
      obtain ⟨rest, hsize, hoffset⟩ := h
      obtain ⟨size, hsize⟩ := opensClause_iff.mp hsize
      exact .inr ⟨size, rest, hsize, .inl ⟨not_exists_opensNextClause_iff.mp hoffset, rfl⟩⟩
    | data =>
      obtain ⟨rest, rest', hsize, hoffset, hdata⟩ := h
      obtain ⟨size, hsize⟩ := opensClause_iff.mp hsize
      obtain ⟨offset, hoffset⟩ := opensNextClause_iff.mp hoffset
      exact .inr ⟨size, rest, hsize,
        .inr ⟨offset, rest', hoffset, not_exists_opensNextClause_iff.mp hdata, rfl⟩⟩

/-! ## What an error expects -/

variable {dialect : Dialect}

/-- Where no piece can be read, the reader of an instruction has failed. -/
theorem exists_readStatement_eq_error (h : readPiece? dialect text = none) :
    ∃ field, readStatement text = .error field := by
  cases hread : readStatement text with
  | error field => exact ⟨field, rfl⟩
  | ok reading =>
    unfold readPiece? at h
    rw [hread] at h
    cases h

theorem isSome_dropWord?_iff {word : List Char} :
    (dropWord? word text).isSome ↔ word <+: text := by
  simp only [Option.isSome_iff_exists, dropWord?_eq_some_iff]
  rfl

theorem failedField?_eq_none_iff (h : readPiece? dialect text = none) :
    failedField? text = none ↔ ¬ Field.size.keyword.toList <+: text := by
  obtain ⟨field, hfield⟩ := exists_readStatement_eq_error h
  simp only [failedField?, hfield, isSome_dropWord?_iff, ite_eq_right_iff, reduceCtorEq, imp_false]

theorem failedField?_eq_some_iff : failedField? text = some field ↔
    Field.size.keyword.toList <+: text ∧ LacksClause text field := by
  rw [← readStatement_eq_error_iff]
  unfold failedField?
  cases hread : readStatement text with
  | error other => simp [isSome_dropWord?_iff]
  | ok reading => simp

theorem clauseName_injective {field field' : Field} :
    field.clauseName = field'.clauseName ↔ field = field' := by
  cases field <;> cases field' <;> decide

/-- In front of `text`, which a document leaves unread, an error names the first clause that is
lacking, if it names one. -/
theorem map_failedField?_eq_some_iff : (failedField? text).map Field.clauseName =
    some field.clauseName ↔ Field.size.keyword.toList <+: text ∧ LacksClause text field := by
  rw [← failedField?_eq_some_iff, Option.map_eq_some_iff]
  simp only [clauseName_injective, exists_eq_right]

/-- **What an error expects.** The error lies in front of some `rest` of the document. It expects
nothing if the rest does not begin as an instruction does; else it expects the first of the three
clauses that is not there: the one for the size at the front of the rest (`OpensClause`), the one
for the offset behind that and a comma (`OpensNextClause`), or the one for the data behind both and
another comma. -/
theorem expected_of_parse_eq_error {text : String} {place : SyntaxError}
    (h : (parse text dialect).result = .error (.unreadable place)) :
    ∃ before rest : String, text = before ++ rest ∧ before.utf8ByteSize = place.offset ∧
      (place.expected = none ↔ ¬ "Size".toList <+: rest.toList) ∧
      (place.expected = some "size clause" ↔ "Size".toList <+: rest.toList ∧
        ¬ ∃ after, OpensClause .size rest.toList after) ∧
      (place.expected = some "offset clause" ↔ ∃ after, OpensClause .size rest.toList after ∧
        ¬ ∃ after', OpensNextClause .offset after after') ∧
      (place.expected = some "data clause" ↔ ∃ after after', OpensClause .size rest.toList after ∧
        OpensNextClause .offset after after' ∧ ¬ ∃ after'', OpensNextClause .data after' after'') ∧
      place.expected ∈ [none, some "size clause", some "offset clause", some "data clause"] := by
  obtain ⟨before, c, after, htext, hleft, rfl⟩ := exists_left_of_parse_eq_error h
  have hpiece : readPiece? dialect (c :: after) = none := by
    rw [← hleft]
    exact readPiece?_left dialect text.toList
  obtain ⟨field, hfield⟩ := exists_readStatement_eq_error hpiece
  have hnone := failedField?_eq_none_iff hpiece
  have hname : ∀ field, (failedField? (c :: after)).map Field.clauseName = some field.clauseName ↔
      Field.size.keyword.toList <+: c :: after ∧ LacksClause (c :: after) field :=
    fun _ => map_failedField?_eq_some_iff
  refine ⟨String.ofList before, String.ofList (c :: after), ?_, ?_, ?_⟩
  · rw [← String.ofList_append, htext, String.ofList_toList]
  · rw [← byteLength_toList, String.toList_ofList]
    rfl
  have hrest : (String.ofList (c :: after)).toList = c :: after := String.toList_ofList
  rw [hrest]
  refine ⟨Option.map_eq_none_iff.trans hnone, hname .size, (hname .offset).trans ?_,
    (hname .data).trans ?_, ?_⟩
  · -- what has a clause for the size begins as an instruction does
    refine and_iff_right_of_imp ?_
    rintro ⟨after, hsize, -⟩
    exact hsize.isPrefix
  · refine and_iff_right_of_imp ?_
    rintro ⟨after, after', hsize, -⟩
    exact hsize.isPrefix
  · simp only [SyntaxError.between]
    cases failedField? (c :: after) with
    | none => simp
    | some field => cases field <;> simp [Field.clauseName]

/-- A mark is not given back, so that a zero in front of a letter is no size; a letter behind a
size is no offset. -/
theorem expected_of_parse_eq_error_mark :
    (parse "Size: 0xG" .bare).result =
        .error (.unreadable ⟨1, 1, 0, "Size: 0xG", some "size clause"⟩) ∧
      (¬ ∃ after, OpensClause .size "Size: 0xG".toList after) ∧
      (parse "Size: 1G" .bare).result =
        .error (.unreadable ⟨1, 1, 0, "Size: 1G", some "offset clause"⟩) ∧
      ∃ after, OpensClause .size "Size: 1G".toList after ∧
        ¬ ∃ after', OpensNextClause .offset after after' := by
  have hmark : (parse "Size: 0xG" .bare).result =
      .error (.unreadable ⟨1, 1, 0, "Size: 0xG", some "size clause"⟩) := by
    with_unfolding_all rfl
  have hletter : (parse "Size: 1G" .bare).result =
      .error (.unreadable ⟨1, 1, 0, "Size: 1G", some "offset clause"⟩) := by
    with_unfolding_all rfl
  have hstart : ∀ {text before rest : String}, text = before ++ rest →
      before.utf8ByteSize = 0 → rest = text := by
    intro text before rest htext hbefore
    rw [htext, String.utf8ByteSize_eq_zero_iff.mp hbefore, String.empty_append]
  obtain ⟨before, rest, htext, hbefore, -, hsize, -⟩ := expected_of_parse_eq_error hmark
  obtain ⟨before', rest', htext', hbefore', -, -, hoffset, -⟩ := expected_of_parse_eq_error hletter
  obtain rfl := hstart htext hbefore
  obtain rfl := hstart htext' hbefore'
  exact ⟨hmark, (hsize.mp rfl).2, hletter, hoffset.mp rfl⟩

end RegisterWrites.Document
