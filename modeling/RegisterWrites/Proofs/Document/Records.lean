import RegisterWrites.Proofs.Conversion.Strictness
import RegisterWrites.Proofs.Document.Language

/-!
# Rendered instructions are read back

The instructions of a document, rendered one per line, are a document of every dialect, and
reading it returns them, numbered from the first line on (`parse_renderAll`). Nothing that a
conversion writes is lost on the way, except the lines on which the instructions stood.
-/

namespace RegisterWrites

open Text Document

/-! ## The rendered form -/

/-- The instruction `i` as it stands in its rendered form. -/
def Instruction.plain (i : Instruction) : Statement where
  size := ⟨⟨none, some ' '⟩, i.sizeLiteral⟩
  afterSize := ⟨none, some ' '⟩
  offset := ⟨⟨none, some ' '⟩, i.offset⟩
  afterOffset := ⟨none, some ' '⟩
  data := ⟨⟨none, some ' '⟩, i.data⟩

namespace Instruction

variable {i : Instruction} {is : List Instruction}

theorem toList_render (i : Instruction) : i.render.toList = i.plain.chars := by
  have hcolon : ": ".toList = [':', ' '] := rfl
  have hcomma : ", ".toList = [',', ' '] := rfl
  simp only [render, String.toList_append, hcolon, hcomma]
  simp [plain, Statement.chars, Clause.chars, Separator.chars]

theorem renderAll_cons : renderAll (i :: is) = i.render ++ "\n" ++ renderAll is := by
  rw [renderAll, renderAll, List.map_cons, String.join_cons]

theorem toList_renderAll_cons :
    (renderAll (i :: is)).toList = i.plain.chars ++ '\n' :: (renderAll is).toList := by
  rw [renderAll_cons, String.toList_append, String.toList_append, toList_render,
    List.append_assoc]
  rfl

theorem IsGrammatical.isAdmitted_plain (h : i.IsGrammatical) : i.plain.IsAdmitted := by
  have hspace : (Separator.mk none (some ' ')).IsAdmitted :=
    ⟨nofun, fun c hc => by cases hc; decide⟩
  exact ⟨⟨hspace, h.sizeLiteral⟩, hspace, ⟨hspace, h.offset⟩, hspace, hspace, h.data⟩

/-- Rendered instructions are `Written` in every dialect. -/
theorem written_renderAll (dialect : Dialect) (h : ∀ i ∈ is, i.IsGrammatical) :
    Written dialect (renderAll is).toList (is.map plain) := by
  induction is with
  | nil => exact .nil
  | cons i is ih =>
    rw [List.forall_mem_cons] at h
    rw [toList_renderAll_cons]
    exact .instruction h.1.isAdmitted_plain (.blank (by decide) (ih h.2))

end Instruction

/-! ## Lines of the rendered form -/

/-- The instructions `is` on consecutive lines, from `line` on. -/
def Instruction.numbered (line : Nat) (is : List Instruction) : List Instruction :=
  is.mapIdx fun k i => { i with line := line + k }

theorem Instruction.numbered_cons (line : Nat) (i : Instruction) (is : List Instruction) :
    numbered line (i :: is) = { i with line := line } :: numbered (line + 1) is := by
  rw [numbered, numbered, List.mapIdx_cons, Nat.add_zero]
  congr 2
  funext k i
  rw [Nat.add_assoc, Nat.add_comm 1]

/-- What does not depend on the lines is the same of `numbered` instructions. -/
theorem Instruction.map_numbered {β : Type} {f : Instruction → β}
    (hf : ∀ i line, f { i with line := line } = f i) (line : Nat) (is : List Instruction) :
    (numbered line is).map f = is.map f := by
  induction is generalizing line with
  | nil => rfl
  | cons i is ih => rw [numbered_cons, List.map_cons, List.map_cons, hf, ih]

theorem Document.lineBreaks_of_isHex {l : HexLiteral} (h : IsHex l) :
    lineBreaks l.text.toList = 0 := by
  rw [lineBreaks, List.count_eq_zero]
  intro hmem
  rcases mem_literal h hmem with hdigit | hmark
  · exact absurd hdigit (by decide)
  · exact absurd hmark (by decide)

namespace Instruction

variable {i : Instruction} {is : List Instruction}

theorem IsGrammatical.lineBreaks_plain (h : i.IsGrammatical) : lineBreaks i.plain.chars = 0 := by
  have hcolon : lineBreaks ((Separator.mk none (some ' ')).chars ':') = 0 := rfl
  have hcomma : lineBreaks ((Separator.mk none (some ' ')).chars ',') = 0 := rfl
  have hkey : ∀ field : Field, lineBreaks field.keyword.toList = 0 := by
    intro field
    cases field <;> rfl
  simp only [plain, Statement.chars, Clause.chars, lineBreaks_append, hkey, hcolon, hcomma,
    lineBreaks_of_isHex h.sizeLiteral, lineBreaks_of_isHex h.offset, lineBreaks_of_isHex h.data]

theorem IsGrammatical.toInstruction_plain (h : i.IsGrammatical) (start line : Nat) :
    (Located.mk start line i.plain).toInstruction = .ok { i with line := line } :=
  toInstruction_eq_ok_iff.mpr ⟨h.size, rfl, rfl, rfl, rfl⟩

/-- The rendered instruction `i` is found in front of the others, and takes one line. -/
theorem found_renderAll_cons (dialect : Dialect) (h : ∀ j ∈ i :: is, j.IsGrammatical)
    (offset line : Nat) : ∃ offset', found dialect offset line (renderAll (i :: is)).toList =
      ⟨offset, line, i.plain⟩ :: found dialect offset' (line + 1) (renderAll is).toList := by
  rw [List.forall_mem_cons] at h
  have hfeed : isBlank '\n' = true := by decide
  have hrest := Written.blank hfeed (written_renderAll dialect h.2)
  refine ⟨offset + byteLength i.plain.chars + byteLength ['\n'], ?_⟩
  rw [toList_renderAll_cons, (readPieces_instruction h.1.isAdmitted_plain hrest).2,
    (readPieces_blank dialect hfeed _).2, h.1.lineBreaks_plain]
  rfl

/-- Rendered instructions are read as they were, each on the next line. -/
theorem mapM_found_renderAll (dialect : Dialect) (h : ∀ i ∈ is, i.IsGrammatical)
    (offset line : Nat) :
    (found dialect offset line (renderAll is).toList).mapM Located.toInstruction =
      .ok (numbered line is) := by
  rw [mapM_eq_ok_iff]
  induction is generalizing offset line with
  | nil =>
    have hnil : (renderAll []).toList = [] := rfl
    rw [hnil, found_nil]
    rfl
  | cons i is ih =>
    obtain ⟨offset', hfound⟩ := found_renderAll_cons dialect h offset line
    rw [List.forall_mem_cons] at h
    rw [hfound, List.map_cons, ih h.2, h.1.toInstruction_plain, numbered_cons, List.map_cons]

end Instruction

theorem result_convert_of_parse {o : Options} {text : String} {is : List Instruction}
    (h : (parse text o.dialect).result = .ok is) :
    (convert text o).result = (encodeAll o is).result := by
  unfold convert
  rw [Logged.bind_of_ok h, Logged.bind_of_ok rfl, Logged.bind_of_ok rfl]

/-- **Rendered instructions are read back.** The instructions `is` of a document, rendered by
`renderAll` and read in any dialect, are the same but for their lines, which are those of the
rendered form. Hence they are rendered in the same way again, and without refusal their conversion
writes what the encoding of `is` writes. -/
theorem parse_renderAll {text : String} {dialect : Dialect} {is : List Instruction}
    (h : (parse text dialect).result = .ok is) (dialect' : Dialect) :
    ∃ js, (parse (Instruction.renderAll is) dialect').result = .ok js ∧
      js.length = is.length ∧
      (∀ (k : Nat) (i : Instruction), is[k]? = some i → js[k]? = some { i with line := k + 1 }) ∧
      Instruction.renderAll js = Instruction.renderAll is ∧
      ∀ (o : Options) (e : Emission), o.strictness = .off →
        ∃ ds ds', (convert (Instruction.renderAll is) o).result = .ok ds ∧
          (encodeAll o is).result = .ok ds' ∧
          Descriptor.initializers e ds = Descriptor.initializers e ds' := by
  have his := isGrammatical_of_parse h
  have hread : ∀ d : Dialect, (parse (Instruction.renderAll is) d).result =
      .ok (Instruction.numbered 1 is) := fun d =>
    result_parse_eq_ok_iff.mpr ⟨(Instruction.written_renderAll d his).readPieces.1,
      Instruction.mapM_found_renderAll d his 0 1⟩
  refine ⟨_, hread dialect', List.length_mapIdx, ?_, ?_, ?_⟩
  · intro k i hi
    rw [Instruction.numbered, List.getElem?_mapIdx, hi, Nat.add_comm]
    rfl
  · rw [Instruction.renderAll, Instruction.renderAll, Instruction.map_numbered fun _ _ => rfl]
  · intro o e ho
    have hlenient : o.strictness ≠ .deny := by
      rw [ho]
      nofun
    refine ⟨_, _, (result_convert_of_parse (hread o.dialect)).trans
      (result_encodeAll hlenient _), result_encodeAll hlenient is, ?_⟩
    rw [Descriptor.initializers, Descriptor.initializers, List.map_map, List.map_map,
      Instruction.map_numbered fun _ _ => rfl]

/-- An instruction on the second line, with blanks and a mark of its own, moves to the first
line and keeps its literals. -/
theorem parse_renderAll_indented :
    (parse "#\n Size :0X01,Offset:2, Data:F" .commented).result =
        .ok [⟨2, 1, ⟨"0X01"⟩, ⟨"2"⟩, ⟨"F"⟩⟩] ∧
      ∃ js, (parse (Instruction.renderAll [⟨2, 1, ⟨"0X01"⟩, ⟨"2"⟩, ⟨"F"⟩⟩]) .bare).result =
          .ok js ∧
        js[0]? = some ⟨1, 1, ⟨"0X01"⟩, ⟨"2"⟩, ⟨"F"⟩⟩ := by
  have h : (parse "#\n Size :0X01,Offset:2, Data:F" .commented).result =
      .ok [⟨2, 1, ⟨"0X01"⟩, ⟨"2"⟩, ⟨"F"⟩⟩] := by
    with_unfolding_all rfl
  obtain ⟨js, hjs, -, hsame, -⟩ := parse_renderAll h .bare
  exact ⟨h, js, hjs, hsame 0 _ rfl⟩

end RegisterWrites
