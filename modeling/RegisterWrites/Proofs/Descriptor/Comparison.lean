import RegisterWrites.Conversion
import RegisterWrites.Proofs.Descriptor.Initializers
import RegisterWrites.Proofs.Text.Grid

/-!
# Initializers and rows, line by line

The text of initializers has one line for each descriptor, and so has the table between its
titles and its last rule. The table is read back from its lines (`readBack_render`), and a row
shows the same length and the same tokens as the initializer on its line (`isBeside_render`).
-/

namespace RegisterWrites

open Text Document

/-! ## Words -/

namespace Document

variable {l : HexLiteral}

theorem isWord_of_isHex (h : IsHex l) : IsWord l.text := by
  have hclass : ∀ c ∈ l.text.toList, isPrintable c = true ∧ isSpace c = false := by
    intro c hc
    rcases mem_literal h hc with hdigit | hmark
    · refine ⟨isPrintable_of_isHexDigit hdigit, ?_⟩
      exact decide_eq_false (ne_of_class hdigit (by decide))
    · have hletter : c = 'x' ∨ c = 'X' := by simpa [HexLiteral.isMarkLetter] using hmark
      rcases hletter with rfl | rfl
      · exact ⟨by decide, by decide⟩
      · exact ⟨by decide, by decide⟩
  obtain ⟨mark, -, digits, htext, hne, -⟩ := isHex_iff.mp h
  refine ⟨?_, fun c hc => (hclass c hc).1, fun c hc => (hclass c hc).2⟩
  intro hempty
  rw [hempty] at htext
  exact hne (List.append_eq_nil_iff.mp htext.symm).2

end Document

theorem Text.isWord_repr (n : Nat) : IsWord n.repr := by
  have hdigit : ∀ c ∈ n.repr.toList, c.isDigit = true := by
    intro c hc
    rw [Nat.toList_repr] at hc
    exact Nat.isDigit_of_mem_toDigits (by decide) (by decide) hc
  refine ⟨?_, ?_, ?_⟩
  · intro hempty
    have hchars := congrArg String.toList hempty
    rw [Nat.toList_repr] at hchars
    exact Nat.toDigits_ne_nil hchars
  · intro c hc
    have h := hdigit c hc
    change (decide ('0' ≤ c) && decide (c ≤ '9')) = true at h
    rw [Bool.and_eq_true, decide_eq_true_eq, decide_eq_true_eq] at h
    exact isPrintable_of_le (Char.le_trans (by decide) h.1) (Char.le_trans h.2 (by decide))
  · intro c hc
    exact decide_eq_false (ne_of_class (hdigit c hc) (by decide))

/-! ## The lines of initializers -/

namespace Descriptor

variable {e : Emission} {d : Descriptor} {ds : List Descriptor}

theorem isLine_initializer (h : ∀ t ∈ d.tokens e, IsHex ⟨t⟩) : IsLine (d.initializer e).toList := by
  have hnot : ∀ c, isPrintable c = false → c ∉ (d.initializer e).toList := by
    intro c hc
    have hmarks : ∀ mark : String, mark.toList.all isPrintable = true → c ∉ mark.toList :=
      fun mark hmark => notMem_of_class (List.all_eq_true.mp hmark) hc
    have htokens : c ∉ (", ".intercalate (d.tokens e)).toList := by
      rw [String.toList_intercalate]
      refine Grid.notMem_intercalate (hmarks ", " (by decide)) ?_
      intro part hpart
      obtain ⟨t, ht, rfl⟩ := List.mem_map.mp hpart
      exact notMem_of_class (isWord_of_isHex (h t ht)).printable hc
    rw [initializer, Nat.toString_eq_repr]
    simp only [String.toList_append, List.mem_append, not_or]
    exact ⟨⟨⟨⟨hmarks _ (by decide), notMem_of_class (isWord_repr _).printable hc⟩,
      hmarks _ (by decide)⟩, htokens⟩, hmarks _ (by decide)⟩
  exact ⟨hnot _ (by decide), hnot _ (by decide)⟩

theorem lines_initializers (h : ∀ d ∈ ds, ∀ t ∈ d.tokens e, IsHex ⟨t⟩) :
    lines (initializers e ds).toList = ds.map fun d => (d.initializer e).toList := by
  have hchars : (initializers e ds).toList =
      (ds.map fun d => (d.initializer e).toList).flatMap (· ++ ['\n']) := by
    rw [initializers, String.toList_join, List.flatMap_map, List.flatMap_map]
    refine List.flatMap_congr fun d _ => ?_
    rw [String.toList_append]
    rfl
  rw [hchars, lines_flatMap]
  intro l hl
  obtain ⟨d, hd, rfl⟩ := List.mem_map.mp hl
  exact isLine_initializer (h d hd)

end Descriptor

/-! ## The rows of a comparison -/

namespace Comparison

variable {e : Emission} {i : Instruction} {d : Descriptor} {is : List Instruction}
  {ds : List Descriptor} {k : Nat}

theorem isPlain_of_mem_cells (hoffset : IsHex i.offset) (hdata : IsHex i.data)
    (hd : ∀ t ∈ d.tokens e, IsHex ⟨t⟩) : ∀ cell ∈ cells e k i d, IsPlain cell := by
  have hpadded : IsPlain (if d.padded then "yes" else "") := by
    split
    · decide
    · decide
  simp only [cells, Nat.toString_eq_repr, List.forall_mem_cons]
  exact ⟨(isWord_repr k).isPlain, (isWord_repr i.line).isPlain, (isWord_repr _).isPlain,
    (isWord_of_isHex hoffset).isPlain, (isWord_of_isHex hdata).isPlain,
    (isWord_repr d.length).isPlain, isPlain_intercalate fun t ht => isWord_of_isHex (hd t ht),
    hpadded, nofun⟩

theorem isPlain_of_mem_titles : ∀ title ∈ columns.map Column.title, IsPlain title := by
  decide

theorem getElem?_rows (hi : is[k]? = some i) (hd : ds[k]? = some d) :
    (rows e is ds)[k]? = some (cells e k i d) := by
  have hzip : (is.zip ds)[k]? = some (i, d) := List.getElem?_zip_eq_some.mpr ⟨hi, hd⟩
  rw [rows, List.getElem?_mapIdx, hzip]
  rfl

theorem mem_rows {row : List String} (h : row ∈ rows e is ds) :
    ∃ k i d, i ∈ is ∧ d ∈ ds ∧ row = cells e k i d := by
  obtain ⟨k, hk, rfl⟩ := List.mem_iff_getElem.mp h
  rw [rows, List.length_mapIdx] at hk
  obtain ⟨hi, hd⟩ := List.of_mem_zip (List.getElem_mem hk)
  refine ⟨k, _, _, hi, hd, ?_⟩
  simp only [rows, List.getElem_mapIdx]
  rfl

theorem length_of_mem_rows : ∀ row ∈ rows e is ds, row.length = columns.length := by
  intro row hrow
  obtain ⟨k, i, d, -, -, rfl⟩ := mem_rows hrow
  rfl

section Literals

variable (his : ∀ i ∈ is, IsHex i.offset ∧ IsHex i.data)
  (hds : ∀ d ∈ ds, ∀ t ∈ d.tokens e, IsHex ⟨t⟩)

include his hds

theorem isPlain_of_mem_rows : ∀ row ∈ rows e is ds, ∀ cell ∈ row, IsPlain cell := by
  intro row hrow
  obtain ⟨k, i, d, hi, hd, rfl⟩ := mem_rows hrow
  exact isPlain_of_mem_cells (his i hi).1 (his i hi).2 (hds d hd)

theorem length_lines_render :
    (lines (render e is ds).toList).length = min is.length ds.length + 3 := by
  rw [render, Grid.lines_render isPlain_of_mem_titles length_of_mem_rows
    (isPlain_of_mem_rows his hds), Grid.tableLines]
  simp [rows]

/-- The row of `i` and `d` is read back from its line. -/
theorem cells_of_getElem? (hi : is[k]? = some i) (hd : ds[k]? = some d) :
    (lines (render e is ds).toList)[k + 2]?.map Grid.cells = some (cells e k i d) :=
  Grid.cells_getElem?_lines_render isPlain_of_mem_titles (List.cons_ne_nil _ _)
    length_of_mem_rows (isPlain_of_mem_rows his hds) (getElem?_rows hi hd)

end Literals

/-- **The table is read back.** It has a line for each of `is` that has a descriptor beside it, and
three more, all of one length; and the parts of a line between its bars, without the spaces around
them (`Grid.cells`), are the number of the row and what the instruction and the descriptor say. -/
theorem readBack_render {is js : List Instruction}
    (his : ∀ i ∈ is, IsHex i.offset ∧ IsHex i.data)
    (hjs : ∀ j ∈ js, IsHex j.offset ∧ IsHex j.data) (e : Emission) :
    (lines (render e is (js.map Instruction.encode)).toList).length =
        min is.length js.length + 3 ∧
      (∃ n, ∀ l ∈ lines (render e is (js.map Instruction.encode)).toList, l.length = n) ∧
      ∀ k i d, is[k]? = some i → (js.map Instruction.encode)[k]? = some d →
        (lines (render e is (js.map Instruction.encode)).toList)[k + 2]?.map Grid.cells =
          some [toString k, toString i.line, toString i.size.toNat, i.offset.text, i.data.text,
            toString d.length, " ".intercalate (d.tokens e), if d.padded then "yes" else ""] := by
  have hds : ∀ d ∈ js.map Instruction.encode, ∀ t ∈ d.tokens e, IsHex ⟨t⟩ :=
    List.forall_mem_map.mpr fun j hj =>
      Instruction.isHex_of_mem_tokens_encode (hjs j hj).1 (hjs j hj).2
  refine ⟨?_, ⟨_, Grid.length_of_mem_lines_render isPlain_of_mem_titles length_of_mem_rows
    (isPlain_of_mem_rows his hds)⟩, ?_⟩
  · rw [length_lines_render his hds, List.length_map]
  · exact fun k i d hi hd => cells_of_getElem? his hds hi hd

/-- Two instructions beside one descriptor make one row. -/
theorem readBack_render_cut :
    let is : List Instruction :=
      [⟨7, 16, ⟨"0x10"⟩, ⟨"0X1C"⟩, ⟨"aBc"⟩⟩, ⟨8, 1, ⟨"1"⟩, ⟨"2"⟩, ⟨"3"⟩⟩]
    let js : List Instruction := [⟨9, 2, ⟨"2"⟩, ⟨"0xF"⟩, ⟨"0x1234"⟩⟩]
    let table := render ⟨.prefixed, true⟩ is (js.map Instruction.encode)
    (lines table.toList).length = 4 ∧
      (∃ n, ∀ l ∈ lines table.toList, l.length = n) ∧
      (lines table.toList)[2]?.map Grid.cells =
        some ["0", "7", "16", "0X1C", "aBc", "3", "0xF 0x34 0x12", ""] := by
  intro is js table
  obtain ⟨hcount, hlength, hcells⟩ :=
    readBack_render (show ∀ i ∈ is, _ by decide) (show ∀ j ∈ js, _ by decide) ⟨.prefixed, true⟩
  exact ⟨hcount, hlength, hcells 0 _ _ rfl rfl⟩

/-- The `table` beside the text of `initializers`: each has a line for each of `ds`, and on both
lines stand the same length and the same tokens. -/
structure IsBeside (e : Emission) (ds : List Descriptor) (table initializers : String) : Prop where
  count_initializers : (lines initializers.toList).length = ds.length
  count_table : (lines table.toList).length = ds.length + 3
  shows : ∀ k d, ds[k]? = some d →
    (lines initializers.toList)[k]? = some (d.initializer e).toList ∧
    ∃ row, (lines table.toList)[k + 2]? = some row ∧
      (Grid.cells row)[5]? = some (toString d.length) ∧
      (Grid.cells row)[6]? = some (" ".intercalate (d.tokens e))

theorem isBeside_render (his : ∀ i ∈ is, i.IsGrammatical) (e : Emission) :
    IsBeside e (is.map Instruction.encode) (render e is (is.map Instruction.encode))
      (Descriptor.initializers e (is.map Instruction.encode)) := by
  have hliterals : ∀ i ∈ is, IsHex i.offset ∧ IsHex i.data :=
    fun i hi => ⟨(his i hi).offset, (his i hi).data⟩
  have htokens : ∀ d ∈ is.map Instruction.encode, ∀ t ∈ d.tokens e, IsHex ⟨t⟩ :=
    List.forall_mem_map.mpr fun i hi =>
      Instruction.isHex_of_mem_tokens_encode (his i hi).offset (his i hi).data
  refine ⟨?_, ?_, ?_⟩
  · rw [Descriptor.lines_initializers htokens, List.length_map]
  · rw [length_lines_render hliterals htokens, List.length_map, Nat.min_self]
  · intro k d hd
    have hi := hd
    rw [List.getElem?_map, Option.map_eq_some_iff] at hi
    obtain ⟨i, hi, -⟩ := hi
    obtain ⟨row, hline, hcells⟩ :=
      Option.map_eq_some_iff.mp (cells_of_getElem? hliterals htokens hi hd)
    refine ⟨?_, row, hline, ?_, ?_⟩
    · rw [Descriptor.lines_initializers htokens, List.getElem?_map, hd]
      rfl
    · rw [hcells]
      rfl
    · rw [hcells]
      rfl

end Comparison

end RegisterWrites
