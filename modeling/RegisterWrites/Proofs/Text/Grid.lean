import Mathlib.Data.List.Forall2
import RegisterWrites.Proofs.Text.Line
import RegisterWrites.Proofs.Text.Run
import RegisterWrites.Text.Grid

/-!
# Tables are read back

A table of plain cells, words with spaces between them, falls into its cells again. Its lines
are those of its rows (`lines_render`), and a line that is split at its bars and freed of the
spaces on either side of each part gives the cells of the row (`cells_lineText`). How wide the
columns are does not matter to that; that they are wide enough for every cell makes the lines
equally long (`length_of_mem_lines_render`).
-/

namespace RegisterWrites.Text

/-! ## Characters and words -/

variable {c : Char} {cell w : String} {a b cs : List Char}

/-- Whether `c` is one of the printed characters of ASCII, or the space. -/
def isPrintable (c : Char) : Bool := ' ' ≤ c && c ≤ '~'

def isSpace (c : Char) : Bool := c = ' '

theorem isPrintable_of_le (hlo : ' ' ≤ c) (hhi : c ≤ '~') : isPrintable c = true := by
  rw [isPrintable, Bool.and_eq_true, decide_eq_true_eq, decide_eq_true_eq]
  exact ⟨hlo, hhi⟩

theorem isPrintable_of_isHexDigit (h : isHexDigit c = true) : isPrintable c = true := by
  rcases isHexDigit_iff.mp h with ⟨hlo, hhi⟩ | ⟨hlo, hhi⟩ | ⟨hlo, hhi⟩
  · exact isPrintable_of_le (Char.le_trans (by decide) hlo) (Char.le_trans hhi (by decide))
  · exact isPrintable_of_le (Char.le_trans (by decide) hlo) (Char.le_trans hhi (by decide))
  · exact isPrintable_of_le (Char.le_trans (by decide) hlo) (Char.le_trans hhi (by decide))

/-- A text of printed characters without a space, and not empty. -/
structure IsWord (w : String) : Prop where
  ne_empty : w ≠ ""
  printable : ∀ c ∈ w.toList, isPrintable c = true
  solid : ∀ c ∈ w.toList, isSpace c = false

/-- A text of printed characters that neither begins nor ends with a space. -/
structure IsPlain (cell : String) : Prop where
  printable : ∀ c ∈ cell.toList, isPrintable c = true
  head : EndsRun isSpace cell.toList
  last : EndsRun isSpace cell.toList.reverse

theorem isPlain_iff_all : IsPlain cell ↔ cell.toList.all isPrintable = true ∧
    cell.toList.head?.all (!isSpace ·) = true ∧
    cell.toList.reverse.head?.all (!isSpace ·) = true := by
  have hends : ∀ cs : List Char, EndsRun isSpace cs ↔ cs.head?.all (!isSpace ·) = true := by
    intro cs
    cases cs with
    | nil => simp
    | cons c cs => simp
  rw [← hends, ← hends, List.all_eq_true]
  exact ⟨fun ⟨hprintable, hhead, hlast⟩ => ⟨hprintable, hhead, hlast⟩,
    fun ⟨hprintable, hhead, hlast⟩ => ⟨hprintable, hhead, hlast⟩⟩

instance (cell : String) : Decidable (IsPlain cell) := decidable_of_iff _ isPlain_iff_all.symm

theorem IsWord.isPlain (h : IsWord w) : IsPlain w := by
  refine ⟨h.printable, ?_, ?_⟩
  · intro c hc
    exact h.solid c (List.mem_of_mem_head? hc)
  · intro c hc
    exact h.solid c (List.mem_reverse.mp (List.mem_of_mem_head? hc))

theorem IsPlain.isSimple (h : IsPlain cell) : Grid.IsSimple cell := by
  refine ⟨?_, notMem_of_class h.printable (by decide), notMem_of_class h.printable (by decide)⟩
  intro c hc
  have hprint := h.printable c hc
  rw [isPrintable, Bool.and_eq_true, decide_eq_true_eq, decide_eq_true_eq] at hprint
  exact UInt32.le_trans hprint.2 (by decide)

/-- The word `w` in front of a plain `text`, with a space between them. -/
theorem IsPlain.cons {text : String} (h : IsPlain text) (hne : text.toList ≠ []) (hw : IsWord w) :
    IsPlain (w ++ " " ++ text) := by
  have hchars : (w ++ " " ++ text).toList = w.toList ++ ' ' :: text.toList := by
    rw [String.toList_append, String.toList_append, List.append_assoc]
    rfl
  refine ⟨?_, ?_, ?_⟩
  · intro c hc
    rw [hchars, List.mem_append, List.mem_cons] at hc
    rcases hc with hc | rfl | hc
    · exact hw.printable c hc
    · decide
    · exact h.printable c hc
  · rw [hchars]
    refine hw.isPlain.head.append fun hempty => ?_
    exact absurd (String.toList_eq_nil_iff.mp hempty) hw.ne_empty
  · rw [hchars, List.reverse_append]
    refine EndsRun.append ?_ fun hempty => ?_
    · rw [List.reverse_cons]
      exact h.last.append fun hempty => absurd (List.reverse_eq_nil_iff.mp hempty) hne
    · rw [List.reverse_cons] at hempty
      exact absurd hempty (List.append_ne_nil_of_right_ne_nil _ nofun)

/-- Words `ws` with a space between them are a plain text. -/
theorem isPlain_intercalate {ws : List String} (h : ∀ w ∈ ws, IsWord w) :
    IsPlain (" ".intercalate ws) := by
  cases ws with
  | nil => exact ⟨nofun, endsRun_nil, endsRun_nil⟩
  | cons w ws =>
    have hall : IsPlain (" ".intercalate (w :: ws)) ∧ (" ".intercalate (w :: ws)).toList ≠ [] := by
      induction ws generalizing w with
      | nil =>
        rw [List.forall_mem_singleton] at h
        rw [String.intercalate_singleton]
        exact ⟨h.isPlain, fun hempty => h.ne_empty (String.toList_eq_nil_iff.mp hempty)⟩
      | cons v ws ih =>
        rw [List.forall_mem_cons] at h
        obtain ⟨hrest, hne⟩ := ih v h.2
        rw [String.intercalate_cons_cons]
        refine ⟨hrest.cons hne h.1, ?_⟩
        rw [String.toList_append]
        exact List.append_ne_nil_of_right_ne_nil _ hne
    exact hall.1

/-! ## The cells of a line -/

theorem isSpace_of_mem_singleton : ∀ c ∈ [' '], isSpace c = true :=
  List.forall_mem_singleton.mpr rfl

/-- The text `cs` without the spaces around it. -/
def trimSpaces (cs : List Char) : List Char :=
  ((cs.dropWhile isSpace).reverse.dropWhile isSpace).reverse

theorem trimSpaces_append (ha : ∀ c ∈ a, isSpace c = true) (hb : ∀ c ∈ b, isSpace c = true)
    (hhead : EndsRun isSpace cs) (hlast : EndsRun isSpace cs.reverse) :
    trimSpaces (a ++ cs ++ b) = cs := by
  unfold trimSpaces
  by_cases hne : cs = []
  · subst hne
    have hall : ∀ c ∈ a ++ [] ++ b, isSpace c = true := by
      intro c hc
      rw [List.append_nil, List.mem_append] at hc
      rcases hc with hc | hc
      · exact ha c hc
      · exact hb c hc
    rw [(takeWhile_dropWhile_iff.mpr ⟨List.append_nil _, hall, endsRun_nil⟩).2]
    rfl
  · have hrest : EndsRun isSpace (cs ++ b) := hhead.append fun hempty => absurd hempty hne
    have hb' : ∀ c ∈ b.reverse, isSpace c = true := fun c hc => hb c (List.mem_reverse.mp hc)
    rw [List.append_assoc, (takeWhile_dropWhile_iff.mpr ⟨rfl, ha, hrest⟩).2, List.reverse_append,
      (takeWhile_dropWhile_iff.mpr ⟨rfl, hb', hlast⟩).2, List.reverse_reverse]

namespace Grid

/-- The cells of a `line` of a table: its parts between the bars, without the spaces around them. -/
def cells (line : List Char) : List String :=
  (line.splitOn '│').map fun part => String.ofList (trimSpaces part)

theorem cells_append_bar (a b : List Char) : cells (a ++ '│' :: b) = cells a ++ cells b := by
  have hsplit : (a ++ '│' :: b).splitOn '│' = a.splitOn '│' ++ b.splitOn '│' :=
    List.splitOnP_append_cons a b (beq_self_eq_true '│')
  rw [cells, hsplit, List.map_append]
  rfl

/-- The `part` is `text` with spaces on either side. -/
def IsPadded (part : List Char) (text : String) : Prop :=
  ∃ a b, (∀ c ∈ a, isSpace c = true) ∧ (∀ c ∈ b, isSpace c = true) ∧ part = a ++ text.toList ++ b

variable {text : String} {part : List Char} {parts : List (List Char)} {texts : List String}

theorem IsPadded.append (h : IsPadded part text) (ha : ∀ c ∈ a, isSpace c = true)
    (hb : ∀ c ∈ b, isSpace c = true) : IsPadded (a ++ part ++ b) text := by
  obtain ⟨a', b', ha', hb', rfl⟩ := h
  refine ⟨a ++ a', b' ++ b, List.forall_mem_append.mpr ⟨ha, ha'⟩,
    List.forall_mem_append.mpr ⟨hb', hb⟩, ?_⟩
  simp only [List.append_assoc]

theorem IsPadded.trimSpaces_eq (h : IsPadded part text) (hplain : IsPlain text) :
    trimSpaces part = text.toList := by
  obtain ⟨a, b, ha, hb, rfl⟩ := h
  exact trimSpaces_append ha hb hplain.head hplain.last

theorem IsPadded.printable (h : IsPadded part text) (hplain : IsPlain text) :
    ∀ c ∈ part, isPrintable c = true := by
  have hspace : ∀ c, isSpace c = true → isPrintable c = true := by
    intro c hc
    rw [isSpace, decide_eq_true_eq] at hc
    subst hc
    decide
  obtain ⟨a, b, ha, hb, rfl⟩ := h
  intro c hc
  rw [List.mem_append, List.mem_append] at hc
  rcases hc with (hc | hc) | hc
  · exact hspace c (ha c hc)
  · exact hplain.printable c hc
  · exact hspace c (hb c hc)

theorem printable_of_forall₂ (h : List.Forall₂ IsPadded parts texts)
    (hplain : ∀ text ∈ texts, IsPlain text) : ∀ part ∈ parts, ∀ c ∈ part, isPrintable c = true := by
  induction h with
  | nil => nofun
  | cons hpart hparts ih =>
    rw [List.forall_mem_cons] at hplain
    exact List.forall_mem_cons.mpr ⟨hpart.printable hplain.1, ih hplain.2⟩

theorem cells_of_isPadded (h : IsPadded part text) (hplain : IsPlain text) :
    cells part = [text] := by
  have hbar : '│' ∉ part := notMem_of_class (h.printable hplain) (by decide)
  rw [cells, List.splitOn_eq_singleton hbar, List.map_singleton, h.trimSpaces_eq hplain,
    String.ofList_toList]

/-- **Padded texts with bars between them** are the `cells` of the line that they make up. -/
theorem cells_intercalate (h : List.Forall₂ IsPadded parts texts) (hne : texts ≠ [])
    (hplain : ∀ text ∈ texts, IsPlain text) (ha : ∀ c ∈ a, isSpace c = true)
    (hb : ∀ c ∈ b, isSpace c = true) : cells (a ++ ['│'].intercalate parts ++ b) = texts := by
  -- the spaces in front belong to the first part, and those behind to the last
  induction h generalizing a with
  | nil => exact absurd rfl hne
  | @cons part text parts texts hpart hparts ih =>
    rw [List.forall_mem_cons] at hplain
    have hnone : ∀ c ∈ ([] : List Char), isSpace c = true := nofun
    cases hparts with
    | nil =>
      rw [List.intercalate_singleton]
      exact cells_of_isPadded (hpart.append ha hb) hplain.1
    | cons hnext hothers =>
      have hrest := ih nofun hplain.2 hnone
      have hfirst := cells_of_isPadded (hpart.append ha hnone) hplain.1
      rw [List.append_nil] at hfirst
      rw [List.nil_append] at hrest
      rw [List.intercalate_cons_cons, ← List.append_assoc, ← List.append_assoc, List.append_assoc,
        List.append_assoc, List.singleton_append, cells_append_bar, hfirst, hrest,
        List.singleton_append]

/-! ## The lines of a table -/

variable {columns : List Column} {ws : List Nat} {rows : List (List String)} {sep : List Char}

/-- The parts of a line of `texts` between its bars. -/
def lineParts (columns : List Column) (ws : List Nat) (texts : List String) : List (List Char) :=
  List.zipWith (fun (column, width) text => (" " ++ fill column.side width text ++ " ").toList)
    (columns.zip ws) texts

/-- A line of `texts`, as `Grid.line` has it, without the line feed. -/
def lineText (columns : List Column) (ws : List Nat) (texts : List String) : List Char :=
  [' '] ++ ['│'].intercalate (lineParts columns ws texts) ++ [' ']

/-- A rule, as `Grid.rule` has it, without the line feed. -/
def ruleText (mark : String) (ws : List Nat) : List Char :=
  [' '] ++ mark.toList.intercalate (ws.map fun w => List.replicate (w + 2) '─') ++ [' ']

theorem toList_line (columns : List Column) (ws : List Nat) (texts : List String) :
    (line columns ws texts).toList = lineText columns ws texts ++ ['\n'] := by
  have hfront : " ".toList = [' '] := rfl
  have hback : " \n".toList = [' ', '\n'] := rfl
  have hbar : "│".toList = ['│'] := rfl
  simp only [line, lineText, lineParts, String.toList_append, String.toList_intercalate, hfront,
    hback, hbar, List.map_zipWith, List.append_assoc, List.cons_append, List.nil_append]

theorem toList_rule (mark : String) (ws : List Nat) :
    (rule mark ws).toList = ruleText mark ws ++ ['\n'] := by
  have hfront : " ".toList = [' '] := rfl
  have hback : " \n".toList = [' ', '\n'] := rfl
  simp only [rule, ruleText, String.toList_append, String.toList_intercalate, hfront, hback,
    List.append_assoc, List.cons_append, List.nil_append, List.map_map, Function.comp_def,
    String.toList_ofList]

theorem isPadded_fill (side : Side) (width : Nat) (text : String) :
    IsPadded (" " ++ fill side width text ++ " ").toList text := by
  have hspaces : ∀ n, ∀ c ∈ (spaces n).toList, isSpace c = true := by
    intro n c hc
    rw [spaces, String.toList_ofList] at hc
    rw [List.eq_of_mem_replicate hc]
    rfl
  have hfill : IsPadded (fill side width text).toList text := by
    unfold fill
    cases side with
    | left =>
      refine ⟨[], (spaces (width - shownWidth text)).toList, List.forall_mem_nil _, hspaces _, ?_⟩
      rw [String.toList_append, List.nil_append]
    | right =>
      refine ⟨(spaces (width - shownWidth text)).toList, [], hspaces _, List.forall_mem_nil _, ?_⟩
      rw [String.toList_append, List.append_nil]
  rw [String.toList_append, String.toList_append]
  exact hfill.append isSpace_of_mem_singleton isSpace_of_mem_singleton

theorem forall₂_lineParts (hws : ws.length = columns.length)
    (htexts : texts.length = columns.length) :
    List.Forall₂ IsPadded (lineParts columns ws texts) texts := by
  unfold lineParts
  induction columns generalizing ws texts with
  | nil =>
    rw [List.length_nil, List.length_eq_zero_iff] at htexts
    subst htexts
    exact .nil
  | cons column columns ih =>
    cases ws with
    | nil => cases hws
    | cons w ws =>
      cases texts with
      | nil => cases htexts
      | cons text texts =>
        rw [List.zip_cons_cons, List.zipWith_cons_cons]
        exact .cons (isPadded_fill column.side w text)
          (ih (Nat.succ.inj hws) (Nat.succ.inj htexts))

/-- **A line gives its cells** if there is one of them in each column. -/
theorem cells_lineText (hne : texts ≠ []) (hws : ws.length = columns.length)
    (htexts : texts.length = columns.length) (hplain : ∀ text ∈ texts, IsPlain text) :
    cells (lineText columns ws texts) = texts :=
  cells_intercalate (forall₂_lineParts hws htexts) hne hplain isSpace_of_mem_singleton
    isSpace_of_mem_singleton

theorem notMem_intercalate (hsep : c ∉ sep) (hparts : ∀ part ∈ parts, c ∉ part) :
    c ∉ sep.intercalate parts := by
  induction parts with
  | nil => nofun
  | cons part parts ih =>
    rw [List.forall_mem_cons] at hparts
    cases parts with
    | nil =>
      rw [List.intercalate_singleton]
      exact hparts.1
    | cons next parts =>
      rw [List.intercalate_cons_cons, List.mem_append, List.mem_append, not_or, not_or]
      exact ⟨⟨hparts.1, hsep⟩, ih hparts.2⟩

theorem isLine_lineText (hws : ws.length = columns.length)
    (htexts : texts.length = columns.length) (hplain : ∀ text ∈ texts, IsPlain text) :
    IsLine (lineText columns ws texts) := by
  have hprintable := printable_of_forall₂ (forall₂_lineParts hws htexts) hplain
  have hnot : ∀ c, isPrintable c = false → c ≠ '│' → c ∉ lineText columns ws texts := by
    intro c hc hbar
    have hspace : c ∉ [' '] := notMem_of_class (List.forall_mem_singleton.mpr (by decide)) hc
    have hsep : c ∉ ['│'] := fun hmem => hbar (List.mem_singleton.mp hmem)
    have hparts := notMem_intercalate hsep fun part hpart =>
      notMem_of_class (hprintable part hpart) hc
    unfold lineText
    rw [List.mem_append, List.mem_append, not_or, not_or]
    exact ⟨⟨hspace, hparts⟩, hspace⟩
  exact ⟨hnot _ (by decide) (by decide), hnot _ (by decide) (by decide)⟩

theorem isLine_ruleText {mark : String} (hmark : IsLine mark.toList) (ws : List Nat) :
    IsLine (ruleText mark ws) := by
  have hnot : ∀ c, c ≠ ' ' → c ≠ '─' → c ∉ mark.toList → c ∉ ruleText mark ws := by
    intro c hspace hrule hc
    have hside : c ∉ [' '] := fun hmem => hspace (List.mem_singleton.mp hmem)
    have hparts : ∀ part ∈ ws.map (fun w => List.replicate (w + 2) '─'), c ∉ part := by
      intro part hpart hmem
      obtain ⟨w, -, rfl⟩ := List.mem_map.mp hpart
      exact hrule (List.eq_of_mem_replicate hmem)
    unfold ruleText
    rw [List.mem_append, List.mem_append, not_or, not_or]
    exact ⟨⟨hside, notMem_intercalate hc hparts⟩, hside⟩
  exact ⟨hnot _ (by decide) (by decide) hmark.no_lineFeed,
    hnot _ (by decide) (by decide) hmark.no_return⟩

/-! ## A table as a whole -/

/-- The `texts`, one in each column, for which the widths `ws` are enough. -/
def Fits (ws : List Nat) (texts : List String) : Prop :=
  List.Forall₂ (fun w text => cellWidth text ≤ w) ws texts

/-- The widths `ws` where there is one more `row` to hold. -/
def widen (ws : List Nat) (row : List String) : List Nat :=
  List.zipWith (fun w cell => max w (cellWidth cell)) ws row

theorem fits_widen {row : List String} (h : row.length = ws.length) :
    Fits (widen ws row) row ∧ ∀ texts, Fits ws texts → Fits (widen ws row) texts := by
  unfold Fits widen
  induction ws generalizing row with
  | nil =>
    rw [List.length_nil, List.length_eq_zero_iff] at h
    subst h
    exact ⟨.nil, fun _ hfits => hfits⟩
  | cons w ws ih =>
    cases row with
    | nil => cases h
    | cons cell row =>
      obtain ⟨hrow, htexts⟩ := ih (Nat.succ.inj h)
      rw [List.zipWith_cons_cons]
      refine ⟨.cons (Nat.le_max_right _ _) hrow, fun texts hfits => ?_⟩
      cases hfits with
      | cons htext hfits =>
        exact .cons (Nat.le_trans htext (Nat.le_max_left _ _)) (htexts _ hfits)

theorem fits_foldl_widen (hrows : ∀ row ∈ rows, row.length = ws.length) :
    (∀ row ∈ rows, Fits (rows.foldl widen ws) row) ∧
      ∀ texts, Fits ws texts → Fits (rows.foldl widen ws) texts := by
  induction rows generalizing ws with
  | nil => exact ⟨List.forall_mem_nil _, fun _ hfits => hfits⟩
  | cons row rows ih =>
    rw [List.forall_mem_cons] at hrows
    obtain ⟨hrow, htexts⟩ := fits_widen hrows.1
    have hwidened : ∀ row' ∈ rows, row'.length = (widen ws row).length := by
      intro row' hrow'
      rw [hrow.length_eq, hrows.2 row' hrow', hrows.1]
    obtain ⟨hothers, hkept⟩ := ih hwidened
    rw [List.foldl_cons]
    exact ⟨List.forall_mem_cons.mpr ⟨hkept _ hrow, hothers⟩,
      fun texts hfits => hkept _ (htexts _ hfits)⟩

/-- The `widths` of a table are enough for its titles and for every row. -/
theorem fits_widths (hrows : ∀ row ∈ rows, row.length = columns.length) :
    Fits (widths columns rows) (columns.map Column.title) ∧
      ∀ row ∈ rows, Fits (widths columns rows) row := by
  have htitles : Fits (columns.map fun column => cellWidth column.title)
      (columns.map Column.title) := by
    unfold Fits
    rw [List.forall₂_map_left_iff, List.forall₂_map_right_iff, List.forall₂_same]
    exact fun _ _ => Nat.le_refl _
  have hwidths : ∀ row ∈ rows, row.length =
      (columns.map fun column => cellWidth column.title).length := by
    rwa [List.length_map]
  obtain ⟨hfits, hkept⟩ := fits_foldl_widen hwidths
  exact ⟨hkept _ htitles, hfits⟩

theorem length_widths (hrows : ∀ row ∈ rows, row.length = columns.length) :
    (widths columns rows).length = columns.length :=
  (fits_widths hrows).1.length_eq.trans (List.length_map _)

/-- The lines of a table of plain cells: those of its titles and of its rows, and a rule behind
each. -/
def tableLines (columns : List Column) (rows : List (List String)) : List (List Char) :=
  let ws := widths columns rows
  lineText columns ws (columns.map Column.title) :: ruleText "┼" ws ::
    (rows.map (lineText columns ws) ++ [ruleText "┴" ws])

theorem toList_render (htitles : ∀ title ∈ columns.map Column.title, IsPlain title)
    (hrows : ∀ row ∈ rows, ∀ cell ∈ row, IsPlain cell) :
    (render columns rows).toList = (tableLines columns rows).flatMap (· ++ ['\n']) := by
  have hrow : ∀ {texts : List String}, (∀ text ∈ texts, IsPlain text) →
      (row columns (widths columns rows) texts).toList =
        lineText columns (widths columns rows) texts ++ ['\n'] := by
    intro texts hplain
    rw [row_of_isSimple fun text htext => (hplain text htext).isSimple, toList_line]
  have hjoin : (String.join (rows.map (row columns (widths columns rows)))).toList =
      (rows.map (lineText columns (widths columns rows))).flatMap (· ++ ['\n']) := by
    rw [String.toList_join, List.flatMap_map, List.flatMap_map]
    exact List.flatMap_congr fun texts htexts => hrow (hrows texts htexts)
  rw [render]
  simp only [String.toList_append, hrow htitles, toList_rule, hjoin, tableLines,
    List.flatMap_cons, List.flatMap_append, List.flatMap_nil, List.append_nil, List.append_assoc]

/-- **The lines of a table** are one of the titles, one of each row, and the two rules. -/
theorem lines_render (htitles : ∀ title ∈ columns.map Column.title, IsPlain title)
    (hlength : ∀ row ∈ rows, row.length = columns.length)
    (hrows : ∀ row ∈ rows, ∀ cell ∈ row, IsPlain cell) :
    lines (render columns rows).toList = tableLines columns rows := by
  have hws := length_widths hlength
  rw [toList_render htitles hrows, lines_flatMap]
  intro l hl
  rcases List.mem_cons.mp hl with rfl | hl
  · exact isLine_lineText hws (List.length_map _) htitles
  rcases List.mem_cons.mp hl with rfl | hl
  · exact isLine_ruleText ⟨by decide, by decide⟩ _
  rcases List.mem_append.mp hl with hl | hl
  · obtain ⟨texts, htexts, rfl⟩ := List.mem_map.mp hl
    exact isLine_lineText hws (hlength texts htexts) (hrows texts htexts)
  · rw [List.mem_singleton.mp hl]
    exact isLine_ruleText ⟨by decide, by decide⟩ _

theorem length_intercalate_congr {sep sep' : List Char} {parts parts' : List (List Char)}
    (hsep : sep.length = sep'.length)
    (h : List.Forall₂ (fun part part' => part.length = part'.length) parts parts') :
    (sep.intercalate parts).length = (sep'.intercalate parts').length := by
  induction h with
  | nil => rfl
  | cons hpart hparts ih =>
    cases hparts with
    | nil =>
      rw [List.intercalate_singleton, List.intercalate_singleton]
      exact hpart
    | cons hnext hothers =>
      rw [List.intercalate_cons_cons, List.intercalate_cons_cons]
      simp only [List.length_append, hpart, hsep, ih]

/-- Every part of a line is as long as its column is wide, and a space longer on either side. -/
theorem length_lineParts (hws : ws.length = columns.length) (hfits : Fits ws texts)
    (hplain : ∀ text ∈ texts, IsPlain text) :
    List.Forall₂ (fun part w => part.length = w + 2) (lineParts columns ws texts) ws := by
  unfold lineParts
  induction hfits generalizing columns with
  | nil =>
    rw [List.zip_nil_right, List.zipWith_nil_left]
    exact .nil
  | @cons w text ws texts htext hfits ih =>
    cases columns with
    | nil => cases hws
    | cons column columns =>
      rw [List.forall_mem_cons] at hplain
      have hsimple := hplain.1.isSimple
      rw [cellWidth_of_isSimple hsimple] at htext
      have hfill := length_fill hsimple column.side w
      rw [Nat.max_eq_left htext] at hfill
      have hspace : " ".length = 1 := rfl
      refine .cons ?_ (ih (Nat.succ.inj hws) hplain.2)
      rw [String.length_toList, String.length_append, String.length_append, hfill, hspace]
      omega

/-- A line of `texts` that fit is as long as a rule. -/
theorem length_lineText {mark : String} (hmark : mark.length = 1)
    (hws : ws.length = columns.length) (hfits : Fits ws texts)
    (hplain : ∀ text ∈ texts, IsPlain text) :
    (lineText columns ws texts).length = (ruleText mark ws).length := by
  have hparts : List.Forall₂ (fun part part' => part.length = part'.length)
      (lineParts columns ws texts) (ws.map fun w => List.replicate (w + 2) '─') := by
    rw [List.forall₂_map_right_iff]
    exact (length_lineParts hws hfits hplain).imp fun part w hpart => by
      rw [hpart, List.length_replicate]
  have hsep : ['│'].length = mark.toList.length := by
    rw [String.length_toList, hmark]
    rfl
  simp only [lineText, ruleText, List.length_append, length_intercalate_congr hsep hparts]

/-- **All lines of a table are equally long.** -/
theorem length_of_mem_lines_render (htitles : ∀ title ∈ columns.map Column.title, IsPlain title)
    (hlength : ∀ row ∈ rows, row.length = columns.length)
    (hrows : ∀ row ∈ rows, ∀ cell ∈ row, IsPlain cell) :
    ∀ l ∈ lines (render columns rows).toList,
      l.length = (ruleText "┴" (widths columns rows)).length := by
  have hws := length_widths hlength
  obtain ⟨hfitsTitles, hfits⟩ := fits_widths hlength
  have hrules : (ruleText "┼" (widths columns rows)).length =
      (ruleText "┴" (widths columns rows)).length := by
    rw [← length_lineText rfl hws hfitsTitles htitles,
      ← length_lineText rfl hws hfitsTitles htitles]
  have hall : ∀ row ∈ rows, (lineText columns (widths columns rows) row).length =
      (ruleText "┴" (widths columns rows)).length :=
    fun row hrow => length_lineText rfl hws (hfits row hrow) (hrows row hrow)
  rw [lines_render htitles hlength hrows, tableLines, List.forall_mem_cons, List.forall_mem_cons,
    List.forall_mem_append, List.forall_mem_map, List.forall_mem_singleton]
  exact ⟨length_lineText rfl hws hfitsTitles htitles, hrules, hall, rfl⟩

/-- The rows of a table are read back from its lines, of which the first two are those of the titles
and a rule. -/
theorem cells_getElem?_lines_render (htitles : ∀ title ∈ columns.map Column.title, IsPlain title)
    (hne : columns ≠ []) (hlength : ∀ row ∈ rows, row.length = columns.length)
    (hrows : ∀ row ∈ rows, ∀ cell ∈ row, IsPlain cell) {k : Nat} {row : List String}
    (hk : rows[k]? = some row) :
    (lines (render columns rows).toList)[k + 2]?.map cells = some row := by
  have hmem := List.mem_of_getElem? hk
  have hrow : row ≠ [] := by
    intro hempty
    have hcolumns := hlength row hmem
    rw [hempty, List.length_nil] at hcolumns
    exact hne (List.length_eq_zero_iff.mp hcolumns.symm)
  have hlt : k < (rows.map (lineText columns (widths columns rows))).length := by
    rw [List.length_map]
    exact (List.getElem?_eq_some_iff.mp hk).1
  rw [lines_render htitles hlength hrows, tableLines, List.getElem?_cons_succ,
    List.getElem?_cons_succ, List.getElem?_append_left hlt, List.getElem?_map, hk, Option.map_some,
    Option.map_some,
    cells_lineText hrow (length_widths hlength) (hlength row hmem) (hrows row hmem)]

end Grid

end RegisterWrites.Text
