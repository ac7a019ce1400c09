import RegisterWrites.Text.Line
import RegisterWrites.Text.Width

/-!
# Tables of text

Tables of text under a heading, each column as wide as its widest cell is shown. Every line
begins and ends with a space, every cell has a space on either side, and a bar stands
between two cells. A rule follows the heading and the last row. A cell may have several
lines; a row is then as high as its highest cell. Main statement: a row of cells of one
narrow line each is the line of these cells (`row_of_isSimple`).
-/

namespace RegisterWrites.Text

/-- The side of a column to which its cells are moved. -/
inductive Side
  | left
  | right
  deriving DecidableEq, Repr

structure Column where
  title : String
  side : Side
  deriving DecidableEq, Repr

namespace Grid

def cellLines (cell : String) : List String := (lines cell.toList).map String.ofList

/-- The width of `cell`: that of its widest line. -/
def cellWidth (cell : String) : Nat :=
  (cellLines cell).foldl (fun w line => max w (shownWidth line)) 0

/-- The widths of `columns`: each holds its title and its cell of every row. -/
def widths (columns : List Column) (rows : List (List String)) : List Nat :=
  rows.foldl (fun ws row => List.zipWith (fun w cell => max w (cellWidth cell)) ws row)
    (columns.map fun column => cellWidth column.title)

/-- The `text` with spaces up to `width` columns, behind it or, if it is moved to the right, before
it. -/
def fill (side : Side) (width : Nat) (text : String) : String :=
  let rest := spaces (width - shownWidth text)
  match side with
  | .left => text ++ rest
  | .right => rest ++ text

/-- A line of a table: one of `texts` in each column, with a bar between two of them. -/
def line (columns : List Column) (ws : List Nat) (texts : List String) : String :=
  let filled := List.zipWith (fun (column, width) text => " " ++ fill column.side width text ++ " ")
    (columns.zip ws) texts
  " " ++ "│".intercalate filled ++ " \n"

/-- The number of lines of a row of `cells`: that of its highest cell, and at least one. -/
def height (cells : List String) : Nat :=
  cells.foldl (fun h cell => max h (cellLines cell).length) 1

/-- A row of `cells`. A cell with fewer lines than the row is filled up with empty ones. -/
def row (columns : List Column) (ws : List Nat) (cells : List String) : String :=
  String.join ((List.range (height cells)).map fun i =>
    line columns ws (cells.map fun cell => (cellLines cell).getD i ""))

/-- A rule, with `mark` where a bar would stand in a row. -/
def rule (mark : String) (ws : List Nat) : String :=
  " " ++ mark.intercalate (ws.map fun w => String.ofList (List.replicate (w + 2) '─')) ++ " \n"

def render (columns : List Column) (rows : List (List String)) : String :=
  let ws := widths columns rows
  row columns ws (columns.map Column.title) ++ rule "┼" ws ++
    String.join (rows.map (row columns ws)) ++ rule "┴" ws

/-- A `cell` of one line, of characters that are shown in one column each. -/
structure IsSimple (cell : String) : Prop where
  narrow : ∀ c ∈ cell.toList, c.val ≤ Width.lastNarrow
  no_escape : escape ∉ cell.toList
  no_lineFeed : '\n' ∉ cell.toList

theorem cellLines_of_isSimple {cell : String} (hne : cell ≠ "") (h : IsSimple cell) :
    cellLines cell = [cell] := by
  have hl : cell.toList ≠ [] := fun he => hne (String.toList_eq_nil_iff.1 he)
  simp [cellLines, lines_of_notMem hl h.no_lineFeed]

theorem IsSimple.shownWidth_eq {cell : String} (h : IsSimple cell) :
    shownWidth cell = cell.length :=
  shownWidth_of_le h.narrow h.no_escape

/-- A simple cell is as wide as it has characters. -/
theorem cellWidth_of_isSimple {cell : String} (h : IsSimple cell) :
    cellWidth cell = cell.length := by
  by_cases hne : cell = ""
  · subst hne
    rfl
  · simp [cellWidth, cellLines_of_isSimple hne h, h.shownWidth_eq]

/-- A simple `text` is filled up to the `width` of its column, and one that is longer stays. -/
theorem length_fill {text : String} (h : IsSimple text) (side : Side) (width : Nat) :
    (fill side width text).length = max width text.length := by
  cases side <;>
    simp only [fill, h.shownWidth_eq, String.length_append, length_spaces] <;> omega

/-- A row of simple cells is one line high. -/
theorem height_of_isSimple {cells : List String} (h : ∀ cell ∈ cells, IsSimple cell) :
    height cells = 1 := by
  unfold height
  induction cells with
  | nil => rfl
  | cons cell cells ih =>
    have hc : max 1 (cellLines cell).length = 1 := by
      by_cases hne : cell = ""
      · subst hne
        rfl
      · rw [cellLines_of_isSimple hne (h cell List.mem_cons_self)]
        rfl
    rw [List.foldl_cons, hc]
    exact ih fun c hc => h c (List.mem_cons_of_mem cell hc)

/-- A row of simple cells is the line of these cells. -/
theorem row_of_isSimple {cells : List String} (h : ∀ cell ∈ cells, IsSimple cell)
    (columns : List Column) (ws : List Nat) : row columns ws cells = line columns ws cells := by
  have hmap : cells.map (fun cell => (cellLines cell).getD 0 "") = cells := by
    refine (List.map_congr_left fun cell hc => ?_).trans (List.map_id cells)
    by_cases hne : cell = ""
    · subst hne
      rfl
    · rw [cellLines_of_isSimple hne (h cell hc)]
      rfl
  have hrange : List.range 1 = [0] := rfl
  rw [row, height_of_isSimple h, hrange, List.map_cons, List.map_nil, hmap, String.join_cons,
    String.join_nil, String.append_empty]

end Grid

end RegisterWrites.Text
