import RegisterWrites.Text.Line

/-!
# The line around a place

The line on which a place lies does not depend on the lines before it (`lastLine_append`),
and the character behind the place stands on it, in the column that the place has
(`getElem?_lineAround`), unless that character is of a line's end. A text of lines, each with a
line feed behind it, is read as these lines (`lines_flatMap`).
-/

namespace RegisterWrites.Text

variable {a b line rest : List Char} {c : Char}

theorem notMem_lastLine (cs : List Char) : '\n' ∉ lastLine cs := by
  unfold lastLine
  rw [List.mem_reverse]
  intro h
  have := List.all_eq_true.mp List.all_takeWhile _ h
  simp at this

theorem ne_lineFeed_of_notMem {cs : List Char} (h : '\n' ∉ cs) :
    ∀ c ∈ cs, decide (c ≠ '\n') = true :=
  fun _ hc => decide_eq_true (ne_of_mem_of_not_mem hc h)

theorem takeWhile_append_lineFeed (a b : List Char) :
    (a ++ '\n' :: b).takeWhile (· ≠ '\n') = a.takeWhile (· ≠ '\n') := by
  induction a with
  | nil => simp
  | cons c a ih => rw [List.cons_append, List.takeWhile_cons, List.takeWhile_cons, ih]

/-- Whole lines `a` in front of a text do not change its `lastLine`. -/
theorem lastLine_append (h : a = [] ∨ a.getLast? = some '\n') (b : List Char) :
    lastLine (a ++ b) = lastLine b := by
  rcases h with rfl | h
  · rfl
  · obtain ⟨init, rfl⟩ := List.getLast?_eq_some_iff.mp h
    have hreverse : (init ++ ['\n'] ++ b).reverse = b.reverse ++ '\n' :: init.reverse := by simp
    rw [lastLine, lastLine, hreverse, takeWhile_append_lineFeed]

/-- The character `c` of a line stays in its column when the end of the line is dropped, if it is no
carriage return. -/
theorem getElem?_dropCarriageReturn (hr : c ≠ '\r') (before after : List Char) :
    (dropCarriageReturn (before ++ c :: after))[before.length]? = some c := by
  unfold dropCarriageReturn
  split
  · next h =>
    cases after with
    | nil =>
      rw [List.getLast?_append, List.getLast?_singleton] at h
      exact absurd (Option.some.inj h) hr
    | cons d after =>
      rw [List.dropLast_append_cons]
      simp
  · simp

theorem getElem?_lineAround (hf : c ≠ '\n') (hr : c ≠ '\r') (before rest : List Char) :
    (lineAround before (c :: rest))[(lastLine before).length]? = some c := by
  have htake : (lastLine before ++ c :: rest).takeWhile (· ≠ '\n') =
      lastLine before ++ c :: rest.takeWhile (· ≠ '\n') := by
    rw [List.takeWhile_append_of_pos (ne_lineFeed_of_notMem (notMem_lastLine before)),
      List.takeWhile_cons_of_pos (by simpa using hf)]
  unfold lineAround firstLine
  simp only [htake]
  split
  · exact getElem?_dropCarriageReturn hr _ _
  · simp

/-! ## The lines of a text -/

/-- A text without a character that ends a line, or stands before the end of one. -/
structure IsLine (line : List Char) : Prop where
  no_lineFeed : '\n' ∉ line
  no_return : '\r' ∉ line

theorem lines_append_lineFeed (h : IsLine line) (rest : List Char) :
    lines (line ++ '\n' :: rest) = line :: lines rest := by
  obtain ⟨hfeed, hreturn⟩ := h
  induction line with
  | nil => rfl
  | cons c line ih =>
    rw [List.mem_cons, not_or] at hfeed hreturn
    rw [List.cons_append, lines, ih hfeed.2 hreturn.2, consLine]
    · intro hc
      exact absurd hc.symm hfeed.1
    · intro rest' hc
      exact absurd hc.symm hreturn.1

theorem lines_flatMap {ls : List (List Char)} (h : ∀ l ∈ ls, IsLine l) :
    lines (ls.flatMap (· ++ ['\n'])) = ls := by
  induction ls with
  | nil => rfl
  | cons l ls ih =>
    rw [List.forall_mem_cons] at h
    rw [List.flatMap_cons, List.append_assoc, List.singleton_append,
      lines_append_lineFeed h.1, ih h.2]

end RegisterWrites.Text
