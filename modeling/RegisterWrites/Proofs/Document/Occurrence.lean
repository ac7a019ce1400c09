import RegisterWrites.Proofs.Document.Language

/-!
# Where the instructions of a document stand

The place of an instruction, said of the text alone: what stands in front of it is a document,
and what follows it is another (`StandsBehind`). The reader finds every instruction at its place:
as many bytes into the text, and as many lines down, as the document in front of it takes up
(`exists_standsBehind_of_found`). There is one place for each (`StandsBehind.unique`), and the
places ascend (`pairwise_found`).
-/

namespace RegisterWrites.Document

open Text

variable {dialect : Dialect} {text before : List Char} {s : Statement}
  {ss earlier later : List Statement} {l : Located} {ls ls' : List Located} {ps : List Piece}
  {offset line : Nat}

/-! ## Places in a text -/

/-- The instruction `s` stands in the document `text` behind `before`, which is a document itself
and holds the instructions `earlier`; what follows `s` is a document, too. -/
structure StandsBehind (dialect : Dialect) (text before : List Char) (earlier : List Statement)
    (s : Statement) : Prop where
  admitted : s.IsAdmitted
  inFront : Written dialect before earlier
  behind : ∃ after later, before ++ (s.chars ++ after) = text ∧ Written dialect after later

/-- Every instruction `s` of a document stands behind those that are named in front of it. -/
theorem exists_standsBehind (h : Written dialect text (earlier ++ s :: later)) :
    ∃ before, StandsBehind dialect text before earlier s := by
  generalize hss : earlier ++ s :: later = ss at h
  induction h generalizing earlier with
  | nil => simp at hss
  | @instruction s' text ss hs h ih =>
    cases earlier with
    | nil =>
      obtain ⟨rfl, rfl⟩ := List.cons.inj hss
      exact ⟨[], hs, .nil, text, later, rfl, h⟩
    | cons s'' earlier =>
      obtain ⟨rfl, rfl⟩ := List.cons.inj hss
      obtain ⟨before, hadmitted, hearlier, after, later, rfl, hlater⟩ := ih rfl
      exact ⟨s''.chars ++ before, hadmitted, .instruction hs hearlier, after, later,
        List.append_assoc _ _ _, hlater⟩
  | @blank c text ss hc h ih =>
    obtain ⟨before, hadmitted, hearlier, after, later, rfl, hlater⟩ := ih hss
    exact ⟨c :: before, hadmitted, .blank hc hearlier, after, later, rfl, hlater⟩
  | @comment hashes remark stop text ss hdialect hhashes hremark hstop h ih =>
    obtain ⟨before, hadmitted, hearlier, after, later, rfl, hlater⟩ := ih hss
    refine ⟨hashes ++ remark ++ stop :: before, hadmitted,
      .comment hdialect hhashes hremark hstop hearlier, after, later, ?_, hlater⟩
    rw [List.append_assoc, List.cons_append]

namespace StandsBehind

/-- **An instruction is found where it stands**, behind those that are found in what is `before`
it. -/
theorem exists_found_eq (h : StandsBehind dialect text before earlier s) (offset line : Nat) :
    ∃ ls, found dialect offset line text = found dialect offset line before ++
      ⟨offset + byteLength before, line + lineBreaks before, s⟩ :: ls := by
  obtain ⟨hs, hbefore, after, later, rfl, hafter⟩ := h
  have hpiece : Piece.IsAdmitted dialect (.instruction s) := hs
  have hdetached : Detached before (s.chars ++ after) :=
    .inr (Written.instruction hs hafter).endsBefore
  have hstep := readPieces_chars_append after hpiece fun _ _ => hafter.endsBefore _
  rw [(readPieces_append hbefore.readPieces.1 hdetached).2, ← Piece.chars.eq_1, hstep.2]
  exact ⟨_, rfl⟩

theorem length_found (h : StandsBehind dialect text before earlier s) (offset line : Nat) :
    (found dialect offset line before).length = earlier.length := by
  rw [← h.inFront.readPieces.2 offset line, List.length_map]

/-- Only one instruction stands behind as many as `earlier`, and at only one place. -/
theorem unique {before' : List Char} {earlier' : List Statement} {s' : Statement}
    (h : StandsBehind dialect text before earlier s)
    (h' : StandsBehind dialect text before' earlier' s')
    (hlength : earlier.length = earlier'.length) : before = before' ∧ s = s' := by
  obtain ⟨ls, hls⟩ := h.exists_found_eq 0 1
  obtain ⟨ls', hls'⟩ := h'.exists_found_eq 0 1
  have hfront : (found dialect 0 1 before).length = (found dialect 0 1 before').length := by
    rw [h.length_found, h'.length_found, hlength]
  obtain ⟨hl, -⟩ := List.cons.inj (List.append_inj_right (hls.symm.trans hls') hfront)
  have hstart := congrArg Located.start hl
  simp only [Nat.zero_add] at hstart
  -- two texts in front of the same offset are one
  obtain ⟨after, -, htext, -⟩ := h.behind
  obtain ⟨after', -, htext', -⟩ := h'.behind
  have hsplit := splitAtByte?_append before (s.chars ++ after)
  rw [htext, ← htext', hstart, splitAtByte?_append] at hsplit
  obtain ⟨rfl, -⟩ := Prod.mk.inj (Option.some.inj hsplit)
  exact ⟨rfl, congrArg Located.statement hl⟩

end StandsBehind

/-! ## Places that the reader finds -/

/-- **What the reader finds** stands there: `before` it are as many bytes as `l.start` says, and as
many line feeds as `l.line` does. -/
theorem exists_standsBehind_of_found (h : left dialect text = [])
    (hfound : found dialect 0 1 text = ls ++ l :: ls') : ∃ before,
      StandsBehind dialect text before (ls.map Located.statement) l.statement ∧
        l.start = byteLength before ∧ l.line = lineBreaks before + 1 := by
  obtain ⟨ss, hss⟩ := exists_written_of_left_eq_nil h
  have hstatements := hss.readPieces.2 0 1
  rw [hfound, List.map_append, List.map_cons] at hstatements
  rw [← hstatements] at hss
  obtain ⟨before, hstands⟩ := exists_standsBehind hss
  obtain ⟨rest, hrest⟩ := hstands.exists_found_eq 0 1
  have hlength := hstands.length_found 0 1
  rw [List.length_map] at hlength
  -- both lists have as many instructions in front of this one
  have happend := hrest.symm.trans hfound
  obtain ⟨hl, -⟩ := List.cons.inj (List.append_inj_right happend hlength)
  refine ⟨before, hstands, ?_, ?_⟩
  · rw [← hl]
    exact Nat.zero_add _
  · rw [← hl]
    exact Nat.add_comm _ _

/-- Instructions are found no earlier than at `offset`, and on no line above `line`. -/
theorem le_of_mem_locate (h : l ∈ locate offset line ps) : offset ≤ l.start ∧ line ≤ l.line := by
  induction ps generalizing offset line with
  | nil => cases h
  | cons p ps ih =>
    rw [locate_cons, List.mem_append] at h
    rcases h with h | h
    · cases p with
      | instruction s =>
        obtain rfl := List.mem_singleton.mp h
        exact ⟨Nat.le_refl _, Nat.le_refl _⟩
      | blanks run => cases h
      | comment hashes remark stop => cases h
    · have := ih h
      omega

/-- An instruction takes up room, and may take up lines: `start` ascends strictly, and `line` does
not descend. -/
theorem pairwise_locate (offset line : Nat) (ps : List Piece) :
    (locate offset line ps).Pairwise fun l l' => l.start < l'.start ∧ l.line ≤ l'.line := by
  induction ps generalizing offset line with
  | nil => exact .nil
  | cons p ps ih =>
    cases p with
    | blanks run => exact ih _ _
    | comment hashes remark stop => exact ih _ _
    | instruction s =>
      refine .cons (fun l' hl' => ?_) (ih _ _)
      obtain ⟨hstart, hline⟩ := le_of_mem_locate hl'
      obtain ⟨tail, htail⟩ := s.chars_eq_cons
      have hpos : 0 < byteLength s.chars := by
        rw [htail, byteLength_cons]
        exact Nat.add_pos_left (Char.utf8Size_pos _) _
      exact ⟨Nat.lt_of_lt_of_le (Nat.lt_add_of_pos_right hpos) hstart,
        Nat.le_of_add_right_le hline⟩

theorem pairwise_found (dialect : Dialect) (offset line : Nat) (text : List Char) :
    (found dialect offset line text).Pairwise fun l l' =>
      l.start < l'.start ∧ l.line ≤ l'.line :=
  pairwise_locate offset line (readPieces dialect text).1

end RegisterWrites.Document
