import RegisterWrites.Proofs.Conversion.Strictness
import RegisterWrites.Proofs.Document.Sizes
import RegisterWrites.Proofs.Text.Position

/-!
# Lines of instructions

The line of an instruction is the line of its first character. The reader counts the line feeds
in front of it, and whoever looks up the place of that character arrives at the same line
(`StandsBehind.map_line_at?`). From the instruction the line goes on to its descriptor, and into
the errors and reports that are about it (`encodeAll_lines`). The main statement is `parse_lines`.
-/

namespace RegisterWrites

open Text

variable {o : Options} {d : Descriptor} {i : Instruction} {is : List Instruction} {e : Error}
  {entry : Entry} {maxLength : Option Nat}

/-! ## What is said of a line -/

/-- The error `e` is one of the two problems of a descriptor, on `line`. -/
def Error.IsAbout (line : Nat) (e : Error) : Prop :=
  (∃ declared actual, e = .fieldInconsistency line declared actual) ∨
    ∃ length max, e = .capacityExceeded line length max

/-- The message of `entry` begins with `line`. -/
def Entry.IsAbout (line : Nat) (entry : Entry) : Prop :=
  ∃ rest, entry.message = "line " ++ toString line ++ ": " ++ rest

theorem isAbout_paddingEntry (i : Instruction) (d : Descriptor) :
    (paddingEntry i d).IsAbout i.line := by
  have hcolon : ": data `" = ": " ++ "data `" := by decide
  refine ⟨"data `" ++ i.data.text ++ "` has an odd number of digits, last byte padded to " ++
    ((d.payload.head?.map ByteToken.digits).getD ""), ?_⟩
  simp only [paddingEntry, hcolon, String.append_assoc]

namespace Descriptor

theorem isAbout_of_mem_problems (h : e ∈ d.problems maxLength) : e.IsAbout d.line := by
  rw [problems, List.mem_append, Option.mem_toList, Option.mem_toList] at h
  rcases h with h | h
  · unfold inconsistency? at h
    by_cases hc : d.isConsistent = true
    · rw [if_pos hc] at h
      cases h
    · rw [if_neg hc] at h
      obtain rfl := Option.some.inj h
      exact .inl ⟨_, _, rfl⟩
  · unfold overflow? at h
    cases maxLength with
    | none => cases h
    | some max =>
      obtain ⟨-, heq⟩ := Option.ite_none_right_eq_some.mp h
      obtain rfl := Option.some.inj heq
      exact .inr ⟨_, _, rfl⟩

theorem isAbout_problemEntry {line : Nat} (h : e.IsAbout line) :
    (problemEntry e).IsAbout line := by
  rcases h with ⟨declared, actual, rfl⟩ | ⟨length, max, rfl⟩
  · have hcolon : ": declared size " = ": " ++ "declared size " := by decide
    refine ⟨"declared size " ++ toString declared ++ " but data holds " ++ toString actual ++
      " byte(s)", ?_⟩
    unfold problemEntry Error.message
    simp only [hcolon, String.append_assoc]
  · have hcolon : ": write of " = ": " ++ "write of " := by decide
    refine ⟨"write of " ++ toString length ++ " byte(s) exceeds the " ++ toString max ++
      " byte buffer", ?_⟩
    unfold problemEntry Error.message
    simp only [hcolon, String.append_assoc]

/-- All that a check can do: say nothing, report all `problems`, or fail with one of them. -/
theorem check_cases (o : Options) (d : Descriptor) :
    d.check o = ⟨[], .ok ()⟩ ∨
      d.check o = ⟨(d.problems o.maxLength).map problemEntry, .ok ()⟩ ∨
      ∃ e ∈ d.problems o.maxLength, d.check o = ⟨[], .error e⟩ := by
  have ho : d.check o = d.check (o.under o.strictness) := rfl
  rw [ho]
  cases o.strictness with
  | off => exact .inl (check_off d)
  | warn => exact .inr (.inl (check_warn d))
  | deny =>
    rw [check_deny]
    cases d.problems o.maxLength with
    | nil => exact .inl rfl
    | cons problem others => exact .inr (.inr ⟨problem, List.mem_cons_self, rfl⟩)

theorem isAbout_of_check_eq_error (h : (d.check o).result = .error e) : e.IsAbout d.line := by
  rcases d.check_cases o with hc | hc | ⟨problem, hproblem, hc⟩
  · rw [hc] at h
    cases h
  · rw [hc] at h
    cases h
  · rw [hc] at h
    cases h
    exact isAbout_of_mem_problems hproblem

theorem isAbout_of_mem_log_check (h : entry ∈ (d.check o).log) : entry.IsAbout d.line := by
  rcases d.check_cases o with hc | hc | ⟨problem, hproblem, hc⟩
  · rw [hc] at h
    cases h
  · rw [hc] at h
    obtain ⟨e, he, rfl⟩ := List.mem_map.mp h
    exact isAbout_problemEntry (isAbout_of_mem_problems he)
  · rw [hc] at h
    cases h

end Descriptor

namespace Instruction

theorem line_encode (i : Instruction) : i.encode.line = i.line := rfl

/-- Whatever is reported of `i` begins with its line. -/
theorem isAbout_of_mem_log (h : entry ∈ (i.encodeChecked o).log) : entry.IsAbout i.line := by
  rw [encodeChecked_eq, List.mem_append] at h
  rcases h with h | h
  · by_cases hodd : i.hasOddData = true
    · rw [if_pos hodd] at h
      obtain rfl := List.mem_singleton.mp h
      exact isAbout_paddingEntry i i.encode
    · rw [if_neg hodd] at h
      cases h
  · rw [← i.line_encode]
    exact Descriptor.isAbout_of_mem_log_check h

end Instruction

/-- **Lines in a run.** Descriptors, errors and reports of `encodeAll` have the lines of their
instructions. -/
theorem encodeAll_lines (o : Options) (is : List Instruction) :
    (∀ ds, (encodeAll o is).result = .ok ds →
      ds.map Descriptor.line = is.map Instruction.line) ∧
    (∀ e, (encodeAll o is).result = .error e →
      ∃ i ∈ is, (i.encode.check o).result = .error e ∧ e.IsAbout i.line) ∧
    ∀ entry ∈ (encodeAll o is).log,
      ∃ i ∈ is, entry ∈ (i.encodeChecked o).log ∧ entry.IsAbout i.line := by
  refine ⟨fun ds hds => ?_, ?_⟩
  · obtain ⟨-, rfl⟩ := result_encodeAll_eq_ok_iff.mp hds
    rw [List.map_map]
    rfl
  rcases isPassed_or_refused o is with hall | ⟨before, i, after, e, rfl, hbefore, hi⟩
  · rw [encodeAll_of_passed hall]
    refine ⟨nofun, fun entry hentry => ?_⟩
    obtain ⟨i, hi, hmem⟩ := List.mem_flatMap.mp hentry
    exact ⟨i, hi, hmem, Instruction.isAbout_of_mem_log hmem⟩
  · rw [encodeAll_of_refused hbefore hi]
    constructor
    · rintro _ ⟨⟩
      have hmem : i ∈ before ++ i :: after := List.mem_append_right _ List.mem_cons_self
      exact ⟨i, hmem, hi, Descriptor.isAbout_of_check_eq_error hi⟩
    · intro entry hentry
      obtain ⟨j, hj, hmem⟩ := List.mem_flatMap.mp hentry
      refine ⟨j, ?_, hmem, Instruction.isAbout_of_mem_log hmem⟩
      rw [List.append_cons]
      exact List.mem_append_left _ hj

namespace Document

variable {dialect : Dialect} {text : String} {before : List Char} {earlier : List Statement}
  {s : Statement}

/-- The place of the first character of an instruction is on the line that the line feeds `before`
it give. -/
theorem StandsBehind.map_line_at? (h : StandsBehind dialect text.toList before earlier s)
    (expected : Option String) :
    (SyntaxError.at? text (byteLength before) expected).map SyntaxError.line =
      some (lineBreaks before + 1) := by
  obtain ⟨-, -, after, later, htext, -⟩ := h
  rw [SyntaxError.at?_eq_some_iff.mpr ⟨before, s.chars ++ after, htext, rfl, rfl⟩]
  rfl

/-- The instruction with the number `k`, from 0, stands behind `k` others, on its line. -/
theorem exists_standsBehind_of_getElem? {k : Nat} (h : (parse text dialect).result = .ok is)
    (hi : is[k]? = some i) : ∃ before earlier s,
      StandsBehind dialect text.toList before earlier s ∧ earlier.length = k ∧
        (i.sizeLiteral, i.offset, i.data) = s.literals ∧ i.line = lineBreaks before + 1 := by
  obtain ⟨hleft, his⟩ := result_parse_eq_ok_iff.mp h
  obtain ⟨l, hl, hli⟩ := exists_getElem?_of_mapM_eq_ok his hi
  obtain ⟨hk, rfl⟩ := List.getElem?_eq_some_iff.mp hl
  have hsplit := List.take_append_drop k (found dialect 0 1 text.toList)
  rw [List.drop_eq_getElem_cons hk] at hsplit
  obtain ⟨before, hstands, -, hline⟩ := exists_standsBehind_of_found hleft hsplit.symm
  obtain ⟨-, hlocated, hsize, hoffset, hdata⟩ := toInstruction_eq_ok_iff.mp hli
  refine ⟨before, _, _, hstands, ?_, ?_, ?_⟩
  · rw [List.length_map, List.length_take, Nat.min_eq_left hk.le]
  · rw [hsize, hoffset, hdata, Statement.literals]
  · rw [hlocated, hline]

theorem pairwise_line_of_parse_eq_ok (h : (parse text dialect).result = .ok is) :
    (is.map Instruction.line).Pairwise (· ≤ ·) := by
  obtain ⟨-, his⟩ := result_parse_eq_ok_iff.mp h
  have hlines : is.map Instruction.line = (found dialect 0 1 text.toList).map Located.line :=
    map_eq_of_mapM_eq_ok (fun _ _ _ hi => (toInstruction_eq_ok_iff.mp hi).2.1) his
  rw [hlines, List.pairwise_map]
  exact (pairwise_found dialect 0 1 text.toList).imp And.right

/-- **Lines.** Every instruction stands behind as many others as its number says (`StandsBehind`).
Its line is one more than the line feeds in front of its first character, and that of the place of
this character (`SyntaxError.at?`); lines do not descend. Descriptors have the lines of their
instructions, and what fails or is reported in encoding them is about the line of one of them
(`IsAbout`). A size out of range is reported with the line of its instruction, too. -/
theorem parse_lines (dialect : Dialect) (text : String) :
    (∀ is, (parse text dialect).result = .ok is →
      (∀ k i, is[k]? = some i →
        (∃ before earlier s, StandsBehind dialect text.toList before earlier s ∧
          earlier.length = k) ∧
        ∀ before earlier s, StandsBehind dialect text.toList before earlier s →
          earlier.length = k →
          (i.sizeLiteral, i.offset, i.data) = s.literals ∧ i.line = lineBreaks before + 1 ∧
          ∀ expected, (SyntaxError.at? text (byteLength before) expected).map SyntaxError.line =
            some i.line) ∧
      (is.map Instruction.line).Pairwise (· ≤ ·) ∧
      ∀ o : Options,
        (∀ ds, (encodeAll o is).result = .ok ds →
          ds.map Descriptor.line = is.map Instruction.line) ∧
        (∀ e, (encodeAll o is).result = .error e →
          ∃ i ∈ is, (i.encode.check o).result = .error e ∧ e.IsAbout i.line) ∧
        ∀ entry ∈ (encodeAll o is).log,
          ∃ i ∈ is, entry ∈ (i.encodeChecked o).log ∧ entry.IsAbout i.line) ∧
    ∀ line literal, (parse text dialect).result = .error (.sizeOutOfRange line literal) →
      ∃ before earlier s, StandsBehind dialect text.toList before earlier s ∧
        (∀ r ∈ earlier, r.Fits) ∧ ¬ s.Fits ∧ literal = s.size.literal.text ∧
          line = lineBreaks before + 1 ∧
          ∀ expected, (SyntaxError.at? text (byteLength before) expected).map SyntaxError.line =
            some line := by
  refine ⟨fun is his => ⟨fun k i hi => ?_, pairwise_line_of_parse_eq_ok his,
    fun o => encodeAll_lines o is⟩, fun line literal herror => ?_⟩
  · obtain ⟨before, earlier, s, hstands, hk, hliterals, hline⟩ :=
      exists_standsBehind_of_getElem? his hi
    refine ⟨⟨before, earlier, s, hstands, hk⟩, fun before' earlier' s' hstands' hk' => ?_⟩
    obtain ⟨rfl, rfl⟩ := hstands.unique hstands' (hk.trans hk'.symm)
    refine ⟨hliterals, hline, ?_⟩
    rw [hline]
    exact hstands.map_line_at?
  · have hreadable : IsReadable dialect text := by
      intro place hplace
      cases herror.symm.trans hplace
    obtain ⟨ss, hss⟩ := exists_written_of_left_eq_nil (isReadable_iff.mp hreadable)
    obtain ⟨before, earlier, s, later, -, hstands, hearlier, hs, heq⟩ :=
      first_of_parse_eq_error hss herror
    obtain ⟨rfl, rfl⟩ := Error.sizeOutOfRange.inj heq
    exact ⟨before, earlier, s, hstands, hearlier, hs, rfl, rfl, hstands.map_line_at?⟩

/-- An instruction that spans two lines, behind a return and a blank of two bytes, begins on the
first of them; the next one stands on the second. -/
theorem parse_lines_spanning :
    (parse "\r\n\u00a0Size:\n1,Offset:2,Data:3Size:4,Offset:5,Data:6" .bare).result =
        .ok [⟨2, 1, ⟨"1"⟩, ⟨"2"⟩, ⟨"3"⟩⟩, ⟨3, 4, ⟨"4"⟩, ⟨"5"⟩, ⟨"6"⟩⟩] ∧
      (∃ before earlier s, StandsBehind .bare
        "\r\n\u00a0Size:\n1,Offset:2,Data:3Size:4,Offset:5,Data:6".toList before earlier s ∧
          earlier.length = 1 ∧ 3 = lineBreaks before + 1) ∧
      (parse "\nSize:100000000,Offset:1,Data:2" .bare).result =
        .error (.sizeOutOfRange 2 "100000000") ∧
      ∃ before earlier s, StandsBehind .bare "\nSize:100000000,Offset:1,Data:2".toList
        before earlier s ∧ 2 = lineBreaks before + 1 := by
  have hok : (parse "\r\n\u00a0Size:\n1,Offset:2,Data:3Size:4,Offset:5,Data:6" .bare).result =
      .ok [⟨2, 1, ⟨"1"⟩, ⟨"2"⟩, ⟨"3"⟩⟩, ⟨3, 4, ⟨"4"⟩, ⟨"5"⟩, ⟨"6"⟩⟩] := by
    with_unfolding_all rfl
  have herror : (parse "\nSize:100000000,Offset:1,Data:2" .bare).result =
      .error (.sizeOutOfRange 2 "100000000") := by
    with_unfolding_all rfl
  obtain ⟨⟨before, earlier, s, hstands, hlength⟩, hplace⟩ :=
    ((parse_lines _ _).1 _ hok).1 1 _ rfl
  obtain ⟨-, hline, -⟩ := hplace before earlier s hstands hlength
  obtain ⟨before', earlier', s', hstands', -, -, -, hline', -⟩ := (parse_lines _ _).2 _ _ herror
  exact ⟨hok, ⟨before, earlier, s, hstands, hlength, hline⟩, herror, before', earlier', s',
    hstands', hline'⟩

end Document

end RegisterWrites
