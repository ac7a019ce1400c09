import Mathlib.Data.Nat.Digits.Lemmas
import RegisterWrites.Proofs.Document.Occurrence

/-!
# Sizes that need too many bits

The size of an instruction is judged by the number that its digits denote (`HexLiteral.number`),
however many zeros stand in front of them, and only once the whole text has been read. The first
instruction of the text that declares too much is then the one that is reported. The main
statement is `parse_sizes`.
-/

namespace RegisterWrites

open Text

/-! ## The number of a literal -/

namespace HexLiteral

variable {l l' : HexLiteral} {n : Nat} {value : UInt32}

/-- The number that the digits of `l` denote to base 16, the last digit counting least. -/
def number (l : HexLiteral) : Nat :=
  Nat.ofDigits 16 (l.digits.reverse.map hexValue)

theorem number_eq (l : HexLiteral) : l.number = hexNumber l.digits :=
  ofDigits_reverse_hexValue l.digits

/-- Zeros in front of the digits do not change the `number`. -/
theorem number_of_zeros (h : l.digits = List.replicate n '0' ++ l'.digits) :
    l.number = l'.number := by
  have hzero : hexValue '0' = 0 := rfl
  rw [number, h, List.reverse_append, List.map_append, List.reverse_replicate, List.map_replicate,
    Nat.ofDigits_append, hzero, Nat.ofDigits_replicate_zero, Nat.mul_zero, Nat.add_zero, number]

theorem toNat_of_toUInt32?_eq_some (h : Document.IsHex l) (hvalue : l.toUInt32? = some value) :
    value.toNat = l.number := by
  rw [toUInt32?_of_isHex h, ← number_eq, Option.ite_none_right_eq_some,
    Option.some.injEq] at hvalue
  obtain ⟨hlt, rfl⟩ := hvalue
  exact UInt32.toNat_ofNat_of_lt' hlt

end HexLiteral

namespace Document

variable {dialect : Dialect} {text : String} {ss : List Statement} {l : Located}
  {i : Instruction} {is : List Instruction} {e : Error}

/-! ## The size of an instruction -/

/-- The number that the size of `s` denotes needs no more than 32 bits. -/
def Statement.Fits (s : Statement) : Prop :=
  s.size.literal.number < 2 ^ 32

theorem toNat_size_of_toInstruction (h : l.statement.IsAdmitted) (hi : l.toInstruction = .ok i) :
    i.size.toNat = l.statement.size.literal.number :=
  HexLiteral.toNat_of_toUInt32?_eq_some h.1.2 (toInstruction_eq_ok_iff.mp hi).1

theorem exists_toInstruction_eq_ok_iff (h : l.statement.IsAdmitted) :
    (∃ i, l.toInstruction = .ok i) ↔ l.statement.Fits := by
  constructor
  · rintro ⟨i, hi⟩
    rw [Statement.Fits, ← toNat_size_of_toInstruction h hi]
    exact i.size.toNat_lt
  · intro hfits
    apply exists_toInstruction_eq_ok h.1.2
    rwa [← HexLiteral.number_eq]

theorem not_fits_of_toInstruction_eq_error (h : l.statement.IsAdmitted)
    (he : l.toInstruction = .error e) : ¬ l.statement.Fits := by
  intro hfits
  obtain ⟨i, hi⟩ := (exists_toInstruction_eq_ok_iff h).mpr hfits
  rw [hi] at he
  cases he

/-! ## The sizes of a document -/

/-- The first of `ss` that does not fit is the one that is reported, and nothing else is wrong with
a document. -/
theorem first_of_parse_eq_error (hss : Written dialect text.toList ss)
    (h : (parse text dialect).result = .error e) : ∃ before earlier s later,
      ss = earlier ++ s :: later ∧ StandsBehind dialect text.toList before earlier s ∧
        (∀ r ∈ earlier, r.Fits) ∧ ¬ s.Fits ∧
        e = .sizeOutOfRange (lineBreaks before + 1) s.size.literal.text := by
  obtain ⟨hleft, hstatements⟩ := hss.readPieces
  rw [result_parse_of_left_eq_nil hleft] at h
  obtain ⟨ls, l, ls', hfound, hls, hl⟩ := exists_of_mapM_eq_error h
  have hadmitted : ∀ l' ∈ ls ++ l :: ls', l'.statement.IsAdmitted := by
    rw [← hfound]
    exact fun l' => isAdmitted_of_mem_found
  obtain ⟨before, hstands, -, hline⟩ := exists_standsBehind_of_found hleft hfound
  refine ⟨before, _, _, ls'.map Located.statement, ?_, hstands, ?_, ?_, ?_⟩
  · rw [← hstatements 0 1, hfound, List.map_append, List.map_cons]
  · intro r hr
    obtain ⟨l', hl', rfl⟩ := List.mem_map.mp hr
    apply (exists_toInstruction_eq_ok_iff (hadmitted l' (List.mem_append_left _ hl'))).mp
    exact hls l' hl'
  · exact not_fits_of_toInstruction_eq_error hstands.admitted hl
  · rw [toInstruction_eq_error hl, hline]

theorem fits_of_parse_eq_ok (hss : Written dialect text.toList ss)
    (h : (parse text dialect).result = .ok is) : ∀ s ∈ ss, s.Fits := by
  obtain ⟨-, his⟩ := result_parse_eq_ok_iff.mp h
  intro s hs
  rw [← hss.readPieces.2 0 1] at hs
  obtain ⟨l, hl, rfl⟩ := List.mem_map.mp hs
  apply (exists_toInstruction_eq_ok_iff (isAdmitted_of_mem_found hl)).mp
  obtain ⟨i, -, hi⟩ := exists_ok_of_mapM_eq_ok his hl
  exact ⟨i, hi⟩

theorem sizes_of_parse_eq_ok (hss : Written dialect text.toList ss)
    (h : (parse text dialect).result = .ok is) :
    is.map (fun i => i.size.toNat) = ss.map fun s => s.size.literal.number := by
  obtain ⟨-, his⟩ := result_parse_eq_ok_iff.mp h
  rw [← hss.readPieces.2 0 1, List.map_map]
  refine map_eq_of_mapM_eq_ok (fun l hl i hi => ?_) his
  exact toNat_size_of_toInstruction (isAdmitted_of_mem_found hl) hi

/-- **Sizes and syntax.** A `text` that is not `Written` in the dialect is a syntax error, whatever
its sizes. In a document, a size is out of range exactly if one of the instructions does not fit
(`Statement.Fits`); the error then has the line and the literal, as written, of the first such
instruction, whatever comes behind it. Else every instruction is taken over with the `number` that
its literal denotes. Zeros in front of the digits make no difference to it. -/
theorem parse_sizes (dialect : Dialect) (text : String) :
    ((∀ ss, ¬ Written dialect text.toList ss) →
      ∃ place, (parse text dialect).result = .error (.unreadable place)) ∧
    (∀ ss, Written dialect text.toList ss →
      ((∃ line literal, (parse text dialect).result = .error (.sizeOutOfRange line literal)) ↔
        ∃ s ∈ ss, 2 ^ 32 ≤ s.size.literal.number) ∧
      (∀ line literal, (parse text dialect).result = .error (.sizeOutOfRange line literal) →
        ∃ before earlier s later, ss = earlier ++ s :: later ∧
          StandsBehind dialect text.toList before earlier s ∧
          (∀ r ∈ earlier, r.size.literal.number < 2 ^ 32) ∧ 2 ^ 32 ≤ s.size.literal.number ∧
          line = lineBreaks before + 1 ∧ literal = s.size.literal.text) ∧
      ((∀ s ∈ ss, s.size.literal.number < 2 ^ 32) →
        ∃ is, (parse text dialect).result = .ok is ∧
          is.map (fun i => (i.sizeLiteral, i.offset, i.data)) = ss.map Statement.literals ∧
          is.map (fun i => i.size.toNat) = ss.map fun s => s.size.literal.number)) ∧
    ∀ (l l' : HexLiteral) (n : Nat), l.digits = List.replicate n '0' ++ l'.digits →
      l.number = l'.number := by
  refine ⟨fun hno => ?_, fun ss hss => ?_, fun l l' n => HexLiteral.number_of_zeros⟩
  · have hleft : left dialect text.toList ≠ [] := by
      intro hnil
      obtain ⟨ss, hss⟩ := exists_written_of_left_eq_nil hnil
      exact hno ss hss
    exact ⟨_, result_parse_of_left_ne_nil hleft (chars_of_readPieces _ _)⟩
  -- what becomes of a document is an error of this kind, or all of its instructions
  cases hresult : (parse text dialect).result with
  | error e =>
    obtain ⟨before, earlier, s, later, rfl, hstands, hearlier, hs, rfl⟩ :=
      first_of_parse_eq_error hss hresult
    have hmem : s ∈ earlier ++ s :: later := List.mem_append_right _ List.mem_cons_self
    refine ⟨iff_of_true ⟨_, _, rfl⟩ ⟨s, hmem, Nat.not_lt.mp hs⟩, ?_, ?_⟩
    · rintro line literal ⟨⟩
      exact ⟨before, earlier, s, later, rfl, hstands, hearlier, Nat.not_lt.mp hs, rfl, rfl⟩
    · intro hfits
      exact absurd (hfits s hmem) hs
  | ok is =>
    have hfits := fits_of_parse_eq_ok hss hresult
    refine ⟨iff_of_false nofun ?_, nofun, fun _ => ⟨is, rfl, ?_, ?_⟩⟩
    · rintro ⟨s, hs, hbig⟩
      exact Nat.not_lt.mpr hbig (hfits s hs)
    · obtain ⟨-, his⟩ := result_parse_eq_ok_iff.mp hresult
      rw [literals_of_mapM_eq_ok his, ← hss.readPieces.2 0 1, List.map_map]
      rfl
    · exact sizes_of_parse_eq_ok hss hresult

/-- The first of two sizes out of range is reported, with the mark and the zero that it was written
with. A character behind such a size is a syntax error all the same. -/
theorem parse_sizes_zero :
    (parse
        "Size:1,Offset:1,Data:2\nSize:0X0100000000,Offset:3,Data:4Size:FFFFFFFFF,Offset:5,Data:6"
        .bare).result = .error (.sizeOutOfRange 2 "0X0100000000") ∧
      (∃ before earlier s, StandsBehind .bare
        (String.toList
          "Size:1,Offset:1,Data:2\nSize:0X0100000000,Offset:3,Data:4Size:FFFFFFFFF,Offset:5,Data:6")
        before earlier s ∧ 2 = lineBreaks before + 1 ∧ "0X0100000000" = s.size.literal.text) ∧
      ∃ place, (parse "Size:100000000,Offset:1,Data:2\n?" .bare).result =
        .error (.unreadable place) := by
  have hrange : (parse
      "Size:1,Offset:1,Data:2\nSize:0X0100000000,Offset:3,Data:4Size:FFFFFFFFF,Offset:5,Data:6"
      .bare).result = .error (.sizeOutOfRange 2 "0X0100000000") := by
    with_unfolding_all rfl
  have hsyntax : left .bare "Size:100000000,Offset:1,Data:2\n?".toList = ['?'] := by
    with_unfolding_all rfl
  refine ⟨hrange, ?_, ?_⟩
  · have hreadable := isReadable_iff.mp fun place hplace => nomatch hrange.symm.trans hplace
    obtain ⟨ss, hss⟩ := exists_written_of_left_eq_nil hreadable
    obtain ⟨-, hfirst, -⟩ := (parse_sizes _ _).2.1 ss hss
    obtain ⟨before, earlier, s, later, -, hstands, -, -, hline, hliteral⟩ := hfirst _ _ hrange
    exact ⟨before, earlier, s, hstands, hline, hliteral⟩
  · apply (parse_sizes _ _).1
    intro ss hss
    rw [hss.readPieces.1] at hsyntax
    cases hsyntax

end Document

end RegisterWrites
