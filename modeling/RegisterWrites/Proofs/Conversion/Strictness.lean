import Mathlib.Data.List.Basic
import RegisterWrites.Conversion
import RegisterWrites.Proofs.Descriptor.Payload

/-!
# Runs under different strictness

What the strictness of the options changes in an encoding, and what not. Instructions are
encoded one by one; as long as no check refuses one, the descriptors and the reports of the
instructions follow each other (`encodeAll_append`), and the first refusal ends the run
(`encodeAll_of_refused`). The main statement, `encodeAll_under`, compares the runs of one list
under the three strictnesses: what a strict run fails with is what a lenient run reports first.
-/

namespace RegisterWrites

open Text Document

/-- The options `o` under the strictness `s`. -/
def Options.under (o : Options) (s : Strictness) : Options := { o with strictness := s }

variable {o : Options} {e : Error} {d : Descriptor} {i : Instruction}
  {is before rest : List Instruction}

/-! ## A single check -/

namespace Descriptor

theorem isConsistent_iff : d.isConsistent = true ↔ d.length = 1 + d.payload.length := by
  rw [isConsistent, byteCount, decide_eq_true_eq]
  exact eq_comm

theorem inconsistency?_of_eq (h : d.length = 1 + d.payload.length) : d.inconsistency? = none := by
  rw [inconsistency?, if_pos (isConsistent_iff.mpr h)]

theorem inconsistency?_of_ne (h : d.length ≠ 1 + d.payload.length) : d.inconsistency? =
    some (.fieldInconsistency d.line (d.length - 1) d.payload.length) := by
  rw [inconsistency?, if_neg fun hc => h (isConsistent_iff.mp hc)]

/-- As a list, `overflow?` is the problem with the limit of `maxLength`, if that is below what `d`
needs. -/
theorem toList_overflow? (maxLength : Option Nat) (d : Descriptor) :
    (d.overflow? maxLength).toList =
      (maxLength.toList.filter (· < d.neededLength)).map
        (.capacityExceeded d.line d.neededLength) := by
  unfold overflow?
  cases maxLength with
  | none => rfl
  | some limit =>
    by_cases h : limit < d.neededLength
    · simp [h]
    · simp [h]

/-- The `problems` of `d` as they are reported, word for word: a `length` that is not that of the
address and the payload, and a write that does not fit into the buffer. -/
theorem map_problemEntry_problems (maxLength : Option Nat) (d : Descriptor) :
    (d.problems maxLength).map problemEntry =
      (if d.length = 1 + d.payload.length then []
        else [⟨.warn, .checks, "line " ++ toString d.line ++ ": declared size " ++
          toString (d.length - 1) ++ " but data holds " ++ toString d.payload.length ++
          " byte(s)"⟩]) ++
      (maxLength.toList.filter (· < max d.length (1 + d.payload.length))).map fun limit =>
        ⟨.warn, .checks, "line " ++ toString d.line ++ ": write of " ++
          toString (max d.length (1 + d.payload.length)) ++ " byte(s) exceeds the " ++
          toString limit ++ " byte buffer"⟩ := by
  rw [problems, List.map_append, toList_overflow?, List.map_map]
  by_cases h : d.length = 1 + d.payload.length
  · rw [inconsistency?_of_eq h, if_pos h]
    rfl
  · rw [inconsistency?_of_ne h, if_neg h]
    rfl

theorem check_off (d : Descriptor) : d.check (o.under .off) = ⟨[], .ok ()⟩ := rfl

theorem check_warn (d : Descriptor) :
    d.check (o.under .warn) = ⟨(d.problems o.maxLength).map problemEntry, .ok ()⟩ := rfl

/-- Under `deny` a check reports nothing: it passes if there are no `problems`, or fails with the
first of them. -/
theorem check_deny (d : Descriptor) : d.check (o.under .deny) =
    ⟨[], ((d.problems o.maxLength).head?.map Except.error).getD (.ok ())⟩ := by
  unfold check Options.under
  simp only
  cases d.problems o.maxLength with
  | nil => rfl
  | cons problem others => rfl

end Descriptor

/-! ## A single instruction -/

namespace Instruction

/-- The report on `i` if its data has an odd number of digits: the line, the data as they are
written, and the byte that the last digit is completed to. -/
def paddingEntries (i : Instruction) : List Entry :=
  if i.data.digits.length % 2 = 1 then
    [⟨.warn, .conversion, "line " ++ toString i.line ++ ": data `" ++ i.data.text ++
      "` has an odd number of digits, last byte padded to " ++
      String.ofList (i.data.digits.getLast?.toList ++ ['0'])⟩]
  else []

/-- The number of bytes that the digits of the data make up, two each. -/
def dataSize (i : Instruction) : Nat := (i.data.digits.length + 1) / 2

/-- The report on `i` if it declares another size than `dataSize`. -/
def sizeEntries (i : Instruction) : List Entry :=
  if i.size.toNat = i.dataSize then []
  else
    [⟨.warn, .checks, "line " ++ toString i.line ++ ": declared size " ++ toString i.size.toNat ++
      " but data holds " ++ toString i.dataSize ++ " byte(s)"⟩]

/-- The report on `i` if the address and its bytes, as many as are declared or as there are, do
not fit into a buffer of `maxLength` bytes. -/
def capacityEntries (maxLength : Option Nat) (i : Instruction) : List Entry :=
  let needed := max (i.size.toNat + 1) (1 + i.dataSize)
  (maxLength.toList.filter (· < needed)).map fun limit =>
    ⟨.warn, .checks, "line " ++ toString i.line ++ ": write of " ++ toString needed ++
      " byte(s) exceeds the " ++ toString limit ++ " byte buffer"⟩

/-- All reports on `i` if it is checked and not refused, in their order. -/
def warnings (maxLength : Option Nat) (i : Instruction) : List Entry :=
  i.paddingEntries ++ i.sizeEntries ++ i.capacityEntries maxLength

theorem paddingEntries_eq (i : Instruction) : i.paddingEntries =
    if i.data.digits.length % 2 = 1 then [paddingEntry i i.encode] else [] := by
  unfold paddingEntries
  by_cases hodd : i.data.digits.length % 2 = 1
  · obtain ⟨c, hc, hlast⟩ := ByteToken.getLast?_ofDigits hodd
    have hfirst : i.encode.payload.head? = some ⟨c, '0'⟩ := by
      rw [encode, List.head?_reverse, hlast]
    rw [if_pos hodd, if_pos hodd, paddingEntry, hc, hfirst]
    rfl
  · rw [if_neg hodd, if_neg hodd]

theorem map_problemEntry_problems_encode (maxLength : Option Nat) (i : Instruction) :
    (i.encode.problems maxLength).map Descriptor.problemEntry =
      i.sizeEntries ++ i.capacityEntries maxLength := by
  have hsize : i.encode.length = 1 + i.encode.payload.length ↔ i.size.toNat = i.dataSize := by
    have hlength : i.encode.length = i.size.toNat + 1 := rfl
    rw [hlength, i.length_payload_encode, dataSize]
    omega
  rw [Descriptor.map_problemEntry_problems, i.length_payload_encode]
  rw [i.length_payload_encode] at hsize
  simp only [hsize]
  rfl

/-- The report on an odd digit comes before the check, and `Descriptor.check` decides what comes of
it all. -/
theorem encodeChecked_eq (o : Options) (i : Instruction) : i.encodeChecked o =
    ⟨(if i.hasOddData then [paddingEntry i i.encode] else []) ++ (i.encode.check o).log,
      (i.encode.check o).result.map fun _ => i.encode⟩ := by
  have hcheck : (do i.encode.check o; return i.encode : Logged Error Descriptor) =
      ⟨(i.encode.check o).log, (i.encode.check o).result.map fun _ => i.encode⟩ := by
    cases hresult : (i.encode.check o).result with
    | error e => rw [Logged.bind_of_error hresult]; rfl
    | ok => rw [Logged.bind_of_ok hresult]; simp [Except.map]
  have hpadded : i.encode.padded = i.hasOddData := rfl
  unfold encodeChecked
  simp only [hpadded]
  split
  · rw [Logged.bind_of_ok rfl, hcheck]
    rfl
  · rw [hcheck, List.nil_append]

theorem log_encodeChecked (o : Options) (h : IsHex i.data) :
    (i.encodeChecked o).log = i.paddingEntries ++ (i.encode.check o).log := by
  simp only [encodeChecked_eq, hasOddData_of_isHex h, decide_eq_true_eq, paddingEntries_eq]

/-- The instruction `i` is encoded without being refused. -/
def IsPassed (o : Options) (i : Instruction) : Prop :=
  (i.encode.check o).result = .ok ()

theorem isPassed_of_ne_deny (h : o.strictness ≠ .deny) (i : Instruction) : i.IsPassed o := by
  unfold IsPassed Descriptor.check
  cases hs : o.strictness with
  | off => rfl
  | warn => rfl
  | deny => exact absurd hs h

end Instruction

/-! ## Instructions in a row -/

theorem encodeAll_cons (hpass : i.IsPassed o) (rest : List Instruction) :
    encodeAll o (i :: rest) = ⟨(i.encodeChecked o).log ++ (encodeAll o rest).log,
      (encodeAll o rest).result.map (i.encode :: ·)⟩ := by
  have hresult : (i.encodeChecked o).result = .ok i.encode := by
    rw [i.encodeChecked_eq o, hpass]
    rfl
  rw [encodeAll, Logged.bind_of_ok hresult]
  cases hrest : (encodeAll o rest).result with
  | error e => rw [Logged.bind_of_error hrest]; rfl
  | ok ds => rw [Logged.bind_of_ok hrest]; simp [Except.map]

/-- **As long as nothing is refused** the descriptors follow each other, and so do the reports:
`encodeAll` runs over `before` and goes on with `rest`. -/
theorem encodeAll_append (hpass : ∀ i ∈ before, i.IsPassed o) (rest : List Instruction) :
    encodeAll o (before ++ rest) =
      ⟨before.flatMap (fun i => (i.encodeChecked o).log) ++ (encodeAll o rest).log,
        (encodeAll o rest).result.map (before.map Instruction.encode ++ ·)⟩ := by
  induction before with
  | nil => cases hrest : (encodeAll o rest).result <;> simp [Except.map, ← hrest]
  | cons i before ih =>
    rw [List.forall_mem_cons] at hpass
    rw [List.cons_append, encodeAll_cons hpass.1, ih hpass.2, List.flatMap_cons,
      List.append_assoc]
    cases (encodeAll o rest).result <;> rfl

theorem encodeAll_of_passed (hpass : ∀ i ∈ is, i.IsPassed o) : encodeAll o is =
    ⟨is.flatMap fun i => (i.encodeChecked o).log, .ok (is.map Instruction.encode)⟩ := by
  have happ := encodeAll_append hpass []
  rw [List.append_nil] at happ
  rw [happ]
  simp [encodeAll, Except.map]

theorem result_encodeAll (h : o.strictness ≠ .deny) (is : List Instruction) :
    (encodeAll o is).result = .ok (is.map Instruction.encode) := by
  rw [encodeAll_of_passed fun i _ => i.isPassed_of_ne_deny h]

/-- The first instruction that is refused ends the run: what comes `after` it is not reported on. -/
theorem encodeAll_of_refused (hpass : ∀ j ∈ before, j.IsPassed o)
    (hrefuse : (i.encode.check o).result = .error e) (after : List Instruction) :
    encodeAll o (before ++ i :: after) =
      ⟨(before ++ [i]).flatMap fun j => (j.encodeChecked o).log, .error e⟩ := by
  have hresult : (i.encodeChecked o).result = .error e := by
    rw [i.encodeChecked_eq o, hrefuse]
    rfl
  rw [encodeAll_append hpass, encodeAll, Logged.bind_of_error hresult, List.flatMap_append,
    List.flatMap_singleton]
  rfl

theorem isPassed_or_refused (o : Options) (is : List Instruction) :
    (∀ i ∈ is, i.IsPassed o) ∨ ∃ before i after e, is = before ++ i :: after ∧
      (∀ j ∈ before, j.IsPassed o) ∧ (i.encode.check o).result = .error e := by
  induction is with
  | nil => exact .inl (List.forall_mem_nil _)
  | cons i is ih =>
    cases hi : (i.encode.check o).result with
    | error e => exact .inr ⟨[], i, is, e, rfl, List.forall_mem_nil _, hi⟩
    | ok =>
      rcases ih with hall | ⟨before, j, after, e, rfl, hbefore, hj⟩
      · exact .inl (List.forall_mem_cons.mpr ⟨hi, hall⟩)
      · exact .inr ⟨i :: before, j, after, e, rfl, List.forall_mem_cons.mpr ⟨hi, hbefore⟩, hj⟩

/-- Instructions are encoded exactly if none of them is refused. -/
theorem result_encodeAll_eq_ok_iff {ds : List Descriptor} :
    (encodeAll o is).result = .ok ds ↔
      (∀ i ∈ is, i.IsPassed o) ∧ ds = is.map Instruction.encode := by
  rcases isPassed_or_refused o is with hall | ⟨before, i, after, e, rfl, hbefore, hi⟩
  · rw [encodeAll_of_passed hall, Except.ok.injEq]
    exact ⟨fun h => ⟨hall, h.symm⟩, fun h => h.2.symm⟩
  · rw [encodeAll_of_refused hbefore hi]
    constructor
    · nofun
    · rintro ⟨hall, -⟩
      have hpass : (i.encode.check o).result = .ok () := hall i (by simp)
      rw [hi] at hpass
      cases hpass

/-! ## The three runs -/

/-- The problems of the instructions `is`, in the order in which they come up. -/
def Instruction.problems (maxLength : Option Nat) (is : List Instruction) : List Error :=
  is.flatMap fun i => i.encode.problems maxLength

theorem encodeAll_off (hex : ∀ i ∈ is, IsHex i.data) : encodeAll (o.under .off) is =
    ⟨is.flatMap Instruction.paddingEntries, .ok (is.map Instruction.encode)⟩ := by
  rw [encodeAll_of_passed fun i _ => i.isPassed_of_ne_deny (o := o.under .off) nofun]
  refine Logged.ext ?_ rfl
  refine List.flatMap_congr fun i hi => ?_
  rw [i.log_encodeChecked _ (hex i hi), Descriptor.check_off, List.append_nil]

theorem encodeAll_warn (hex : ∀ i ∈ is, IsHex i.data) : encodeAll (o.under .warn) is =
    ⟨is.flatMap (Instruction.warnings o.maxLength), .ok (is.map Instruction.encode)⟩ := by
  rw [encodeAll_of_passed fun i _ => i.isPassed_of_ne_deny (o := o.under .warn) nofun]
  refine Logged.ext ?_ rfl
  refine List.flatMap_congr fun i hi => ?_
  rw [i.log_encodeChecked _ (hex i hi), Descriptor.check_warn,
    Instruction.map_problemEntry_problems_encode, Instruction.warnings, List.append_assoc]

/-- Of the `warnings` on `is` the checks speak of all `problems` and of nothing else. -/
theorem filter_warnings (maxLength : Option Nat) (is : List Instruction) :
    (is.flatMap (Instruction.warnings maxLength)).filter (·.speaker = .checks) =
      (Instruction.problems maxLength is).map Descriptor.problemEntry := by
  have hpadding : ∀ i : Instruction, i.paddingEntries.filter (·.speaker = .checks) = [] := by
    intro i
    unfold Instruction.paddingEntries
    split <;> rfl
  have hproblem : ∀ problems : List Error,
      (problems.map Descriptor.problemEntry).filter (·.speaker = .checks) =
        problems.map Descriptor.problemEntry := by
    intro problems
    rw [List.filter_eq_self]
    intro entry hentry
    obtain ⟨problem, -, rfl⟩ := List.mem_map.mp hentry
    rfl
  rw [List.filter_flatMap, Instruction.problems, List.map_flatMap]
  refine List.flatMap_congr fun i _ => ?_
  rw [Instruction.warnings, List.append_assoc, ← Instruction.map_problemEntry_problems_encode,
    List.filter_append, hpadding, hproblem, List.nil_append]

theorem isPassed_deny_iff : i.IsPassed (o.under .deny) ↔ i.encode.problems o.maxLength = [] := by
  rw [Instruction.IsPassed, Descriptor.check_deny]
  cases i.encode.problems o.maxLength with
  | nil => simp
  | cons problem others => simp

/-- The error `e` of the first instruction that is refused is the first of all `problems`. -/
theorem head?_problems_of_refused (hpass : ∀ j ∈ before, j.IsPassed (o.under .deny))
    (hrefuse : (i.encode.check (o.under .deny)).result = .error e) (after : List Instruction) :
    (Instruction.problems o.maxLength (before ++ i :: after)).head? = some e := by
  have hbefore : Instruction.problems o.maxLength before = [] :=
    List.flatMap_eq_nil_iff.mpr fun j hj => isPassed_deny_iff.mp (hpass j hj)
  have hi : (i.encode.problems o.maxLength).head? = some e := by
    rw [Descriptor.check_deny] at hrefuse
    cases hproblems : i.encode.problems o.maxLength with
    | nil => rw [hproblems] at hrefuse; cases hrefuse
    | cons problem others => rw [hproblems] at hrefuse; cases hrefuse; rfl
  unfold Instruction.problems at hbefore ⊢
  rw [List.flatMap_append, hbefore, List.nil_append, List.flatMap_cons, List.head?_append, hi]
  rfl

/-- **Three runs over the same instructions.** Under `off` and `warn`, all of `is` are encoded in
order; under `off` odd digits are reported (`paddingEntries`), and under `warn` also what does not
fit, one instruction after another (`warnings`). A run under `deny` yields the same descriptors or
fails. It fails exactly if the run under `warn` has a problem to report; its error is the first of
these, in the same words, and by then it has reported the odd digits up to the instruction `i` on
which it fails. -/
theorem encodeAll_under (o : Options) (is : List Instruction) (hex : ∀ i ∈ is, IsHex i.data) :
    encodeAll (o.under .off) is =
      ⟨is.flatMap Instruction.paddingEntries, .ok (is.map Instruction.encode)⟩ ∧
    encodeAll (o.under .warn) is =
      ⟨is.flatMap (Instruction.warnings o.maxLength), .ok (is.map Instruction.encode)⟩ ∧
    ((∃ e, (encodeAll (o.under .deny) is).result = .error e) ↔
      ∃ entry ∈ (encodeAll (o.under .warn) is).log, entry.speaker = .checks) ∧
    (∀ ds, (encodeAll (o.under .deny) is).result = .ok ds →
      encodeAll (o.under .deny) is = encodeAll (o.under .off) is) ∧
    ∀ e, (encodeAll (o.under .deny) is).result = .error e →
      ((encodeAll (o.under .warn) is).log.find? (·.speaker = .checks)).map Entry.message =
        some e.message ∧
      ∃ before i after, is = before ++ i :: after ∧
        (∀ j ∈ before, (j.encode.check (o.under .deny)).result = .ok ()) ∧
        (i.encode.check (o.under .deny)).result = .error e ∧
        (encodeAll (o.under .deny) is).log =
          (before ++ [i]).flatMap Instruction.paddingEntries := by
  have hfind : (encodeAll (o.under .warn) is).log.find? (·.speaker = .checks) =
      (Instruction.problems o.maxLength is).head?.map Descriptor.problemEntry := by
    rw [encodeAll_warn hex, ← List.head?_filter, filter_warnings, List.head?_map]
  have hreported : (∃ entry ∈ (encodeAll (o.under .warn) is).log, entry.speaker = .checks) ↔
      ((Instruction.problems o.maxLength is).head?).isSome := by
    rw [← Option.isSome_map (f := Descriptor.problemEntry), ← hfind, List.find?_isSome]
    simp only [decide_eq_true_eq]
  have hlog : ∀ js : List Instruction, (∀ j ∈ js, IsHex j.data) →
      (js.flatMap fun j => (j.encodeChecked (o.under .deny)).log) =
        js.flatMap Instruction.paddingEntries := by
    intro js hjs
    refine List.flatMap_congr fun j hj => ?_
    rw [j.log_encodeChecked _ (hjs j hj), Descriptor.check_deny, List.append_nil]
  refine ⟨encodeAll_off hex, encodeAll_warn hex, ?_⟩
  rw [hreported, hfind]
  -- both sides speak of the first problem; the strict run gets as far as the instruction with it
  rcases isPassed_or_refused (o.under .deny) is with hall | ⟨before, i, after, e, rfl, hbefore, hi⟩
  · have hnone : Instruction.problems o.maxLength is = [] :=
      List.flatMap_eq_nil_iff.mpr fun i hi => isPassed_deny_iff.mp (hall i hi)
    rw [encodeAll_of_passed hall, hlog is hex, hnone, encodeAll_off hex]
    simp
  · have hhead := head?_problems_of_refused hbefore hi after
    have hreached : ∀ j ∈ before ++ [i], IsHex j.data := by
      rw [List.append_cons] at hex
      exact fun j hj => hex j (List.mem_append_left _ hj)
    rw [encodeAll_of_refused hbefore hi, hlog _ hreached, hhead]
    refine ⟨⟨fun _ => rfl, fun _ => ⟨e, rfl⟩⟩, nofun, ?_⟩
    rintro _ ⟨⟩
    exact ⟨rfl, before, i, after, rfl, hbefore, hi, rfl⟩

/-- Of two instructions with an odd digit each, the second declares too many bytes and does not
fit either. Under `deny` the run reports both digits and fails with the first of the two problems;
under `warn` it reports all four. -/
theorem encodeAll_under_oversized :
    let o : Options := { maxLength := some 4 }
    let is : List Instruction :=
      [⟨1, 1, ⟨"1"⟩, ⟨"10"⟩, ⟨"F"⟩⟩, ⟨2, 4, ⟨"4"⟩, ⟨"11"⟩, ⟨"0xABC"⟩⟩]
    let digits : List Entry :=
      [⟨.warn, .conversion,
          "line 1: data `F` has an odd number of digits, last byte padded to F0"⟩,
        ⟨.warn, .conversion,
          "line 2: data `0xABC` has an odd number of digits, last byte padded to C0"⟩]
    encodeAll (o.under .deny) is = ⟨digits, .error (.fieldInconsistency 2 4 2)⟩ ∧
      (encodeAll (o.under .warn) is).log = digits ++
        [⟨.warn, .checks, "line 2: declared size 4 but data holds 2 byte(s)"⟩,
          ⟨.warn, .checks, "line 2: write of 5 byte(s) exceeds the 4 byte buffer"⟩] ∧
      ((encodeAll (o.under .warn) is).log.find? (·.speaker = .checks)).map Entry.message =
        some (Error.fieldInconsistency 2 4 2).message := by
  intro o is digits
  have hex : ∀ i ∈ is, IsHex i.data :=
    List.forall_mem_cons.mpr ⟨by decide, List.forall_mem_singleton.mpr (by decide)⟩
  have hdeny : encodeAll (o.under .deny) is = ⟨digits, .error (.fieldInconsistency 2 4 2)⟩ := by
    with_unfolding_all rfl
  obtain ⟨-, hwarn, -, -, hfail⟩ := encodeAll_under o is hex
  refine ⟨hdeny, ?_, (hfail _ (congrArg Logged.result hdeny)).1⟩
  rw [hwarn]
  with_unfolding_all rfl

end RegisterWrites
