import RegisterWrites.Proofs.Conversion.Strictness

/-!
# What the checks decide

The checks of a descriptor are about two numbers: its length has to be that of the address and
the payload, and no more than the buffer holds (`problems_eq_nil_iff`). For instructions of the
grammar these are conditions on the declared size and the number of digits
(`encodeAll_deny_eq_ok_iff`). The main statement, `check_size_and_capacity`, has the outcome of
a check under every strictness and that of a whole encoding.
-/

namespace RegisterWrites

open Text Document

/-! ## Descriptors -/

namespace Descriptor

variable {o : Options} {d : Descriptor} {maxLength : Option Nat} {limit : Nat}

theorem overflow?_eq_none_iff :
    d.overflow? maxLength = none ↔ ∀ limit ∈ maxLength, d.neededLength ≤ limit := by
  unfold overflow?
  cases maxLength with
  | none => simp
  | some limit => simp

theorem neededLength_of_eq (h : d.length = 1 + d.payload.length) : d.neededLength = d.length := by
  unfold neededLength byteCount
  omega

/-- **Nothing is wrong** with a descriptor whose `length` agrees with its bytes and fits. -/
theorem problems_eq_nil_iff : d.problems maxLength = [] ↔
    d.length = 1 + d.payload.length ∧ ∀ limit ∈ maxLength, d.length ≤ limit := by
  have htoList : ∀ problem : Option Error, problem.toList = [] ↔ problem = none := by
    intro problem
    cases problem <;> simp
  rw [problems, List.append_eq_nil_iff, htoList, htoList]
  by_cases h : d.length = 1 + d.payload.length
  · simp only [inconsistency?_of_eq h, overflow?_eq_none_iff, neededLength_of_eq h, h, true_and]
  · simp only [inconsistency?_of_ne h, h, reduceCtorEq, false_and]

theorem check_deny_eq_ok_iff : (d.check (o.under .deny)).result = .ok () ↔
    d.length = 1 + d.payload.length ∧ ∀ limit ∈ o.maxLength, d.length ≤ limit := by
  rw [← problems_eq_nil_iff, check_deny]
  cases d.problems o.maxLength with
  | nil => simp
  | cons problem others => simp

/-- A `length` that disagrees is reported first, whatever the buffer holds. -/
theorem check_deny_of_ne (h : d.length ≠ 1 + d.payload.length) : d.check (o.under .deny) =
    ⟨[], .error (.fieldInconsistency d.line (d.length - 1) d.payload.length)⟩ := by
  rw [check_deny, problems, inconsistency?_of_ne h]
  rfl

theorem check_deny_of_eq (h : d.length = 1 + d.payload.length) (hlimit : limit ∈ o.maxLength)
    (hless : limit < d.length) : d.check (o.under .deny) =
      ⟨[], .error (.capacityExceeded d.line d.length limit)⟩ := by
  have hover : d.overflow? (some limit) = some (.capacityExceeded d.line d.length limit) := by
    rw [← neededLength_of_eq h] at hless ⊢
    exact if_pos hless
  rw [check_deny, problems, inconsistency?_of_eq h, Option.mem_def.mp hlimit, hover]
  rfl

end Descriptor

/-! ## Instructions -/

namespace Instruction

variable {o : Options} {i : Instruction}

theorem length_encode (i : Instruction) : i.encode.length = i.size.toNat + 1 := rfl

/-- A `size` of 32 bits leaves room for the address in the `length`. -/
theorem length_encode_le (i : Instruction) : i.encode.length ≤ 2 ^ 32 := by
  have := i.size.toNat_lt
  rw [i.length_encode]
  omega

theorem length_encode_eq_toUInt64 (i : Instruction) :
    i.encode.length = (i.size.toUInt64 + 1).toNat := by
  have := i.size.toNat_lt
  have hone : (1 : UInt64).toNat = 1 := rfl
  rw [i.length_encode, UInt64.toNat_add, UInt32.toNat_toUInt64, hone]
  omega

theorem length_encode_eq_iff (h : IsHex i.data) :
    i.encode.length = 1 + i.encode.payload.length ↔
      i.size.toNat = (i.data.digitCount + 1) / 2 := by
  rw [i.length_payload_encode, HexLiteral.digitCount_of_isHex h, i.length_encode]
  omega

/-- A strict check passes over `i` exactly if it declares the bytes it has and fits. -/
theorem isPassed_deny_iff_size (h : IsHex i.data) : i.IsPassed (o.under .deny) ↔
    i.size.toNat = (i.data.digitCount + 1) / 2 ∧
      ∀ limit ∈ o.maxLength, i.size.toNat + 1 ≤ limit := by
  rw [isPassed_deny_iff, Descriptor.problems_eq_nil_iff, length_encode_eq_iff h, i.length_encode]

end Instruction

section EncodeAll

variable {o : Options} {maxLength : Option Nat} {is : List Instruction} {ds : List Descriptor}

theorem encodeAll_deny_eq_ok_iff (hex : ∀ i ∈ is, IsHex i.data) :
    (encodeAll (o.under .deny) is).result = .ok ds ↔
      (∀ i ∈ is, i.size.toNat = (i.data.digitCount + 1) / 2 ∧
        ∀ limit ∈ o.maxLength, i.size.toNat + 1 ≤ limit) ∧ ds = is.map Instruction.encode := by
  rw [result_encodeAll_eq_ok_iff]
  exact and_congr_left' (forall₂_congr fun i hi => Instruction.isPassed_deny_iff_size (hex i hi))

/-- What is accepted under `o` is accepted with more room, under a greater `maxLength` or none. -/
theorem encodeAll_deny_of_roomier (hex : ∀ i ∈ is, IsHex i.data)
    (hroom : ∀ limit ∈ maxLength, ∃ less ∈ o.maxLength, less ≤ limit)
    (h : (encodeAll (o.under .deny) is).result = .ok ds) :
    (encodeAll ({ o with maxLength := maxLength }.under .deny) is).result = .ok ds := by
  rw [encodeAll_deny_eq_ok_iff hex] at h ⊢
  obtain ⟨hall, hds⟩ := h
  refine ⟨fun i hi => ⟨(hall i hi).1, fun limit hlimit => ?_⟩, hds⟩
  obtain ⟨less, hless, hle⟩ := hroom limit hlimit
  exact ((hall i hi).2 less hless).trans hle

end EncodeAll

/-- **Size and capacity decide.** Under `deny` a check passes exactly if the `length` is that of the
address and the payload and fits the buffer; a length that disagrees is reported first. Under `warn`
it passes and reports both, the second of the greater of the two lengths; under `off` nothing is
reported. The length of an encoded instruction is its `size` and one, in 64 bits as well, and agrees
if the size is half the number of digits, rounded up. Under `deny`, `encodeAll` accepts the
instructions of which this holds and which fit, and what it accepts it accepts with more room. -/
theorem check_size_and_capacity (o : Options) :
    (∀ d : Descriptor, 1 ≤ d.length → ∃ declared, declared + 1 = d.length ∧
      ((d.check (o.under .deny)).result = .ok () ↔
        d.length = 1 + d.payload.length ∧ ∀ limit ∈ o.maxLength, d.length ≤ limit) ∧
      (d.length ≠ 1 + d.payload.length → d.check (o.under .deny) =
        ⟨[], .error (.fieldInconsistency d.line declared d.payload.length)⟩) ∧
      (d.length = 1 + d.payload.length → ∀ limit ∈ o.maxLength, limit < d.length →
        d.check (o.under .deny) = ⟨[], .error (.capacityExceeded d.line d.length limit)⟩) ∧
      d.check (o.under .warn) =
        ⟨(if d.length = 1 + d.payload.length then []
            else [⟨.warn, .checks, "line " ++ toString d.line ++ ": declared size " ++
              toString declared ++ " but data holds " ++ toString d.payload.length ++
              " byte(s)"⟩]) ++
          (o.maxLength.toList.filter (· < max d.length (1 + d.payload.length))).map fun limit =>
            ⟨.warn, .checks, "line " ++ toString d.line ++ ": write of " ++
              toString (max d.length (1 + d.payload.length)) ++ " byte(s) exceeds the " ++
              toString limit ++ " byte buffer"⟩, .ok ()⟩ ∧
      d.check (o.under .off) = ⟨[], .ok ()⟩) ∧
    (∀ i : Instruction, IsHex i.data →
      i.encode.length = i.size.toNat + 1 ∧ i.encode.length = (i.size.toUInt64 + 1).toNat ∧
      1 ≤ i.encode.length ∧ i.encode.length ≤ 2 ^ 32 ∧
      (i.encode.isConsistent = true ↔ i.size.toNat = (i.data.digitCount + 1) / 2)) ∧
    ∀ is : List Instruction, (∀ i ∈ is, IsHex i.data) →
      ((∃ ds, (encodeAll (o.under .deny) is).result = .ok ds) ↔
        ∀ i ∈ is, i.size.toNat = (i.data.digitCount + 1) / 2 ∧
          ∀ limit ∈ o.maxLength, i.size.toNat + 1 ≤ limit) ∧
      ∀ maxLength, (∀ limit ∈ maxLength, ∃ less ∈ o.maxLength, less ≤ limit) →
        ∀ ds, (encodeAll (o.under .deny) is).result = .ok ds →
          (encodeAll ({ o with maxLength := maxLength }.under .deny) is).result = .ok ds := by
  refine ⟨?_, ?_, ?_⟩
  · intro d hlength
    have hwarn := d.check_warn (o := o)
    rw [Descriptor.map_problemEntry_problems] at hwarn
    obtain ⟨declared, hdeclared⟩ : ∃ declared, d.length - 1 = declared := ⟨_, rfl⟩
    rw [hdeclared] at hwarn
    refine ⟨declared, by omega, Descriptor.check_deny_eq_ok_iff, ?_, ?_, hwarn, d.check_off⟩
    · intro hne
      rw [Descriptor.check_deny_of_ne hne, hdeclared]
    · intro heq limit hlimit hless
      exact Descriptor.check_deny_of_eq heq hlimit hless
  · intro i hi
    refine ⟨rfl, i.length_encode_eq_toUInt64, Nat.le_add_left 1 _, i.length_encode_le, ?_⟩
    rw [Descriptor.isConsistent_iff, Instruction.length_encode_eq_iff hi]
  · intro is hex
    refine ⟨?_, fun maxLength hroom ds hds => encodeAll_deny_of_roomier hex hroom hds⟩
    simp only [encodeAll_deny_eq_ok_iff hex, exists_and_left, exists_eq, and_true]

/-- The greatest size has a length of 33 bits, and disagrees with a payload of one byte; of the
two problems the strict check fails with the first, and the lenient one reports both. -/
theorem check_size_and_capacity_greatest :
    let i : Instruction := ⟨7, 0xFFFFFFFF, ⟨"FFFFFFFF"⟩, ⟨"10"⟩, ⟨"0xF"⟩⟩
    let o : Options := { maxLength := some 4 }
    i.encode.length = 2 ^ 32 ∧
      i.encode.check (o.under .deny) = ⟨[], .error (.fieldInconsistency 7 0xFFFFFFFF 1)⟩ ∧
      (i.encode.check (o.under .warn)).log =
        [⟨.warn, .checks, "line 7: declared size 4294967295 but data holds 1 byte(s)"⟩,
          ⟨.warn, .checks, "line 7: write of 4294967296 byte(s) exceeds the 4 byte buffer"⟩] := by
  intro i o
  have hlength : i.encode.length = 2 ^ 32 := by decide
  have hpayload : i.encode.payload.length = 1 := by decide
  obtain ⟨hcheck, -, -⟩ := check_size_and_capacity o
  obtain ⟨declared, hdeclared, -, hne, -, hwarn, -⟩ :=
    hcheck i.encode (by rw [hlength]; decide)
  obtain rfl : declared = 0xFFFFFFFF := by omega
  refine ⟨hlength, ?_, ?_⟩
  · rw [hne (by rw [hlength, hpayload]; decide), hpayload]
    rfl
  · rw [hwarn, hlength, hpayload]
    with_unfolding_all rfl

end RegisterWrites
