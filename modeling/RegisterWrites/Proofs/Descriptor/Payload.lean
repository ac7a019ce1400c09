import Mathlib.Data.Nat.Digits.Lemmas
import RegisterWrites.Proofs.Descriptor.Initializers

/-!
# Payloads hold the data

A payload is the data of an instruction in other words. Read backwards, the digits of its bytes
are those of the data (`ByteToken.flatMap_ofDigits`), and read as bytes, the least significant
first, they denote the same number, times 16 if a digit had to be completed
(`ByteToken.ofDigits_reverse_value`). The main statement is `encode_payload`; the counts that an
instruction gives of its payload are counts of bytes there and of digits here
(`HexLiteral.digitCount_of_isHex`).
-/

namespace RegisterWrites

open Text Document

/-! ## Numbers of digits -/

namespace Text

theorem foldl_hexValue (ds : List Char) (n : Nat) :
    ds.foldl (fun n c => 16 * n + hexValue c) n = n * 16 ^ ds.length + hexNumber ds := by
  unfold hexNumber
  induction ds generalizing n with
  | nil => simp
  | cons c ds ih =>
    rw [List.foldl_cons, List.foldl_cons, ih, ih (16 * 0 + hexValue c), List.length_cons, pow_succ]
    ring

theorem hexNumber_append (a b : List Char) :
    hexNumber (a ++ b) = hexNumber a * 16 ^ b.length + hexNumber b := by
  rw [hexNumber, List.foldl_append, foldl_hexValue]
  rfl

theorem hexNumber_lt (ds : List Char) : hexNumber ds < 16 ^ ds.length := by
  induction ds using List.reverseRecOn with
  | nil => decide
  | append_singleton ds c ih =>
    have hc : hexNumber [c] < 16 := by
      have h : hexNumber [c] = 16 * 0 + hexValue c := rfl
      have := hexValue_lt c
      omega
    rw [hexNumber_append, List.length_append, List.length_singleton, pow_succ]
    omega

end Text

/-! ## Bytes of digits -/

namespace ByteToken

variable {ds : List Char} {c : Char}

theorem toList_digits (b : ByteToken) : b.digits.toList = [b.high, b.low] :=
  String.toList_ofList

theorem value_lt (b : ByteToken) : b.value < 256 :=
  hexNumber_lt [b.high, b.low]

theorem length_ofDigits (ds : List Char) : (ofDigits ds).length = (ds.length + 1) / 2 := by
  induction ds using ofDigits.induct with
  | case1 => rfl
  | case2 c => simp [ofDigits]
  | case3 c d ds ih =>
    rw [ofDigits, List.length_cons, ih]
    simp only [List.length_cons]
    omega

/-- An odd last digit has its zero in the last byte. -/
theorem getLast?_ofDigits (hodd : ds.length % 2 = 1) :
    ∃ c, ds.getLast? = some c ∧ (ofDigits ds).getLast? = some ⟨c, '0'⟩ := by
  induction ds using ofDigits.induct with
  | case1 => cases hodd
  | case2 c => exact ⟨c, rfl, rfl⟩
  | case3 c d ds ih =>
    have hrest : ds.length % 2 = 1 := by
      simp only [List.length_cons] at hodd
      omega
    obtain ⟨e, he, hlast⟩ := ih hrest
    refine ⟨e, ?_, ?_⟩
    · rw [List.getLast?_cons_cons, List.getLast?_cons, he]
      rfl
    · rw [ofDigits, List.getLast?_cons, hlast]
      rfl

theorem completed_eq (ds : List Char) :
    completed ds = ds ++ (if ds.length % 2 = 1 then ['0'] else []) := by
  unfold completed
  split
  · rfl
  · rw [List.append_nil]

/-- The zero that completes `ds` multiplies the number by 16. -/
theorem hexNumber_completed (ds : List Char) :
    hexNumber (completed ds) = hexNumber ds * 16 ^ (ds.length % 2) := by
  unfold completed
  split
  · next hodd =>
    have hzero : hexNumber ['0'] = 0 := by decide
    rw [hexNumber_append, hzero, hodd]
    rfl
  · next heven =>
    have hmod : ds.length % 2 = 0 := by omega
    rw [hmod, pow_zero, Nat.mul_one]

/-- The bytes `bs` from the last to the first denote, the least significant first, the number that
their digits denote. -/
theorem ofDigits_reverse_value (bs : List ByteToken) :
    Nat.ofDigits 256 (bs.map value).reverse = hexNumber (bs.flatMap fun b => [b.high, b.low]) := by
  induction bs with
  | nil => rfl
  | cons b bs ih =>
    -- two digits of a byte weigh as much as the byte
    have hlength : (bs.flatMap fun b => [b.high, b.low]).length = 2 * bs.length := by
      rw [List.length_flatMap]
      simp [Nat.mul_comm]
    have hweight : 16 ^ (2 * bs.length) = 256 ^ bs.length := pow_mul 16 2 bs.length
    rw [List.map_cons, Nat.ofDigits_reverse_cons, ih, List.flatMap_cons, hexNumber_append, hlength,
      hweight, List.length_map, Nat.add_comm, Nat.mul_comm]
    rfl

end ByteToken

/-! ## Payloads -/

/-- The digits of which the payload of `d` was made, as they can be told from the payload and from
whether a digit was completed. -/
def Descriptor.sourceDigits (d : Descriptor) : List Char :=
  let digits := d.payload.reverse.flatMap fun b => b.digits.toList
  if d.padded then digits.dropLast else digits

theorem HexLiteral.digitCount_of_isHex {l : HexLiteral} (h : IsHex l) :
    l.digitCount = l.digits.length :=
  byteLength_of_isHexDigit h.2

namespace Instruction

variable {i : Instruction}

theorem payloadLength_of_isHex (h : IsHex i.data) :
    i.payloadLength = (i.data.digits.length + 1) / 2 := by
  rw [payloadLength, HexLiteral.digitCount_of_isHex h]

theorem hasOddData_of_isHex (h : IsHex i.data) :
    i.hasOddData = decide (i.data.digits.length % 2 = 1) := by
  rw [hasOddData, HexLiteral.digitCount_of_isHex h]

theorem length_payload_encode (i : Instruction) :
    i.encode.payload.length = (i.data.digits.length + 1) / 2 := by
  rw [encode, List.length_reverse, ByteToken.length_ofDigits]

theorem flatMap_payload_encode (i : Instruction) :
    (i.encode.payload.reverse.flatMap fun b => b.digits.toList) =
      ByteToken.completed i.data.digits := by
  simp only [encode, List.reverse_reverse, ByteToken.toList_digits, ByteToken.flatMap_ofDigits]

theorem isHexDigit_of_mem_payload (h : IsHex i.data) {b : ByteToken} (hb : b ∈ i.encode.payload) :
    ∀ c ∈ b.digits.toList, isHexDigit c = true := by
  intro c hc
  apply ByteToken.isHexDigit_of_mem_completed h.2
  rw [← flatMap_payload_encode]
  exact List.mem_flatMap.mpr ⟨b, List.mem_reverse.mpr hb, hc⟩

theorem sum_payload_encode (i : Instruction) :
    (i.encode.payload.mapIdx fun k b => b.value * 256 ^ k).sum =
      hexNumber i.data.digits * 16 ^ (i.data.digits.length % 2) := by
  have hbytes : (i.encode.payload.mapIdx fun k b => b.value * 256 ^ k) =
      (i.encode.payload.map ByteToken.value).mapIdx fun k v => v * 256 ^ k := by
    apply List.ext_getElem?
    intro k
    rw [List.getElem?_mapIdx, List.getElem?_mapIdx, List.getElem?_map, Option.map_map]
    rfl
  rw [hbytes, ← Nat.ofDigits_eq_sum_mapIdx, encode, List.map_reverse,
    ByteToken.ofDigits_reverse_value, ByteToken.flatMap_ofDigits, ByteToken.hexNumber_completed]

theorem sourceDigits_encode (h : IsHex i.data) : i.encode.sourceDigits = i.data.digits := by
  have hpadded : i.encode.padded = decide (i.data.digits.length % 2 = 1) := hasOddData_of_isHex h
  unfold Descriptor.sourceDigits
  simp only [flatMap_payload_encode, hpadded, decide_eq_true_eq]
  unfold ByteToken.completed
  split
  · exact List.dropLast_concat
  · rfl

end Instruction

/-- **A payload loses nothing of the data.** It has as many bytes as `payloadLength` says, each of
two digits. Backwards, its digits are those of the data, in the same case, and one zero if their
number is odd, which stands in the first byte; so the data can be told from the payload
(`sourceDigits`). As a number with the least significant byte first, it is the data, moved by the
completing digit. -/
theorem encode_payload {i : Instruction} (h : IsHex i.data) :
    (i.encode.payload.length = i.payloadLength ∧
      i.payloadLength = (i.data.digits.length + 1) / 2) ∧
    (∀ b ∈ i.encode.payload, b.digits.toList.length = 2 ∧
      (∀ c ∈ b.digits.toList, isHexDigit c = true) ∧ b.value < 256) ∧
    (i.encode.padded = i.hasOddData ∧
      (i.hasOddData = true ↔ i.data.digits.length % 2 = 1)) ∧
    (i.encode.payload.reverse.flatMap fun b => b.digits.toList) =
      i.data.digits ++ (if i.data.digits.length % 2 = 1 then ['0'] else []) ∧
    (i.encode.padded = true → ∃ c, i.data.digits.getLast? = some c ∧
      i.encode.payload.head? = some ⟨c, '0'⟩) ∧
    i.encode.sourceDigits = i.data.digits ∧
    (i.encode.payload.mapIdx fun k b => b.value * 256 ^ k).sum =
      hexNumber i.data.digits * 16 ^ (i.data.digits.length % 2) ∧
    i.encode.address = i.offset := by
  have hodd : i.hasOddData = true ↔ i.data.digits.length % 2 = 1 := by
    rw [Instruction.hasOddData_of_isHex h, decide_eq_true_eq]
  refine ⟨⟨?_, Instruction.payloadLength_of_isHex h⟩, ?_, ⟨rfl, hodd⟩, ?_, ?_,
    Instruction.sourceDigits_encode h, i.sum_payload_encode, rfl⟩
  · rw [i.length_payload_encode, Instruction.payloadLength_of_isHex h]
  · intro b hb
    refine ⟨?_, Instruction.isHexDigit_of_mem_payload h hb, b.value_lt⟩
    rw [b.toList_digits]
    rfl
  · rw [i.flatMap_payload_encode, ByteToken.completed_eq]
  · intro hpadded
    obtain ⟨c, hc, hlast⟩ := ByteToken.getLast?_ofDigits (hodd.mp hpadded)
    refine ⟨c, hc, ?_⟩
    rw [Instruction.encode, List.head?_reverse, hlast]

/-- An odd number of digits under a mark, with a letter in either case. -/
theorem encode_payload_odd :
    let i : Instruction := ⟨1, 2, ⟨"2"⟩, ⟨"0x1C"⟩, ⟨"0XaBc"⟩⟩
    i.encode.payload.map ByteToken.digits = ["c0", "aB"] ∧
      i.encode.sourceDigits = ['a', 'B', 'c'] ∧
      (i.encode.payload.mapIdx fun k b => b.value * 256 ^ k).sum = 0xABC0 := by
  intro i
  have hdigits : i.data.digits = ['a', 'B', 'c'] := by decide
  obtain ⟨-, -, -, -, -, hsource, hsum, -⟩ := encode_payload (i := i) (by decide)
  rw [hdigits] at hsource hsum
  exact ⟨by decide, hsource, hsum⟩

end RegisterWrites
