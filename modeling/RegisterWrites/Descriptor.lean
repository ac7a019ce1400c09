import RegisterWrites.Instruction
import RegisterWrites.Options

/-!
# Write descriptors

Write descriptors: the address of a register and the bytes that follow it, the least
significant first, under a length that counts the address.

    Size: 3, Offset: 10, Data: AABBCC   becomes   4, (10, CC, BB, AA)

The digits of the data are taken in pairs from the left (`ByteToken.ofDigits`). A last digit
without a partner is completed by a zero on its right, so that `F` becomes the byte `F0`.
-/

namespace RegisterWrites

/-- Two digits of a payload, in the case in which they were written. -/
structure ByteToken where
  high : Char
  low : Char
  deriving DecidableEq, Repr

namespace ByteToken

def digits (b : ByteToken) : String := String.ofList [b.high, b.low]

def value (b : ByteToken) : Nat := Text.hexNumber [b.high, b.low]

/-- Takes digits in pairs from the left and completes an odd last one with a zero. -/
def ofDigits : List Char → List ByteToken
  | [] => []
  | [c] => [⟨c, '0'⟩]
  | c :: d :: rest => ⟨c, d⟩ :: ofDigits rest

end ByteToken

/-- What is sent to a device for one instruction. -/
structure Descriptor where
  /-- The line of the instruction. -/
  line : Nat
  /-- The declared size and one for the address. -/
  length : Nat
  /-- The address, sent as the first byte. -/
  address : HexLiteral
  /-- The bytes in the order in which they are sent. -/
  payload : List ByteToken
  /-- Whether the last digit of the data was completed. -/
  padded : Bool
  deriving DecidableEq, Repr

namespace Descriptor

/-- The number of bytes that are there, the address included. -/
def byteCount (d : Descriptor) : Nat := 1 + d.payload.length

/-- Whether the `length` agrees with the bytes that are there. -/
def isConsistent (d : Descriptor) : Bool := d.byteCount = d.length

/-- The address of `d` as it is written under `e`. -/
def addressToken (e : Emission) (d : Descriptor) : String :=
  match e.offsetStyle with
  | .verbatim => d.address.text
  | .prefixed => d.address.marked

/-- The byte `b` of a payload as it is written under `e`. -/
def payloadToken (e : Emission) (b : ByteToken) : String :=
  if e.bytePrefix then "0x" ++ b.digits else b.digits

/-- The address and the bytes of the payload of `d` as they are written under `e`. -/
def tokens (e : Emission) (d : Descriptor) : List String :=
  d.addressToken e :: d.payload.map (payloadToken e)

/-- The descriptor `d` written as `{length, {address, byte, ..., byte}},`. -/
def initializer (e : Emission) (d : Descriptor) : String :=
  "\x7b" ++ toString d.length ++ ", \x7b" ++ ", ".intercalate (d.tokens e) ++ "\x7d\x7d,"

/-- The `initializer` of each of `ds`, one on a line. -/
def initializers (e : Emission) (ds : List Descriptor) : String :=
  String.join (ds.map fun d => d.initializer e ++ "\n")

end Descriptor

/-- The descriptor of the instruction `i`. The declared size is taken as it is, whether or not it
agrees with the data. -/
def Instruction.encode (i : Instruction) : Descriptor where
  line := i.line
  length := i.size.toNat + 1
  address := i.offset
  payload := (ByteToken.ofDigits i.data.digits).reverse
  padded := i.hasOddData

end RegisterWrites
