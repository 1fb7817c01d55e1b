import ClassFormat.Fault

/-!
# Writing binary data

An encoding is what a value puts out: some bytes and, where a count or a length
of the value exceeds its field, the excess which ends the output there.
Encodings follow one another until the first one which ends in an excess.
-/

namespace ClassFormat

/--
The bytes put out for a value, and the excess which cut them short, if one did.
-/
structure Encoding where
  bytes : List UInt8
  excess : Option Oversize
  deriving DecidableEq, Repr

namespace Encoding

/-- No output. -/
def empty : Encoding := ⟨[], none⟩

/-- Bytes as they are. -/
def ofBytes (bytes : List UInt8) : Encoding := ⟨bytes, none⟩

/-- One encoding after another, unless the first one was cut short. -/
def append (first second : Encoding) : Encoding :=
  match first.excess with
  | some excess => ⟨first.bytes, some excess⟩
  | none => ⟨first.bytes ++ second.bytes, second.excess⟩

instance : Append Encoding := ⟨append⟩

/-- Encodings one after another. -/
def concat (encodings : List Encoding) : Encoding :=
  encodings.foldr (· ++ ·) empty

/-- The bytes of a number of two bytes. -/
def bytes16 (n : UInt16) : List UInt8 :=
  [(n.toNat / 256).toUInt8, (n.toNat % 256).toUInt8]

/-- The bytes of a number of four bytes. -/
def bytes32 (n : UInt32) : List UInt8 :=
  [(n.toNat / 16777216).toUInt8, (n.toNat / 65536 % 256).toUInt8,
    (n.toNat / 256 % 256).toUInt8, (n.toNat % 256).toUInt8]

/-- One byte. -/
def u8 (n : UInt8) : Encoding := ofBytes [n]

/-- A number of two bytes. -/
def u16 (n : UInt16) : Encoding := ofBytes (bytes16 n)

/-- A number of four bytes. -/
def u32 (n : UInt32) : Encoding := ofBytes (bytes32 n)

/-- A count in two bytes, if it fits. -/
def count16 (what : Measure) (count : Nat) : Encoding :=
  if count < 65536 then u16 count.toUInt16 else ⟨[], some ⟨what, count⟩⟩

/-- A length in four bytes, if it fits. -/
def length32 (what : Measure) (length : Nat) : Encoding :=
  if length < 4294967296 then u32 length.toUInt32 else ⟨[], some ⟨what, length⟩⟩

/-- A count in two bytes and as many values. -/
def counted {α : Type} (what : Measure) (encode : α → Encoding)
    (values : List α) : Encoding :=
  count16 what values.length ++ concat (values.map encode)

/-- The bytes of an encoding which was not cut short. -/
def toBytes (encoding : Encoding) : Except FormatFault (List UInt8) :=
  match encoding.excess with
  | some excess => .error (.tooLarge excess)
  | none => .ok encoding.bytes

end Encoding

end ClassFormat
