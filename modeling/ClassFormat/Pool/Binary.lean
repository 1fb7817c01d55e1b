import ClassFormat.Binary.Decoder
import ClassFormat.Binary.Encoding
import ClassFormat.Pool.Basic

/-!
# The binary form of pools

A constant is stored as the tag of its kind and then its fields in order.  A
text is preceded by the number of its bytes.

A pool is stored as the number of its indices plus one, and then its constants.
Reading goes on until the constants take the declared number of indices; a wide
constant at the end may take one too many.
-/

namespace ClassFormat

open Decoder

namespace Constant

/-- Read the fields of a constant of a given kind. -/
def decodeFields : ConstantKind → Decoder Constant
  | .utf8, input => do
    let (length, input) ← u16 input
    let (bytes, input) ← bytes length.toNat input
    return (utf8 ⟨bytes⟩, input)
  | .integer, input => do
    let (bits, input) ← u32 input
    return (integer bits, input)
  | .float, input => do
    let (bits, input) ← u32 input
    return (float bits, input)
  | .long, input => do
    let (high, input) ← u32 input
    let (low, input) ← u32 input
    return (long high low, input)
  | .double, input => do
    let (high, input) ← u32 input
    let (low, input) ← u32 input
    return (double high low, input)
  | .classRef, input => do
    let (name, input) ← u16 input
    return (classRef name, input)
  | .string, input => do
    let (text, input) ← u16 input
    return (string text, input)
  | .fieldRef, input => do
    let (owner, input) ← u16 input
    let (member, input) ← u16 input
    return (fieldRef owner member, input)
  | .methodRef, input => do
    let (owner, input) ← u16 input
    let (member, input) ← u16 input
    return (methodRef owner member, input)
  | .interfaceMethodRef, input => do
    let (owner, input) ← u16 input
    let (member, input) ← u16 input
    return (interfaceMethodRef owner member, input)
  | .nameAndType, input => do
    let (name, input) ← u16 input
    let (descriptor, input) ← u16 input
    return (nameAndType name descriptor, input)
  | .methodHandle, input => do
    let (referenceKind, input) ← u8 input
    let (reference, input) ← u16 input
    return (methodHandle referenceKind reference, input)
  | .methodType, input => do
    let (descriptor, input) ← u16 input
    return (methodType descriptor, input)
  | .dynamic, input => do
    let (bootstrapMethod, input) ← u16 input
    let (member, input) ← u16 input
    return (dynamic bootstrapMethod member, input)
  | .invokeDynamic, input => do
    let (bootstrapMethod, input) ← u16 input
    let (member, input) ← u16 input
    return (invokeDynamic bootstrapMethod member, input)
  | .moduleRef, input => do
    let (name, input) ← u16 input
    return (moduleRef name, input)
  | .packageRef, input => do
    let (name, input) ← u16 input
    return (packageRef name, input)

def decode : Decoder Constant := fun input => do
  let (tag, input) ← u8 input
  match ConstantKind.ofTag? tag with
  | some kind => decodeFields kind input
  | none => .error (.fault (.unknownTag tag))

/-- The output for the fields of a constant. -/
def encodeFields : Constant → Encoding
  | utf8 text => .count16 .utf8Length text.bytes.length ++ .ofBytes text.bytes
  | integer bits => .u32 bits
  | float bits => .u32 bits
  | long high low => .u32 high ++ .u32 low
  | double high low => .u32 high ++ .u32 low
  | classRef name => .u16 name
  | string text => .u16 text
  | fieldRef owner member => .u16 owner ++ .u16 member
  | methodRef owner member => .u16 owner ++ .u16 member
  | interfaceMethodRef owner member => .u16 owner ++ .u16 member
  | nameAndType name descriptor => .u16 name ++ .u16 descriptor
  | methodHandle referenceKind reference => .u8 referenceKind ++ .u16 reference
  | methodType descriptor => .u16 descriptor
  | dynamic bootstrapMethod member => .u16 bootstrapMethod ++ .u16 member
  | invokeDynamic bootstrapMethod member => .u16 bootstrapMethod ++ .u16 member
  | moduleRef name => .u16 name
  | packageRef name => .u16 name

def encode (constant : Constant) : Encoding :=
  .u8 constant.kind.tag ++ constant.encodeFields

end Constant

namespace Pool

/-- Read constants until they take a number of indices. -/
def decodeOnto (indices : Nat) (pool : Pool) (input : List UInt8) :
    Except Stop (Pool × List UInt8) :=
  if pool.width < indices then
    match Constant.decode input with
    | .error stop => .error stop
    | .ok (constant, rest) =>
      match added : pool.add constant with
      | .error fault => .error (.fault fault)
      | .ok (_, after) =>
        have := width_of_add added
        have := constant.width_pos
        decodeOnto indices after rest
  else
    .ok (pool, input)
termination_by indices - pool.width

def decode : Decoder Pool := fun input => do
  let (count, input) ← u16 input
  let indices := count.toNat - 1
  let (pool, input) ← decodeOnto indices empty input
  if pool.width = indices then
    return (pool, input)
  else
    .error (.fault (.poolCount indices pool.width))

def encode (pool : Pool) : Encoding :=
  .count16 .poolCount (pool.width + 1) ++
    .concat (pool.entries.toList.map Constant.encode)

end Pool

end ClassFormat
