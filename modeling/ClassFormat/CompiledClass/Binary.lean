import ClassFormat.CompiledClass.Basic
import ClassFormat.Pool.Binary

/-!
# The binary form of classes

A class file begins with a magic number and the version of its format, minor
number first; then come the pool, the flags and indices of the class, its
members and its attributes.  Reading ends with a look at the references to the
class itself, its superclass and its interfaces, so that none of them dangles;
bytes after the class are left alone.
-/

namespace ClassFormat.CompiledClass

open Decoder

/--
Accept a class whose references to itself, its superclass and its interfaces can
be resolved.
-/
def checkReferences (class_ : CompiledClass) : Except FormatFault Unit := do
  let _ ← class_.name
  let _ ← class_.superName?
  let _ ← class_.interfaceNames
  return ()

/-- Read the magic number. -/
def decodeMagic : Decoder Unit := fun input => do
  let (found, input) ← u32 input
  if found = magic then
    return ((), input)
  else
    .error (.fault (.badMagic found))

def decode : Decoder CompiledClass := fun input => do
  let (_, input) ← decodeMagic input
  let (minor, input) ← u16 input
  let (major, input) ← u16 input
  let (pool, input) ← Pool.decode input
  let (flags, input) ← u16 input
  let (thisClass, input) ← u16 input
  let (superClass, input) ← u16 input
  let (interfaces, input) ← counted u16 input
  let (fields, input) ← counted (Field.decode pool) input
  let (methods, input) ← counted (Method.decode pool) input
  let (attributes, input) ← Attributes.decode pool input
  let class_ : CompiledClass := {
    major, minor, pool, flags := ⟨flags⟩, thisClass, superClass, interfaces,
    fields, methods,
    attributes }
  let _ ← class_.checkReferences.mapError .fault
  return (class_, input)

/-- The class at the front of some bytes. -/
def parse (bytes : List UInt8) : Except FormatFault CompiledClass :=
  (sealed decode bytes).map Prod.fst

def encode (class_ : CompiledClass) : Encoding :=
  .concat [
    .u32 magic, .u16 class_.minor, .u16 class_.major, class_.pool.encode,
    .u16 class_.flags.bits, .u16 class_.thisClass, .u16 class_.superClass,
    .counted .interfaceCount .u16 class_.interfaces,
    .counted .fieldCount Field.encode class_.fields,
    .counted .methodCount Method.encode class_.methods,
    Attributes.encode class_.attributes]

/-- The bytes of a class, unless a count or a length exceeds its field. -/
def toBytes (class_ : CompiledClass) : Except FormatFault (List UInt8) :=
  class_.encode.toBytes

end ClassFormat.CompiledClass
