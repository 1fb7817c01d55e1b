import ClassFormat.Attribute.Binary
import ClassFormat.Types.MethodType

/-!
# Fields and methods

The members of a class.  Both have flags, a name, a descriptor and attributes; a
method also keeps the types of its descriptor, which are read when it is made
and whenever it is given another descriptor.
-/

namespace ClassFormat

open Decoder

/-- A fault in the name of a type counts as a fault of the class file. -/
def liftType {α : Type} (result : Except TypeFault α) : Except FormatFault α :=
  result.mapError .typeName

/-- A field of a class. -/
structure Field where
  flags : Flags .field
  name : UInt16
  descriptor : UInt16
  attributes : Attributes
  deriving DecidableEq, Repr

namespace Field

/-- The name of a field. -/
def nameText (field : Field) (pool : Pool) : Except FormatFault String :=
  pool.text field.name

/-- The type of a field. -/
def type (field : Field) (pool : Pool) : Except FormatFault Descriptor := do
  let text ← pool.text field.descriptor
  liftType (Descriptor.parse text)

/-- The value which a field has from the start, if one is recorded. -/
def initialValue? (field : Field) (pool : Pool) :
    Except FormatFault (Option Literal) :=
  match Attributes.constantValue? field.attributes with
  | none => .ok none
  | some index =>
    match pool.get? index with
    | some constant => pool.literal? constant
    | none => .error (.wrongConstant index .literal none)

def decode (pool : Pool) : Decoder Field := fun input => do
  let (flags, input) ← u16 input
  let (name, input) ← u16 input
  let (descriptor, input) ← u16 input
  let (attributes, input) ← Attributes.decode pool input
  return ({ flags := ⟨flags⟩, name, descriptor, attributes }, input)

def encode (field : Field) : Encoding :=
  .u16 field.flags.bits ++ .u16 field.name ++ .u16 field.descriptor ++
    Attributes.encode field.attributes

end Field

/-- A method of a class. -/
structure Method where
  flags : Flags .method
  name : UInt16
  descriptor : UInt16
  attributes : Attributes
  types : MethodType
  deriving DecidableEq, Repr

/-- The types of the method descriptor at an index. -/
def Pool.methodType (pool : Pool) (index : UInt16) :
    Except FormatFault MethodType := do
  let text ← pool.text index
  liftType (MethodType.parse text)

namespace Method

/-- Make a method, whose descriptor has to be well-formed. -/
def make (pool : Pool) (flags : Flags .method) (name descriptor : UInt16)
    (attributes : Attributes) : Except FormatFault Method := do
  let types ← pool.methodType descriptor
  return { flags, name, descriptor, attributes, types }

/-- Give a method another descriptor, which has to be well-formed. -/
def setDescriptor (method : Method) (pool : Pool) (descriptor : UInt16) :
    Except FormatFault Method := do
  let types ← pool.methodType descriptor
  return { method with descriptor, types }

/-- The name of a method. -/
def nameText (method : Method) (pool : Pool) : Except FormatFault String :=
  pool.text method.name

/-- The classes which a method is declared to throw. -/
def exceptions (method : Method) (pool : Pool) :
    Except FormatFault (List WrittenType) :=
  ((Attributes.exceptions? method.attributes).getD []).mapM pool.className

/--
Two methods agree when they differ in nothing but the spelling of their types.
-/
def agrees (first second : Method) : Bool :=
  first.flags = second.flags && first.name = second.name &&
    first.descriptor = second.descriptor &&
    first.attributes = second.attributes &&
    first.types.sameTypes second.types

/-- Read a method.  Its descriptor is looked at after its attributes. -/
def decode (pool : Pool) : Decoder Method := fun input => do
  let (flags, input) ← u16 input
  let (name, input) ← u16 input
  let (descriptor, input) ← u16 input
  let (attributes, input) ← Attributes.decode pool input
  let method ← (make pool ⟨flags⟩ name descriptor attributes).mapError .fault
  return (method, input)

def encode (method : Method) : Encoding :=
  .u16 method.flags.bits ++ .u16 method.name ++ .u16 method.descriptor ++
    Attributes.encode method.attributes

end Method

end ClassFormat
