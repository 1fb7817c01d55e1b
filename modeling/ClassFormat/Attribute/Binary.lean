import ClassFormat.Attribute.Basic
import ClassFormat.Binary.Decoder
import ClassFormat.Binary.Encoding

/-!
# The binary form of attributes

An attribute is stored as a record: the index of its name, the length of its
payload, and the payload.  Reading cuts the record first, so whatever the
payload lacks is missing for good, even if more bytes follow the record; and a
payload of which the content takes only a part is at fault.

The attributes inside of code are read from its payload, which is shorter than
the record, so reading them ends.
-/

namespace ClassFormat

open Decoder

namespace Handler

def decode : Decoder Handler := fun input => do
  let (start, input) ← u16 input
  let (stop, input) ← u16 input
  let (handler, input) ← u16 input
  let (catchType, input) ← u16 input
  return ({ start, stop, handler, catchType }, input)

theorem length_le_of_decode {input rest : List UInt8} {handler : Handler}
    (read : decode input = .ok (handler, rest)) :
    rest.length ≤ input.length := by
  rcases bind_eq_ok read with ⟨⟨_, afterStart⟩, readStart, read⟩
  rcases bind_eq_ok read with ⟨⟨_, afterStop⟩, readStop, read⟩
  rcases bind_eq_ok read with ⟨⟨_, afterHandler⟩, readHandler, read⟩
  rcases bind_eq_ok read with ⟨⟨_, afterType⟩, readType, read⟩
  rcases Prod.mk.inj (Except.ok.inj read) with ⟨_, rfl⟩
  have := length_of_u16 readStart
  have := length_of_u16 readStop
  have := length_of_u16 readHandler
  have := length_of_u16 readType
  omega

def encode (handler : Handler) : Encoding :=
  .u16 handler.start ++ .u16 handler.stop ++ .u16 handler.handler ++
    .u16 handler.catchType

end Handler

namespace InnerClass

def decode : Decoder InnerClass := fun input => do
  let (inner, input) ← u16 input
  let (outer, input) ← u16 input
  let (name, input) ← u16 input
  let (flags, input) ← u16 input
  return ({ inner, outer, name, flags := ⟨flags⟩ }, input)

def encode (class_ : InnerClass) : Encoding :=
  .u16 class_.inner ++ .u16 class_.outer ++ .u16 class_.name ++
    .u16 class_.flags.bits

end InnerClass

namespace LocalVariable

def decode : Decoder LocalVariable := fun input => do
  let (start, input) ← u16 input
  let (length, input) ← u16 input
  let (name, input) ← u16 input
  let (descriptor, input) ← u16 input
  let (index, input) ← u16 input
  return ({ start, length, name, descriptor, index }, input)

def encode (variable_ : LocalVariable) : Encoding :=
  .u16 variable_.start ++ .u16 variable_.length ++ .u16 variable_.name ++
    .u16 variable_.descriptor ++ .u16 variable_.index

end LocalVariable

namespace Code

/-- Read some code up to its attributes. -/
def decode : Decoder Code := fun input => do
  let (maxStack, input) ← u16 input
  let (maxLocals, input) ← u16 input
  let (length, input) ← u32 input
  let (instructions, input) ← bytes length.toNat input
  let (handlers, input) ← counted Handler.decode input
  return ({ maxStack, maxLocals, instructions, handlers }, input)

theorem length_le_of_decode {input rest : List UInt8} {code : Code}
    (read : decode input = .ok (code, rest)) :
    rest.length ≤ input.length := by
  rcases bind_eq_ok read with ⟨⟨_, afterStack⟩, readStack, read⟩
  rcases bind_eq_ok read with ⟨⟨_, afterLocals⟩, readLocals, read⟩
  rcases bind_eq_ok read with ⟨⟨_, afterLength⟩, readLength, read⟩
  rcases bind_eq_ok read with ⟨⟨_, afterInstructions⟩, readInstructions, read⟩
  rcases bind_eq_ok read with ⟨⟨_, afterHandlers⟩, readHandlers, read⟩
  rcases Prod.mk.inj (Except.ok.inj read) with ⟨_, rfl⟩
  have := length_of_u16 readStack
  have := length_of_u16 readLocals
  have := length_of_u32 readLength
  have := length_of_bytes readInstructions
  have := length_le_of_counted Handler.length_le_of_decode readHandlers
  omega

def encode (code : Code) : Encoding :=
  .u16 code.maxStack ++ .u16 code.maxLocals ++
    .length32 .codeLength code.instructions.length ++
      .ofBytes code.instructions ++
    .counted .exceptionTableLength Handler.encode code.handlers

end Code

namespace Content

/--
How the content which goes with a name is read, unless the name is that of code.
-/
def decoder? : AttributeName → Option (Decoder Content)
  | .code => none
  | .constantValue => some fun input => do
    let (value, input) ← u16 input
    return (constantValue value, input)
  | .deprecated => some fun input => .ok (deprecated, input)
  | .exceptions => some fun input => do
    let (classes, input) ← counted u16 input
    return (exceptions classes, input)
  | .innerClasses => some fun input => do
    let (classes, input) ← counted InnerClass.decode input
    return (innerClasses classes, input)
  | .localVariableTable => some fun input => do
    let (entries, input) ← counted LocalVariable.decode input
    return (localVariableTable entries, input)
  | .signature => some fun input => do
    let (text, input) ← u16 input
    return (signature text, input)
  | .synthetic => some fun input => .ok (synthetic, input)

def encode : Content → Encoding
  | constantValue value => .u16 value
  | deprecated => .empty
  | exceptions classes => .counted .exceptionCount .u16 classes
  | innerClasses classes => .counted .innerClassCount InnerClass.encode classes
  | localVariableTable entries =>
    .counted .localVariableCount LocalVariable.encode entries
  | signature text => .u16 text
  | synthetic => .empty
  | unknown bytes => .ofBytes bytes

end Content

/-- An attribute whose payload has been cut but not read. -/
structure AttributeRecord where
  name : UInt16
  payload : List UInt8
  deriving DecidableEq, Repr

namespace AttributeRecord

/-- Cut a record. -/
def decode : Decoder AttributeRecord := fun input => do
  let (name, input) ← u16 input
  let (length, input) ← u32 input
  let (payload, input) ← bytes length.toNat input
  return (⟨name, payload⟩, input)

theorem length_of_decode
    {input rest : List UInt8} {record : AttributeRecord}
    (cut : decode input = .ok (record, rest)) :
    record.payload.length + rest.length + 6 = input.length := by
  rcases bind_eq_ok cut with ⟨⟨name, afterName⟩, readName, cut⟩
  rcases bind_eq_ok cut with ⟨⟨length, afterLength⟩, readLength, cut⟩
  rcases bind_eq_ok cut with ⟨⟨payload, afterPayload⟩, readPayload, cut⟩
  rcases Prod.mk.inj (Except.ok.inj cut) with ⟨rfl, rfl⟩
  have := length_of_u16 readName
  have := length_of_u32 readLength
  have := length_of_bytes readPayload
  simp only
  omega

/--
The output for a record.  The payload is put together before the record begins,
so if it is cut short there is no output.
-/
def encode (name : UInt16) (payload : Encoding) : Encoding :=
  match payload.excess with
  | some excess => ⟨[], some excess⟩
  | none =>
    let length := Encoding.length32 .attributeLength payload.bytes.length
    match length.excess with
    | some excess => ⟨[], some excess⟩
    | none => .u16 name ++ length ++ payload

/--
Accept the value read from a payload if nothing is left of it; otherwise the
payload is longer than its content.
-/
def finish {α : Type} (record : AttributeRecord) (name : AttributeName)
    (value : α) (left : List UInt8) : Except FormatFault α :=
  if left = [] then
    .ok value
  else
    .error (.attributeLength name.text record.payload.length
      (record.payload.length - left.length))

end AttributeRecord

namespace Attribute

/--
Read the start of a code payload: the code, the number of its attributes, and
the rest.
-/
def decodeCode : Decoder (Code × UInt16) := fun payload => do
  let (body, payload) ← Code.decode payload
  let (count, payload) ← u16 payload
  return ((body, count), payload)

theorem length_lt_of_decodeCode
    {payload rest : List UInt8} {start : Code × UInt16}
    (read : decodeCode payload = .ok (start, rest)) :
    rest.length < payload.length := by
  rcases bind_eq_ok read with ⟨⟨_, afterCode⟩, readCode, read⟩
  rcases bind_eq_ok read with ⟨⟨_, afterCount⟩, readCount, read⟩
  rcases Prod.mk.inj (Except.ok.inj read) with ⟨_, rfl⟩
  have := Code.length_le_of_decode readCode
  have := length_of_u16 readCount
  omega

end Attribute

/-- A record whose name has been looked up. -/
inductive OpenedRecord where
  /-- An attribute without attributes of its own, read as a whole. -/
  | whole (attr : Attribute)
  /--
  Some code, the number of its attributes, and the bytes which begin with them.
  -/
  | code (body : Code) (count : UInt16) (rest : List UInt8)
  deriving DecidableEq, Repr

namespace AttributeRecord

/--
Look up the name of a record once more and accept it if it is the one which the
payload is about to be read for.
-/
def confirmName (record : AttributeRecord) (expected : AttributeName)
    (pool : Pool) :
    Except FormatFault Unit := do
  let found ← pool.text record.name
  if found = expected.text then
    return ()
  else
    .error (.attributeName expected found)

/--
Read the payload of a record of known name up to the first attribute inside.
-/
def openedAs (record : AttributeRecord) (known : AttributeName) :
    Except FormatFault OpenedRecord :=
  match Content.decoder? known with
  | some decode => do
    let (content, left) ← sealed decode record.payload
    let attr ← record.finish known (.plain record.name content) left
    return .whole attr
  | none => do
    let ((body, count), rest) ← sealed Attribute.decodeCode record.payload
    return .code body count rest

/--
Look up the name of a record and read its payload up to the first attribute
inside.
-/
def opened (record : AttributeRecord) (pool : Pool) :
    Except FormatFault OpenedRecord := do
  let name ← pool.text record.name
  match AttributeName.ofText? name with
  | none => return .whole (.plain record.name (.unknown record.payload))
  | some known => do
    record.confirmName known pool
    record.openedAs known

/-- The name which decides how a payload is read is found again. -/
theorem confirmName_of_ofText? {record : AttributeRecord} {pool : Pool}
    {name : String} {known : AttributeName}
    (told : pool.text record.name = .ok name)
    (found : AttributeName.ofText? name = some known) :
    record.confirmName known pool = .ok () := by
  have same : name = known.text := (AttributeName.text_of_ofText? found).symm
  rw [confirmName, told]
  exact if_pos same

/-- A record whose name is known is opened as one of that name. -/
theorem opened_eq_openedAs {record : AttributeRecord} {pool : Pool}
    {name : String} {known : AttributeName}
    (told : pool.text record.name = .ok name)
    (found : AttributeName.ofText? name = some known) :
    record.opened pool = record.openedAs known := by
  have confirmed := confirmName_of_ofText? told found
  simp only [opened, told, bind, Except.bind, found, confirmed]

/-- A record whose name is not known is kept as it is. -/
theorem opened_of_unknown {record : AttributeRecord} {pool : Pool}
    {name : String} (told : pool.text record.name = .ok name)
    (unknown : AttributeName.ofText? name = none) :
    record.opened pool =
      .ok (.whole (.plain record.name (.unknown record.payload))) := by
  simp only [opened, told, bind, Except.bind, unknown]
  rfl

theorem length_lt_of_opened
    {record : AttributeRecord} {pool : Pool} {body : Code} {count : UInt16}
    {rest : List UInt8}
    (opens : record.opened pool = .ok (.code body count rest)) :
    rest.length < record.payload.length := by
  rcases bind_eq_ok opens with ⟨name, _, opens⟩
  split at opens
  · cases opens
  · rcases bind_eq_ok opens with ⟨_, _, opens⟩
    rw [openedAs] at opens
    split at opens
    · rcases bind_eq_ok opens with ⟨⟨content, left⟩, _, opens⟩
      rcases bind_eq_ok opens with ⟨attr, _, opens⟩
      cases opens
    · rcases bind_eq_ok opens with ⟨⟨⟨_, _⟩, _⟩, start, opens⟩
      rcases OpenedRecord.code.inj (Except.ok.inj opens) with ⟨rfl, rfl, rfl⟩
      exact Attribute.length_lt_of_decodeCode (eq_ok_of_sealed start)

end AttributeRecord

namespace Attribute

/--
Read a number of attributes, putting them after those already read, which are
held in reverse.  The names are looked up in a pool.
-/
def decodeOnto (pool : Pool) (done : List Attribute) (count : Nat)
    (input : List UInt8) :
    Except Stop (List Attribute × List UInt8) :=
  match count with
  | 0 => .ok (done.reverse, input)
  | others + 1 =>
    match cut : AttributeRecord.decode input with
    | .error stop => .error stop
    | .ok (record, rest) =>
      have := AttributeRecord.length_of_decode cut
      match opens : record.opened pool with
      | .error fault => .error (.fault fault)
      | .ok (.whole attr) => decodeOnto pool (attr :: done) others rest
      | .ok (.code body nestedCount nestedInput) =>
        have := AttributeRecord.length_lt_of_opened opens
        match decodeOnto pool [] nestedCount.toNat nestedInput with
        | .error stop => .error (.fault stop.toFault)
        | .ok (nested, left) =>
          match record.finish .code (code record.name body nested) left with
          | .error fault => .error (.fault fault)
          | .ok attr => decodeOnto pool (attr :: done) others rest
termination_by input.length

mutual

def encode : Attribute → Encoding
  | plain name content => AttributeRecord.encode name content.encode
  | code name body nested =>
    AttributeRecord.encode name
      (body.encode ++ .count16 .attributeCount nested.length ++
        .concat (encodeOnto [] nested))

/--
The outputs for some attributes, put after those which came before, which are
held in reverse.
-/
def encodeOnto (done : List Encoding) : List Attribute → List Encoding
  | [] => done.reverse
  | first :: others => encodeOnto (encode first :: done) others

end

end Attribute

namespace Attributes

def decode (pool : Pool) : Decoder Attributes := fun input => do
  let (count, input) ← u16 input
  Attribute.decodeOnto pool [] count.toNat input

def encode (attributes : Attributes) : Encoding :=
  .count16 .attributeCount attributes.length ++
    .concat (Attribute.encodeOnto [] attributes)

end Attributes

end ClassFormat
