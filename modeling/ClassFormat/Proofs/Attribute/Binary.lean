import ClassFormat.Attribute.Binary
import ClassFormat.Proofs.Attribute.Naming
import ClassFormat.Proofs.Binary.Reading

/-!
# The binary form of attributes, both ways

Attributes which were read are written as the bytes they were read from, and are
named in the pool they were read with.  Attributes which are named in a pool and
written are read back with it.

Reading keeps the attributes inside of code apart from those beside it, in one
recursion on the length of the input.  Here the same is said of one attribute at
a time: `Attribute.decode` reads an attribute from the front of some bytes, and
several attributes are read by reading one after another.
-/

namespace ClassFormat

open Decoder

/-! ## Parts of contents -/

theorem Handler.readsBack_decode (handler : Handler) :
    ReadsBack decode handler.encode handler := by
  show ReadsBack
    (u16.andThen fun start =>
      u16.andThen fun stop =>
      u16.andThen fun handler =>
      u16.andThen fun catchType =>
      done (Handler.mk start stop handler catchType))
    handler.encode handler
  simp only [encode, Encoding.append_assoc]
  apply (readsBack_u16 handler.start).andThen
  apply (readsBack_u16 handler.stop).andThen
  exact (readsBack_u16 handler.handler).two
    (readsBack_u16 handler.catchType) _ rfl

theorem Handler.spans_decode
    {handler : Handler} {input rest : List UInt8}
    (read : decode input = .ok (handler, rest)) :
    handler.encode.Spans input rest := by
  rcases bind_eq_ok read with ⟨⟨start, afterStart⟩, readStart, read⟩
  rcases bind_eq_ok read with ⟨⟨stop, afterStop⟩, readStop, read⟩
  rcases bind_eq_ok read with ⟨⟨target, afterTarget⟩, readTarget, read⟩
  rcases bind_eq_ok read with ⟨⟨catchType, afterType⟩, readType, read⟩
  cases read
  exact ((spans_u16 readStart).append (spans_u16 readStop)).append
    (spans_u16 readTarget)
    |>.append (spans_u16 readType)

theorem InnerClass.readsBack_decode (class_ : InnerClass) :
    ReadsBack decode class_.encode class_ := by
  show ReadsBack
    (u16.andThen fun inner =>
      u16.andThen fun outer =>
      u16.andThen fun name =>
      u16.andThen fun flags => done (InnerClass.mk inner outer name ⟨flags⟩))
    class_.encode class_
  simp only [encode, Encoding.append_assoc]
  apply (readsBack_u16 class_.inner).andThen
  apply (readsBack_u16 class_.outer).andThen
  exact (readsBack_u16 class_.name).two (readsBack_u16 class_.flags.bits)
    (fun name flags => InnerClass.mk class_.inner class_.outer name ⟨flags⟩) rfl

theorem InnerClass.spans_decode
    {class_ : InnerClass} {input rest : List UInt8}
    (read : decode input = .ok (class_, rest)) :
    class_.encode.Spans input rest := by
  rcases bind_eq_ok read with ⟨⟨inner, afterInner⟩, readInner, read⟩
  rcases bind_eq_ok read with ⟨⟨outer, afterOuter⟩, readOuter, read⟩
  rcases bind_eq_ok read with ⟨⟨name, afterName⟩, readName, read⟩
  rcases bind_eq_ok read with ⟨⟨flags, afterFlags⟩, readFlags, read⟩
  cases read
  exact ((spans_u16 readInner).append (spans_u16 readOuter)).append
    (spans_u16 readName)
    |>.append (spans_u16 readFlags)

theorem LocalVariable.readsBack_decode (variable_ : LocalVariable) :
    ReadsBack decode variable_.encode variable_ := by
  show ReadsBack
    (u16.andThen fun start =>
      u16.andThen fun length =>
      u16.andThen fun name =>
      u16.andThen fun descriptor =>
      u16.andThen fun index =>
      done (LocalVariable.mk start length name descriptor index))
    variable_.encode variable_
  simp only [encode, Encoding.append_assoc]
  apply (readsBack_u16 variable_.start).andThen
  apply (readsBack_u16 variable_.length).andThen
  apply (readsBack_u16 variable_.name).andThen
  exact (readsBack_u16 variable_.descriptor).two
    (readsBack_u16 variable_.index) _ rfl

theorem LocalVariable.spans_decode
    {variable_ : LocalVariable} {input rest : List UInt8}
    (read : decode input = .ok (variable_, rest)) :
    variable_.encode.Spans input rest := by
  rcases bind_eq_ok read with ⟨⟨start, afterStart⟩, readStart, read⟩
  rcases bind_eq_ok read with ⟨⟨length, afterLength⟩, readLength, read⟩
  rcases bind_eq_ok read with ⟨⟨name, afterName⟩, readName, read⟩
  rcases bind_eq_ok read with
    ⟨⟨descriptor, afterDescriptor⟩, readDescriptor, read⟩
  rcases bind_eq_ok read with ⟨⟨index, afterIndex⟩, readIndex, read⟩
  cases read
  exact ((spans_u16 readStart).append (spans_u16 readLength)).append
    (spans_u16 readName)
    |>.append (spans_u16 readDescriptor) |>.append (spans_u16 readIndex)

theorem Code.readsBack_decode (code : Code) :
    ReadsBack decode code.encode code := by
  show ReadsBack
    (u16.andThen fun maxStack =>
      u16.andThen fun maxLocals =>
      u32.andThen fun length =>
      (bytes length.toNat).andThen fun instructions =>
      (counted Handler.decode).andThen fun handlers =>
      done (Code.mk maxStack maxLocals instructions handlers))
    code.encode code
  simp only [encode, Encoding.append_assoc]
  apply (readsBack_u16 code.maxStack).andThen
  apply (readsBack_u16 code.maxLocals).andThen
  apply readsBack_length32_andThen
  intro same
  rw [same]
  exact (readsBack_bytes code.instructions).two
    (readsBack_counted .exceptionTableLength fun handler _ =>
      handler.readsBack_decode) _ rfl

theorem Code.spans_decode
    {code : Code} {input rest : List UInt8}
    (read : decode input = .ok (code, rest)) :
    code.encode.Spans input rest := by
  rcases bind_eq_ok read with ⟨⟨maxStack, afterStack⟩, readStack, read⟩
  rcases bind_eq_ok read with ⟨⟨maxLocals, afterLocals⟩, readLocals, read⟩
  rcases bind_eq_ok read with ⟨⟨length, afterLength⟩, readLength, read⟩
  rcases bind_eq_ok read with
    ⟨⟨instructions, afterInstructions⟩, readInstructions, read⟩
  rcases bind_eq_ok read with ⟨⟨handlers, afterHandlers⟩, readHandlers, read⟩
  cases read
  rcases spans_bytes readInstructions with ⟨counted, spansInstructions⟩
  rcases spans_counted .exceptionTableLength
    (fun _ readHandler => ⟨Handler.spans_decode readHandler, trivial⟩)
      readHandlers with ⟨spansHandlers, -⟩
  have spansLength : (Encoding.length32 .codeLength instructions.length).Spans
      afterLocals afterLength := by
    rw [counted, Encoding.length32_toNat]
    exact spans_u32 readLength
  exact ((spans_u16 readStack).append (spans_u16 readLocals)).append spansLength
    |>.append spansInstructions |>.append spansHandlers

/-! ## Contents -/

namespace Content

/--
A content which is understood is read back by the decoder which goes with its
name.
-/
theorem readsBack_decoder?
    {content : Content} {name : AttributeName}
    (known : content.name? = some name) :
    ∃ decode, decoder? name = some decode ∧
      ReadsBack decode content.encode content := by
  cases content with
  | constantValue value =>
      cases known
      exact ⟨_, rfl, (readsBack_u16 value).one constantValue rfl⟩
  | deprecated =>
      cases known
      exact ⟨_, rfl, ReadsBack.done deprecated⟩
  | exceptions classes =>
      cases known
      exact ⟨_, rfl,
        (readsBack_counted .exceptionCount fun index _ =>
          readsBack_u16 index).one exceptions rfl⟩
  | innerClasses classes =>
      cases known
      exact ⟨_, rfl,
        (readsBack_counted .innerClassCount fun class_ _ =>
          class_.readsBack_decode).one innerClasses rfl⟩
  | localVariableTable entries =>
      cases known
      exact ⟨_, rfl,
        (readsBack_counted .localVariableCount fun entry _ =>
          entry.readsBack_decode).one localVariableTable rfl⟩
  | signature text =>
      cases known
      exact ⟨_, rfl, (readsBack_u16 text).one signature rfl⟩
  | synthetic =>
      cases known
      exact ⟨_, rfl, ReadsBack.done synthetic⟩
  | unknown bytes => cases known

theorem eq_unknown_of_name? {content : Content}
    (unnamed : content.name? = none) :
    ∃ bytes, content = unknown bytes := by
  cases content with
  | unknown bytes => exact ⟨bytes, rfl⟩
  | _ => cases unnamed

theorem spans_decoder?
    {name : AttributeName} {decode : Decoder Content} {content : Content}
    {input rest : List UInt8}
    (known : decoder? name = some decode)
    (read : decode input = .ok (content, rest)) :
    content.name? = some name ∧ content.encode.Spans input rest := by
  cases name with
  | code => cases known
  | deprecated | synthetic =>
      cases known
      cases read
      exact ⟨rfl, Encoding.Spans.empty _⟩
  | constantValue | signature =>
      cases known
      rcases bind_eq_ok read with ⟨⟨index, afterIndex⟩, readIndex, read⟩
      cases read
      exact ⟨rfl, spans_u16 readIndex⟩
  | exceptions =>
      cases known
      rcases bind_eq_ok read with ⟨⟨classes, afterClasses⟩, readClasses, read⟩
      cases read
      exact ⟨rfl, (spans_counted .exceptionCount
        (fun _ found => ⟨spans_u16 found, trivial⟩) readClasses).1⟩
  | innerClasses =>
      cases known
      rcases bind_eq_ok read with ⟨⟨classes, afterClasses⟩, readClasses, read⟩
      cases read
      exact ⟨rfl, (spans_counted .innerClassCount
        (fun _ found => ⟨InnerClass.spans_decode found, trivial⟩)
          readClasses).1⟩
  | localVariableTable =>
      cases known
      rcases bind_eq_ok read with ⟨⟨entries, afterEntries⟩, readEntries, read⟩
      cases read
      exact ⟨rfl, (spans_counted .localVariableCount
        (fun _ found => ⟨LocalVariable.spans_decode found, trivial⟩)
          readEntries).1⟩

end Content

/-! ## Records -/

namespace AttributeRecord

/--
A record comes out only if its payload does and has a length of four bytes.
-/
theorem payload_of_encode
    {name : UInt16} {payload : Encoding} {bytes : List UInt8}
    (whole : encode name payload = .ofBytes bytes) :
    ∃ inner, payload = .ofBytes inner ∧ inner.length < 4294967296 := by
  rcases payload with ⟨inner, none | excess⟩
  · by_cases fits : inner.length < 4294967296
    · exact ⟨inner, rfl, fits⟩
    · simp [encode, Encoding.length32, Encoding.ofBytes, fits] at whole
  · simp [encode, Encoding.ofBytes] at whole

theorem encode_ofBytes {name : UInt16} {inner : List UInt8}
    (fits : inner.length < 4294967296) :
    encode name (.ofBytes inner) =
      .u16 name ++
        (.length32 .attributeLength inner.length ++ .ofBytes inner) := by
  have length : Encoding.length32 .attributeLength inner.length =
      .u32 inner.length.toUInt32 :=
    if_pos fits
  simp only [encode, Encoding.ofBytes, length]
  exact Encoding.append_assoc _ _ _

theorem readsBack_decode (name : UInt16) (inner : List UInt8) :
    ReadsBack decode (encode name (.ofBytes inner)) ⟨name, inner⟩ := by
  intro taken whole
  rcases payload_of_encode whole with ⟨same, isSame, fits⟩
  cases Encoding.ofBytes_inj.1 isSame
  rw [encode_ofBytes fits] at whole
  have reads : ReadsBack
      (u16.andThen fun name =>
        u32.andThen fun length =>
        (bytes length.toNat).andThen fun payload =>
        done (AttributeRecord.mk name payload))
      (.u16 name ++ (.length32 .attributeLength inner.length ++ .ofBytes inner))
        ⟨name, inner⟩ := by
    apply (readsBack_u16 name).andThen
    apply readsBack_length32_andThen
    intro sameLength
    rw [sameLength]
    exact (readsBack_bytes inner).one _ rfl
  exact reads taken whole

theorem spans_decode
    {record : AttributeRecord} {input rest : List UInt8}
    (read : decode input = .ok (record, rest)) :
    (encode record.name (.ofBytes record.payload)).Spans input rest := by
  rcases bind_eq_ok read with ⟨⟨name, afterName⟩, readName, read⟩
  rcases bind_eq_ok read with ⟨⟨length, afterLength⟩, readLength, read⟩
  rcases bind_eq_ok read with ⟨⟨payload, afterPayload⟩, readPayload, read⟩
  cases read
  rcases spans_bytes readPayload with ⟨counted, spansPayload⟩
  have fits : payload.length < 4294967296 := counted ▸ length.toNat_lt
  rw [encode_ofBytes fits, counted, Encoding.length32_toNat]
  exact (spans_u16 readName).append ((spans_u32 readLength).append spansPayload)

theorem finish_eq_ok_iff
    {α : Type} {record : AttributeRecord} {name : AttributeName}
    {value result : α}
    {left : List UInt8} :
    record.finish name value left = .ok result ↔
      left = [] ∧ result = value := by
  by_cases complete : left = []
  · simp [finish, complete, eq_comm]
  · simp [finish, complete]

/--
The attributes which are read as a whole: their payload is that of their
content.
-/
theorem plain_of_opened
    {record : AttributeRecord} {pool : Pool} {attr : Attribute}
    (opens : record.opened pool = .ok (.whole attr)) :
    ∃ content, attr = .plain record.name content ∧
      content.encode = .ofBytes record.payload ∧
      attr.NamedIn pool := by
  rcases bind_eq_ok opens with ⟨text, told, opens⟩
  rcases Pool.text_eq_ok_iff.1 told with ⟨entry, found, rfl⟩
  split at opens
  · next unknown =>
      cases opens
      exact ⟨.unknown record.payload, rfl, rfl, entry, found,
        Attribute.mayBeCalled_iff.2 unknown⟩
  · next name known =>
      rcases bind_eq_ok opens with ⟨_, -, opens⟩
      rw [openedAs] at opens
      split at opens
      · next decode decoder =>
          rcases bind_eq_ok opens with ⟨⟨content, left⟩, read, opens⟩
          rcases bind_eq_ok opens with ⟨finished, finishes, opens⟩
          cases opens
          rcases finish_eq_ok_iff.1 finishes with ⟨rfl, rfl⟩
          rcases Content.spans_decoder? decoder (eq_ok_of_sealed read) with
            ⟨called, spans⟩
          refine ⟨content, rfl, spans.eq_ofBytes, entry, found, ?_⟩
          exact Attribute.mayBeCalled_iff.2 (known.trans called.symm)
      · rcases bind_eq_ok opens with ⟨⟨⟨body, count⟩, inner⟩, read, opens⟩
        cases opens

/-- The start of some code: its payload has the code and a count in front. -/
theorem code_of_opened
    {record : AttributeRecord} {pool : Pool} {body : Code} {count : UInt16}
    {inner : List UInt8}
    (opens : record.opened pool = .ok (.code body count inner)) :
    (body.encode ++ .u16 count).Spans record.payload inner ∧
      ∀ nested, (Attribute.code record.name body nested).NamedIn pool := by
  rcases bind_eq_ok opens with ⟨text, told, opens⟩
  rcases Pool.text_eq_ok_iff.1 told with ⟨entry, found, rfl⟩
  split at opens
  · cases opens
  · next name known =>
      rcases bind_eq_ok opens with ⟨_, -, opens⟩
      rw [openedAs] at opens
      split at opens
      · rcases bind_eq_ok opens with ⟨⟨content, left⟩, read, opens⟩
        rcases bind_eq_ok opens with ⟨finished, finishes, opens⟩
        cases opens
      · next undecoded =>
          rcases bind_eq_ok opens with ⟨⟨⟨first, number⟩, left⟩, read, opens⟩
          cases opens
          have isCode : name = .code := by
            cases name <;> first | rfl | cases undecoded
          subst isCode
          rcases bind_eq_ok (eq_ok_of_sealed read) with
            ⟨⟨start, afterStart⟩, readStart, read⟩
          rcases bind_eq_ok read with ⟨⟨read, afterCount⟩, readCount, done⟩
          cases done
          refine ⟨(Code.spans_decode readStart).append (spans_u16 readCount),
            ?_⟩
          intro nested
          exact ⟨entry, found, Attribute.mayBeCalled_iff.2 known⟩

/-- The attribute of a record, together with what is inside of it. -/
def read (record : AttributeRecord) (pool : Pool) :
    Except FormatFault Attribute := do
  match ← record.opened pool with
  | .whole attr => return attr
  | .code body count inner =>
    let (nested, left) ← sealed (Attribute.decodeOnto pool [] count.toNat) inner
    record.finish .code (.code record.name body nested) left

theorem read_of_error
    {record : AttributeRecord} {pool : Pool} {fault : FormatFault}
    (opens : record.opened pool = .error fault) :
    record.read pool = .error fault := by
  rw [read, opens]
  rfl

theorem read_of_whole
    {record : AttributeRecord} {pool : Pool} {attr : Attribute}
    (opens : record.opened pool = .ok (.whole attr)) :
    record.read pool = .ok attr := by
  rw [read, opens]
  rfl

theorem read_of_code
    {record : AttributeRecord} {pool : Pool} {body : Code} {count : UInt16}
    {inner : List UInt8}
    (opens : record.opened pool = .ok (.code body count inner)) :
    record.read pool =
      (sealed (Attribute.decodeOnto pool [] count.toNat) inner >>=
        fun (nested, left) =>
          record.finish .code (.code record.name body nested) left) := by
  rw [read, opens]
  rfl

end AttributeRecord

/-! ## One attribute at a time -/

namespace Attribute

/-- Read an attribute. -/
def decode (pool : Pool) : Decoder Attribute := fun input => do
  let (record, rest) ← AttributeRecord.decode input
  let attr ← (record.read pool).mapError .fault
  return (attr, rest)

theorem decodeOnto_succ (pool : Pool) (before : List Attribute) (count : Nat) :
    decodeOnto pool before (count + 1) =
      (decode pool).andThen fun attr =>
        decodeOnto pool (attr :: before) count := by
  funext input
  rw [decodeOnto]
  simp only [andThen, decode]
  split
  · next stop cut =>
      rw [cut]
      rfl
  · next record rest cut =>
      simp only [cut, bind, Except.bind]
      split
      · next fault opens =>
          rw [AttributeRecord.read_of_error opens]
          rfl
      · next attr opens =>
          rw [AttributeRecord.read_of_whole opens]
          rfl
      · next body nestedCount inner opens =>
          split
          · next stop inside =>
              have refused : record.read pool = .error stop.toFault := by
                rw [AttributeRecord.read_of_code opens, sealed, inside]
                rfl
              rw [refused]
              rfl
          · next nested left inside =>
              have understood : record.read pool =
                  record.finish .code (code record.name body nested) left := by
                rw [AttributeRecord.read_of_code opens, sealed, inside]
                rfl
              rw [understood]
              split
              · next fault finishes =>
                  rw [finishes]
                  rfl
              · next attr finishes =>
                  rw [finishes]
                  rfl

/-- Attributes are read one after another. -/
theorem decodeOnto_eq_manyOnto (pool : Pool) (before : List Attribute)
    (count : Nat) :
    decodeOnto pool before count = manyOnto (decode pool) count before := by
  induction count generalizing before with
  | zero =>
      funext input
      rw [decodeOnto]
      rfl
  | succ count hypothesis =>
      rw [decodeOnto_succ, manyOnto_succ]
      simp only [hypothesis]

theorem encodeOnto_eq_map (before : List Encoding)
    (attributes : List Attribute) :
    encodeOnto before attributes = before.reverse ++ attributes.map encode := by
  induction attributes generalizing before with
  | nil => simp [encodeOnto]
  | cons attr others hypothesis => simp [encodeOnto, hypothesis]

theorem readsBack_decodeCode (body : Code) (count : Nat) (taken : List UInt8)
    (whole : body.encode ++ .count16 .attributeCount count = .ofBytes taken) :
    count.toUInt16.toNat = count ∧
      Takes decodeCode taken (body, count.toUInt16) := by
  rcases Encoding.append_eq_ofBytes_iff.1 whole with
    ⟨bodyBytes, countBytes, bodyWhole, countWhole, rfl⟩
  rcases Encoding.count16_eq_ofBytes_iff.1 countWhole with ⟨fits, rfl⟩
  have reads : ReadsBack decodeCode (body.encode ++ .u16 count.toUInt16)
      (body, count.toUInt16) :=
    body.readsBack_decode.two (readsBack_u16 count.toUInt16) Prod.mk rfl
  refine ⟨UInt16.toNat_ofNat_of_lt' fits, reads _ ?_⟩
  exact Encoding.append_eq_ofBytes_iff.2 ⟨bodyBytes, _, bodyWhole, rfl, rfl⟩

/-- An attribute is read back if its record is understood as the attribute. -/
theorem readsBack_of_read
    {pool : Pool} {name : UInt16} {payload : Encoding} {attr : Attribute}
    (understood : ∀ inner, payload = .ofBytes inner →
      AttributeRecord.read ⟨name, inner⟩ pool = .ok attr) :
    ReadsBack (decode pool) (AttributeRecord.encode name payload) attr := by
  intro taken whole
  rcases AttributeRecord.payload_of_encode whole with ⟨inner, rfl, -⟩
  have reads : ReadsBack
      (AttributeRecord.decode.andThen fun record rest => do
        let attr ← (record.read pool).mapError .fault
        return (attr, rest))
      (AttributeRecord.encode name (.ofBytes inner) ++ .empty) attr := by
    apply (AttributeRecord.readsBack_decode name inner).andThen
    rw [understood inner rfl]
    exact ReadsBack.done attr
  rw [Encoding.append_empty] at reads
  exact reads taken whole

theorem read_plain
    {pool : Pool} {name : UInt16} {content : Content} {inner : List UInt8}
    (named : (plain name content).NamedIn pool)
    (whole : content.encode = .ofBytes inner) :
    AttributeRecord.read ⟨name, inner⟩ pool = .ok (.plain name content) := by
  rcases named with ⟨entry, found, called⟩
  have told : pool.text name = .ok entry.text :=
    Pool.text_eq_ok_iff.2 ⟨entry, found, rfl⟩
  have dispatched : AttributeName.ofText? entry.text = content.name? :=
    mayBeCalled_iff.1 called
  cases known : content.name? with
  | none =>
      rw [known] at dispatched
      rcases Content.eq_unknown_of_name? known with ⟨kept, rfl⟩
      cases Encoding.ofBytes_inj.1 whole
      exact AttributeRecord.read_of_whole
        (AttributeRecord.opened_of_unknown told dispatched)
  | some text =>
      rw [known] at dispatched
      rcases Content.readsBack_decoder? known with ⟨decode, decoder, reads⟩
      have readAll : sealed decode inner = .ok (content, []) := by
        have found := (reads inner whole).sealed []
        rwa [List.append_nil] at found
      have opens : AttributeRecord.opened ⟨name, inner⟩ pool =
          .ok (.whole (.plain name content)) := by
        rw [AttributeRecord.opened_eq_openedAs told dispatched]
        simp only [AttributeRecord.openedAs, decoder, readAll, bind,
          Except.bind]
        rfl
      exact AttributeRecord.read_of_whole opens

theorem read_code
    {pool : Pool} {name : UInt16} {body : Code} {nested : Attributes}
    {inner : List UInt8}
    (named : (code name body nested).NamedIn pool)
    (inside : ∀ attr ∈ nested, ReadsBack (decode pool) attr.encode attr)
    (whole : body.encode ++ .count16 .attributeCount nested.length ++
      .concat (nested.map encode) = .ofBytes inner) :
    AttributeRecord.read ⟨name, inner⟩ pool = .ok (.code name body nested) := by
  rcases named with ⟨entry, found, called⟩
  have told : pool.text name = .ok entry.text :=
    Pool.text_eq_ok_iff.2 ⟨entry, found, rfl⟩
  have dispatched : AttributeName.ofText? entry.text = some .code :=
    mayBeCalled_iff.1 called
  rcases Encoding.append_eq_ofBytes_iff.1 whole with
    ⟨front, back, frontWhole, backWhole, rfl⟩
  rcases readsBack_decodeCode body nested.length front frontWhole with
    ⟨same, takesFront⟩
  have opens : AttributeRecord.opened ⟨name, front ++ back⟩ pool =
      .ok (.code body nested.length.toUInt16 back) := by
    rw [AttributeRecord.opened_eq_openedAs told dispatched]
    simp only [AttributeRecord.openedAs, Content.decoder?,
      takesFront.sealed back, bind, Except.bind]
    rfl
  have takesBack :
      Takes (manyOnto (decode pool) nested.length []) back nested :=
    readsBack_manyOnto inside [] back backWhole
  have readNested :
      sealed (decodeOnto pool [] nested.length.toUInt16.toNat) back =
      .ok (nested, []) := by
    have found := takesBack.sealed []
    rwa [List.append_nil, ← decodeOnto_eq_manyOnto, ← same] at found
  rw [AttributeRecord.read_of_code opens, readNested]
  show AttributeRecord.finish ⟨name, front ++ back⟩ AttributeName.code _ [] = _
  exact if_pos rfl

/-- An attribute which is named in a pool is read back with it. -/
theorem readsBack_decode {attr : Attribute} {pool : Pool}
    (named : Attributes.NamedIn [attr] pool) :
    ReadsBack (decode pool) attr.encode attr := by
  induction attr with
  | plain name content =>
      rw [encode]
      apply readsBack_of_read
      intro inner whole
      exact read_plain (Attributes.namedIn_plain.1 named) whole
  | code name body nested hypothesis =>
      rcases Attributes.namedIn_code.1 named with ⟨namedCode, namedInside⟩
      rw [encode]
      apply readsBack_of_read
      intro inner whole
      rw [encodeOnto_eq_map] at whole
      apply read_code namedCode _ whole
      intro attr member
      exact hypothesis attr member
        (Attributes.namedIn_iff_forall_mem.1 namedInside attr member)

/--
An attribute which was read is written as what it was read from, and is named in
the pool, with everything inside of it.  The attributes inside were read from
less than the record.
-/
theorem spans_decode
    {attr : Attribute} {pool : Pool} {input rest : List UInt8}
    (read : decode pool input = .ok (attr, rest)) :
    attr.encode.Spans input rest ∧ Attributes.NamedIn [attr] pool := by
  rcases bind_eq_ok read with ⟨⟨record, afterRecord⟩, cut, read⟩
  rcases bind_eq_ok read with ⟨found, understood, finished⟩
  cases finished
  have spans := AttributeRecord.spans_decode cut
  have shorter := AttributeRecord.length_of_decode cut
  rcases bind_eq_ok (eq_ok_of_mapError understood) with
    ⟨attr | ⟨body, count, inner⟩, opens, read⟩
  · cases read
    rcases AttributeRecord.plain_of_opened opens with
      ⟨content, rfl, whole, named⟩
    rw [encode, whole]
    exact ⟨spans, Attributes.namedIn_plain.2 named⟩
  · rcases bind_eq_ok read with ⟨⟨nested, left⟩, readNested, finishes⟩
    rcases AttributeRecord.finish_eq_ok_iff.1 finishes with ⟨rfl, rfl⟩
    rcases AttributeRecord.code_of_opened opens with ⟨spansStart, named⟩
    have smaller := AttributeRecord.length_lt_of_opened opens
    have readMany := eq_ok_of_sealed readNested
    rw [decodeOnto_eq_manyOnto] at readMany
    rcases spans_manyOnto (fun bound readPart => spans_decode readPart)
      readMany with ⟨nested, rfl, length, spansNested, namedInside⟩
    have whole : body.encode ++ .count16 .attributeCount nested.length ++
        .concat (nested.map encode) = .ofBytes record.payload := by
      rw [length, Encoding.count16_toNat]
      exact (spansStart.append spansNested).eq_ofBytes
    rw [encode, encodeOnto_eq_map, List.reverse_nil, List.nil_append, whole]
    refine ⟨spans, Attributes.namedIn_code.2 ⟨named nested, ?_⟩⟩
    exact Attributes.namedIn_iff_forall_mem.2 namedInside
termination_by input.length

end Attribute

/-! ## Several attributes -/

namespace Attributes

theorem decode_eq_counted (pool : Pool) :
    decode pool = counted (Attribute.decode pool) := by
  funext input
  simp only [decode, counted, many, Attribute.decodeOnto_eq_manyOnto]

theorem encode_eq_counted (attributes : Attributes) :
    attributes.encode =
      .counted .attributeCount Attribute.encode attributes := by
  rw [encode, Attribute.encodeOnto_eq_map]
  rfl

theorem readsBack_decode {attributes : Attributes} {pool : Pool}
    (named : attributes.NamedIn pool) :
    ReadsBack (decode pool) attributes.encode attributes := by
  rw [decode_eq_counted, encode_eq_counted]
  apply readsBack_counted
  intro attr member
  exact Attribute.readsBack_decode (namedIn_iff_forall_mem.1 named attr member)

theorem spans_decode
    {attributes : Attributes} {pool : Pool} {input rest : List UInt8}
    (read : decode pool input = .ok (attributes, rest)) :
    attributes.encode.Spans input rest ∧ attributes.NamedIn pool := by
  rw [decode_eq_counted] at read
  rw [encode_eq_counted]
  rcases spans_counted .attributeCount
    (fun _ found => Attribute.spans_decode found) read with ⟨spans, named⟩
  exact ⟨spans, namedIn_iff_forall_mem.2 named⟩

end Attributes

end ClassFormat
