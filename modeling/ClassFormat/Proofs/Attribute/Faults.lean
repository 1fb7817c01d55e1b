import ClassFormat.Proofs.Attribute.Binary
import ClassFormat.Proofs.Binary.Faults
import ClassFormat.Types.MethodType

/-!
# What attributes are found at fault for

Behind the pool few things can be at fault: an index leads to something else
than what is expected, a method descriptor is malformed, or a record is not as
long as what it holds.  The last of these shows in two ways.  If the content
needs more than the record has, the bytes end early, and for good, since what
follows the record does not belong to it; if the content needs less, there are
bytes left over.

The lengths which are reported for a record with bytes left over are those of
the record and of its content, and the content is always the shorter one.
-/

namespace ClassFormat

open Decoder

/-- What can be at fault in what comes after a pool. -/
inductive Pool.Refusal (pool : Pool) : FormatFault → Prop where
  | truncated : pool.Refusal .truncated
  | attributeLength (name : AttributeName) {declared actual : Nat}
      (shorter : actual < declared) :
      pool.Refusal (.attributeLength name.text declared actual)
  | noText {index : UInt16}
      (other : ∀ text, pool.get? index ≠ some (.utf8 text)) :
      pool.Refusal (pool.wrongConstant index (.kind .utf8))
  | noClass {index : UInt16}
      (other : ∀ name, pool.get? index ≠ some (.classRef name)) :
      pool.Refusal (pool.wrongConstant index (.kind .classRef))
  | methodType (text : String) (reason : MethodFault) :
      pool.Refusal (.typeName (.malformedMethodDescriptor text reason))

theorem Pool.refusal_of_text {pool : Pool} {index : UInt16}
    {fault : FormatFault} (refused : pool.text index = .error fault) :
    pool.Refusal fault := by
  simp only [Pool.text] at refused
  split at refused
  · cases refused
  · next other =>
      cases refused
      exact .noText other

/-! ## Contents -/

theorem Handler.faultsIn_decode {sort : FormatFault → Prop} :
    FaultsIn sort decode := by
  show FaultsIn sort
    (u16.andThen fun start =>
      u16.andThen fun stop =>
      u16.andThen fun handler =>
      u16.andThen fun catchType =>
      done (Handler.mk start stop handler catchType))
  exact .andThen .u16 fun _ => .andThen .u16 fun _ => .andThen .u16 fun _ =>
    .andThen .u16 fun _ => .done _

theorem InnerClass.faultsIn_decode {sort : FormatFault → Prop} :
    FaultsIn sort decode := by
  show FaultsIn sort
    (u16.andThen fun inner =>
      u16.andThen fun outer =>
      u16.andThen fun name =>
      u16.andThen fun flags => done (InnerClass.mk inner outer name ⟨flags⟩))
  exact .andThen .u16 fun _ => .andThen .u16 fun _ => .andThen .u16 fun _ =>
    .andThen .u16 fun _ => .done _

theorem LocalVariable.faultsIn_decode {sort : FormatFault → Prop} :
    FaultsIn sort decode := by
  show FaultsIn sort
    (u16.andThen fun start =>
      u16.andThen fun length =>
      u16.andThen fun name =>
      u16.andThen fun descriptor =>
      u16.andThen fun index =>
      done (LocalVariable.mk start length name descriptor index))
  exact .andThen .u16 fun _ => .andThen .u16 fun _ => .andThen .u16 fun _ =>
    .andThen .u16 fun _ => .andThen .u16 fun _ => .done _

theorem Code.faultsIn_decode {sort : FormatFault → Prop} :
    FaultsIn sort decode := by
  show FaultsIn sort
    (u16.andThen fun maxStack =>
      u16.andThen fun maxLocals =>
      u32.andThen fun length =>
      (bytes length.toNat).andThen fun instructions =>
      (counted Handler.decode).andThen fun handlers =>
      done (Code.mk maxStack maxLocals instructions handlers))
  exact .andThen .u16 fun _ => .andThen .u16 fun _ =>
    .andThen .u32 fun length => .andThen (.bytes length.toNat) fun _ =>
    .andThen (.counted Handler.faultsIn_decode) fun _ => .done _

/-- No content is at fault by itself: it may only end early. -/
theorem Content.faultsIn_decoder? {name : AttributeName}
    {decode : Decoder Content} {sort : FormatFault → Prop}
    (known : decoder? name = some decode) : FaultsIn sort decode := by
  cases name with
  | code => cases known
  | constantValue =>
      cases known
      exact FaultsIn.u16.one constantValue rfl
  | deprecated =>
      cases known
      exact FaultsIn.done deprecated
  | exceptions =>
      cases known
      exact FaultsIn.u16.counted.one exceptions rfl
  | innerClasses =>
      cases known
      exact InnerClass.faultsIn_decode.counted.one innerClasses rfl
  | localVariableTable =>
      cases known
      exact LocalVariable.faultsIn_decode.counted.one localVariableTable rfl
  | signature =>
      cases known
      exact FaultsIn.u16.one signature rfl
  | synthetic =>
      cases known
      exact FaultsIn.done synthetic

/-! ## Payloads -/

theorem Attribute.faultsIn_decodeCode {sort : FormatFault → Prop} :
    FaultsIn sort decodeCode := by
  show FaultsIn sort (Code.decode.andThen fun body =>
    u16.andThen fun count => done (body, count))
  exact Code.faultsIn_decode.andThen fun _ =>
    FaultsIn.u16.andThen fun _ => FaultsIn.done _

/--
Read the attributes inside of some code, of which the start has been read.
-/
def Attribute.decodeInside (pool : Pool) (index : UInt16)
    (start : Code × UInt16) :
    Decoder Attribute :=
  andThen (decodeOnto pool [] start.2.toNat) fun nested =>
    done (.code index start.1 nested)

theorem Attribute.decodeInside_eq (pool : Pool) (index : UInt16)
    (start : Code × UInt16) :
    decodeInside pool index start =
      (manyOnto (decode pool) start.2.toNat []).andThen fun nested =>
        done (.code index start.1 nested) := by
  rw [decodeInside, decodeOnto_eq_manyOnto]

namespace AttributeName

/--
How the payload of an attribute with a known name is read, from the front of
some bytes.
-/
def reader (known : AttributeName) (pool : Pool) (index : UInt16) :
    Decoder Attribute :=
  match Content.decoder? known with
  | some decode => decode.andThen fun content => done (.plain index content)
  | none => Attribute.decodeCode.andThen (Attribute.decodeInside pool index)

variable {known : AttributeName} {pool : Pool} {index : UInt16}
  {attr : Attribute}

theorem reader_of_decoder? {decode : Decoder Content}
    (decoder : Content.decoder? known = some decode) :
    known.reader pool index = decode.andThen fun content =>
      done (.plain index content) := by
  rw [reader, decoder]

theorem reader_code :
    code.reader pool index =
      Attribute.decodeCode.andThen (Attribute.decodeInside pool index) := by
  rfl

theorem eq_code_of_decoder? (undecoded : Content.decoder? known = none) :
    known = .code := by
  cases known <;> first | rfl | cases undecoded

/-- Nothing which is read for an attribute leaves more than there was. -/
theorem length_le_of_reader {input left : List UInt8}
    (read : known.reader pool index input = .ok (attr, left)) :
    left.length ≤ input.length := by
  cases decoder : Content.decoder? known with
  | some decode =>
      rw [reader_of_decoder? decoder] at read
      rcases andThen_eq_ok read with ⟨content, rest, readContent, finished⟩
      cases finished
      exact (Content.spans_decoder? decoder readContent).2.length_le
  | none =>
      cases eq_code_of_decoder? decoder
      rw [reader_code] at read
      rcases andThen_eq_ok read with ⟨start, inner, readStart, readInside⟩
      rw [Attribute.decodeInside_eq] at readInside
      rcases andThen_eq_ok readInside with ⟨nested, rest, readNested, finished⟩
      cases finished
      have smaller := Attribute.length_lt_of_decodeCode readStart
      have bound := length_le_of_manyOnto
        (fun readPart => (Attribute.spans_decode readPart).1.length_le)
        readNested
      omega

/-- What the start of some code is read from is taken for it. -/
theorem takes_decodeCode {start : Code × UInt16} {input inner : List UInt8}
    (read : Attribute.decodeCode input = .ok (start, inner)) :
    ∃ front, input = front ++ inner ∧
      Takes Attribute.decodeCode front start := by
  rcases bind_eq_ok read with ⟨⟨body, afterCode⟩, readCode, read⟩
  rcases bind_eq_ok read with ⟨⟨count, afterCount⟩, readCount, finished⟩
  cases finished
  rcases (Code.spans_decode readCode).append (spans_u16 readCount) with
    ⟨front, whole, split⟩
  refine ⟨front, split, ?_⟩
  exact body.readsBack_decode.two (readsBack_u16 count) Prod.mk rfl front whole

/--
What the attributes inside of some code are read from, with nothing left, is
taken for them.
-/
theorem takes_decodeInside {start : Code × UInt16} {input : List UInt8}
    (read : Attribute.decodeInside pool index start input = .ok (attr, [])) :
    Takes (Attribute.decodeInside pool index start) input attr := by
  rw [Attribute.decodeInside_eq] at read ⊢
  rcases andThen_eq_ok read with ⟨nested, rest, readNested, finished⟩
  cases finished
  rcases spans_manyOnto (fun _ readPart => Attribute.spans_decode readPart)
    readNested with ⟨nested, rfl, length, spans, named⟩
  have takesNested :
      Takes (manyOnto (Attribute.decode pool) nested.length []) input nested :=
    readsBack_manyOnto
      (fun other member => Attribute.readsBack_decode (named other member)) []
      input spans.eq_ofBytes
  rw [← length, ← List.append_nil input]
  exact takesNested.andThen (Takes.done _)

/--
What is read for an attribute, with nothing left, is taken for it whatever
follows, and nothing less is: the payload alone decides how much of it is read.
-/
theorem takes_reader {payload : List UInt8}
    (read : known.reader pool index payload = .ok (attr, [])) :
    Takes (known.reader pool index) payload attr := by
  cases decoder : Content.decoder? known with
  | some decode =>
      rw [reader_of_decoder? decoder] at read ⊢
      rcases andThen_eq_ok read with ⟨content, rest, readContent, finished⟩
      cases finished
      rcases Content.spans_decoder? decoder readContent with ⟨called, spans⟩
      rcases Content.readsBack_decoder? called with
        ⟨same, sameDecoder, readsBack⟩
      cases decoder.symm.trans sameDecoder
      rw [← List.append_nil payload]
      exact (readsBack payload spans.eq_ofBytes).andThen (Takes.done _)
  | none =>
      cases eq_code_of_decoder? decoder
      rw [reader_code] at read ⊢
      rcases andThen_eq_ok read with ⟨start, inner, readStart, readInside⟩
      rcases takes_decodeCode readStart with ⟨front, rfl, takesFront⟩
      exact takesFront.andThen (takes_decodeInside readInside)

/-- A payload is at fault only if an attribute inside of it is. -/
theorem exists_of_reader_eq_error {input : List UInt8} {fault : FormatFault}
    (stopped : known.reader pool index input = .error (.fault fault)) :
    ∃ part, part.length < input.length ∧
      Attribute.decode pool part = .error (.fault fault) := by
  cases decoder : Content.decoder? known with
  | some decode =>
      rw [reader_of_decoder? decoder] at stopped
      rcases bind_eq_error stopped with refused | ⟨⟨content, rest⟩, -, finished⟩
      · exact absurd refused
          (FaultsIn.never (Content.faultsIn_decoder? decoder))
      · cases finished
  | none =>
      cases eq_code_of_decoder? decoder
      rw [reader_code] at stopped
      rcases bind_eq_error stopped with
        refused | ⟨⟨start, inner⟩, readStart, refused⟩
      · exact absurd refused (FaultsIn.never Attribute.faultsIn_decodeCode)
      · simp only [Attribute.decodeInside_eq] at refused
        rcases bind_eq_error refused with
          refused | ⟨⟨nested, rest⟩, -, finished⟩
        · rcases exists_of_manyOnto_eq_error
            (fun readPart => (Attribute.spans_decode readPart).1.length_le)
              refused with ⟨part, bound, atFault⟩
          exact ⟨part,
            Nat.lt_of_le_of_lt bound
              (Attribute.length_lt_of_decodeCode readStart), atFault⟩
        · cases finished

end AttributeName

/-! ## Records -/

namespace AttributeRecord

theorem faultsIn_decode {sort : FormatFault → Prop} : FaultsIn sort decode := by
  show FaultsIn sort
    (u16.andThen fun name =>
      u32.andThen fun length =>
      (bytes length.toNat).andThen fun payload =>
      done (AttributeRecord.mk name payload))
  exact FaultsIn.u16.andThen fun _ => FaultsIn.u32.andThen fun length =>
    (FaultsIn.bytes length.toNat).andThen fun _ => FaultsIn.done _

/--
A record is cut behind as many bytes as it declares, if there are so many.
-/
theorem decode_of_le (index : UInt16) (declared : UInt32) {stream : List UInt8}
    (available : declared.toNat ≤ stream.length) :
    decode (Encoding.bytes16 index ++ (Encoding.bytes32 declared ++ stream)) =
      .ok (⟨index, stream.take declared.toNat⟩,
        stream.drop declared.toNat) := by
  have length : (stream.take declared.toNat).length = declared.toNat := by
    rw [List.length_take, Nat.min_eq_left available]
  have takesPayload := readsBack_bytes (stream.take declared.toNat) _ rfl
  rw [length] at takesPayload
  have takes : Takes
      (u16.andThen fun name =>
        u32.andThen fun length =>
        (bytes length.toNat).andThen fun payload =>
        done (AttributeRecord.mk name payload))
      (Encoding.bytes16 index ++
        (Encoding.bytes32 declared ++ (stream.take declared.toNat ++ [])))
      ⟨index, stream.take declared.toNat⟩ :=
    (readsBack_u16 index _ rfl).andThen
      ((readsBack_u32 declared _ rfl).andThen
        (takesPayload.andThen (Takes.done _)))
  have cut := takes.whole (stream.drop declared.toNat)
  rwa [List.append_nil, List.append_assoc, List.append_assoc,
    List.take_append_drop] at cut

theorem finish_eq_error_iff {α : Type} {record : AttributeRecord}
    {name : AttributeName} {value : α} {left : List UInt8}
    {fault : FormatFault} :
    record.finish name value left = .error fault ↔
      left ≠ [] ∧ fault = .attributeLength name.text record.payload.length
        (record.payload.length - left.length) := by
  by_cases complete : left = []
  · simp [finish, complete]
  · simp [finish, complete, eq_comm]

variable {known : AttributeName} {pool : Pool} {attr : Attribute}

/-- An attribute whose name is not known is kept as it is. -/
theorem read_of_unknown {record : AttributeRecord} {text : String}
    (told : pool.text record.name = .ok text)
    (unknown : AttributeName.ofText? text = none) :
    record.read pool = .ok (.plain record.name (.unknown record.payload)) :=
  read_of_whole (opened_of_unknown told unknown)

/--
A record whose name is known is read as the name says, and has to be as long as
what was read.
-/
theorem read_of_called {record : AttributeRecord}
    (called : pool.text record.name = .ok known.text) :
    record.read pool =
      (sealed (known.reader pool record.name) record.payload >>=
        fun (attr, left) => record.finish known attr left) := by
  have opens := opened_eq_openedAs called (AttributeName.ofText?_text known)
  cases decoder : Content.decoder? known with
  | some decode =>
      rw [AttributeName.reader_of_decoder? decoder, sealed_andThen]
      simp only [read, opens, openedAs, bind, Except.bind, decoder]
      cases sealed decode record.payload with
      | error refusal => rfl
      | ok found =>
          simp only [sealed_done]
          cases record.finish known (Attribute.plain record.name found.1)
            found.2 <;> rfl
  | none =>
      cases AttributeName.eq_code_of_decoder? decoder
      rw [AttributeName.reader_code, sealed_andThen]
      simp only [read, opens, openedAs, bind, Except.bind, decoder]
      cases sealed Attribute.decodeCode record.payload with
      | error refusal => rfl
      | ok found =>
          simp only [Attribute.decodeInside, sealed_andThen, bind, Except.bind,
            pure, Except.pure]
          cases sealed (Attribute.decodeOnto pool [] found.1.2.toNat)
            found.2 <;> rfl

section Lengths

variable {index : UInt16} {payload front : List UInt8}

/-- A record which holds as much as its content needs is understood. -/
theorem read_of_length_eq (called : pool.text index = .ok known.text)
    (reads : known.reader pool index payload = .ok (attr, []))
    (begins : payload <+: front ∨ front <+: payload)
    (same : front.length = payload.length) :
    read ⟨index, front⟩ pool = .ok attr := by
  have whole : front = payload := by
    rcases begins with start | start
    · exact (start.eq_of_length same.symm).symm
    · exact start.eq_of_length same
  subst whole
  have found := (AttributeName.takes_reader reads).sealed []
  rw [List.append_nil] at found
  rw [read_of_called called, found]
  show finish ⟨index, front⟩ known attr [] = _
  exact finish_eq_ok_iff.2 ⟨rfl, rfl⟩

/--
A record which holds more than its content needs is reported with the lengths of
both.
-/
theorem read_of_length_lt (called : pool.text index = .ok known.text)
    (reads : known.reader pool index payload = .ok (attr, []))
    (begins : payload <+: front ∨ front <+: payload)
    (more : payload.length < front.length) :
    read ⟨index, front⟩ pool =
      .error (.attributeLength known.text front.length payload.length) := by
  rcases begins with ⟨left, rfl⟩ | start
  · have present : left ≠ [] := by
      rintro rfl
      simp at more
    have found := (AttributeName.takes_reader reads).sealed left
    rw [read_of_called called, found]
    refine finish_eq_error_iff.2 ⟨present, ?_⟩
    simp only [List.length_append, Nat.add_sub_cancel]
  · exact absurd start.length_le (Nat.not_le.2 more)

/--
A record which holds less than its content needs ends too early, whatever
follows it.
-/
theorem read_of_lt_length (called : pool.text index = .ok known.text)
    (reads : known.reader pool index payload = .ok (attr, []))
    (begins : payload <+: front ∨ front <+: payload)
    (fewer : front.length < payload.length) :
    read ⟨index, front⟩ pool = .error .truncated := by
  rcases begins with start | ⟨missing, rfl⟩
  · exact absurd start.length_le (Nat.not_le.2 fewer)
  · have lacking : missing ≠ [] := by
      rintro rfl
      simp at fewer
    have stops :=
      (AttributeName.takes_reader reads).early front missing rfl lacking
    rw [read_of_called called, sealed, stops]
    rfl

end Lengths

/-- A record is at fault for one of few reasons, if what is inside of it is. -/
theorem refusal_of_read {record : AttributeRecord} {fault : FormatFault}
    (inside : ∀ part, part.length < record.payload.length →
      ∀ fault, Attribute.decode pool part = .error (.fault fault) →
        pool.Refusal fault)
    (refused : record.read pool = .error fault) : pool.Refusal fault := by
  cases told : pool.text record.name with
  | error cause =>
      have opens : record.opened pool = .error cause := by
        rw [opened, told]
        rfl
      cases (read_of_error opens).symm.trans refused
      exact pool.refusal_of_text told
  | ok text =>
      cases called : AttributeName.ofText? text with
      | none => cases (read_of_unknown told called).symm.trans refused
      | some known =>
          rw [← AttributeName.text_of_ofText? called] at told
          rw [read_of_called told] at refused
          rcases bind_eq_error refused with
            stopped | ⟨⟨attr, left⟩, found, finishes⟩
          · rcases eq_error_of_sealed stopped with rfl | atFault
            · exact .truncated
            · rcases AttributeName.exists_of_reader_eq_error atFault with
                ⟨part, smaller, stopped⟩
              exact inside part smaller fault stopped
          · rcases finish_eq_error_iff.1 finishes with ⟨present, rfl⟩
            have bound :=
              AttributeName.length_le_of_reader (eq_ok_of_sealed found)
            have some := List.length_pos_iff.2 present
            exact .attributeLength known (by omega)

end AttributeRecord

/-! ## Attributes -/

/-- The attributes inside of a record are read from less than the record. -/
theorem Attribute.refusal_of_decode {pool : Pool} {input : List UInt8}
    {fault : FormatFault}
    (stopped : decode pool input = .error (.fault fault)) :
    pool.Refusal fault := by
  rcases bind_eq_error stopped with refused | ⟨⟨record, rest⟩, cut, stopped⟩
  · exact AttributeRecord.faultsIn_decode input fault refused
  · have shorter := AttributeRecord.length_of_decode cut
    rcases bind_eq_error stopped with refused | ⟨attr, -, finished⟩
    · rcases eq_error_of_mapError refused with ⟨cause, refused, same⟩
      cases same
      exact AttributeRecord.refusal_of_read
        (fun part smaller fault refused => refusal_of_decode refused) refused
    · cases finished
termination_by input.length

theorem Attributes.faultsIn_decode (pool : Pool) :
    FaultsIn pool.Refusal (decode pool) := by
  have each : FaultsIn pool.Refusal (Attribute.decode pool) :=
    fun _ _ refused => Attribute.refusal_of_decode refused
  rw [decode_eq_counted]
  exact each.counted

/-! ## One record among others -/

namespace Attribute

variable {pool : Pool} {record : AttributeRecord} {input rest : List UInt8}

/--
An attribute of which the record is understood is put after those before it.
-/
theorem decodeOnto_of_read {attr : Attribute}
    (cut : AttributeRecord.decode input = .ok (record, rest))
    (understood : record.read pool = .ok attr) (before : List Attribute)
    (others : Nat) :
    decodeOnto pool before (others + 1) input =
      decodeOnto pool (attr :: before) others rest := by
  have found : decode pool input = .ok (attr, rest) := by
    simp only [decode, cut, bind, Except.bind, understood]
    rfl
  rw [decodeOnto_succ, andThen, found]
  rfl

/-- A record which is at fault is the last one to be read. -/
theorem decodeOnto_of_refused {fault : FormatFault}
    (cut : AttributeRecord.decode input = .ok (record, rest))
    (refused : record.read pool = .error fault) (before : List Attribute)
    (others : Nat) :
    decodeOnto pool before (others + 1) input = .error (.fault fault) := by
  have stopped : decode pool input = .error (.fault fault) := by
    simp only [decode, cut, bind, Except.bind, refused]
    rfl
  rw [decodeOnto_succ, andThen, stopped]
  rfl

end Attribute

end ClassFormat
