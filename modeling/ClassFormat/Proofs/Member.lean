import ClassFormat.Member
import ClassFormat.Proofs.Attribute.Binary

/-!
# Members, both ways

A field fits a pool if its attributes are named in the pool.  A method has to go
with its descriptor too: the types which are kept beside the descriptor are
those which its text is read as.
-/

namespace ClassFormat

open Decoder

theorem Pool.methodType_eq_ok_iff {pool : Pool} {index : UInt16}
    {types : MethodType} :
    pool.methodType index = .ok types ↔
      ∃ entry : ModifiedUtf8, pool.get? index = some (.utf8 entry) ∧
        MethodType.parse entry.text = .ok types := by
  constructor
  · intro read
    rcases bind_eq_ok read with ⟨text, told, parsed⟩
    rcases Pool.text_eq_ok_iff.1 told with ⟨entry, found, rfl⟩
    exact ⟨entry, found, eq_ok_of_mapError parsed⟩
  · rintro ⟨entry, found, parsed⟩
    rw [methodType, Pool.text_eq_ok_iff.2 ⟨entry, found, rfl⟩]
    show liftType (MethodType.parse entry.text) = .ok types
    rw [parsed]
    rfl

/-- The types of a descriptor depend on the texts of a pool only. -/
theorem Pool.Keeps.methodType
    {after before : Pool} {index : UInt16} {types : MethodType}
    (keeps : after.Keeps before)
    (read : before.methodType index = .ok types) :
    after.methodType index = .ok types := by
  rcases methodType_eq_ok_iff.1 read with ⟨entry, found, parsed⟩
  exact methodType_eq_ok_iff.2 ⟨entry, keeps.texts found, parsed⟩

namespace Field

theorem readsBack_decode {field : Field} {pool : Pool}
    (named : field.attributes.NamedIn pool) :
    ReadsBack (decode pool) field.encode field := by
  show ReadsBack
    (u16.andThen fun flags =>
      u16.andThen fun name =>
      u16.andThen fun descriptor =>
      (Attributes.decode pool).andThen fun attributes =>
      done (Field.mk ⟨flags⟩ name descriptor attributes))
    field.encode field
  simp only [encode, Encoding.append_assoc]
  apply (readsBack_u16 field.flags.bits).andThen
  apply (readsBack_u16 field.name).andThen
  exact (readsBack_u16 field.descriptor).two (Attributes.readsBack_decode named)
    (Field.mk field.flags field.name) rfl

theorem spans_decode
    {field : Field} {pool : Pool} {input rest : List UInt8}
    (read : decode pool input = .ok (field, rest)) :
    field.encode.Spans input rest ∧ field.attributes.NamedIn pool := by
  rcases bind_eq_ok read with ⟨⟨flags, afterFlags⟩, readFlags, read⟩
  rcases bind_eq_ok read with ⟨⟨name, afterName⟩, readName, read⟩
  rcases bind_eq_ok read with
    ⟨⟨descriptor, afterDescriptor⟩, readDescriptor, read⟩
  rcases bind_eq_ok read with
    ⟨⟨attributes, afterAttributes⟩, readAttributes, read⟩
  cases read
  rcases Attributes.spans_decode readAttributes with ⟨spansAttributes, named⟩
  refine ⟨?_, named⟩
  exact ((spans_u16 readFlags).append (spans_u16 readName)).append
    (spans_u16 readDescriptor)
    |>.append spansAttributes

end Field

namespace Method

/--
A method whose attributes are named in a pool and whose types are those of its
descriptor.
-/
structure Fits (method : Method) (pool : Pool) : Prop where
  attributes : method.attributes.NamedIn pool
  types : pool.methodType method.descriptor = .ok method.types

theorem Fits.keep {method : Method} {after before : Pool}
    (fits : method.Fits before) (keeps : after.Keeps before) :
    method.Fits after where
  attributes := fits.attributes.keep keeps
  types := keeps.methodType fits.types

theorem make_eq_ok_iff
    {pool : Pool} {flags : Flags .method} {name descriptor : UInt16}
    {attributes : Attributes}
    {method : Method} :
    make pool flags name descriptor attributes = .ok method ↔
      ∃ types, pool.methodType descriptor = .ok types ∧
        method = { flags, name, descriptor, attributes, types } := by
  rw [make]
  cases pool.methodType descriptor with
  | error fault => simp [bind, Except.bind]
  | ok types => simp [bind, Except.bind, pure, Except.pure, eq_comm]

theorem readsBack_decode {method : Method} {pool : Pool}
    (fits : method.Fits pool) :
    ReadsBack (decode pool) method.encode method := by
  have made : make pool method.flags method.name method.descriptor
      method.attributes =
      .ok method := make_eq_ok_iff.2 ⟨method.types, fits.types, rfl⟩
  show ReadsBack
    (u16.andThen fun flags =>
      u16.andThen fun name =>
      u16.andThen fun descriptor =>
      (Attributes.decode pool).andThen fun attributes input => do
        let method ← (make pool ⟨flags⟩ name descriptor attributes).mapError
          .fault
        return (method, input))
    method.encode method
  rw [encode, ← Encoding.append_empty (Attributes.encode method.attributes)]
  simp only [Encoding.append_assoc]
  apply (readsBack_u16 method.flags.bits).andThen
  apply (readsBack_u16 method.name).andThen
  apply (readsBack_u16 method.descriptor).andThen
  apply (Attributes.readsBack_decode fits.attributes).andThen
  rw [made]
  exact ReadsBack.done method

theorem spans_decode
    {method : Method} {pool : Pool} {input rest : List UInt8}
    (read : decode pool input = .ok (method, rest)) :
    method.encode.Spans input rest ∧ method.Fits pool := by
  rcases bind_eq_ok read with ⟨⟨flags, afterFlags⟩, readFlags, read⟩
  rcases bind_eq_ok read with ⟨⟨name, afterName⟩, readName, read⟩
  rcases bind_eq_ok read with
    ⟨⟨descriptor, afterDescriptor⟩, readDescriptor, read⟩
  rcases bind_eq_ok read with
    ⟨⟨attributes, afterAttributes⟩, readAttributes, read⟩
  rcases bind_eq_ok read with ⟨made, makes, finished⟩
  cases finished
  rcases make_eq_ok_iff.1 (eq_ok_of_mapError makes) with ⟨types, typed, rfl⟩
  rcases Attributes.spans_decode readAttributes with ⟨spansAttributes, named⟩
  refine ⟨?_, named, typed⟩
  exact ((spans_u16 readFlags).append (spans_u16 readName)).append
    (spans_u16 readDescriptor)
    |>.append spansAttributes

end Method

end ClassFormat
