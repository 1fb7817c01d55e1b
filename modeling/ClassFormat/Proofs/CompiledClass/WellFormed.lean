import ClassFormat.CompiledClass.Binary
import ClassFormat.Proofs.Member
import ClassFormat.Proofs.Pool.Binary

/-!
# Well-formed classes

A class is well-formed if everything in it that leads into the pool leads to
what is expected there: its own index, that of its superclass and those of its
interfaces to classes whose names can be told, the indices of names of
attributes to texts which go with the attributes, and the descriptors of methods
to the types which are kept with the methods.  That the slots of the pool are
laid out by the widths of its constants is part of what a pool is.

Reading establishes this, and everything which is well-formed can be read back
once it is written.
-/

namespace ClassFormat

open Decoder

/--
Every result of a list of computations is there exactly if all of them give one.
-/
theorem exists_mapM_eq_ok_iff {ε α β : Type} {compute : α → Except ε β}
    {inputs : List α} :
    (∃ results, inputs.mapM compute = .ok results) ↔
      ∀ input ∈ inputs, ∃ result, compute input = .ok result := by
  induction inputs with
  | nil => simp [pure, Except.pure]
  | cons input others hypothesis =>
      rw [List.forall_mem_cons, ← hypothesis, List.mapM_cons]
      constructor
      · rintro ⟨results, computed⟩
        rcases bind_eq_ok computed with ⟨first, found, computed⟩
        rcases bind_eq_ok computed with ⟨rest, foundOthers, -⟩
        exact ⟨⟨first, found⟩, rest, foundOthers⟩
      · rintro ⟨⟨first, found⟩, rest, foundOthers⟩
        exact ⟨first :: rest, by rw [found, foundOthers]; rfl⟩

namespace CompiledClass

/--
A class in which whatever refers to the pool refers to what is expected there.
-/
structure WellFormed (class_ : CompiledClass) : Prop where
  name : class_.pool.NamesClass class_.thisClass
  superClass : class_.superClass = 0 ∨ class_.pool.NamesClass class_.superClass
  interfaces : ∀ interface ∈ class_.interfaces, class_.pool.NamesClass interface
  fields : ∀ field ∈ class_.fields, field.attributes.NamedIn class_.pool
  methods : ∀ method ∈ class_.methods, method.Fits class_.pool
  attributes : class_.attributes.NamedIn class_.pool

/-! ## References to classes -/

theorem exists_superName?_iff {class_ : CompiledClass} :
    (∃ name, class_.superName? = .ok name) ↔
      class_.superClass = 0 ∨ class_.pool.NamesClass class_.superClass := by
  rw [Pool.namesClass_iff, superName?]
  by_cases none : class_.superClass = 0
  · simp [none]
  · cases class_.pool.className class_.superClass with
    | error fault => simp [none, Except.map]
    | ok written => simp [none, Except.map]

theorem exists_interfaceNames_iff {class_ : CompiledClass} :
    (∃ names, class_.interfaceNames = .ok names) ↔
      ∀ interface ∈ class_.interfaces, class_.pool.NamesClass interface := by
  rw [interfaceNames, exists_mapM_eq_ok_iff]
  simp only [Pool.namesClass_iff]

/--
The last look at a class finds nothing at fault exactly if its references can be
resolved.
-/
theorem checkReferences_eq_ok_iff {class_ : CompiledClass} {result : Unit} :
    class_.checkReferences = .ok result ↔
      class_.pool.NamesClass class_.thisClass ∧
        (class_.superClass = 0 ∨ class_.pool.NamesClass class_.superClass) ∧
          ∀ interface ∈ class_.interfaces,
            class_.pool.NamesClass interface := by
  rw [Pool.namesClass_iff, ← exists_superName?_iff, ← exists_interfaceNames_iff]
  constructor
  · intro checked
    rcases bind_eq_ok checked with ⟨name, named, checked⟩
    rcases bind_eq_ok checked with ⟨superName, superNamed, checked⟩
    rcases bind_eq_ok checked with ⟨names, allNamed, -⟩
    exact ⟨⟨name, named⟩, ⟨superName, superNamed⟩, names, allNamed⟩
  · rintro ⟨⟨written, named⟩, ⟨superName, superNamed⟩, names, allNamed⟩
    rw [checkReferences, name, named, superNamed, allNamed]
    rfl

/-! ## Reading and writing -/

theorem spans_decodeMagic {input rest : List UInt8}
    (read : decodeMagic input = .ok ((), rest)) :
    (Encoding.u32 magic).Spans input rest := by
  rcases bind_eq_ok read with ⟨⟨found, afterMagic⟩, readMagic, read⟩
  simp only at read
  split at read
  · next same =>
      cases read
      rw [← same]
      exact spans_u32 readMagic
  · cases read

theorem readsBack_decodeMagic : ReadsBack decodeMagic (.u32 magic) () := by
  show ReadsBack
    (u32.andThen fun found input =>
      if found = magic then
        .ok ((), input)
      else
        .error (.fault (.badMagic found)))
    (.u32 magic) ()
  rw [← Encoding.append_empty (.u32 magic)]
  apply (readsBack_u32 magic).andThen
  simp only [↓reduceIte]
  exact ReadsBack.done ()

/--
A class which was read is well-formed and written as the bytes it was read from.
-/
theorem spans_decode
    {class_ : CompiledClass} {input rest : List UInt8}
    (read : decode input = .ok (class_, rest)) :
    class_.encode.Spans input rest ∧ class_.WellFormed := by
  rcases bind_eq_ok read with ⟨⟨⟨⟩, afterMagic⟩, readMagic, read⟩
  rcases bind_eq_ok read with ⟨⟨minor, afterMinor⟩, readMinor, read⟩
  rcases bind_eq_ok read with ⟨⟨major, afterMajor⟩, readMajor, read⟩
  rcases bind_eq_ok read with ⟨⟨pool, afterPool⟩, readPool, read⟩
  rcases bind_eq_ok read with ⟨⟨flags, afterFlags⟩, readFlags, read⟩
  rcases bind_eq_ok read with ⟨⟨thisClass, afterThis⟩, readThis, read⟩
  rcases bind_eq_ok read with ⟨⟨superClass, afterSuper⟩, readSuper, read⟩
  rcases bind_eq_ok read with
    ⟨⟨interfaces, afterInterfaces⟩, readInterfaces, read⟩
  rcases bind_eq_ok read with ⟨⟨fields, afterFields⟩, readFields, read⟩
  rcases bind_eq_ok read with ⟨⟨methods, afterMethods⟩, readMethods, read⟩
  rcases bind_eq_ok read with
    ⟨⟨attributes, afterAttributes⟩, readAttributes, read⟩
  rcases bind_eq_ok read with ⟨checked, checks, finished⟩
  cases finished
  rcases checkReferences_eq_ok_iff.1 (eq_ok_of_mapError checks) with
    ⟨named, super, interfaced⟩
  rcases spans_counted .interfaceCount
    (fun _ found => ⟨spans_u16 found, trivial⟩)
    readInterfaces with ⟨spansInterfaces, -⟩
  rcases spans_counted .fieldCount (fun _ found => Field.spans_decode found)
    readFields with ⟨spansFields, namedFields⟩
  rcases spans_counted .methodCount (fun _ found => Method.spans_decode found)
    readMethods with ⟨spansMethods, fitting⟩
  rcases Attributes.spans_decode readAttributes with
    ⟨spansAttributes, namedAttributes⟩
  -- The class has a name, so there is something in the pool.
  have nonempty : 0 < pool.width := by
    rcases named with ⟨name, text, found, told⟩
    exact Pool.width_pos_of_get? found
  refine ⟨?_, named, super, interfaced, namedFields, fitting, namedAttributes⟩
  apply (spans_decodeMagic readMagic).append
  apply (spans_u16 readMinor).append
  apply (spans_u16 readMajor).append
  apply (Pool.spans_decode readPool nonempty).append
  apply (spans_u16 readFlags).append
  apply (spans_u16 readThis).append
  apply (spans_u16 readSuper).append
  apply spansInterfaces.append
  apply spansFields.append
  apply spansMethods.append
  exact spansAttributes.append (Encoding.Spans.empty rest)

/-- A class which is well-formed is read back from what it is written as. -/
theorem readsBack_decode {class_ : CompiledClass}
    (wellFormed : class_.WellFormed) :
    ReadsBack decode class_.encode class_ := by
  have checks : class_.checkReferences = .ok () :=
    checkReferences_eq_ok_iff.2 ⟨wellFormed.name, wellFormed.superClass,
      wellFormed.interfaces⟩
  show ReadsBack
    (decodeMagic.andThen fun _ =>
      u16.andThen fun minor =>
      u16.andThen fun major =>
      Pool.decode.andThen fun pool =>
      u16.andThen fun flags =>
      u16.andThen fun thisClass =>
      u16.andThen fun superClass =>
      (counted u16).andThen fun interfaces =>
      (counted (Field.decode pool)).andThen fun fields =>
      (counted (Method.decode pool)).andThen fun methods =>
      (Attributes.decode pool).andThen fun attributes input => do
        let class_ : CompiledClass := {
          major, minor, pool, flags := ⟨flags⟩, thisClass, superClass,
          interfaces, fields, methods, attributes }
        let _ ← class_.checkReferences.mapError .fault
        return (class_, input))
    class_.encode class_
  apply readsBack_decodeMagic.andThen
  apply (readsBack_u16 class_.minor).andThen
  apply (readsBack_u16 class_.major).andThen
  apply class_.pool.readsBack_decode.andThen
  apply (readsBack_u16 class_.flags.bits).andThen
  apply (readsBack_u16 class_.thisClass).andThen
  apply (readsBack_u16 class_.superClass).andThen
  apply (readsBack_counted .interfaceCount fun index _ =>
    readsBack_u16 index).andThen
  apply (readsBack_counted .fieldCount fun field member =>
    Field.readsBack_decode (wellFormed.fields field member)).andThen
  apply (readsBack_counted .methodCount fun method member =>
    Method.readsBack_decode (wellFormed.methods method member)).andThen
  apply (Attributes.readsBack_decode wellFormed.attributes).andThen
  show ReadsBack (fun input => do
      let _ ← class_.checkReferences.mapError .fault
      return (class_, input))
    .empty class_
  rw [checks]
  exact ReadsBack.done class_

end CompiledClass

end ClassFormat
