import ClassFormat.Proofs.Attribute.Extents
import ClassFormat.Proofs.CompiledClass.EditRuns

/-!
# Counts and lengths in class files

The plan of a class lists every count and every length of its class file: those
of texts, of the interfaces, of the members, and of attributes at any depth.
Writing never cuts one of them down to its field.  Either all of them fit, and
then the class file tells each of them in its place, or the first one which does
not is reported with its true size.
-/

namespace ClassFormat

open Encoding

/-- What is planned for a constant. -/
def Constant.plan : Constant → Plan
  | utf8 text =>
    .bytes 1 ++
      (.measure .utf8Length text.bytes.length ++ .bytes text.bytes.length)
  | classRef _ | string _ | methodType _ | moduleRef _ | packageRef _ =>
    .bytes 3
  | methodHandle _ _ => .bytes 4
  | integer _ | float _ => .bytes 5
  | fieldRef _ _ | methodRef _ _ | interfaceMethodRef _ _ | nameAndType _ _ =>
    .bytes 5
  | dynamic _ _ | invokeDynamic _ _ => .bytes 5
  | long _ _ | double _ _ => .bytes 9

theorem Constant.follows_encode (constant : Constant) :
    constant.encode.Follows constant.plan := by
  have tag := follows_u8 constant.kind.tag
  cases constant with
  | utf8 text =>
      exact tag.append
        ((follows_count16 rfl text.bytes.length).append (follows_ofBytes rfl))
  | integer bits | float bits => exact tag.append (follows_u32 bits)
  | long high low | double high low =>
      exact tag.append ((follows_u32 high).append (follows_u32 low))
  | classRef index | string index | methodType index | moduleRef index
  | packageRef index =>
      exact tag.append (follows_u16 index)
  | fieldRef first second | methodRef first second
  | interfaceMethodRef first second
  | nameAndType first second | dynamic first second
  | invokeDynamic first second =>
      exact tag.append ((follows_u16 first).append (follows_u16 second))
  | methodHandle kind reference =>
      exact tag.append ((follows_u8 kind).append (follows_u16 reference))

/-- Only the length of a text may be too large for a constant. -/
theorem Constant.fits_plan {constant : Constant} :
    constant.plan.Fits ↔
      ∀ text, constant = .utf8 text → text.bytes.length < 65536 := by
  cases constant <;> simp [plan, Measure.limit]

/-- What is planned for a pool. -/
def Pool.plan (pool : Pool) : Plan :=
  .measure .poolCount (pool.width + 1) ++
    .concat (pool.entries.toList.map Constant.plan)

theorem Pool.follows_encode (pool : Pool) : pool.encode.Follows pool.plan :=
  (follows_count16 rfl (pool.width + 1)).append
    (Follows.concat fun constant _ => constant.follows_encode)

/--
The count of a pool always fits, since no pool has more indices than that.
-/
theorem Pool.fits_plan {pool : Pool} :
    pool.plan.Fits ↔
      ∀ text, Constant.utf8 text ∈ pool.entries.toList →
        text.bytes.length < 65536 := by
  have room : pool.width + 1 < 65536 := by
    have bound : pool.width ≤ maxWidth := pool.width_le
    simp only [maxWidth] at bound
    omega
  have narrow : Measure.poolCount.limit = 65536 := rfl
  simp only [plan, Plan.fits_append, Plan.fits_measure, narrow, room, true_and,
    Plan.fits_concat, List.forall_mem_map, Constant.fits_plan]
  constructor
  · intro fits text member
    exact fits _ member text rfl
  · rintro fits constant member text rfl
    exact fits text member

/-- What is planned for a member with some attributes. -/
def memberPlan (attributes : Attributes) : Plan :=
  .bytes 6 ++ attributes.plan

theorem Field.follows_encode (field : Field) :
    field.encode.Follows (memberPlan field.attributes) :=
  (((follows_u16 field.flags.bits).append (follows_u16 field.name)).append
    (follows_u16 field.descriptor)).append field.attributes.follows_encode

theorem Method.follows_encode (method : Method) :
    method.encode.Follows (memberPlan method.attributes) :=
  (((follows_u16 method.flags.bits).append (follows_u16 method.name)).append
    (follows_u16 method.descriptor)).append method.attributes.follows_encode

namespace CompiledClass

/-- What is planned for a class. -/
def plan (class_ : CompiledClass) : Plan :=
  .concat [
    .bytes 4, .bytes 2, .bytes 2, class_.pool.plan, .bytes 2, .bytes 2,
    .bytes 2,
    .counted .interfaceCount (fun _ => .bytes 2) class_.interfaces,
    .counted .fieldCount (fun field => memberPlan field.attributes)
      class_.fields,
    .counted .methodCount (fun method => memberPlan method.attributes)
      class_.methods,
    class_.attributes.plan]

theorem follows_encode (class_ : CompiledClass) :
    class_.encode.Follows class_.plan := by
  have ofInterfaces :
      (counted .interfaceCount u16 class_.interfaces).Follows _ :=
    Follows.counted rfl fun index _ => follows_u16 index
  have ofFields : (counted .fieldCount Field.encode class_.fields).Follows _ :=
    Follows.counted rfl fun field _ => field.follows_encode
  have ofMethods :
      (counted .methodCount Method.encode class_.methods).Follows _ :=
    Follows.counted rfl fun method _ => method.follows_encode
  have behindPool := (follows_u16 class_.flags.bits).append <|
    (follows_u16 class_.thisClass).append <|
      (follows_u16 class_.superClass).append <|
    ofInterfaces.append <| ofFields.append <| ofMethods.append <|
    class_.attributes.follows_encode.append follows_empty
  exact (follows_u32 magic).append <| (follows_u16 class_.minor).append <|
    (follows_u16 class_.major).append <|
      class_.pool.follows_encode.append behindPool

/--
A class of which nothing is too long: no text, no list of anything, no code and
no payload.
-/
structure WithinLimits (class_ : CompiledClass) : Prop where
  texts : ∀ text, Constant.utf8 text ∈ class_.pool.entries.toList →
    text.bytes.length < 65536
  interfaces : class_.interfaces.length < 65536
  fields : class_.fields.length < 65536
  methods : class_.methods.length < 65536
  attributes : class_.attributes.length < 65536
  fieldAttributes : ∀ field ∈ class_.fields, field.attributes.length < 65536
  methodAttributes : ∀ method ∈ class_.methods, method.attributes.length < 65536
  held : ∀ attr : Attribute, class_.Holds attr → attr.WithinLimits

/--
What is planned for a class fits exactly if nothing in the class is too long.
-/
theorem fits_plan_iff {class_ : CompiledClass} :
    class_.plan.Fits ↔ class_.WithinLimits := by
  simp only [plan, Plan.fits_concat, List.forall_mem_cons, Plan.fits_bytes,
    true_and, Pool.fits_plan, Plan.fits_counted, implies_true, and_true,
    memberPlan, Plan.fits_append, Attributes.fits_plan_iff, List.not_mem_nil,
    false_imp_iff]
  constructor
  · rintro ⟨texts, interfaces, ⟨fields, ofFields⟩, ⟨methods, ofMethods⟩,
      attributes, ofClass⟩
    refine {
      texts, interfaces, fields, methods, attributes
      fieldAttributes := fun field member => (ofFields field member).1
      methodAttributes := fun method member => (ofMethods method member).1
      held := ?_ }
    rintro attr (occurs | ⟨field, member, occurs⟩ | ⟨method, member, occurs⟩)
    · exact ofClass attr occurs
    · exact (ofFields field member).2 attr occurs
    · exact (ofMethods method member).2 attr occurs
  · intro within
    refine ⟨within.texts, within.interfaces, ⟨within.fields, ?_⟩,
      ⟨within.methods, ?_⟩, within.attributes, ?_⟩
    · intro field member
      exact ⟨within.fieldAttributes field member,
        fun attr occurs =>
          within.held attr (Or.inr (Or.inl ⟨field, member, occurs⟩))⟩
    · intro method member
      exact ⟨within.methodAttributes method member,
        fun attr occurs =>
          within.held attr (Or.inr (Or.inr ⟨method, member, occurs⟩))⟩
    · exact fun attr occurs => within.held attr (Or.inl occurs)

/-! ## Writing -/

theorem toBytes_eq_error_iff {class_ : CompiledClass} {fault : FormatFault} :
    class_.toBytes = .error fault ↔
      ∃ excess, class_.plan.oversize? = some excess ∧
        fault = .tooLarge excess := by
  rw [toBytes, Encoding.toBytes, ← class_.follows_encode.excess]
  cases class_.encode.excess with
  | none => simp
  | some excess => simp [eq_comm]

theorem exists_toBytes_iff {class_ : CompiledClass} :
    (∃ bytes, class_.toBytes = .ok bytes) ↔ class_.WithinLimits := by
  rw [← fits_plan_iff, ← Plan.oversize?_eq_none_iff,
    ← class_.follows_encode.excess, toBytes, Encoding.toBytes]
  cases class_.encode.excess with
  | none => simp
  | some excess => simp

/--
A class is written exactly if nothing in it is too long.  Every count and every
length of the class then stands in its place of the class file with its true
value.  Otherwise it is the first of them which exceeds its field, in the order
of writing, that is reported with its true value: what is inside of a payload
comes before the length of the payload.
-/
theorem toBytes_never_truncates (class_ : CompiledClass) :
    ((∃ bytes, class_.toBytes = .ok bytes) ↔ class_.WithinLimits) ∧
      (∀ bytes, class_.toBytes = .ok bytes →
        bytes.length = class_.plan.size ∧
          ∀ extent ∈ class_.plan.extents, extent.StandsIn bytes) ∧
      ∀ fault, class_.toBytes = .error fault ↔
        ∃ before extent after, class_.plan.extents = before ++ extent :: after ∧
          (∀ earlier ∈ before, earlier.Fits) ∧ ¬ extent.Fits ∧
            fault = .tooLarge extent.oversize := by
  refine ⟨exists_toBytes_iff, ?_, ?_⟩
  · intro bytes written
    exact class_.follows_encode.told bytes
      (Encoding.toBytes_eq_ok_iff.1 written)
  · intro fault
    rw [toBytes_eq_error_iff]
    constructor
    · rintro ⟨excess, first, rfl⟩
      rcases Plan.oversize?_eq_some_iff.1 first with
        ⟨before, extent, after, split, fitting, exceeds, rfl⟩
      exact ⟨before, extent, after, split, fitting, exceeds, rfl⟩
    · rintro ⟨before, extent, after, split, fitting, exceeds, rfl⟩
      exact ⟨extent.oversize,
        Plan.oversize?_eq_some_iff.2 ⟨before, extent, after, split, fitting,
          exceeds, rfl⟩, rfl⟩

/-- The sample is written, but not with more interfaces than can be counted. -/
theorem toBytes_never_truncates_sample :
    sample.toBytes = .ok sampleBytes ∧ sample.WithinLimits ∧
      (sampleBytes.length = sample.plan.size ∧
        ∀ extent ∈ sample.plan.extents, extent.StandsIn sampleBytes) ∧
      ¬ ∃ bytes,
        toBytes { sample with interfaces := List.replicate 65536 2 } =
          .ok bytes := by
  have written : sample.toBytes = .ok sampleBytes := by decide +kernel
  have truth := toBytes_never_truncates sample
  refine ⟨written, truth.1.1 ⟨sampleBytes, written⟩,
    truth.2.1 sampleBytes written, ?_⟩
  intro crowded
  have few := ((toBytes_never_truncates _).1.1 crowded).interfaces
  rw [List.length_replicate] at few
  exact absurd few (Nat.lt_irrefl 65536)

end CompiledClass

end ClassFormat
