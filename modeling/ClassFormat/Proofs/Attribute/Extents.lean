import ClassFormat.Proofs.Attribute.Binary
import ClassFormat.Proofs.Binary.Extents

/-!
# Counts and lengths in attributes

What is planned for an attribute is planned for what it holds.  The size of a
payload is that of its content, and for code this includes the records of the
attributes inside, so it is found by recursion.

An attribute stays within its limits if the lists it holds have no more entries,
and its code and its payload no more bytes, than can be told.  Everything which
is planned for some attributes fits exactly if every attribute which occurs
among them, at any depth, stays within its limits.
-/

namespace ClassFormat

open Encoding

theorem Handler.follows_encode (handler : Handler) :
    handler.encode.Follows (.bytes 8) :=
  (((follows_u16 handler.start).append (follows_u16 handler.stop)).append
    (follows_u16 handler.handler)).append (follows_u16 handler.catchType)

theorem InnerClass.follows_encode (class_ : InnerClass) :
    class_.encode.Follows (.bytes 8) :=
  (((follows_u16 class_.inner).append (follows_u16 class_.outer)).append
    (follows_u16 class_.name)).append (follows_u16 class_.flags.bits)

theorem LocalVariable.follows_encode (variable_ : LocalVariable) :
    variable_.encode.Follows (.bytes 10) :=
  ((((follows_u16 variable_.start).append (follows_u16 variable_.length)).append
    (follows_u16 variable_.name)).append
      (follows_u16 variable_.descriptor)).append
      (follows_u16 variable_.index)

/-- What is planned for some code up to its attributes. -/
def Code.plan (code : Code) : Plan :=
  .bytes 4 ++ .measure .codeLength code.instructions.length ++
    .bytes code.instructions.length ++
    .counted .exceptionTableLength (fun _ => .bytes 8) code.handlers

theorem Code.follows_encode (code : Code) : code.encode.Follows code.plan :=
  ((((follows_u16 code.maxStack).append (follows_u16 code.maxLocals)).append
    (follows_length32 rfl code.instructions.length)).append
      (follows_ofBytes rfl)).append
      (Follows.counted rfl fun handler _ => handler.follows_encode)

/-- What is planned for a content. -/
def Content.plan : Content → Plan
  | constantValue _ | signature _ => .bytes 2
  | deprecated | synthetic => .bytes 0
  | exceptions classes => .counted .exceptionCount (fun _ => .bytes 2) classes
  | innerClasses classes =>
    .counted .innerClassCount (fun _ => .bytes 8) classes
  | localVariableTable entries =>
    .counted .localVariableCount (fun _ => .bytes 10) entries
  | unknown bytes => .bytes bytes.length

theorem Content.follows_encode (content : Content) :
    content.encode.Follows content.plan := by
  cases content with
  | constantValue value => exact follows_u16 value
  | deprecated => exact follows_empty
  | exceptions classes =>
      exact Follows.counted rfl fun index _ => follows_u16 index
  | innerClasses classes =>
      exact Follows.counted rfl fun class_ _ => class_.follows_encode
  | localVariableTable entries =>
      exact Follows.counted rfl fun entry _ => entry.follows_encode
  | signature text => exact follows_u16 text
  | synthetic => exact follows_empty
  | unknown bytes => exact follows_ofBytes rfl

/--
A record is put out behind its name and its length, and only if its payload is.
-/
theorem AttributeRecord.follows_encode {payload : Encoding} {plan : Plan}
    (follows : payload.Follows plan) (name : UInt16) :
    (encode name payload).Follows (.record plan) where
  excess := by
    rw [Plan.oversize?_record, ← follows.excess]
    rcases payload with ⟨inner, none | excess⟩
    · have size := (follows.told inner rfl).1
      have ofLength : (length32 .attributeLength inner.length).Follows _ :=
        follows_length32 rfl _
      rw [← size, ← ofLength.excess, Option.none_or]
      cases known : (length32 .attributeLength inner.length).excess with
      | none =>
          simp only [encode, known, excess_append, u16, ofBytes, Option.none_or]
      | some excess => simp only [encode, known]
    · rfl
  told := by
    intro bytes whole
    rcases payload_of_encode whole with ⟨inner, rfl, fits⟩
    rcases follows.told inner rfl with ⟨size, told⟩
    rw [encode_ofBytes fits] at whole
    have written : length32 .attributeLength inner.length = .ofBytes _ :=
      length32_eq_ofBytes_iff.2 ⟨fits, rfl⟩
    rw [written] at whole
    have split :
        bytes = bytes16 name ++ bytes32 inner.length.toUInt32 ++ inner := by
      rw [List.append_assoc]
      exact (ofBytes_inj.1 whole).symm
    constructor
    · rw [split, List.length_append, size]
      rfl
    · intro extent member
      rcases List.mem_append.1 member with inside | last
      · rcases List.mem_map.1 inside with ⟨deeper, deeperMember, rfl⟩
        rw [split]
        exact (told deeper deeperMember).behind
          (bytes16 name ++ bytes32 inner.length.toUInt32)
      · cases List.mem_singleton.1 last
        refine ⟨bytes16 name, bytes32 inner.length.toUInt32, inner, ?_, rfl,
          rfl, ?_⟩
        · rw [split, List.append_assoc]
        · rw [number_bytes32, ← size]
          exact UInt32.toNat_ofNat_of_lt' fits

/-! ## Attributes inside of attributes -/

namespace Attribute

mutual

/-- What is planned for the payload of an attribute. -/
def payload : Attribute → Plan
  | plain _ content => content.plan
  | code _ body nested =>
    body.plan ++ (.measure .attributeCount nested.length ++ records nested)

/-- What is planned for the records of some attributes. -/
def records : List Attribute → Plan
  | [] => .bytes 0
  | first :: others => .record (payload first) ++ records others

end

theorem records_eq_concat (attributes : List Attribute) :
    records attributes =
      .concat (attributes.map fun attr => .record attr.payload) := by
  induction attributes with
  | nil => rfl
  | cons attr others hypothesis =>
      rw [records, hypothesis]
      rfl

/--
An attribute whose lists and whose code are not too long, those of attributes
inside of it apart.
-/
def ListsFit : Attribute → Prop
  | plain _ (.exceptions classes) => classes.length < 65536
  | plain _ (.innerClasses classes) => classes.length < 65536
  | plain _ (.localVariableTable entries) => entries.length < 65536
  | plain _ _ => True
  | code _ body nested =>
    body.instructions.length < 4294967296 ∧ body.handlers.length < 65536 ∧
      nested.length < 65536

/--
An attribute of which nothing is too long, the attributes inside of it apart.
-/
structure WithinLimits (attr : Attribute) : Prop where
  lists : attr.ListsFit
  payload : attr.payload.size < 4294967296

end Attribute

/-- What is planned for some attributes behind their count. -/
def Attributes.plan (attributes : Attributes) : Plan :=
  .counted .attributeCount (fun attr => .record attr.payload) attributes

theorem Attribute.payload_code (name : UInt16) (body : Code)
    (nested : Attributes) :
    (code name body nested).payload = body.plan ++ nested.plan := by
  rw [payload, records_eq_concat]
  rfl

theorem Attribute.follows_encode (attr : Attribute) :
    attr.encode.Follows (.record attr.payload) := by
  induction attr with
  | plain name content =>
      rw [encode, payload]
      exact AttributeRecord.follows_encode content.follows_encode name
  | code name body nested hypothesis =>
      have inside : (Encoding.counted .attributeCount encode nested).Follows
          (Attributes.plan nested) :=
        Follows.counted rfl hypothesis
      rw [encode, encodeOnto_eq_map, payload_code, Encoding.append_assoc]
      exact AttributeRecord.follows_encode
        (body.follows_encode.append inside) name

theorem Attributes.follows_encode (attributes : Attributes) :
    attributes.encode.Follows attributes.plan := by
  rw [encode_eq_counted]
  exact Follows.counted rfl fun attr _ => attr.follows_encode

/-! ## Limits -/

namespace Attribute

theorem withinLimits_iff {attr : Attribute} :
    attr.WithinLimits ↔ attr.ListsFit ∧ attr.payload.size < 4294967296 :=
  ⟨fun within => ⟨within.lists, within.payload⟩, fun ⟨lists, payload⟩ =>
    ⟨lists, payload⟩⟩

theorem listsFit_plain {name : UInt16} {content : Content} :
    (plain name content).ListsFit ↔ content.plan.Fits := by
  cases content <;> simp [ListsFit, Content.plan, Measure.limit]

theorem listsFit_code {name : UInt16} {body : Code} {nested : Attributes} :
    (code name body nested).ListsFit ↔
      body.plan.Fits ∧ nested.length < 65536 := by
  simp [ListsFit, Code.plan, Measure.limit, and_assoc]

end Attribute

/--
Attributes fit behind their count if there are not too many of them and each of
them fits.
-/
theorem Attributes.fits_plan {attributes : Attributes} :
    attributes.plan.Fits ↔
      attributes.length < 65536 ∧
        ∀ attr ∈ attributes, (Plan.record attr.payload).Fits :=
  Plan.fits_counted

/--
A record fits if the attribute and all attributes inside of it stay within their
limits.
-/
theorem Attribute.fits_record_iff {attr : Attribute} :
    (Plan.record attr.payload).Fits ↔
      ∀ other : Attribute, other.Occurs [attr] → other.WithinLimits := by
  induction attr with
  | plain name content =>
      simp only [occurs_plain_iff, forall_eq, withinLimits_iff, listsFit_plain,
        Plan.fits_record, payload]
  | code name body nested hypothesis =>
      have inside : (∀ other : Attribute, other.Occurs nested →
          other.WithinLimits) ↔
          ∀ attr ∈ nested, (Plan.record attr.payload).Fits := by
        rw [forall_occurs_iff]
        exact forall₂_congr fun attr member => (hypothesis attr member).symm
      simp only [occurs_code_iff, forall_eq_or_imp, inside]
      rw [Plan.fits_record, withinLimits_iff, listsFit_code, payload_code,
        Plan.fits_append, Attributes.fits_plan]
      constructor
      · rintro ⟨⟨bodyFits, few, insideFits⟩, size⟩
        exact ⟨⟨⟨bodyFits, few⟩, size⟩, insideFits⟩
      · rintro ⟨⟨⟨bodyFits, few⟩, size⟩, insideFits⟩
        exact ⟨⟨bodyFits, few, insideFits⟩, size⟩

/--
Attributes fit if there are not too many, and all of them at any depth stay
within their limits.
-/
theorem Attributes.fits_plan_iff {attributes : Attributes} :
    attributes.plan.Fits ↔
      attributes.length < 65536 ∧
        ∀ attr : Attribute, attr.Occurs attributes → attr.WithinLimits := by
  rw [fits_plan, Attribute.forall_occurs_iff]
  simp only [Attribute.fits_record_iff]

end ClassFormat
