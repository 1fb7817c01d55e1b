import ClassFormat.Proofs.CompiledClass.Faults
import ClassFormat.Stream

/-!
# Which faults are reported

Several of the faults are never reported for a class.  The name of an attribute
is looked up twice: first to find out how the payload is read, and once more
before it is read.  The pool does not change in between, so the second look
finds the same name, at every depth, and that a name differs is never reported.
A failure of the source is reported only if the source fails, which bytes that
are all there is do not.  And the only types which are read together with a
class are those of its methods, so no other name of a type is found at fault.

A reference into the pool is followed where a text or a class is needed and
nowhere else.  Whenever it is found at fault, the pool holds no such constant
there.
-/

namespace ClassFormat

open Decoder

namespace Pool

/-- A pool holds nothing, or a constant of another kind, at an index. -/
def Lacks (pool : Pool) (index : UInt16) (kind : ConstantKind) : Prop :=
  (pool.get? index).map Constant.kind ≠ some kind

theorem lacks_utf8_iff {pool : Pool} {index : UInt16} :
    pool.Lacks index .utf8 ↔ ∀ text, pool.get? index ≠ some (.utf8 text) := by
  rw [Lacks]
  cases pool.get? index with
  | none => simp
  | some constant => cases constant <;> simp [Constant.kind]

theorem lacks_classRef_iff {pool : Pool} {index : UInt16} :
    pool.Lacks index .classRef ↔
      ∀ name, pool.get? index ≠ some (.classRef name) := by
  rw [Lacks]
  cases pool.get? index with
  | none => simp
  | some constant => cases constant <;> simp [Constant.kind]

end Pool

namespace CompiledClass

/--
The pool which is read behind the magic number and the version at the front of
some bytes.
-/
def HasPool (bytes : List UInt8) (pool : Pool) : Prop :=
  ∃ minor major rest left, bytes = headed minor major rest ∧
    Pool.decode rest = .ok (pool, left)

/-- The faults which are reported for the bytes of a class. -/
inductive Reported (bytes : List UInt8) : FormatFault → Prop where
  | truncated : Reported bytes .truncated
  | badMagic (found : UInt32) : Reported bytes (.badMagic found)
  | unknownTag (tag : UInt8) : Reported bytes (.unknownTag tag)
  | poolCount (declared actual : Nat) :
      Reported bytes (.poolCount declared actual)
  | tooLarge (excess : Oversize) : Reported bytes (.tooLarge excess)
  | attributeLength (name : AttributeName) (declared actual : Nat) :
      Reported bytes (.attributeLength name.text declared actual)
  | wrongConstant {pool : Pool} (read : HasPool bytes pool) (index : UInt16)
      {kind : ConstantKind}
      (followed : kind = .utf8 ∨ kind = .classRef)
      (lacks : pool.Lacks index kind) :
      Reported bytes (pool.wrongConstant index (.kind kind))
  | methodType (text : String) (reason : MethodFault) :
      Reported bytes (.typeName (.malformedMethodDescriptor text reason))

theorem Reported.of_straddling (bytes : List UInt8) (count : UInt16) :
    Reported bytes (Pool.straddlingFault count) := by
  rw [Pool.straddlingFault]
  split
  · exact .tooLarge _
  · exact .poolCount _ _

/--
What is behind the pool is at fault for few reasons, and every reference is
followed in the pool.
-/
theorem Reported.of_poolRefusal {bytes : List UInt8} {pool : Pool}
    {fault : FormatFault} (read : HasPool bytes pool)
    (refused : pool.Refusal fault) : Reported bytes fault := by
  cases refused with
  | truncated => exact .truncated
  | attributeLength name shorter => exact .attributeLength name _ _
  | noText other =>
      exact .wrongConstant read _ (.inl rfl) (Pool.lacks_utf8_iff.2 other)
  | noClass other =>
      exact .wrongConstant read _ (.inr rfl) (Pool.lacks_classRef_iff.2 other)
  | methodType text reason => exact .methodType text reason

theorem reported_of_parse {bytes : List UInt8} {fault : FormatFault}
    (refused : parse bytes = .error fault) : Reported bytes fault := by
  cases refusal_of_parse refused with
  | early => exact .truncated
  | magic found => exact .badMagic found
  | pool stopped =>
      rcases Pool.fault_of_decode stopped with
        ⟨tag, rfl⟩ | ⟨count, body, -, -, rfl⟩
      · exact .unknownTag tag
      · exact .of_straddling _ count
  | behindPool read behind =>
      exact .of_poolRefusal ⟨_, _, _, _, rfl, read⟩ behind

end CompiledClass

namespace Source

/-- Only a source which fails is reported to have failed. -/
theorem failure_of_readClass {source : Source} {failure : IoFailure}
    (refused : source.readClass = .error (.io failure)) :
    source.failure = some failure := by
  rw [readClass] at refused
  split at refused
  · cases refused
  · cases ends : source.failure with
    | none =>
        rw [endFault, ends] at refused
        cases refused
    | some cause =>
        simp only [endFault, ends, FormatFault.ofIo] at refused
        split at refused
        · cases refused
        · cases refused
          rfl
  · next fault stopped =>
      cases refused
      have reported : CompiledClass.parse source.bytes =
          .error (.io failure) := by
        rw [CompiledClass.parse, sealed, stopped]
        rfl
      cases CompiledClass.reported_of_parse reported

end Source

namespace CompiledClass

/--
Whatever is reported for a class which is read from bytes that are all there is:
neither does a name differ which an attribute is read by, nor does the source
fail, nor is the name of a type at fault unless it is a method descriptor.  A
constant is reported as the wrong one only where a text or a class is needed,
and then the pool holds another kind of constant there, or nothing, as it is
reported.
-/
theorem reported_faults_are_genuine (bytes : List UInt8) (fault : FormatFault)
    (refused : (Source.ofBytes bytes).readClass = .error fault) :
    (∀ expected found, fault ≠ .attributeName expected found) ∧
      (∀ failure, fault ≠ .io failure) ∧
      (∀ cause, fault = .typeName cause →
        ∃ text reason, cause = .malformedMethodDescriptor text reason) ∧
      ∀ index expected found, fault = .wrongConstant index expected found →
        ∃ pool kind, HasPool bytes pool ∧ expected = .kind kind ∧
          (kind = .utf8 ∨ kind = .classRef) ∧
            found = (pool.get? index).map Constant.kind ∧
              found ≠ some kind := by
  have parsed : parse bytes = .error fault := by
    rwa [← Source.readClass_ofBytes]
  have reported := reported_of_parse parsed
  refine ⟨?_, ?_, ?_, ?_⟩
  · rintro expected found rfl
    cases reported
  · rintro failure rfl
    have failed := Source.failure_of_readClass refused
    cases failed
  · rintro cause rfl
    cases reported with
    | methodType text reason => exact ⟨text, reason, rfl⟩
  · rintro index expected found rfl
    cases reported with
    | @wrongConstant pool read _ kind followed lacks =>
        exact ⟨pool, kind, read, rfl, followed, rfl, lacks⟩

/--
The attribute inside of the code of the sample, named by a number of eight
bytes.
-/
theorem reported_faults_are_genuine_sample :
    (Source.ofBytes (sampleBytes.set 83 3)).readClass =
        .error (.wrongConstant 3 (.kind .utf8) (some .long)) ∧
      ∃ pool kind, HasPool (sampleBytes.set 83 3) pool ∧
        Expected.kind .utf8 = .kind kind ∧ (kind = .utf8 ∨ kind = .classRef) ∧
          some .long = (pool.get? 3).map Constant.kind ∧
            some .long ≠ some kind := by
  have refused : (Source.ofBytes (sampleBytes.set 83 3)).readClass =
      .error (.wrongConstant 3 (.kind .utf8) (some .long)) := by decide +kernel
  exact ⟨refused, (reported_faults_are_genuine _ _ refused).2.2.2 _ _ _ rfl⟩

end CompiledClass

end ClassFormat
