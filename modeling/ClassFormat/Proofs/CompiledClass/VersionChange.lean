import Mathlib.Data.List.Forall2
import ClassFormat.Proofs.CompiledClass.VersionRuns

/-!
# A single change of the version

What a change of the version which takes a class below Java 5 does to it, part
by part: which bits of the flags it clears, which attributes it appends, and
what it adds to the pool.  All the rest stays.
-/

namespace ClassFormat

/-! ## Flags and attributes -/

namespace Flags

variable {owner : FlagOwner}

/-- Whether a set of flags has the bit at a place. -/
def bit (flags : Flags owner) (place : Fin 16) : Bool :=
  flags.bits.toBitVec[place]

/-- The flags of an owner which came with Java 5, one by one. -/
def java5 : (owner : FlagOwner) → List (Flags owner)
  | .class_ => [.synthetic, .annotationClass, .enumClass]
  | .field => [.synthetic, .enumField]
  | .method => [.synthetic, .bridge, .varargs]

theorem bit_remove (flags others : Flags owner) (place : Fin 16) :
    (flags.remove others).bit place =
      (flags.bit place && !others.bit place) := by
  simp [bit, remove]

theorem bit_sinceJava5 (owner : FlagOwner) (place : Fin 16) :
    (sinceJava5 owner).bit place = (java5 owner).any (·.bit place) := by
  revert place
  cases owner <;> decide

end Flags

/--
How the marking of a class, a field or a method comes out of a downgrade: the
bits of the flags which came with Java 5 are cleared and all others kept, and
one attribute is appended in place of the synthetic flag.
-/
structure Marking.Downgrades {owner : FlagOwner} (name : UInt16)
    (before after : Marking owner) :
    Prop where
  flags : ∀ place,
    after.flags.bit place =
      (before.flags.bit place && !(Flags.java5 owner).any (·.bit place))
  attributes : after.attributes =
    before.attributes ++
      if before.flags.contains .synthetic then [.plain name .synthetic] else []

/-- How a field comes out of a downgrade. -/
structure Field.Downgrades (name : UInt16) (before after : Field) : Prop where
  marking : before.marking.Downgrades name after.marking
  name : after.name = before.name
  descriptor : after.descriptor = before.descriptor

/-- How a method comes out of a downgrade. -/
structure Method.Downgrades (name : UInt16) (before after : Method) : Prop where
  marking : before.marking.Downgrades name after.marking
  name : after.name = before.name
  descriptor : after.descriptor = before.descriptor
  types : after.types = before.types

theorem Marking.downgrades_lowered {owner : FlagOwner} (name : UInt16)
    (marking : Marking owner) :
    marking.Downgrades name (marking.lowered name) where
  flags := by
    intro place
    rw [← Flags.bit_sinceJava5]
    exact Flags.bit_remove marking.flags (.sinceJava5 owner) place
  attributes := rfl

theorem Field.downgrades_lowered (name : UInt16) (field : Field) :
    field.Downgrades name (field.lowered name) where
  marking := field.marking.downgrades_lowered name
  name := rfl
  descriptor := rfl

theorem Method.downgrades_lowered (name : UInt16) (method : Method) :
    method.Downgrades name (method.lowered name) where
  marking := method.marking.downgrades_lowered name
  name := rfl
  descriptor := rfl
  types := rfl

namespace CompiledClass

/-! ## Classes -/

/--
The class, one of its fields or one of its methods has the synthetic flag.
-/
def SomeSynthetic (class_ : CompiledClass) : Prop :=
  class_.flags.contains .synthetic = true ∨
    (∃ field ∈ class_.fields, field.flags.contains .synthetic = true) ∨
      ∃ method ∈ class_.methods, method.flags.contains .synthetic = true

/--
A downgrade has attributes to append, and no entry of the pool holds their name.
-/
def NeedsName (class_ : CompiledClass) : Prop :=
  class_.SomeSynthetic ∧ syntheticName ∉ class_.pool.entries.toList

theorem hasSyntheticFlags_iff {class_ : CompiledClass} :
    class_.hasSyntheticFlags = true ↔ class_.SomeSynthetic := by
  simp [hasSyntheticFlags, SomeSynthetic, or_assoc]

/--
How a class comes out of a change of the version which takes it below Java 5,
with the index of the name of the attributes which were appended.
-/
structure Downgrades (name : UInt16) (asked : Version)
    (before after : CompiledClass) : Prop where
  version : after.version = asked
  marking : before.marking.Downgrades name after.marking
  fields : List.Forall₂ (Field.Downgrades name) before.fields after.fields
  methods : List.Forall₂ (Method.Downgrades name) before.methods after.methods
  named : before.SomeSynthetic → after.pool.text name = .ok "Synthetic"
  extended : before.NeedsName →
    after.pool.entries.toList = before.pool.entries.toList ++ [syntheticName]
  samePool : ¬before.NeedsName → after.pool = before.pool
  thisClass : after.thisClass = before.thisClass
  superClass : after.superClass = before.superClass
  interfaces : after.interfaces = before.interfaces

/--
A downgrade adds the name of its attributes to the pool if it is needed, and
nothing else.
-/
theorem pool_of_downgrade {class_ after : CompiledClass}
    (downgraded : class_.downgrade = .ok after) :
    (class_.NeedsName →
      after.pool.entries.toList =
        class_.pool.entries.toList ++ [syntheticName]) ∧
    (¬class_.NeedsName → after.pool = class_.pool) := by
  rw [downgrade] at downgraded
  split at downgraded
  · next flagged =>
      have someSynthetic := hasSyntheticFlags_iff.1 flagged
      rcases Decoder.bind_eq_ok downgraded with ⟨⟨mark, pool⟩, made, done⟩
      rcases Decoder.bind_eq_ok made with ⟨⟨name, extended⟩, interned, marked⟩
      cases marked
      cases done
      rcases Pool.entries_of_intern interned with ⟨appended, kept⟩
      refine ⟨fun needed => appended needed.2, fun unneeded => kept ?_⟩
      exact Decidable.not_not.1 fun missing => unneeded ⟨someSynthetic, missing⟩
  · next unflagged =>
      cases downgraded
      refine ⟨?_, fun _ => rfl⟩
      exact fun needed => absurd (hasSyntheticFlags_iff.2 needed.1) unflagged

theorem exists_downgrade_of_setVersion
    {class_ after : CompiledClass} {asked : Version}
    (crosses : CrossesDown class_.version asked)
    (set : class_.setVersion asked.major asked.minor = .ok after) :
    ∃ lowered, class_.downgrade = .ok lowered ∧
      lowered.atVersion asked = after := by
  rw [setVersion_eq, if_pos crosses] at set
  exact Decoder.exists_of_map_eq_ok set

/--
What a change of the version does which takes a class below Java 5 and succeeds.
Every member comes out in its place, and of all its bits, attributes and indices
none has changed but those which had to.
-/
theorem downgrades_of_setVersion
    {class_ after : CompiledClass} {asked : Version}
    (recent : 49 ≤ class_.major) (older : asked.major < 49)
    (set : class_.setVersion asked.major asked.minor = .ok after) :
    ∃ name, class_.Downgrades name asked after := by
  rcases exists_downgrade_of_setVersion ⟨recent, older⟩ set with
    ⟨lowered, downgraded, rfl⟩
  rcases isLowered_of_downgrade downgraded with ⟨name, isLowered⟩
  rcases pool_of_downgrade downgraded with ⟨extended, samePool⟩
  have named : class_.SomeSynthetic →
      lowered.pool.text name = .ok "Synthetic" := by
    intro flagged
    have found := isLowered.named (hasSyntheticFlags_iff.2 flagged)
    exact Pool.text_eq_ok_iff.2 ⟨_, found, ModifiedUtf8.text_ofText _⟩
  have whole := isLowered.eq_lowered
  generalize lowered.pool = pool at *
  subst whole
  exact ⟨name, {
    version := rfl
    marking := class_.marking.downgrades_lowered name
    fields := List.forall₂_map_right_iff.2
      (List.forall₂_same.2 fun field _ => field.downgrades_lowered name)
    methods := List.forall₂_map_right_iff.2
      (List.forall₂_same.2 fun method _ => method.downgrades_lowered name)
    named, extended, samePool
    thisClass := rfl
    superClass := rfl
    interfaces := rfl }⟩

/--
All flags of the class are set, and those of a field which has an attribute
already.
-/
theorem downgrades_of_setVersion_sample :
    let field : Field := ⟨⟨0xffff⟩, 1, 1, [.plain 1 .deprecated]⟩
    let class_ := { sample with flags := ⟨0xffff⟩, fields := [field] }
    49 ≤ class_.major ∧ (48 : UInt16) < 49 ∧
      ∃ after, class_.setVersion 48 3 = .ok after ∧
        ∃ name, class_.Downgrades name ⟨48, 3⟩ after := by
  intro field class_
  have recent : 49 ≤ class_.major := by decide
  have older : (48 : UInt16) < 49 := by decide
  have granted : (class_.setVersion 48 3).isOk = true := by decide +kernel
  cases set : class_.setVersion 48 3 with
  | error fault =>
      rw [set] at granted
      cases granted
  | ok after =>
      exact ⟨recent, older, after, rfl,
        downgrades_of_setVersion recent older set⟩

end CompiledClass

end ClassFormat
