import ClassFormat.CompiledClass.Version
import ClassFormat.Proofs.Pool.Resolution

/-!
# What a downgrade makes of a class

A class, a field and a method are all marked in two ways, by flags and by
attributes, and a downgrade treats them alike: the flags which came with Java 5
are removed, and whatever had the synthetic flag gets one attribute in its
place.  Whether something counts as synthetic, by either mark, is therefore the
same before and after.

Once lowered, a class has nothing left to be lowered.
-/

namespace ClassFormat

namespace Flags

variable {owner : FlagOwner}

/-- The flags of an owner which the formats below Java 5 do not have. -/
def sinceJava5 : (owner : FlagOwner) → Flags owner
  | .class_ => .insert (.insert .annotationClass .enumClass) .synthetic
  | .field => .insert .enumField .synthetic
  | .method => .insert (.insert .bridge .varargs) .synthetic

theorem remove_remove (flags first second : Flags owner) :
    (flags.remove first).remove second =
      flags.remove (first.insert second) := by
  simp only [remove, insert, mk.injEq]
  apply UInt16.eq_of_toBitVec_eq
  simp [BitVec.not_or, BitVec.and_assoc]

theorem remove_remove_self (flags others : Flags owner) :
    (flags.remove others).remove others = flags.remove others := by
  rw [remove_remove, insert, UInt16.or_self]

/-- Nothing is left of flags which were removed. -/
theorem contains_remove_eq_false
    {flags others part : Flags owner}
    (among : part.bits &&& others.bits = part.bits)
    (nonempty : part.bits ≠ 0) :
    (flags.remove others).contains part = false := by
  apply decide_eq_false
  intro left
  change flags.bits &&& ~~~others.bits &&& part.bits = part.bits at left
  apply nonempty
  calc
    part.bits =
        flags.bits &&& ~~~others.bits &&& part.bits &&& others.bits := by
      rw [left, among]
    _ = (flags.bits &&& part.bits) &&& (others.bits &&& ~~~others.bits) := by
      ac_rfl
    _ = 0 := by simp

theorem contains_synthetic_remove_sinceJava5 (flags : Flags owner) :
    (flags.remove (.sinceJava5 owner)).contains .synthetic = false := by
  apply contains_remove_eq_false
  · cases owner <;> decide
  · cases owner <;> decide

end Flags

/-! ## Markings -/

/-- The flags and the attributes of a class, a field or a method. -/
structure Marking (owner : FlagOwner) where
  flags : Flags owner
  attributes : Attributes

namespace Marking

variable {owner : FlagOwner}

/-- Whether there is a synthetic flag or a synthetic attribute. -/
def isSynthetic (marking : Marking owner) : Bool :=
  marking.flags.contains .synthetic || Attributes.isSynthetic marking.attributes

/--
A marking in the terms of the formats below Java 5: without the flags which
these do not have, and with an attribute, of which the index of the name is
given, in place of the synthetic flag.
-/
def lowered (name : UInt16) (marking : Marking owner) : Marking owner where
  flags := marking.flags.remove (.sinceJava5 owner)
  attributes := marking.attributes ++
    if marking.flags.contains .synthetic then [.plain name .synthetic] else []

@[simp]
theorem isSynthetic_lowered (name : UInt16) (marking : Marking owner) :
    (marking.lowered name).isSynthetic = marking.isSynthetic := by
  simp only [isSynthetic, lowered, Flags.contains_synthetic_remove_sinceJava5,
    Attributes.isSynthetic]
  cases marking.flags.contains .synthetic <;> simp

@[simp]
theorem lowered_lowered (name other : UInt16) (marking : Marking owner) :
    (marking.lowered name).lowered other = marking.lowered name := by
  simp [lowered, Flags.contains_synthetic_remove_sinceJava5,
    Flags.remove_remove_self]

end Marking

/-- A mark which is there if it is needed is appended where it is needed. -/
theorem CompiledClass.marked_eq
    {attributes : Attributes} {mark : Option Attribute} {name : UInt16}
    {isSynthetic : Bool}
    (marks : isSynthetic → mark = some (.plain name .synthetic)) :
    marked attributes mark isSynthetic =
      attributes ++ if isSynthetic then [.plain name .synthetic] else [] := by
  cases isSynthetic with
  | false => exact (List.append_nil attributes).symm
  | true =>
      rw [marks rfl]
      rfl

/-! ## Members -/

namespace Field

/-- How a field is marked. -/
def marking (field : Field) : Marking .field :=
  ⟨field.flags, field.attributes⟩

/-- A field in the terms of the formats below Java 5. -/
def lowered (name : UInt16) (field : Field) : Field :=
  { field with
    flags := (field.marking.lowered name).flags
    attributes := (field.marking.lowered name).attributes }

@[simp]
theorem marking_lowered (name : UInt16) (field : Field) :
    (field.lowered name).marking = field.marking.lowered name := rfl

@[simp]
theorem lowered_lowered (name other : UInt16) (field : Field) :
    (field.lowered name).lowered other = field.lowered name := by
  rw [lowered, marking_lowered, Marking.lowered_lowered]
  rfl

theorem downgradeField_eq
    {field : Field} {mark : Option Attribute} {name : UInt16}
    (marks : field.flags.contains .synthetic →
      mark = some (.plain name .synthetic)) :
    CompiledClass.downgradeField mark field = field.lowered name := by
  rw [CompiledClass.downgradeField, CompiledClass.marked_eq marks,
    Flags.remove_remove]
  rfl

end Field

namespace Method

/-- How a method is marked. -/
def marking (method : Method) : Marking .method :=
  ⟨method.flags, method.attributes⟩

/-- A method in the terms of the formats below Java 5. -/
def lowered (name : UInt16) (method : Method) : Method :=
  { method with
    flags := (method.marking.lowered name).flags
    attributes := (method.marking.lowered name).attributes }

@[simp]
theorem marking_lowered (name : UInt16) (method : Method) :
    (method.lowered name).marking = method.marking.lowered name := rfl

@[simp]
theorem lowered_lowered (name other : UInt16) (method : Method) :
    (method.lowered name).lowered other = method.lowered name := by
  rw [lowered, marking_lowered, Marking.lowered_lowered]
  rfl

theorem downgradeMethod_eq
    {method : Method} {mark : Option Attribute} {name : UInt16}
    (marks : method.flags.contains .synthetic →
      mark = some (.plain name .synthetic)) :
    CompiledClass.downgradeMethod mark method = method.lowered name := by
  rw [CompiledClass.downgradeMethod, CompiledClass.marked_eq marks,
    Flags.remove_remove]
  rfl

end Method

/-! ## Classes -/

namespace CompiledClass

/-- How a class is marked itself. -/
def marking (class_ : CompiledClass) : Marking .class_ :=
  ⟨class_.flags, class_.attributes⟩

/--
A class and its members in the terms of the formats below Java 5, with a pool
for the names.
-/
def lowered (class_ : CompiledClass) (name : UInt16) (pool : Pool) :
    CompiledClass :=
  { class_ with
    pool
    flags := (class_.marking.lowered name).flags
    attributes := (class_.marking.lowered name).attributes
    fields := class_.fields.map (Field.lowered name)
    methods := class_.methods.map (Method.lowered name) }

@[simp]
theorem lowered_lowered (class_ : CompiledClass) (name other : UInt16)
    (pool : Pool) :
    (class_.lowered name pool).lowered other pool =
      class_.lowered name pool := by
  have same : ((class_.lowered name pool).marking.lowered other) =
      class_.marking.lowered name :=
    Marking.lowered_lowered name other class_.marking
  rw [lowered, same]
  simp [lowered, Function.comp_def]

theorem hasSyntheticFlags_lowered (class_ : CompiledClass) (name : UInt16)
    (pool : Pool) :
    (class_.lowered name pool).hasSyntheticFlags = false := by
  simp [hasSyntheticFlags, lowered, Field.lowered, Method.lowered,
    Marking.lowered, Flags.contains_synthetic_remove_sinceJava5]

theorem withoutJava5Flags_eq
    {class_ : CompiledClass} {mark : Option Attribute} {name : UInt16}
    (marks : class_.hasSyntheticFlags → mark = some (.plain name .synthetic)) :
    class_.withoutJava5Flags mark = class_.lowered name class_.pool := by
  have ofClass : class_.flags.contains .synthetic →
      mark = some (.plain name .synthetic) := by
    intro flagged
    exact marks (by simp [hasSyntheticFlags, flagged])
  have ofField : ∀ field ∈ class_.fields,
      downgradeField mark field = field.lowered name := by
    intro field member
    apply Field.downgradeField_eq
    intro flagged
    apply marks
    simp only [hasSyntheticFlags, Bool.or_eq_true, List.any_eq_true]
    exact .inl (.inr ⟨field, member, flagged⟩)
  have ofMethod : ∀ method ∈ class_.methods,
      downgradeMethod mark method = method.lowered name := by
    intro method member
    apply Method.downgradeMethod_eq
    intro flagged
    apply marks
    simp only [hasSyntheticFlags, Bool.or_eq_true, List.any_eq_true]
    exact .inr ⟨method, member, flagged⟩
  rw [withoutJava5Flags, marked_eq ofClass, Flags.remove_remove,
    List.map_congr_left ofField, List.map_congr_left ofMethod]
  rfl

/-- The text which names the attribute of synthetic elements. -/
def syntheticName : Constant :=
  .utf8 (.ofText AttributeName.synthetic.text)

/--
A class which is what another one becomes below Java 5.  At most the name of the
synthetic attribute was added to the pool, and only if something had the
synthetic flag; in that case the attributes which were added have this name.
-/
structure IsLowered (after before : CompiledClass) (name : UInt16) : Prop where
  eq_lowered : after = before.lowered name after.pool
  named : before.hasSyntheticFlags → after.pool.get? name = some syntheticName
  pool : after.pool = before.pool ∨
    before.hasSyntheticFlags ∧
      after.pool.entries.toList = before.pool.entries.toList ++ [syntheticName]

theorem isLowered_of_downgrade
    {class_ after : CompiledClass} (downgraded : class_.downgrade = .ok after) :
    ∃ name, after.IsLowered class_ name := by
  rw [downgrade] at downgraded
  split at downgraded
  · next flagged =>
      rcases Decoder.bind_eq_ok downgraded with ⟨⟨mark, pool⟩, made, done⟩
      rcases Decoder.bind_eq_ok made with ⟨⟨name, extended⟩, interned, marked⟩
      cases marked
      cases done
      refine ⟨name, withoutJava5Flags_eq fun _ => rfl, fun _ => ?_, ?_⟩
      · exact Pool.get?_of_intern interned
      · rcases Pool.intern_eq_ok interned with ⟨-, same⟩ | added
        · exact .inl same
        · rcases Pool.add_eq_ok_iff.1 added with ⟨fits, -, rfl⟩
          exact .inr ⟨flagged, Pool.toList_entries_push _ _ fits⟩
  · next unflagged =>
      cases downgraded
      refine ⟨0, withoutJava5Flags_eq ?_, ?_, .inl rfl⟩
      · exact fun flagged => absurd flagged unflagged
      · exact fun flagged => absurd flagged unflagged

/-- Once lowered, a class is left as it is by every further downgrade. -/
theorem downgrade_lowered (class_ : CompiledClass) (name : UInt16)
    (pool : Pool) :
    (class_.lowered name pool).downgrade = .ok (class_.lowered name pool) := by
  have unflagged := class_.hasSyntheticFlags_lowered name pool
  have same : (class_.lowered name pool).withoutJava5Flags none =
      (class_.lowered name pool).lowered name pool :=
    withoutJava5Flags_eq fun flagged => absurd flagged (by simp [unflagged])
  rw [downgrade, unflagged, same, lowered_lowered]
  rfl

end CompiledClass

end ClassFormat
