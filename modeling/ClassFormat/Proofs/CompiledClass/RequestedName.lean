import ClassFormat.Proofs.CompiledClass.Renaming
import ClassFormat.Proofs.Types.Paths

/-!
# Reading a requested name back

To rename a class or its superclass is to store the path of the requested type,
and the name of a class is read back as a path.  So what is read back is the
requested type as far as this can be told from its path.  Names are lost which
are spelled like the descriptors of arrays of primitive types.  The other names
which begin with a bracket, and those which are keywords, still count as the
same type but are no longer described alike.
-/

namespace ClassFormat

/-- A class which was added behind others has an index. -/
theorem Pool.ClassAdded.index_ne_zero {before after : Pool} {index : UInt16}
    {path : String} (added : before.ClassAdded index path after) :
    index ≠ 0 := by
  rintro rfl
  exact absurd added.index (Nat.succ_ne_zero _).symm

namespace CompiledClass

variable {class_ after : CompiledClass} {written : WrittenType}

theorem name_of_rename (done : class_.rename written = ⟨.ok (), after⟩) :
    ∃ path, written.toPath = .ok path ∧ after.name = .ok (.path path) := by
  rcases renamed_of_rename done with ⟨path, converted, renamed, same⟩
  refine ⟨path, converted, ?_⟩
  rw [name, same]
  exact renamed.named

theorem superName?_of_setSuper
    (done : class_.setSuper (some written) = ⟨.ok (), after⟩) :
    ∃ path, written.toPath = .ok path ∧
      after.superName? = .ok (some (.path path)) := by
  by_cases absent : class_.superClass = 0
  · rcases classAdded_of_setSuper absent done with ⟨path, converted, added, -⟩
    exact ⟨path, converted, superName?_of_named added.index_ne_zero added.named⟩
  · rcases renamed_of_setSuper absent done with ⟨path, converted, renamed, same⟩
    have kept : after.superClass = class_.superClass := by rw [same]
    refine ⟨path, converted, superName?_of_named ?_ ?_⟩
    · rwa [kept]
    · rw [kept]
      exact renamed.named

/--
The path of a type counts as the same type unless the type is a class whose name
is spelled like the descriptor of an array of a primitive type.  It is described
alike unless the type is a class whose name begins with a bracket or is a
keyword.  The path is what the name of a class is read back as if the class was
renamed to the type, and the name of a superclass if that was set to the type.
-/
theorem requested_name_is_read_back :
    (∀ {written : WrittenType} {path : String}, written.toPath = .ok path →
      ((WrittenType.path path).sameType written = true ↔
        ¬(written.DescribesClass path ∧
          WrittenType.SpellsPrimitiveArray path)) ∧
      ((WrittenType.path path).toDescriptor = written.toDescriptor ↔
        ¬(written.DescribesClass path ∧
          (path.toList.head? = some '[' ∨
            ∃ kind : Primitive, path = kind.keyword)))) ∧
      (∀ {class_ after : CompiledClass} {written : WrittenType},
        class_.rename written = ⟨.ok (), after⟩ →
          ∃ path, written.toPath = .ok path ∧ after.name = .ok (.path path)) ∧
      ∀ {class_ after : CompiledClass} {written : WrittenType},
        class_.setSuper (some written) = ⟨.ok (), after⟩ →
          ∃ path, written.toPath = .ok path ∧
            after.superName? = .ok (some (.path path)) :=
  ⟨fun converted =>
      ⟨WrittenType.sameType_path_iff converted,
        WrittenType.toDescriptor_path_iff converted⟩,
    name_of_rename, superName?_of_setSuper⟩

/-- A class and its superclass are renamed to an array, which is read back. -/
theorem requested_name_is_read_back_sample :
    let array := WrittenType.descriptor ⟨1, .primitive .int, trivial, nofun⟩
    ∃ renamed based : CompiledClass,
      array.toPath = .ok "[I" ∧ (WrittenType.path "[I").sameType array = true ∧
        (WrittenType.path "[I").toDescriptor = array.toDescriptor ∧
      sample.rename array = ⟨.ok (), renamed⟩ ∧
        renamed.name = .ok (.path "[I") ∧
      sample.setSuper (some array) = ⟨.ok (), based⟩ ∧
        based.superName? = .ok (some (.path "[I")) := by
  intro array
  let renamed := (sample.rename array).class_
  let based := (sample.setSuper (some array)).class_
  have converted : array.toPath = .ok "[I" := by rfl
  have noClass (name : String) : ¬array.DescribesClass name :=
    WrittenType.not_describesClass_of_array rfl name
  have renames : sample.rename array = ⟨.ok (), renamed⟩ := by rfl
  have bases : sample.setSuper (some array) = ⟨.ok (), based⟩ := by rfl
  rcases requested_name_is_read_back with ⟨taken, named, superNamed⟩
  rcases taken converted with ⟨same, described⟩
  rcases named renames with ⟨path, first, read⟩
  rcases superNamed bases with ⟨superPath, second, superRead⟩
  cases converted.symm.trans first
  cases converted.symm.trans second
  exact ⟨renamed, based, converted, same.2 fun both => noClass _ both.1,
    described.2 fun both => noClass _ both.1, renames, read, bases, superRead⟩

/--
A class named like an array of integers is lost, and one named like them is
described like them.
-/
theorem requested_name_is_lost :
    (∃ written, WrittenType.ofDescriptor "L[I;" = .ok written ∧
      written.toPath = .ok "[I" ∧
      (WrittenType.path "[I").sameType written = false) ∧
    ∃ written, WrittenType.ofDescriptor "Lint;" = .ok written ∧
      written.toPath = .ok "int" ∧
      (WrittenType.path "int").toDescriptor ≠ written.toDescriptor ∧
      (sample.rename written).class_.name = .ok (.path "int") := by
  refine ⟨⟨.descriptor ⟨0, .object "[I", by decide, nofun⟩, ?_, ?_, ?_⟩,
    ⟨.descriptor ⟨0, .object "int", by decide, nofun⟩, ?_, ?_, ?_, ?_⟩⟩
  · rfl
  · rfl
  · decide +kernel
  · rfl
  · rfl
  · decide +kernel
  · decide +kernel

end CompiledClass

end ClassFormat
