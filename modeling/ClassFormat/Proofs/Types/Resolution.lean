import ClassFormat.Proofs.Types.Grammar
import ClassFormat.Types.ResolvedType

/-!
# What a descriptor resolves to

Resolving reads the descriptor spelling of a type again and again, one array
layer at a time.  For a type which was written as a descriptor this comes to
resolving the element once and putting it under a layer for each dimension.  It
can only fail at a class without a simple name.
-/

namespace ClassFormat

open Text

/-- Components of which none is empty make up a class. -/
theorem QualifiedClass.ofComponents_of_named
    {components : List String} (nonempty : components ≠ [])
    (named : "" ∉ components)
    (descriptor : String) :
    ofComponents components descriptor =
      .ok ⟨components.getLast nonempty, ⟨components.dropLast⟩⟩ := by
  have simpleName : components.getLast nonempty ≠ "" := by
    intro empty
    exact named (empty ▸ List.getLast_mem nonempty)
  rw [ofComponents, List.getLast?_eq_some_getLast nonempty]
  exact if_neg simpleName

namespace ResolvedType

/-- The descriptor of an object is longer than that of a primitive type. -/
theorem ofDescriptor?_chars_of_object (path : String) :
    Primitive.ofDescriptor? (Element.object path).chars = none := by
  rw [Element.chars]
  cases path.toList <;> rfl

/--
A descriptor resolves to what its element does, under a layer for each
dimension.
-/
theorem resolve_descriptor (descriptor : Descriptor) :
    resolve (.descriptor descriptor) = ofDescriptor descriptor := by
  rcases descriptor with ⟨dimensions, element, legal, noVoidArray⟩
  cases dimensions with
  | succ dimensions =>
      have noVoid : element = .primitive .void → dimensions = 0 :=
        fun void => absurd (noVoidArray void) (Nat.succ_ne_zero dimensions)
      let inner : Descriptor := ⟨dimensions, element, legal, noVoid⟩
      show (Descriptor.parse inner.text >>= fun found =>
        ofDescriptor found >>= fun resolved =>
        pure (array resolved)) = _
      rw [Descriptor.parse, Descriptor.parse?_text]
      show ((ofElement element).map (layers dimensions) >>= _) =
        (ofElement element).map _
      cases ofElement element <;> rfl
  | zero =>
      cases element with
      | primitive kind => cases kind <;> rfl
      | object path =>
          let written : WrittenType :=
            .descriptor ⟨0, .object path, legal, noVoidArray⟩
          have chars : written.descriptorChars = (Element.object path).chars :=
            rfl
          have components :
              written.components =
                .ok ((split '/' path.toList).map String.ofList) := rfl
          rw [resolve, chars]
          split
          · next same =>
              exact absurd (List.cons.inj same).1 (by decide : 'L' ≠ '[')
          · rw [ofDescriptor?_chars_of_object, components, ofDescriptor,
              ofElement]
            show (QualifiedClass.ofComponents _ _ >>= _) = _
            cases QualifiedClass.ofComponents
              ((split '/' path.toList).map String.ofList)
              (String.ofList (Element.object path).chars) <;> rfl

/-- What has no empty segment in its name resolves. -/
theorem exists_ofDescriptor {descriptor : Descriptor}
    (named : ∀ path, descriptor.element = .object path →
      [] ∉ split '/' path.toList) :
    ∃ type, ofDescriptor descriptor = .ok type := by
  rw [ofDescriptor]
  cases element : descriptor.element with
  | primitive kind => exact ⟨_, rfl⟩
  | object path =>
      have nonempty : (split '/' path.toList).map String.ofList ≠ [] := by
        simpa using split_ne_nil '/' path.toList
      have simpleName : "" ∉ (split '/' path.toList).map String.ofList := by
        intro member
        rcases List.mem_map.1 member with ⟨segment, among, empty⟩
        have same : segment = [] := by simpa using congrArg String.toList empty
        exact named path element (same ▸ among)
      rw [ofElement, QualifiedClass.ofComponents_of_named nonempty simpleName]
      exact ⟨_, rfl⟩

end ResolvedType

end ClassFormat
