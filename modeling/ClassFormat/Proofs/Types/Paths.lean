import ClassFormat.Proofs.Types.Descriptions

/-!
# What a path is taken for

Only the text of a path is kept, and what type it is the path of is told from
this text whenever somebody asks.  A path which begins with a bracket is taken
for the descriptor of an array, and any other path for a name with slashes
between its packages, which may be a keyword.

The path of an array is its descriptor, so it is taken for what it is.  The path
of a class is its name, and there are names which are taken for something else.
-/

namespace ClassFormat.WrittenType

open Text

/-! ## Paths as they are read -/

section Unmarked

variable {name : String} (unmarked : name.toList.head? ≠ some '[')
include unmarked

theorem identifierChars_path_of_unmarked :
    (path name).identifierChars = replaceChar '/' '.' name.toList := by
  rw [identifierChars]
  split
  · next others begins =>
      rw [begins] at unmarked
      exact absurd rfl unmarked
  · rfl

theorem descriptorChars_path_of_unmarked :
    (path name).descriptorChars = (Element.ofName '/' name.toList).chars := by
  rw [descriptorChars]
  split
  · next others begins =>
      rw [begins] at unmarked
      exact absurd rfl unmarked
  · exact describe_of_unmarked unmarked '/' 0

end Unmarked

section Marked

variable {name : String} {dimensions : Nat} {rest : List Char}
  (marked : name.toList = dimensionMarks (dimensions + 1) ++ rest)
include marked

theorem identifierChars_path_of_marked (unmarked : rest.head? ≠ some '[') :
    (path name).identifierChars =
      dimensionMarks (dimensions + 1) ++ arrayPathElement rest := by
  rw [identifierChars]
  split
  · next others begins =>
      rw [← begins, marked, leadingDimensions_of_unmarked unmarked,
        withoutDimensions_of_unmarked unmarked]
  · next other => exact absurd marked (other _)

theorem descriptorChars_path_of_marked :
    (path name).descriptorChars = name.toList := by
  rw [descriptorChars]
  split
  · next others begins => exact begins.symm
  · next other => exact absurd marked (other _)

end Marked

theorem arrayPathElement_chars {element : Element} (legal : element.Legal) :
    arrayPathElement element.chars = element.identifierChars := by
  rw [arrayPathElement, Element.ofChars?_chars legal]

/-- The descriptor of an array, as a path, is taken for the array. -/
theorem path_of_array (descriptor : Descriptor) {dimensions : Nat}
    (array : descriptor.dimensions = dimensions + 1) :
    (path descriptor.text).identifierChars = descriptor.identifierChars ∧
      (path descriptor.text).descriptorChars = descriptor.chars := by
  have spelled : descriptor.text.toList = descriptor.chars :=
    String.toList_ofList
  have marked : descriptor.text.toList =
      dimensionMarks (dimensions + 1) ++ descriptor.element.chars := by
    rw [spelled, Descriptor.chars, array]
  constructor
  · rw [identifierChars_path_of_marked marked descriptor.element.unmarked_chars,
      arrayPathElement_chars descriptor.legal, Descriptor.identifierChars,
      array]
  · rw [descriptorChars_path_of_marked marked, spelled]

/-! ## Names of classes as paths -/

/--
What is written is the descriptor of a class with a name, and not of an array.
-/
def DescribesClass (written : WrittenType) (name : String) : Prop :=
  ∃ found : Descriptor, written = .descriptor found ∧ found.dimensions = 0 ∧
    found.element = .object name

/--
A name which is spelled like the descriptor of an array of a primitive type.
-/
def SpellsPrimitiveArray (name : String) : Prop :=
  ∃ (dimensions : Nat) (kind : Primitive),
    name.toList = dimensionMarks (dimensions + 1) ++ [kind.letter]

theorem replaceChar_letter_ne_keyword (kind : Primitive) :
    kind.keyword.toList ≠ replaceChar '/' '.' [kind.letter] := by
  cases kind <;> decide

/--
What follows the brackets of an array path stays as it is but for the letter of
a primitive type.
-/
theorem arrayPathElement_eq_iff {chars : List Char} (unended : ';' ∉ chars) :
    arrayPathElement chars = replaceChar '/' '.' chars ↔
      ∀ kind : Primitive, chars ≠ [kind.letter] := by
  constructor
  · rintro same kind rfl
    rw [← Element.chars.eq_1, arrayPathElement_chars (by exact trivial)] at same
    exact replaceChar_letter_ne_keyword kind same
  · intro other
    rw [arrayPathElement]
    split
    · next element read =>
        rcases Element.eq_chars_of_ofChars? read with ⟨rfl, -⟩
        cases element with
        | primitive kind => exact absurd rfl (other kind)
        | object path => exact absurd (by simp [Element.chars]) unended
    · rfl

/--
A name without an end is spelled like its class unless it looks like an array of
a primitive type.
-/
theorem identifierChars_path_iff {name : String} (unended : ';' ∉ name.toList) :
    (path name).identifierChars = (Element.object name).identifierChars ↔
      ¬SpellsPrimitiveArray name := by
  rcases exists_dimensionMarks_append name.toList with
    ⟨dimensions, rest, split, unmarked⟩
  cases dimensions with
  | zero =>
      have begins : name.toList.head? ≠ some '[' := by rwa [split]
      rw [identifierChars_path_of_unmarked begins]
      refine ⟨fun _ => ?_, fun _ => rfl⟩
      rintro ⟨dimensions, kind, array⟩
      rw [array] at begins
      exact begins rfl
  | succ dimensions =>
      have restUnended : ';' ∉ rest := by
        intro member
        rw [split] at unended
        exact unended (List.mem_append_right _ member)
      have marks : replaceChar '/' '.' (dimensionMarks (dimensions + 1)) =
          dimensionMarks (dimensions + 1) :=
        replaceChar_of_not_mem '.' fun member =>
          absurd (List.eq_of_mem_replicate member) (by decide)
      rw [identifierChars_path_of_marked split unmarked,
        Element.identifierChars, split, replaceChar_append, marks,
        List.append_right_inj, arrayPathElement_eq_iff restUnended]
      constructor
      · rintro other ⟨dimensions, kind, array⟩
        have letter := (Element.primitive kind).unmarked_chars
        exact other kind
          (dimensionMarks_append_inj unmarked letter (split.symm.trans array)).2
      · rintro other kind rfl
        exact other ⟨dimensions, kind, split⟩

/--
A name is described like its class unless it begins like an array or is a
keyword.
-/
theorem descriptorChars_path_iff {name : String} :
    (path name).descriptorChars = (Element.object name).chars ↔
      name.toList.head? ≠ some '[' ∧
        ∀ kind : Primitive, name ≠ kind.keyword := by
  by_cases begins : name.toList.head? = some '['
  · rcases List.head?_eq_some_iff.1 begins with ⟨others, marked⟩
    rw [@descriptorChars_path_of_marked name 0 others marked, marked]
    constructor
    · intro same
      exact absurd (List.cons.inj same).1 (by decide)
    · rintro ⟨unmarked, -⟩
      exact absurd rfl unmarked
  · rw [descriptorChars_path_of_unmarked begins]
    constructor
    · intro same
      exact ⟨begins, Element.ofName_eq_object_iff.1 (Element.chars_inj same)⟩
    · rintro ⟨-, free⟩
      rw [Element.ofName_eq_object_iff.2 free]

/-! ## Types and their paths -/

theorem toPath_cases {written : WrittenType} {name : String}
    (converted : written.toPath = .ok name) :
    written = path name ∨ written.DescribesClass name ∨
      ∃ (found : Descriptor) (dimensions : Nat), written = .descriptor found ∧
        found.dimensions = dimensions + 1 ∧ name = found.text := by
  cases written with
  | identifier other => cases converted
  | path other =>
      cases converted
      exact .inl rfl
  | descriptor found =>
      simp only [toPath] at converted
      split at converted
      · cases converted
      · next flat element =>
          cases converted
          exact .inr (.inl ⟨found, rfl, flat, element⟩)
      · next notPrimitive notObject =>
          cases converted
          cases counted : found.dimensions with
          | succ dimensions =>
              exact .inr (.inr ⟨found, dimensions, rfl, counted, rfl⟩)
          | zero =>
              cases element : found.element with
              | primitive kind =>
                  exact absurd element (notPrimitive kind counted)
              | object name => exact absurd element (notObject name counted)

theorem DescribesClass.unended {written : WrittenType} {name : String}
    (class_ : written.DescribesClass name) : ';' ∉ name.toList := by
  rcases class_ with ⟨found, -, -, element⟩
  have legal := found.legal
  rw [element] at legal
  exact legal.2

theorem DescribesClass.identifierChars_eq {written : WrittenType}
    {name : String} (class_ : written.DescribesClass name) :
    written.identifierChars = (Element.object name).identifierChars := by
  rcases class_ with ⟨found, rfl, flat, element⟩
  rw [identifierChars, Descriptor.identifierChars, flat, element]
  rfl

theorem DescribesClass.descriptorChars_eq {written : WrittenType}
    {name : String} (class_ : written.DescribesClass name) :
    written.descriptorChars = (Element.object name).chars := by
  rcases class_ with ⟨found, rfl, flat, element⟩
  rw [descriptorChars, Descriptor.chars, flat, element]
  rfl

theorem not_describesClass_path (name other : String) :
    ¬(path name).DescribesClass other := by
  rintro ⟨found, same, -⟩
  cases same

/-- An array is not described like a class. -/
theorem not_describesClass_of_array {found : Descriptor} {dimensions : Nat}
    (array : found.dimensions = dimensions + 1) (name : String) :
    ¬(descriptor found).DescribesClass name := by
  rintro ⟨other, same, flat, -⟩
  cases same
  omega

/--
The path of a type is taken for the type, unless the type is a class of an
unfortunate name.
-/
theorem sameType_path_iff {written : WrittenType} {name : String}
    (converted : written.toPath = .ok name) :
    (path name).sameType written = true ↔
      ¬(written.DescribesClass name ∧ SpellsPrimitiveArray name) := by
  rw [sameType, decide_eq_true_iff]
  rcases toPath_cases converted with
    rfl | class_ | ⟨found, dimensions, rfl, array, rfl⟩
  · exact ⟨fun _ both => not_describesClass_path name name both.1, fun _ => rfl⟩
  · rw [class_.identifierChars_eq, identifierChars_path_iff class_.unended,
      not_and]
    exact ⟨fun other _ => other, fun other => other class_⟩
  · have kept := (path_of_array found array).1
    exact ⟨fun _ both => not_describesClass_of_array array _ both.1,
      fun _ => kept⟩

/-- The path of a type is described like the type under a stronger condition. -/
theorem toDescriptor_path_iff {written : WrittenType} {name : String}
    (converted : written.toPath = .ok name) :
    (path name).toDescriptor = written.toDescriptor ↔
      ¬(written.DescribesClass name ∧
        (name.toList.head? = some '[' ∨
          ∃ kind : Primitive, name = kind.keyword)) := by
  rw [toDescriptor, toDescriptor, String.ofList_inj]
  rcases toPath_cases converted with
    rfl | class_ | ⟨found, dimensions, rfl, array, rfl⟩
  · exact ⟨fun _ both => not_describesClass_path name name both.1, fun _ => rfl⟩
  · rw [class_.descriptorChars_eq, descriptorChars_path_iff, not_and, not_or,
      not_exists]
    exact ⟨fun other _ => other, fun other => other class_⟩
  · have kept := (path_of_array found array).2
    exact ⟨fun _ both => not_describesClass_of_array array _ both.1,
      fun _ => kept⟩

end ClassFormat.WrittenType
