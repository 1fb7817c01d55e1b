import ClassFormat.Proofs.Text.Segments
import ClassFormat.Proofs.Types.Grammar

/-!
# How names are described

The name of a type is described as a descriptor without being checked.  The
brackets in front of it count as dimensions; a keyword becomes the letter of its
type, and anything else the path of an object.  What comes out need not be a
descriptor, and if it is one, its identifier need not be the name which was
described: slashes in the name cannot be told from the separators which were
exchanged for them.
-/

namespace ClassFormat

open Text

/-! ## Brackets in front of a name -/

/-- Brackets are taken away from a text one after the other. -/
theorem exists_dimensionMarks_append (chars : List Char) :
    ∃ dimensions name, chars = dimensionMarks dimensions ++ name ∧
      name.head? ≠ some '[' := by
  refine ⟨leadingDimensions chars, withoutDimensions chars,
    (dimensionMarks_append_withoutDimensions chars).symm, ?_⟩
  intro marked
  have unmarked := List.head?_dropWhile_not (fun c => decide (c = '[')) chars
  rw [withoutDimensions] at marked
  rw [marked] at unmarked
  cases unmarked

theorem unmarked_of_not_mem {name : List Char} (free : '[' ∉ name) :
    name.head? ≠ some '[' :=
  fun marked => free (List.mem_of_head? marked)

section Unmarked

variable {dimensions : Nat} {name : List Char} (unmarked : name.head? ≠
  some '[')
include unmarked

theorem leadingDimensions_of_unmarked :
    leadingDimensions (dimensionMarks dimensions ++ name) = dimensions := by
  cases name with
  | nil => simp [leadingDimensions, dimensionMarks]
  | cons c others =>
      exact leadingDimensions_append fun same => unmarked (congrArg some same)

theorem withoutDimensions_of_unmarked :
    withoutDimensions (dimensionMarks dimensions ++ name) = name := by
  cases name with
  | nil => simp [withoutDimensions, dimensionMarks]
  | cons c others =>
      exact withoutDimensions_append fun same => unmarked (congrArg some same)

end Unmarked

/-- The brackets in front of a name end where the name begins. -/
theorem dimensionMarks_append_inj {first second : Nat} {name other : List Char}
    (unmarked : name.head? ≠ some '[') (unmarkedOther : other.head? ≠ some '[')
    (same : dimensionMarks first ++ name = dimensionMarks second ++ other) :
    first = second ∧ name = other := by
  constructor
  · have counted := congrArg leadingDimensions same
    rwa [leadingDimensions_of_unmarked unmarked,
      leadingDimensions_of_unmarked unmarkedOther] at counted
  · have left := congrArg withoutDimensions same
    rwa [withoutDimensions_of_unmarked unmarked,
      withoutDimensions_of_unmarked unmarkedOther] at left

/-! ## What a name describes -/

theorem Primitive.not_mem_keyword (kind : Primitive) :
    ∀ c ∈ ['.', '/', ';', '['], c ∉ kind.keyword.toList := by
  cases kind <;> simp [keyword]

theorem Primitive.unmarked_keyword (kind : Primitive) :
    kind.keyword.toList.head? ≠ some '[' :=
  unmarked_of_not_mem (kind.not_mem_keyword '[' (by decide))

namespace Element

/--
What a name without brackets in front of it describes, its packages being
divided by `separator`.
-/
def ofName (separator : Char) (name : List Char) : Element :=
  match Primitive.ofKeyword? (String.ofList name) with
  | some kind => .primitive kind
  | none => .object (String.ofList (replaceChar separator '/' name))

theorem ofName_keyword (separator : Char) (kind : Primitive) :
    ofName separator kind.keyword.toList = .primitive kind := by
  rw [ofName, String.ofList_toList, Primitive.ofKeyword?_keyword]

theorem ofName_of_not_keyword {separator : Char} {name : List Char}
    (free : ∀ kind : Primitive, name ≠ kind.keyword.toList) :
    ofName separator name =
      .object (String.ofList (replaceChar separator '/' name)) := by
  rw [ofName]
  split
  · next kind found =>
      have keyword : kind.keyword = String.ofList name := by
        simpa using List.find?_some found
      exact absurd (by rw [keyword, String.toList_ofList]) (free kind)
  · rfl

/-- Either a name is a keyword or it is not. -/
theorem keyword_or_not (name : List Char) :
    (∃ kind : Primitive, name = kind.keyword.toList) ∨
      ∀ kind : Primitive, name ≠ kind.keyword.toList := by
  rcases Classical.em (∃ kind : Primitive, name = kind.keyword.toList) with
    keyword | free
  · exact .inl keyword
  · exact .inr (not_exists.1 free)

theorem unmarked_chars (element : Element) :
    element.chars.head? ≠ some '[' := by
  rcases element.exists_chars_eq_cons with ⟨c, others, begins, different⟩
  rw [begins]
  exact fun marked => different (Option.some.inj marked)

theorem chars_inj {first second : Element} (same : first.chars = second.chars) :
    first = second := by
  cases first with
  | primitive firstKind =>
      cases second with
      | primitive secondKind =>
          exact congrArg primitive (Primitive.letter_inj (List.cons.inj same).1)
      | object path =>
          have short := (List.cons.inj same).2
          exact absurd short.symm
            (List.append_ne_nil_of_right_ne_nil _ (by decide))
  | object firstPath =>
      cases second with
      | primitive kind =>
          have short := (List.cons.inj same).2
          exact absurd short (List.append_ne_nil_of_right_ne_nil _ (by decide))
      | object secondPath =>
          have paths := List.append_cancel_right (List.cons.inj same).2
          exact congrArg object (String.toList_inj.1 paths)

/--
What an identifier describes is legal if there is a name, and no end in the
middle of it.
-/
theorem legal_ofName_iff {name : List Char} :
    (ofName '.' name).Legal ↔ name ≠ [] ∧ ';' ∉ name := by
  rcases keyword_or_not name with ⟨kind, rfl⟩ | free
  · rw [ofName_keyword]
    have nonempty : kind.keyword.toList ≠ [] := by cases kind <;> decide
    exact ⟨fun _ => ⟨nonempty, kind.not_mem_keyword ';' (by decide)⟩, fun _ =>
      trivial⟩
  · rw [ofName_of_not_keyword free, Legal, String.toList_ofList,
      mem_replaceChar_iff (by decide) (by decide), ne_eq, ← String.toList_inj,
      String.toList_ofList]
    exact and_congr_left fun _ => not_congr List.map_eq_nil_iff

/--
What an identifier describes is spelled like the identifier unless that holds
slashes.
-/
theorem identifierChars_ofName_iff {name : List Char} :
    (ofName '.' name).identifierChars = name ↔ '/' ∉ name := by
  rcases keyword_or_not name with ⟨kind, rfl⟩ | free
  · rw [ofName_keyword]
    exact ⟨fun _ => kind.not_mem_keyword '/' (by decide), fun _ => rfl⟩
  · rw [ofName_of_not_keyword free, identifierChars, String.toList_ofList,
      replaceChar_replaceChar_back, replaceChar_eq_self_iff (by decide)]

theorem ofName_eq_primitive_iff {separator : Char} {name : List Char}
    {kind : Primitive} :
    ofName separator name = .primitive kind ↔ name = kind.keyword.toList := by
  constructor
  · intro described
    rcases keyword_or_not name with ⟨other, rfl⟩ | free
    · rw [ofName_keyword] at described
      rw [Element.primitive.inj described]
    · rw [ofName_of_not_keyword free] at described
      cases described
  · rintro rfl
    exact ofName_keyword separator kind

/-- A path describes the object which has it unless it is a keyword. -/
theorem ofName_eq_object_iff {path : String} :
    ofName '/' path.toList = .object path ↔
      ∀ kind : Primitive, path ≠ kind.keyword := by
  constructor
  · rintro described kind rfl
    rw [ofName_keyword] at described
    cases described
  · intro free
    have freeChars (kind : Primitive) : path.toList ≠ kind.keyword.toList :=
      fun same => free kind (String.toList_inj.1 same)
    rw [ofName_of_not_keyword freeChars, replaceChar_self, String.ofList_toList]

end Element

namespace Descriptor

/-- The characters of a descriptor tell its dimensions and its element. -/
theorem chars_eq_iff {descriptor : Descriptor} {dimensions : Nat}
    {element : Element} :
    descriptor.chars = dimensionMarks dimensions ++ element.chars ↔
      descriptor.dimensions = dimensions ∧ descriptor.element = element := by
  constructor
  · intro same
    rcases dimensionMarks_append_inj (Element.unmarked_chars _)
      element.unmarked_chars same with ⟨counted, left⟩
    exact ⟨counted, Element.chars_inj left⟩
  · rintro ⟨rfl, rfl⟩
    rfl

/--
Dimensions and an element go together if the element is legal, and if it is not
an array of `void`.
-/
theorem exists_parts_iff {dimensions : Nat} {element : Element} :
    (∃ found : Descriptor, found.dimensions = dimensions ∧
      found.element = element) ↔
      element.Legal ∧ (element = .primitive .void → dimensions = 0) := by
  constructor
  · rintro ⟨found, rfl, rfl⟩
    exact ⟨found.legal, found.noVoidArray⟩
  · rintro ⟨legal, noVoidArray⟩
    exact ⟨⟨dimensions, element, legal, noVoidArray⟩, rfl, rfl⟩

end Descriptor

namespace WrittenType

theorem describe_of_unmarked {name : List Char}
    (unmarked : name.head? ≠ some '[') (separator : Char) (dimensions : Nat) :
    describe separator (dimensionMarks dimensions ++ name) =
      dimensionMarks dimensions ++ (Element.ofName separator name).chars := by
  rw [describe, leadingDimensions_of_unmarked unmarked,
    withoutDimensions_of_unmarked unmarked, Element.ofName]
  cases Primitive.ofKeyword? (String.ofList name) with
  | some kind => rfl
  | none => simp only [Element.chars, String.toList_ofList, List.cons_append]

/--
The text of some dimensions and an element is read as the descriptor which they
make up.
-/
theorem ofDescriptor_parts_iff {dimensions : Nat} {element : Element}
    {written : WrittenType} :
    ofDescriptor (String.ofList (dimensionMarks dimensions ++ element.chars)) =
      .ok written ↔
      ∃ found : Descriptor, written = .descriptor found ∧
        found.dimensions = dimensions ∧ found.element = element := by
  rw [ofDescriptor_eq_ok_iff, String.toList_ofList]
  simp only [Descriptor.chars_eq_iff]

/-- The descriptor of an identifier, which need not be one. -/
theorem toDescriptor_identifier {identifier : String} {dimensions : Nat}
    {name : List Char}
    (spelled : identifier.toList = dimensionMarks dimensions ++ name)
    (unmarked : name.head? ≠ some '[') :
    toDescriptor (.identifier identifier) =
      String.ofList
        (dimensionMarks dimensions ++ (Element.ofName '.' name).chars) := by
  rw [toDescriptor, descriptorChars, spelled, describe_of_unmarked unmarked]

/--
The descriptor which an identifier describes has this identifier if there are no
slashes in it.
-/
theorem toIdentifier_eq_iff {identifier : String} {dimensions : Nat}
    {name : List Char}
    (spelled : identifier.toList = dimensionMarks dimensions ++ name)
    {found : Descriptor}
    (parts : found.dimensions = dimensions ∧ found.element = .ofName '.' name) :
    (descriptor found).toIdentifier = identifier ↔ '/' ∉ name := by
  rw [← String.toList_inj, toIdentifier, String.toList_ofList, identifierChars,
    Descriptor.identifierChars, parts.1, parts.2, spelled,
    List.append_right_inj, Element.identifierChars_ofName_iff]

/--
Every identifier is a name with a number of brackets in front of it.  Its
descriptor is accepted and gives the identifier back exactly if there is a name,
if this holds neither a semicolon nor a slash, and if it is not an array of
`void`.
-/
theorem identifier_survives_iff (identifier : String) :
    (∃ dimensions name,
      identifier.toList = List.replicate dimensions '[' ++ name ∧
        name.head? ≠ some '[') ∧
      ∀ {dimensions : Nat} {name : List Char},
        identifier.toList = List.replicate dimensions '[' ++ name →
          name.head? ≠ some '[' →
          ((∃ written,
            ofDescriptor (toDescriptor (.identifier identifier)) =
                .ok written ∧
              written.toIdentifier = identifier) ↔
            name ≠ [] ∧ ';' ∉ name ∧ '/' ∉ name ∧
              ¬(0 < dimensions ∧ name = "void".toList)) := by
  refine ⟨exists_dimensionMarks_append identifier.toList, ?_⟩
  intro dimensions name spelled unmarked
  rw [toDescriptor_identifier spelled unmarked]
  constructor
  · rintro ⟨written, read, same⟩
    rcases ofDescriptor_parts_iff.1 read with ⟨found, rfl, parts⟩
    rcases Descriptor.exists_parts_iff.1 ⟨found, parts⟩ with
      ⟨legal, noVoidArray⟩
    rcases Element.legal_ofName_iff.1 legal with ⟨nonempty, unended⟩
    refine ⟨nonempty, unended, (toIdentifier_eq_iff spelled parts).1 same, ?_⟩
    rintro ⟨array, void⟩
    exact Nat.ne_of_gt array
      (noVoidArray (Element.ofName_eq_primitive_iff.2 void))
  · rintro ⟨nonempty, unended, slashless, noVoidArray⟩
    have legal := Element.legal_ofName_iff.2 ⟨nonempty, unended⟩
    have flat (void : Element.ofName '.' name = .primitive .void) :
        dimensions = 0 :=
      Nat.eq_zero_of_not_pos fun array =>
        noVoidArray ⟨array, Element.ofName_eq_primitive_iff.1 void⟩
    rcases Descriptor.exists_parts_iff.2 ⟨legal, flat⟩ with ⟨found, parts⟩
    exact ⟨.descriptor found, ofDescriptor_parts_iff.2 ⟨found, rfl, parts⟩,
      (toIdentifier_eq_iff spelled parts).2 slashless⟩

/--
Arrays of a class are given back, and neither is an array of `void` nor a name
with a slash.
-/
theorem identifier_survives_iff_sample :
    (∃ written,
      ofDescriptor (toDescriptor (.identifier "[[a.B")) = .ok written ∧
        written.toIdentifier = "[[a.B") ∧
      (¬∃ written,
        ofDescriptor (toDescriptor (.identifier "[void")) = .ok written ∧
          written.toIdentifier = "[void") ∧
      ¬∃ written,
        ofDescriptor (toDescriptor (.identifier "a/B")) = .ok written ∧
          written.toIdentifier = "a/B" := by
  have array := (identifier_survives_iff "[[a.B").2
    (show "[[a.B".toList = List.replicate 2 '[' ++ ['a', '.', 'B'] by decide)
      (by decide)
  have void := (identifier_survives_iff "[void").2
    (show "[void".toList =
      List.replicate 1 '[' ++ ['v', 'o', 'i', 'd'] by decide) (by decide)
  have slash := (identifier_survives_iff "a/B").2
    (show "a/B".toList = List.replicate 0 '[' ++ ['a', '/', 'B'] by decide)
      (by decide)
  refine ⟨array.2 (by decide), ?_, ?_⟩
  · intro survives
    exact absurd (void.1 survives) (by decide)
  · intro survives
    exact absurd (slash.1 survives) (by decide)

end WrittenType

end ClassFormat
