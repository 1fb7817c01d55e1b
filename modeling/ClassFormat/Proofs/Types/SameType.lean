import Mathlib.Data.List.Forall2
import ClassFormat.Proofs.Types.Spellings

/-!
# Types which count as the same

Two types count as the same if a program spells them alike.  Names of packages
may hold neither dots nor brackets nor empty segments for this to mean anything,
since a program has dots where a descriptor has slashes.  For two descriptors
with such names it means that they are one and the same, with one exception: a
class outside of all packages may have the keyword of a primitive type for its
name, and is taken for that type.  So are arrays of the same dimensions of the
two.

Method descriptors inherit this, type by type.
-/

namespace ClassFormat

open Text

theorem Primitive.keyword_inj {first second : Primitive}
    (same : first.keyword = second.keyword) :
    first = second := by
  have found := ofKeyword?_keyword first
  rw [same, ofKeyword?_keyword] at found
  exact (Option.some.inj found).symm

/-! ## Elements -/

namespace Element

/--
The name of an object, if it is one, holds neither a dot nor a bracket, and none
of its segments is empty.
-/
def Plain : Element → Prop
  | primitive _ => True
  | object path =>
    '.' ∉ path.toList ∧ '[' ∉ path.toList ∧ [] ∉ split '/' path.toList

/--
One is a primitive type, and the other an object whose whole name is the keyword
of the type.
-/
inductive Homonyms : Element → Element → Prop
  | primitive (kind : Primitive) :
      Homonyms (.primitive kind) (.object kind.keyword)
  | object (kind : Primitive) :
      Homonyms (.object kind.keyword) (.primitive kind)

/--
With dots exchanged for slashes, the spelling in a program gives back the name
of an object.
-/
theorem replaceChar_identifierChars {path : String}
    (plain : (object path).Plain) :
    replaceChar '.' '/' (object path).identifierChars = path.toList :=
  replaceChar_replaceChar plain.1

/--
The keyword of a primitive type can only be the spelling of an object which has
it for its name.
-/
theorem eq_keyword_of_identifierChars {kind : Primitive} {path : String}
    (plain : (object path).Plain)
    (same : (object path).identifierChars = (primitive kind).identifierChars) :
    path = kind.keyword := by
  have undotted : '.' ∉ kind.keyword.toList :=
    kind.not_mem_keyword '.' (by decide)
  have name := replaceChar_identifierChars plain
  rw [same, identifierChars, replaceChar_of_not_mem '/' undotted] at name
  exact String.toList_inj.1 name.symm

theorem identifierChars_eq_iff
    {first second : Element} (plainFirst : first.Plain)
    (plainSecond : second.Plain) :
    first.identifierChars = second.identifierChars ↔
      first = second ∨ first.Homonyms second := by
  constructor
  · intro same
    cases first with
    | primitive firstKind =>
        cases second with
        | primitive secondKind =>
            exact .inl
              (congrArg primitive
                (Primitive.keyword_inj (String.toList_inj.1 same)))
        | object path =>
            rw [eq_keyword_of_identifierChars plainSecond same.symm]
            exact .inr (.primitive firstKind)
    | object firstPath =>
        cases second with
        | primitive kind =>
            rw [eq_keyword_of_identifierChars plainFirst same]
            exact .inr (.object kind)
        | object secondPath =>
            have paths := congrArg (replaceChar '.' '/') same
            rw [replaceChar_identifierChars plainFirst,
              replaceChar_identifierChars plainSecond] at paths
            exact .inl (congrArg object (String.toList_inj.1 paths))
  · rintro (rfl | homonyms)
    · rfl
    · cases homonyms with
      | primitive kind => cases kind <;> decide
      | object kind => cases kind <;> decide

/-- The spelling of an element in a program does not begin like an array. -/
theorem unmarked_identifierChars {element : Element} (plain : element.Plain) :
    element.identifierChars.head? ≠ some '[' := by
  cases element with
  | primitive kind => exact kind.unmarked_keyword
  | object path =>
      apply unmarked_of_not_mem
      rw [identifierChars, mem_replaceChar_iff (by decide) (by decide)]
      exact plain.2.1

end Element

/-! ## Descriptors -/

namespace Descriptor

/--
Arrays of the same dimensions of a primitive type and of an object with its
keyword for a name.
-/
structure Homonyms (first second : Descriptor) : Prop where
  dimensions : first.dimensions = second.dimensions
  element : first.element.Homonyms second.element

/-- The text of a descriptor leaves no choice what it is the text of. -/
theorem text_inj {first second : Descriptor} (same : first.text = second.text) :
    first = second := by
  have read := parse?_text first
  rw [same, parse?_text] at read
  exact (Option.some.inj read).symm

theorem ext_parts {first second : Descriptor}
    (dimensions : first.dimensions = second.dimensions)
    (element : first.element = second.element) : first = second := by
  cases first
  cases second
  cases dimensions
  cases element
  rfl

/--
The spelling in a program tells the dimensions and the spelling of the element.
-/
theorem identifierChars_inj {first second : Descriptor}
    (plainFirst : first.element.Plain) (plainSecond : second.element.Plain)
    (same : first.identifierChars = second.identifierChars) :
    first.dimensions = second.dimensions ∧
      first.element.identifierChars = second.element.identifierChars :=
  dimensionMarks_append_inj (Element.unmarked_identifierChars plainFirst)
    (Element.unmarked_identifierChars plainSecond) same

/-- Descriptors count as the same if they are, and if they are homonyms. -/
theorem sameType_iff {first second : Descriptor}
    (plainFirst : first.element.Plain) (plainSecond : second.element.Plain) :
    first.sameType second = true ↔ first = second ∨ first.Homonyms second := by
  rw [sameType, decide_eq_true_iff]
  constructor
  · intro same
    rcases identifierChars_inj plainFirst plainSecond same with
      ⟨dimensions, spelled⟩
    rcases (Element.identifierChars_eq_iff plainFirst plainSecond).1
      spelled with equal | homonyms
    · exact .inl (ext_parts dimensions equal)
    · exact .inr ⟨dimensions, homonyms⟩
  · rintro (rfl | homonyms)
    · rfl
    · have spelled := (Element.identifierChars_eq_iff plainFirst plainSecond).2
        (.inr homonyms.element)
      rw [identifierChars, identifierChars, homonyms.dimensions, spelled]

/--
Types which are the same or homonyms one by one are all the same, or somewhere
homonyms.
-/
theorem eq_or_homonyms_of_forall₂ {firsts seconds : List Descriptor}
    (pairs : List.Forall₂ (fun one other => one = other ∨ one.Homonyms other)
      firsts seconds) :
    firsts = seconds ∨
      ∃ one other, (one, other) ∈ firsts.zip seconds ∧ one.Homonyms other := by
  induction pairs with
  | nil => exact .inl rfl
  | @cons one other ones others first rest hypothesis =>
      rcases first with rfl | homonyms
      · rcases hypothesis with rfl | ⟨inner, outer, paired, homonyms⟩
        · exact .inl rfl
        · exact .inr ⟨inner, outer, List.mem_cons_of_mem _ paired, homonyms⟩
      · exact .inr ⟨one, other, List.mem_cons_self, homonyms⟩

/-- A descriptor with plain names resolves. -/
theorem exists_resolve {descriptor : Descriptor}
    (plain : descriptor.element.Plain) :
    ∃ type, ResolvedType.resolve (.descriptor descriptor) = .ok type := by
  rw [ResolvedType.resolve_descriptor]
  apply ResolvedType.exists_ofDescriptor
  intro path object
  rw [object] at plain
  exact plain.2.2

end Descriptor

/-- What was read as a descriptor is written as it was. -/
theorem WrittenType.text_of_ofDescriptor {text : String} {found : Descriptor}
    (read : ofDescriptor text = .ok (.descriptor found)) :
    found.text = text := by
  rcases ofDescriptor_eq_ok_iff.1 read with ⟨same, equal, spelled⟩
  cases equal
  rw [Descriptor.text, spelled, String.ofList_toList]

/-! ## Method descriptors -/

namespace MethodType

/--
The types which a method descriptor is made of: that of the result and those of
the parameters.
-/
def types (type : MethodType) : List Descriptor :=
  type.result :: type.parameters

/-- A method descriptor of types with plain names. -/
def Plain (type : MethodType) : Prop :=
  ∀ part ∈ type.types, part.element.Plain

/-- Method descriptors agree if their types do, one by one. -/
theorem sameTypes_iff {first second : MethodType} :
    first.sameTypes second = true ↔
      List.Forall₂ (fun one other => one.sameType other = true) first.types
        second.types := by
  rw [types, types, List.forall₂_cons, List.forall₂_iff_zip]
  simp [sameTypes, and_comm]

theorem eq_of_types {first second : MethodType}
    (same : first.types = second.types) :
    first = second := by
  cases first
  cases second
  cases same
  rfl

/--
Method descriptors agree if they are made of the same types or of homonyms, one
by one.
-/
theorem sameTypes_iff_of_plain {first second : MethodType}
    (plainFirst : first.Plain) (plainSecond : second.Plain) :
    first.sameTypes second = true ↔
      List.Forall₂ (fun one other => one = other ∨ one.Homonyms other)
        first.types second.types := by
  have pairwise : ∀ one other, (one, other) ∈ first.types.zip second.types →
      (one.sameType other = true ↔ one = other ∨ one.Homonyms other) := by
    intro one other paired
    have plainOne := plainFirst one (List.of_mem_zip paired).1
    have plainOther := plainSecond other (List.of_mem_zip paired).2
    exact Descriptor.sameType_iff plainOne plainOther
  rw [sameTypes_iff, List.forall₂_iff_zip, List.forall₂_iff_zip]
  exact and_congr_right fun _ =>
    forall_congr' fun one =>
      forall_congr' fun other => forall_congr' (pairwise one other)

end MethodType

/-! ## What counts as the same -/

/--
Descriptors of types with plain names count as the same exactly if they were
read from one text or are homonyms.  What was read from one text is written as
this text again and resolves to one type.  Method descriptors with plain names
which agree are one text as well, unless somewhere the one has a homonym of what
the other has.
-/
theorem same_text_or_homonyms :
    (∀ {firstText secondText : String} {first second : Descriptor},
      WrittenType.ofDescriptor firstText = .ok (.descriptor first) →
      WrittenType.ofDescriptor secondText = .ok (.descriptor second) →
      first.element.Plain → second.element.Plain →
        WrittenType.toDescriptor (.descriptor first) = firstText ∧
        WrittenType.toDescriptor (.descriptor second) = secondText ∧
        (WrittenType.sameType (.descriptor first) (.descriptor second) = true ↔
          firstText = secondText ∨ first.Homonyms second) ∧
        (firstText = secondText →
          ∃ type, ResolvedType.resolve (.descriptor first) = .ok type ∧
            ResolvedType.resolve (.descriptor second) = .ok type)) ∧
    ∀ {first second : MethodType}, first.Plain → second.Plain →
      first.sameTypes second = true →
      first.text = second.text ∨
        ∃ one other, (one, other) ∈ first.types.zip second.types ∧
          one.Homonyms other := by
  constructor
  · intro firstText secondText first second readFirst readSecond
      plainFirst plainSecond
    have spelledFirst := WrittenType.text_of_ofDescriptor readFirst
    have spelledSecond := WrittenType.text_of_ofDescriptor readSecond
    have alike : firstText = secondText ↔ first = second := by
      rw [← spelledFirst, ← spelledSecond]
      exact ⟨Descriptor.text_inj, congrArg Descriptor.text⟩
    rw [alike]
    refine ⟨spelledFirst, spelledSecond,
      Descriptor.sameType_iff plainFirst plainSecond, ?_⟩
    rintro rfl
    rcases Descriptor.exists_resolve plainFirst with ⟨type, resolves⟩
    exact ⟨type, resolves, resolves⟩
  · intro first second plainFirst plainSecond agree
    have pairs :=
      (MethodType.sameTypes_iff_of_plain plainFirst plainSecond).1 agree
    rcases Descriptor.eq_or_homonyms_of_forall₂ pairs with same | homonyms
    · exact .inl (congrArg MethodType.text (MethodType.eq_of_types same))
    · exact .inr homonyms

/--
A class in a package is no homonym of a primitive type, whatever its own name;
two methods agree, since one has an array of a class without a package where the
other has an array of numbers.
-/
theorem same_text_or_homonyms_sample :
    let inPackage : Descriptor := ⟨1, .object "a/int", by decide, nofun⟩
    let numbers : Descriptor := ⟨1, .primitive .int, trivial, nofun⟩
    let homonym : Descriptor := ⟨1, .object "int", by decide, nofun⟩
    let first : MethodType := ⟨[inPackage, numbers], numbers⟩
    let second : MethodType := ⟨[inPackage, homonym], numbers⟩
    WrittenType.ofDescriptor "[La/int;" = .ok (.descriptor inPackage) ∧
      WrittenType.ofDescriptor "[I" = .ok (.descriptor numbers) ∧
      inPackage.element.Plain ∧ numbers.element.Plain ∧
      (WrittenType.sameType (.descriptor inPackage) (.descriptor numbers) =
        true ↔ "[La/int;" = "[I" ∨ inPackage.Homonyms numbers) ∧
      first.Plain ∧ second.Plain ∧ first.sameTypes second = true ∧
      (first.text = second.text ∨
        ∃ one other, (one, other) ∈ first.types.zip second.types ∧
          one.Homonyms other) := by
  intro inPackage numbers homonym first second
  have readInPackage : WrittenType.ofDescriptor "[La/int;" =
      .ok (.descriptor inPackage) := by
    decide +kernel
  have readNumbers : WrittenType.ofDescriptor "[I" =
      .ok (.descriptor numbers) := by
    decide +kernel
  have plainInPackage : inPackage.element.Plain :=
    ⟨by decide, by decide, by decide⟩
  have plainNumbers : numbers.element.Plain := trivial
  have plainHomonym : homonym.element.Plain := ⟨by decide, by decide, by decide⟩
  have plainFirst : first.Plain := by
    simp [MethodType.Plain, MethodType.types, first, plainInPackage,
      plainNumbers]
  have plainSecond : second.Plain := by
    simp [MethodType.Plain, MethodType.types, second, plainInPackage,
      plainNumbers, plainHomonym]
  have agree : first.sameTypes second = true := by decide +kernel
  have types :=
    same_text_or_homonyms.1 readInPackage readNumbers
      plainInPackage plainNumbers
  exact ⟨readInPackage, readNumbers, plainInPackage, plainNumbers, types.2.2.1,
    plainFirst, plainSecond, agree,
    same_text_or_homonyms.2 plainFirst plainSecond agree⟩

/--
A class named like a primitive type counts as the type, although they differ in
all other respects.
-/
theorem homonyms_count_as_same :
    ∃ number class_ : Descriptor,
      WrittenType.ofDescriptor "I" = .ok (.descriptor number) ∧
      WrittenType.ofDescriptor "Lint;" = .ok (.descriptor class_) ∧
      number.element.Plain ∧ class_.element.Plain ∧
      WrittenType.sameType (.descriptor number) (.descriptor class_) = true ∧
      WrittenType.toDescriptor (.descriptor number) ≠
        WrittenType.toDescriptor (.descriptor class_) ∧
      ResolvedType.resolve (.descriptor number) ≠
        ResolvedType.resolve (.descriptor class_) ∧
      MethodType.sameTypes ⟨[number], number⟩ ⟨[class_], number⟩ = true ∧
      MethodType.text ⟨[number], number⟩ ≠
        MethodType.text ⟨[class_], number⟩ := by
  refine ⟨⟨0, .primitive .int, trivial, nofun⟩,
    ⟨0, .object "int", by decide, nofun⟩, ?_⟩
  refine ⟨?_, ?_, trivial, ?_, ?_, ?_, ?_, ?_, ?_⟩
  · decide +kernel
  · decide +kernel
  · exact ⟨by decide, by decide, by decide⟩
  · decide +kernel
  · decide +kernel
  · decide +kernel
  · decide +kernel
  · decide +kernel

end ClassFormat
