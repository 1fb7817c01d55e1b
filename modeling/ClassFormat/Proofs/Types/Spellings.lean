import ClassFormat.Proofs.Types.Paths
import ClassFormat.Proofs.Types.Resolution

/-!
# The spellings of a type

A type is an array of some dimensions of a primitive type or of a class.  It can
be written as an identifier, as a descriptor and, unless it is a mere primitive,
as a path.  Whichever of them somebody wrote, it is the same type: the other
spellings derived from it, the number of its dimensions and what it resolves to
are those of the type.
-/

namespace ClassFormat

open Text

theorem Primitive.describe_keyword (kind : Primitive) (separator : Char)
    (dimensions : Nat) :
    WrittenType.describe separator
      (dimensionMarks dimensions ++ kind.keyword.toList) =
      dimensionMarks dimensions ++ [kind.letter] := by
  rw [WrittenType.describe_of_unmarked kind.unmarked_keyword,
    Element.ofName_keyword]
  rfl

/--
The name of a class: the names of its packages, from the outermost inwards, and
its own name.
-/
structure ClassName where
  segments : List String
  nonempty : segments ≠ []
  named : "" ∉ segments
  plain : ∀ segment ∈ segments, ∀ c ∈ segment.toList, c ∉ ['.', '/', ';', '[']
  notKeyword : ∀ kind : Primitive, segments ≠ [kind.keyword]

namespace ClassName

variable (name : ClassName)

/--
The characters of the name with a separator between neighbouring segments.
-/
def separated (separator : Char) : List Char :=
  join separator (name.segments.map String.toList)

/-- The class which has the name. -/
def class_ : QualifiedClass :=
  ⟨name.segments.getLast name.nonempty, ⟨name.segments.dropLast⟩⟩

theorem not_mem_segment {c : Char} (special : c ∈ ['.', '/', ';', '[']) :
    ∀ segment ∈ name.segments.map String.toList, c ∉ segment := by
  intro segment member inside
  rcases List.mem_map.1 member with ⟨text, among, rfl⟩
  exact name.plain text among c inside special

theorem not_mem_separated {c separator : Char}
    (special : c ∈ ['.', '/', ';', '[']) (different : c ≠ separator) :
    c ∉ name.separated separator := by
  intro member
  rcases eq_or_mem_of_mem_join member with same | ⟨segment, among, inside⟩
  · exact different same
  · exact name.not_mem_segment special segment among inside

theorem separated_ne_nil (separator : Char) :
    name.separated separator ≠ [] := by
  apply join_ne_nil
  · simpa using name.nonempty
  · intro member
    rcases List.mem_map.1 member with ⟨text, among, empty⟩
    exact name.named (String.toList_eq_nil_iff.1 empty ▸ among)

theorem replaceChar_separated {old : Char}
    (special : old ∈ ['.', '/', ';', '[']) (new : Char) :
    replaceChar old new (name.separated old) = name.separated new :=
  replaceChar_join new (name.not_mem_segment special)

theorem split_separated {separator : Char}
    (special : separator ∈ ['.', '/', ';', '[']) :
    (split separator (name.separated separator)).map String.ofList =
      name.segments := by
  have some_ : name.segments.map String.toList ≠ [] := by
    simpa using name.nonempty
  rw [separated, split_join some_ (name.not_mem_segment special), List.map_map]
  exact List.map_id'' (fun text => String.ofList_toList) name.segments

/-- The name of a class is no keyword, since a keyword holds no separator. -/
theorem separated_ne_keyword {separator : Char}
    (special : separator ∈ ['.', '/', ';', '[']) (kind : Primitive) :
    name.separated separator ≠ kind.keyword.toList := by
  intro keyword
  have segments := name.split_separated special
  rw [keyword,
    split_of_not_mem (kind.not_mem_keyword separator special)] at segments
  exact name.notKeyword kind (by simpa using segments.symm)

/-- The name with any separator describes the path of the class. -/
theorem ofName_separated {separator : Char}
    (special : separator ∈ ['.', '/', ';', '[']) :
    Element.ofName separator (name.separated separator) =
      .object (String.ofList (name.separated '/')) := by
  rw [Element.ofName_of_not_keyword (name.separated_ne_keyword special),
    name.replaceChar_separated special]

/-- The name does not begin like an array. -/
theorem unmarked_separated {separator : Char} (different : '[' ≠ separator) :
    (name.separated separator).head? ≠ some '[' :=
  unmarked_of_not_mem (name.not_mem_separated (by decide) different)

/-- The name with either separator is described by the path of the class. -/
theorem describe_separated {separator : Char} (divides : separator ∈ ['.', '/'])
    (dimensions : Nat) :
    WrittenType.describe separator
      (dimensionMarks dimensions ++ name.separated separator) =
      dimensionMarks dimensions ++ ('L' :: name.separated '/' ++ [';']) := by
  have special : separator ∈ ['.', '/', ';', '['] :=
    List.mem_append_left [';', '['] divides
  have different : '[' ≠ separator := by
    rintro rfl
    exact absurd divides (by decide)
  rw [WrittenType.describe_of_unmarked (name.unmarked_separated different),
    name.ofName_separated special, Element.chars, String.toList_ofList]

theorem ofComponents_segments (descriptor : String) :
    QualifiedClass.ofComponents name.segments descriptor = .ok name.class_ :=
  QualifiedClass.ofComponents_of_named name.nonempty name.named descriptor

end ClassName

/-- What the arrays of a type are made of, by name. -/
inductive BaseType where
  | primitive (kind : Primitive)
  | object (name : ClassName)

namespace BaseType

/-- The name as a program spells it. -/
def identifierChars : BaseType → List Char
  | primitive kind => kind.keyword.toList
  | object name => name.separated '.'

/-- The name as a descriptor spells it. -/
def descriptorChars : BaseType → List Char
  | primitive kind => [kind.letter]
  | object name => 'L' :: name.separated '/' ++ [';']

/-- The type itself. -/
def resolved : BaseType → ResolvedType
  | primitive kind => .primitive kind false
  | object name => .object name.class_

/-- The element which is spelled like it in descriptors. -/
def element : BaseType → Element
  | primitive kind => .primitive kind
  | object name => .object (String.ofList (name.separated '/'))

variable (base : BaseType)

theorem element_chars : base.element.chars = base.descriptorChars := by
  cases base with
  | primitive kind => rfl
  | object name =>
      rw [element, Element.chars, String.toList_ofList, descriptorChars]

theorem element_identifierChars :
    base.element.identifierChars = base.identifierChars := by
  cases base with
  | primitive kind => rfl
  | object name =>
      rw [element, Element.identifierChars, String.toList_ofList,
        name.replaceChar_separated (by decide), identifierChars]

theorem legal_element : base.element.Legal := by
  cases base with
  | primitive kind => trivial
  | object name =>
      constructor
      · intro empty
        have none_ := congrArg String.toList empty
        rw [String.toList_ofList] at none_
        exact name.separated_ne_nil '/' none_
      · rw [String.toList_ofList]
        exact name.not_mem_separated (by decide) (by decide)

theorem ofElement_element :
    ResolvedType.ofElement base.element = .ok base.resolved := by
  cases base with
  | primitive kind => rfl
  | object name =>
      rw [element, ResolvedType.ofElement, String.toList_ofList,
        name.split_separated (by decide), name.ofComponents_segments]
      rfl

/-- A name does not begin like an array. -/
theorem unmarked_identifierChars : base.identifierChars.head? ≠ some '[' := by
  cases base with
  | primitive kind => exact kind.unmarked_keyword
  | object name => exact name.unmarked_separated (by decide)

/--
A name as a program spells it is described by its spelling in descriptors.
-/
theorem describe_identifierChars (dimensions : Nat) :
    WrittenType.describe '.'
        (dimensionMarks dimensions ++ base.identifierChars) =
      dimensionMarks dimensions ++ base.descriptorChars := by
  cases base with
  | primitive kind => exact kind.describe_keyword '.' dimensions
  | object name => exact name.describe_separated (by decide) dimensions

end BaseType

/-- A type by name.  There is no array of `void`. -/
structure NamedType where
  dimensions : Nat
  base : BaseType
  noVoidArray : base = .primitive .void → dimensions = 0

namespace NamedType

variable (type : NamedType)

/-- The characters of the identifier. -/
def identifierChars : List Char :=
  dimensionMarks type.dimensions ++ type.base.identifierChars

/-- The characters of the descriptor. -/
def descriptorChars : List Char :=
  dimensionMarks type.dimensions ++ type.base.descriptorChars

/-- The type itself. -/
def resolved : ResolvedType :=
  .layers type.dimensions type.base.resolved

/-- The descriptor of the type. -/
def descriptor : Descriptor where
  dimensions := type.dimensions
  element := type.base.element
  legal := type.base.legal_element
  noVoidArray := by
    intro void
    apply type.noVoidArray
    cases base : type.base with
    | primitive kind =>
        rw [base] at void
        exact congrArg BaseType.primitive (Element.primitive.inj void)
    | object name =>
        rw [base] at void
        cases void

theorem chars_descriptor : type.descriptor.chars = type.descriptorChars :=
  congrArg (dimensionMarks type.dimensions ++ ·) type.base.element_chars

theorem text_descriptor :
    type.descriptor.text = String.ofList type.descriptorChars :=
  congrArg String.ofList type.chars_descriptor

theorem parse_descriptorChars :
    Descriptor.parse (String.ofList type.descriptorChars) =
      .ok type.descriptor := by
  rw [← type.text_descriptor, Descriptor.parse, Descriptor.parse?_text]

theorem ofDescriptor_descriptor :
    ResolvedType.ofDescriptor type.descriptor = .ok type.resolved := by
  show (ResolvedType.ofElement type.base.element).map _ = _
  rw [type.base.ofElement_element]
  rfl

theorem leadingDimensions_identifierChars :
    leadingDimensions type.identifierChars = type.dimensions :=
  leadingDimensions_of_unmarked type.base.unmarked_identifierChars

theorem leadingDimensions_descriptorChars :
    leadingDimensions type.descriptorChars = type.dimensions := by
  rw [← type.chars_descriptor]
  exact leadingDimensions_of_unmarked type.base.element.unmarked_chars

/--
The paths of the type: that of a class, or the descriptor of an array, but none
of a primitive.
-/
def paths : List WrittenType :=
  match type.dimensions, type.base with
  | 0, .primitive _ => []
  | 0, .object name => [.path (String.ofList (name.separated '/'))]
  | _, _ => [.path (String.ofList type.descriptorChars)]

/-- Everything that somebody could have written for the type. -/
def spellings : List WrittenType :=
  .identifier (String.ofList type.identifierChars) ::
    .descriptor type.descriptor :: type.paths

end NamedType

/--
What is derived from something written for a type is what the type determines.
-/
structure WrittenType.Spells (written : WrittenType) (type : NamedType) :
    Prop where
  identifier : written.toIdentifier = String.ofList type.identifierChars
  descriptor : written.toDescriptor = String.ofList type.descriptorChars
  dimensions : written.dimensions = type.dimensions
  resolved : ResolvedType.resolve written = .ok type.resolved
  components : ∀ name, type.dimensions = 0 → type.base = .object name →
    written.components = .ok name.segments

namespace NamedType

variable {type : NamedType} {written : WrittenType}

/-- The descriptor of a class is longer than that of a primitive type. -/
theorem ofDescriptor?_of_class {name : ClassName} (flat : type.dimensions = 0)
    (object : type.base = .object name) :
    Primitive.ofDescriptor? type.descriptorChars = none := by
  rcases List.exists_cons_of_ne_nil (name.separated_ne_nil '/') with
    ⟨c, others, begins⟩
  rw [descriptorChars, flat, object, BaseType.descriptorChars, begins]
  rfl

/--
What is derived as a descriptor decides what a type resolves to, and for a class
its components.
-/
theorem resolve_of_descriptorChars
    (spelled : written.descriptorChars = type.descriptorChars)
    (components : ∀ name, type.dimensions = 0 → type.base = .object name →
      written.components = .ok name.segments) :
    ResolvedType.resolve written = .ok type.resolved := by
  rw [ResolvedType.resolve, spelled]
  rcases type with ⟨dimensions, base, noVoidArray⟩
  cases dimensions with
  | succ dimensions =>
      have noVoid : base = .primitive .void → dimensions = 0 :=
        fun void => absurd (noVoidArray void) (Nat.succ_ne_zero dimensions)
      let inner : NamedType := ⟨dimensions, base, noVoid⟩
      show (Descriptor.parse (String.ofList inner.descriptorChars) >>= _) = _
      rw [inner.parse_descriptorChars]
      show (ResolvedType.ofDescriptor inner.descriptor >>= _) = _
      rw [inner.ofDescriptor_descriptor]
      rfl
  | zero =>
      cases base with
      | primitive kind => cases kind <;> rfl
      | object name =>
          split
          · next same =>
              exact absurd (List.cons.inj same).1 (by decide : 'L' ≠ '[')
          · rw [ofDescriptor?_of_class rfl rfl, components name rfl rfl]
            show (QualifiedClass.ofComponents name.segments _ >>= _) = _
            rw [name.ofComponents_segments]
            rfl

/-- What a spelling has to say by itself; all the rest follows. -/
theorem spells_of_chars
    (identifies : written.identifierChars = type.identifierChars)
    (describes : written.descriptorChars = type.descriptorChars)
    (counts : written.dimensions = type.dimensions)
    (components : ∀ name, type.dimensions = 0 → type.base = .object name →
      written.components = .ok name.segments) :
    written.Spells type where
  identifier := congrArg String.ofList identifies
  descriptor := congrArg String.ofList describes
  dimensions := counts
  resolved := resolve_of_descriptorChars describes components
  components := components

theorem spells_identifier (type : NamedType) :
    WrittenType.Spells (.identifier (String.ofList type.identifierChars))
      type := by
  apply spells_of_chars
  case identifies => exact String.toList_ofList
  case describes =>
    rw [WrittenType.descriptorChars, String.toList_ofList]
    exact type.base.describe_identifierChars type.dimensions
  case counts =>
    rw [WrittenType.dimensions, WrittenType.text, String.toList_ofList,
      leadingDimensions_identifierChars]
  case components =>
    intro name flat object
    rw [WrittenType.components, String.toList_ofList, identifierChars, flat,
      object]
    exact congrArg Except.ok (name.split_separated (by decide))

theorem spells_descriptor (type : NamedType) :
    WrittenType.Spells (.descriptor type.descriptor) type := by
  apply spells_of_chars
  case identifies =>
    exact congrArg (dimensionMarks type.dimensions ++ ·)
      type.base.element_identifierChars
  case describes => exact type.chars_descriptor
  case counts =>
    rw [WrittenType.dimensions, WrittenType.text, text_descriptor,
      String.toList_ofList, leadingDimensions_descriptorChars]
  case components =>
    intro name flat object
    have path : (WrittenType.descriptor type.descriptor).toPath =
        .ok (String.ofList (name.separated '/')) := by
      simp only [WrittenType.toPath, descriptor, flat, object, BaseType.element]
    rw [WrittenType.components, path, Except.map, String.toList_ofList,
      name.split_separated (by decide)]
    intro other same
    cases same

/-- The path of a class, which does not look like an array. -/
theorem spells_path_of_class {name : ClassName} (flat : type.dimensions = 0)
    (object : type.base = .object name) :
    WrittenType.Spells (.path (String.ofList (name.separated '/'))) type := by
  have unmarked : (String.ofList (name.separated '/')).toList.head? ≠
      some '[' := by
    rw [String.toList_ofList]
    exact name.unmarked_separated (by decide)
  apply spells_of_chars
  case identifies =>
    rw [WrittenType.identifierChars_path_of_unmarked unmarked,
      String.toList_ofList, name.replaceChar_separated (by decide),
      identifierChars, flat, object]
    rfl
  case describes =>
    rw [WrittenType.descriptorChars_path_of_unmarked unmarked,
      String.toList_ofList, name.ofName_separated (by decide), descriptorChars,
      flat, object]
    exact (BaseType.object name).element_chars
  case counts =>
    rw [WrittenType.dimensions, WrittenType.text, flat]
    exact @leadingDimensions_of_unmarked 0 _ unmarked
  case components =>
    intro other _ same
    cases object.symm.trans same
    rw [WrittenType.components, WrittenType.toPath, Except.map,
      String.toList_ofList, name.split_separated (by decide)]
    intro other same
    cases same

/-- The path of an array, which is its descriptor. -/
theorem spells_path_of_array {dimensions : Nat}
    (array : type.dimensions = dimensions + 1) :
    WrittenType.Spells (.path (String.ofList type.descriptorChars)) type := by
  rcases WrittenType.path_of_array type.descriptor array with
    ⟨identifies, describes⟩
  rw [type.text_descriptor] at identifies describes
  apply spells_of_chars
  case identifies =>
    rw [identifies]
    exact congrArg (dimensionMarks type.dimensions ++ ·)
      type.base.element_identifierChars
  case describes => rw [describes, type.chars_descriptor]
  case counts =>
    rw [WrittenType.dimensions, WrittenType.text, String.toList_ofList,
      leadingDimensions_descriptorChars]
  case components =>
    intro name flat
    rw [array] at flat
    cases flat

theorem spells_of_mem_paths {type : NamedType} (member : written ∈ type.paths) :
    written.Spells type := by
  rw [paths] at member
  split at member
  · cases member
  · next flat object =>
    rcases List.mem_singleton.1 member with rfl
    exact spells_path_of_class flat object
  · next notPrimitive notObject =>
    rcases List.mem_singleton.1 member with rfl
    cases dimensions : type.dimensions with
    | succ dimensions => exact spells_path_of_array dimensions
    | zero =>
        cases base : type.base with
        | primitive kind => exact absurd base (notPrimitive kind dimensions)
        | object name => exact absurd base (notObject name dimensions)

/-- Everything written for a type says what the type determines. -/
theorem spells_of_mem_spellings {type : NamedType}
    (member : written ∈ type.spellings) :
    written.Spells type := by
  rcases List.mem_cons.1 member with rfl | member
  · exact spells_identifier type
  · rcases List.mem_cons.1 member with rfl | member
    · exact spells_descriptor type
    · exact spells_of_mem_paths member

/--
The spellings of a type agree, for every type: the descriptor is read, and
whichever spelling somebody wrote, the others derived from it, its dimensions
and what it resolves to are those of the type.  Any two of them count as the
same type.
-/
theorem spellings_agree (type : NamedType) :
    WrittenType.ofDescriptor (String.ofList type.descriptorChars) =
        .ok (.descriptor type.descriptor) ∧
      ∀ first ∈ type.spellings, first.Spells type ∧
        ∀ second ∈ type.spellings, first.sameType second = true := by
  refine ⟨?_, fun first member =>
    ⟨spells_of_mem_spellings member, fun second other => ?_⟩⟩
  · rw [WrittenType.ofDescriptor, type.parse_descriptorChars]
    rfl
  · have same := (spells_of_mem_spellings member).identifier.trans
      (spells_of_mem_spellings other).identifier.symm
    exact decide_eq_true (String.ofList_injective same)

/-- The path of an array of arrays of strings agrees with its identifier. -/
theorem spellings_agree_sample :
    let name : ClassName :=
      ⟨["java", "lang", "String"], by decide, by decide, by simp, by simp⟩
    let type : NamedType := ⟨2, .object name, nofun⟩
    let path := WrittenType.path "[[Ljava/lang/String;"
    path ∈ type.spellings ∧ path.Spells type ∧
      path.sameType (.identifier "[[java.lang.String") = true := by
  intro name type path
  have written : path ∈ type.spellings := .tail _ (.tail _ (.head _))
  have agrees := (spellings_agree type).2 path written
  exact ⟨written, agrees.1, agrees.2 _ (.head _)⟩

end NamedType

end ClassFormat
