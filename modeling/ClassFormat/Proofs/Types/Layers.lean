import ClassFormat.Proofs.Binary.Reading
import ClassFormat.Proofs.Types.Paths
import ClassFormat.Proofs.Types.Resolution

/-!
# Array layers

A reader who resolves a type may take one bracket at a time off its descriptor
spelling, have what is left read as a descriptor of its own, and go on with
that.  The spelling gets shorter with every bracket, so this ends, and it comes
to the same as putting the element under its layers at once.  A type which
resolves has an array layer for each bracket in front of its name.

What is left after a bracket is read as a descriptor, so that `void` cannot be
the element of an inner layer.  The outermost layer is not looked at: two names,
an identifier and a path, resolve to an array of `void`.
-/

namespace ClassFormat

open Text

theorem Primitive.eq_letter_of_ofDescriptor? {chars : List Char}
    {kind : Primitive} (found : ofDescriptor? chars = some kind) :
    chars = [kind.letter] := by
  rw [ofDescriptor?.eq_def] at found
  split at found
  · rw [ofLetter?_eq_some_iff.1 found]
  · cases found

theorem leadingDimensions_cons (others : List Char) :
    leadingDimensions ('[' :: others) = leadingDimensions others + 1 :=
  rfl

theorem leadingDimensions_eq_zero {chars : List Char}
    (unmarked : ∀ component, chars ≠ '[' :: component) :
    leadingDimensions chars = 0 := by
  cases chars with
  | nil => rfl
  | cons c others =>
      have different : c ≠ '[' := by
        rintro rfl
        exact unmarked others rfl
      exact @leadingDimensions_append 0 c others different

namespace WrittenType

/--
A type has as many dimensions in its descriptor spelling as it was written with.
-/
theorem leadingDimensions_descriptorChars (written : WrittenType) :
    leadingDimensions written.descriptorChars = written.dimensions := by
  cases written with
  | identifier name =>
      rcases exists_dimensionMarks_append name.toList with
        ⟨count, rest, spelled, unmarked⟩
      rw [descriptorChars, dimensions, text, spelled,
        describe_of_unmarked unmarked,
        leadingDimensions_of_unmarked (Element.unmarked_chars _),
        leadingDimensions_of_unmarked unmarked]
  | path name =>
      rw [dimensions, text]
      by_cases begins : name.toList.head? = some '['
      · rcases List.head?_eq_some_iff.1 begins with ⟨others, marked⟩
        rw [@descriptorChars_path_of_marked name 0 others marked]
      · have described := @leadingDimensions_of_unmarked 0 _
          (Element.ofName '/' name.toList).unmarked_chars
        rw [descriptorChars_path_of_unmarked begins]
        exact described.trans (@leadingDimensions_of_unmarked 0 _ begins).symm
  | descriptor found =>
      rw [descriptorChars, dimensions, text, Descriptor.text,
        String.toList_ofList]

/--
What is read behind the first bracket of a descriptor spelling is spelled like
that.
-/
theorem descriptorChars_of_component {component : List Char}
    {element : WrittenType}
    (read : ofDescriptor (String.ofList component) = .ok element) :
    element.descriptorChars = component := by
  rcases ofDescriptor_eq_ok_iff.1 read with ⟨found, rfl, same⟩
  rw [descriptorChars, same, String.toList_ofList]

theorem length_lt_of_component {written element : WrittenType}
    {component : List Char}
    (spelled : written.descriptorChars = '[' :: component)
    (read : ofDescriptor (String.ofList component) = .ok element) :
    element.descriptorChars.length < written.descriptorChars.length := by
  rw [descriptorChars_of_component read, spelled]
  exact Nat.lt_succ_self component.length

end WrittenType

namespace ResolvedType

/-! ## One bracket at a time -/

/-- Resolve a class by the components of its name. -/
def resolveClass (written : WrittenType) : Except TypeFault ResolvedType := do
  let components ← written.components
  let class_ ← QualifiedClass.ofComponents components written.toDescriptor
  return object class_

theorem exists_object_of_resolveClass {written : WrittenType}
    {type : ResolvedType} (resolves : resolveClass written = .ok type) :
    ∃ class_, type = object class_ := by
  rcases Decoder.bind_eq_ok resolves with ⟨components, -, resolves⟩
  rcases Decoder.bind_eq_ok resolves with ⟨class_, -, resolves⟩
  cases resolves
  exact ⟨class_, rfl⟩

/--
Resolve a type by taking one bracket at a time off its descriptor spelling.
-/
def peel (written : WrittenType) : Except TypeFault ResolvedType :=
  match spelled : written.descriptorChars with
  | '[' :: component =>
    match read : WrittenType.ofDescriptor (String.ofList component) with
    | .error fault => .error fault
    | .ok element =>
      have := WrittenType.length_lt_of_component spelled read
      (peel element).map array
  | chars =>
    match Primitive.ofDescriptor? chars with
    | some kind => .ok (primitive kind false)
    | none => resolveClass written
termination_by written.descriptorChars.length
decreasing_by assumption

section Steps

variable {written : WrittenType}

/--
An array is resolved to a layer above what is left of its descriptor spelling.
-/
theorem resolve_of_marked {component : List Char}
    (spelled : written.descriptorChars = '[' :: component) :
    resolve written =
      (WrittenType.ofDescriptor (String.ofList component) >>= fun element =>
        (resolve element).map array) := by
  rw [resolve, spelled, WrittenType.ofDescriptor]
  show (Descriptor.parse (String.ofList component) >>= fun found =>
    ofDescriptor found >>= fun resolved => pure (array resolved)) = _
  cases Descriptor.parse (String.ofList component) with
  | error fault => rfl
  | ok found =>
      show (ofDescriptor found >>= fun resolved => pure (array resolved)) =
        (resolve (.descriptor found)).map array
      rw [resolve_descriptor]
      cases ofDescriptor found <;> rfl

theorem resolve_of_letter {kind : Primitive}
    (spelled : written.descriptorChars = [kind.letter]) :
    resolve written = .ok (primitive kind false) := by
  rw [resolve, spelled]
  cases kind <;> rfl

/--
What is neither an array nor a primitive type is a class with the components of
its name.
-/
theorem resolve_of_object
    (unmarked : ∀ component, written.descriptorChars ≠ '[' :: component)
    (long : Primitive.ofDescriptor? written.descriptorChars = none) :
    resolve written = resolveClass written := by
  rw [resolve]
  split
  · next component spelled => exact absurd spelled (unmarked component)
  · rw [long]
    rfl

end Steps

/-- To take off one bracket at a time is to resolve. -/
theorem peel_eq_resolve (written : WrittenType) :
    peel written = resolve written := by
  fun_induction peel written with
  | case1 written component spelled fault read =>
      rw [resolve_of_marked spelled, read]
      rfl
  | case2 written component spelled element read shorter hypothesis =>
      rw [resolve_of_marked spelled, read, hypothesis]
      rfl
  | case3 written kind unmarked found =>
      rw [resolve_of_letter (Primitive.eq_letter_of_ofDescriptor? found)]
  | case4 written unmarked long => rw [resolve_of_object unmarked long]

/-- A type which resolves has a layer for each bracket in front of its name. -/
theorem depth_of_resolve {written : WrittenType} {type : ResolvedType}
    (resolves : resolve written = .ok type) :
    type.depth = written.dimensions := by
  rw [← peel_eq_resolve] at resolves
  rw [← WrittenType.leadingDimensions_descriptorChars]
  fun_induction peel written generalizing type with
  | case1 => cases resolves
  | case2 written component spelled element read shorter hypothesis =>
      rcases Decoder.exists_of_map_eq_ok resolves with ⟨inner, found, rfl⟩
      rw [spelled, leadingDimensions_cons,
        ← WrittenType.descriptorChars_of_component read, ← hypothesis found]
      rfl
  | case3 written kind unmarked found =>
      cases resolves
      exact (leadingDimensions_eq_zero unmarked).symm
  | case4 written unmarked long =>
      rcases exists_object_of_resolveClass resolves with ⟨class_, rfl⟩
      exact (leadingDimensions_eq_zero unmarked).symm

/-! ## Arrays of `void` -/

/-- A layer of a type has `void` for its element. -/
inductive HoldsVoidArray : ResolvedType → Prop where
  | here (proxied : Bool) : HoldsVoidArray (.array (.primitive .void proxied))
  | inside {element : ResolvedType} (deeper : HoldsVoidArray element) :
      HoldsVoidArray (.array element)

theorem holdsVoidArray_array {element : ResolvedType} :
    HoldsVoidArray (array element) ↔
      (∃ proxied, element = primitive .void proxied) ∨
        element.HoldsVoidArray := by
  constructor
  · intro holds
    cases holds with
    | here proxied => exact .inl ⟨proxied, rfl⟩
    | inside deeper => exact .inr deeper
  · rintro (⟨proxied, rfl⟩ | deeper)
    · exact .here proxied
    · exact .inside deeper

/-- Only a letter resolves to a primitive type. -/
theorem descriptorChars_of_primitive {written : WrittenType}
    {kind : Primitive} {proxied : Bool}
    (resolves : resolve written = .ok (primitive kind proxied)) :
    written.descriptorChars = [kind.letter] := by
  rw [← peel_eq_resolve] at resolves
  revert resolves
  fun_cases peel written with
  | case1 => nofun
  | case2 component spelled element read shorter =>
      intro resolves
      rcases Decoder.exists_of_map_eq_ok resolves with ⟨inner, -, same⟩
      cases same
  | case3 other unmarked found =>
      intro resolves
      cases resolves
      exact Primitive.eq_letter_of_ofDescriptor? found
  | case4 unmarked long =>
      intro resolves
      rcases exists_object_of_resolveClass resolves with ⟨class_, same⟩
      cases same

/-- There is no array of `void` among the descriptors. -/
theorem chars_ne_voidArray (descriptor : Descriptor) (dimensions : Nat) :
    descriptor.chars ≠ dimensionMarks (dimensions + 1) ++ ['V'] := by
  intro same
  rcases (@Descriptor.chars_eq_iff descriptor _ (.primitive .void)).1 same with
    ⟨array, void⟩
  rw [descriptor.noVoidArray void] at array
  cases array

/--
A type holds an array of `void` if it is one, and all of its descriptor spelling
says so.
-/
theorem holdsVoidArray_of_resolve {written : WrittenType} {type : ResolvedType}
    (resolves : resolve written = .ok type) :
    type.HoldsVoidArray ↔ written.descriptorChars = ['[', 'V'] := by
  rw [← peel_eq_resolve] at resolves
  fun_induction peel written generalizing type with
  | case1 => cases resolves
  | case2 written component spelled element read shorter hypothesis =>
      rcases Decoder.exists_of_map_eq_ok resolves with ⟨inner, found, rfl⟩
      have described := WrittenType.descriptorChars_of_component read
      -- What is left is spelled by a descriptor, and no descriptor is one of an
      -- array of void.
      have nothingInside : ¬inner.HoldsVoidArray := by
        rw [hypothesis found]
        rcases WrittenType.ofDescriptor_eq_ok_iff.1 read with
          ⟨descriptor, rfl, -⟩
        exact chars_ne_voidArray descriptor 0
      rw [holdsVoidArray_array, or_iff_left nothingInside, spelled,
        List.cons_inj_right, ← described]
      rw [peel_eq_resolve] at found
      constructor
      · rintro ⟨proxied, rfl⟩
        exact descriptorChars_of_primitive found
      · intro void
        rw [@resolve_of_letter element .void void] at found
        cases found
        exact ⟨false, rfl⟩
  | case3 written kind unmarked found =>
      cases resolves
      exact ⟨nofun, fun void => absurd void (unmarked _)⟩
  | case4 written unmarked long =>
      rcases exists_object_of_resolveClass resolves with ⟨class_, rfl⟩
      exact ⟨nofun, fun void => absurd void (unmarked _)⟩

end ResolvedType

namespace WrittenType

/--
An array of `void` is described by one identifier, by one path and by no
descriptor.
-/
theorem descriptorChars_eq_voidArray_iff {written : WrittenType}
    {dimensions : Nat} :
    written.descriptorChars = dimensionMarks (dimensions + 1) ++ ['V'] ↔
      written =
          .path (String.ofList (dimensionMarks (dimensions + 1) ++ ['V'])) ∨
        written = .identifier
          (String.ofList
            (dimensionMarks (dimensions + 1) ++ "void".toList)) := by
  have letter := (Element.primitive .void).unmarked_chars
  constructor
  · intro described
    cases written with
    | identifier name =>
        rcases exists_dimensionMarks_append name.toList with
          ⟨count, rest, spelled, unmarked⟩
        rw [descriptorChars, spelled,
          describe_of_unmarked unmarked] at described
        rcases dimensionMarks_append_inj (Element.unmarked_chars _) letter
          described with ⟨counted, element⟩
        have word :=
          Element.ofName_eq_primitive_iff.1 (Element.chars_inj element)
        rw [counted, word] at spelled
        exact .inr
          (congrArg identifier
            (String.toList_inj.1 (by rw [spelled, String.toList_ofList]; rfl)))
    | path name =>
        by_cases begins : name.toList.head? = some '['
        · rcases List.head?_eq_some_iff.1 begins with ⟨others, marked⟩
          rw [@descriptorChars_path_of_marked name 0 others marked] at described
          exact .inl (congrArg path (by rw [← described, String.ofList_toList]))
        · rw [descriptorChars_path_of_unmarked begins] at described
          rcases @dimensionMarks_append_inj 0 _ _ _ (Element.unmarked_chars _)
            letter described with ⟨counted, -⟩
          cases counted
    | descriptor found =>
        exact absurd described
          (ResolvedType.chars_ne_voidArray found dimensions)
  · rintro (rfl | rfl)
    · rw [descriptorChars_path_of_marked String.toList_ofList,
        String.toList_ofList]
    · have described :=
        describe_of_unmarked Primitive.void.unmarked_keyword '.'
          (dimensions + 1)
      rw [Element.ofName_keyword] at described
      rw [descriptorChars, String.toList_ofList]
      exact described

/-- The descriptor of an array of `void` is refused as it is. -/
theorem ofDescriptor_voidArray (dimensions : Nat) :
    ofDescriptor (String.ofList (dimensionMarks (dimensions + 1) ++ ['V'])) =
      .error
        (.malformedDescriptor
          (String.ofList (dimensionMarks (dimensions + 1) ++ ['V']))) := by
  cases read : ofDescriptor
    (String.ofList (dimensionMarks (dimensions + 1) ++ ['V'])) with
  | error fault => rw [eq_malformed_of_ofDescriptor read]
  | ok written =>
      rcases ofDescriptor_eq_ok_iff.1 read with ⟨found, -, spelled⟩
      rw [String.toList_ofList] at spelled
      exact absurd spelled (ResolvedType.chars_ne_voidArray found dimensions)

end WrittenType

namespace ResolvedType

/--
What is behind the first bracket of an array of `void` is a descriptor if there
is no other bracket.
-/
theorem resolve_voidArray {written : WrittenType} {dimensions : Nat}
    (described : written.descriptorChars =
      dimensionMarks (dimensions + 1) ++ ['V']) :
    resolve written =
      if dimensions = 0 then .ok (array (primitive .void false))
      else .error
        (.malformedDescriptor
          (String.ofList (dimensionMarks dimensions ++ ['V']))) := by
  rw [resolve_of_marked described]
  cases dimensions with
  | zero => rfl
  | succ dimensions =>
      show (WrittenType.ofDescriptor
        (String.ofList (dimensionMarks (dimensions + 1) ++ ['V'])) >>= _) = _
      rw [WrittenType.ofDescriptor_voidArray,
        if_neg (Nat.succ_ne_zero dimensions)]
      rfl

/--
What resolves holds an array of `void` exactly if it was written as one of two
names.  Whatever describes an array of `void` would be refused as a descriptor.
It is refused when it is resolved as well, for what is behind its first bracket,
unless there is nothing but `void`.
-/
theorem voidArray_from_two_names (written : WrittenType) :
    (∀ type, resolve written = .ok type →
      (type.HoldsVoidArray ↔
        written = .path "[V" ∨ written = .identifier "[void")) ∧
    ∀ dimensions,
      written.toDescriptor =
        String.ofList (List.replicate (dimensions + 1) '[' ++ ['V']) →
        WrittenType.ofDescriptor written.toDescriptor =
            .error (.malformedDescriptor written.toDescriptor) ∧
          resolve written =
            if dimensions = 0 then .ok (array (primitive .void false))
            else .error (.malformedDescriptor
              (String.ofList (List.replicate dimensions '[' ++ ['V']))) := by
  constructor
  · intro type resolves
    rw [holdsVoidArray_of_resolve resolves]
    exact @WrittenType.descriptorChars_eq_voidArray_iff written 0
  · intro dimensions described
    constructor
    · rw [described]
      exact WrittenType.ofDescriptor_voidArray dimensions
    · exact resolve_voidArray (String.ofList_injective described)

/--
An array of a class called `V` is none of `void`, and of two layers the inner
one is looked at.
-/
theorem voidArray_from_two_names_sample :
    resolve (.identifier "[V") = .ok (array (object ⟨"V", ⟨[]⟩⟩)) ∧
      ¬HoldsVoidArray (array (object ⟨"V", ⟨[]⟩⟩)) ∧
      WrittenType.toDescriptor (.identifier "[[void") = "[[V" ∧
      resolve (.identifier "[[void") = .error (.malformedDescriptor "[V") := by
  have resolves : resolve (.identifier "[V") =
      .ok (array (object ⟨"V", ⟨[]⟩⟩)) := by decide +kernel
  have described : WrittenType.toDescriptor (.identifier "[[void") = "[[V" := by
    decide +kernel
  refine ⟨resolves, ?_, described,
    ((voidArray_from_two_names (.identifier "[[void")).2 1 described).2⟩
  rw [(voidArray_from_two_names (.identifier "[V")).1 _ resolves]
  decide

/--
A path and an identifier resolve to an array of `void`, whose descriptor is
refused.
-/
theorem voidArray_is_resolved :
    resolve (.path "[V") = .ok (array (primitive .void false)) ∧
      resolve (.identifier "[void") = .ok (array (primitive .void false)) ∧
      HoldsVoidArray (array (primitive .void false)) ∧
      WrittenType.ofDescriptor "[V" = .error (.malformedDescriptor "[V") :=
  ⟨by decide +kernel, by decide +kernel, .here false, by decide +kernel⟩

end ResolvedType

end ClassFormat
