import ClassFormat.Binary.Decoder
import ClassFormat.Types.MethodType
import ClassFormat.Types.WrittenType

/-!
# The grammar of descriptors

What a field descriptor and a method descriptor look like, said without a
reader: productions for the former, and for the latter a list of parameters
between parentheses and a result.  The names of classes may contain everything
but the character which ends them, parentheses and brackets included.

Reading accepts exactly the texts of the grammar.  A method descriptor can be
taken apart in one way only, and what is read from it is spelled like it.
-/

namespace ClassFormat

/-- The texts which are field descriptors. -/
inductive FieldSyntax : List Char → Prop where
  | primitive (dimensions : Nat) {letter : Char}
      (listed : letter ∈ ['B', 'C', 'D', 'F', 'I', 'J', 'S', 'Z']) :
      FieldSyntax (List.replicate dimensions '[' ++ [letter])
  | void : FieldSyntax ['V']
  | object (dimensions : Nat) {name : List Char} (nonempty : name ≠
      []) (unended : ';' ∉ name) :
      FieldSyntax (List.replicate dimensions '[' ++ 'L' :: name ++ [';'])

/-- The texts which are method descriptors of some parameters and a result. -/
structure MethodSyntax (parameters : List (List Char))
    (result text : List Char) : Prop where
  ofParameters : ∀ parameter ∈ parameters, FieldSyntax parameter ∧
    parameter ≠ ['V']
  ofResult : FieldSyntax result
  spelled : text = '(' :: parameters.flatten ++ ')' :: result

/-! ## Field descriptors -/

namespace Primitive

theorem letter_mem_or_eq_void (kind : Primitive) :
    kind.letter ∈ ['B', 'C', 'D', 'F', 'I', 'J', 'S', 'Z'] ∨ kind = .void := by
  cases kind <;> decide

theorem exists_letter_eq {letter : Char}
    (listed : letter ∈ ['B', 'C', 'D', 'F', 'I', 'J', 'S', 'Z']) :
    ∃ kind : Primitive, kind.letter = letter ∧ kind ≠ .void := by
  simp only [List.mem_cons, List.not_mem_nil, or_false] at listed
  rcases listed with rfl | rfl | rfl | rfl | rfl | rfl | rfl | rfl
  · exact ⟨.byte, rfl, nofun⟩
  · exact ⟨.char, rfl, nofun⟩
  · exact ⟨.double, rfl, nofun⟩
  · exact ⟨.float, rfl, nofun⟩
  · exact ⟨.int, rfl, nofun⟩
  · exact ⟨.long, rfl, nofun⟩
  · exact ⟨.short, rfl, nofun⟩
  · exact ⟨.boolean, rfl, nofun⟩

theorem letter_inj {first second : Primitive}
    (same : first.letter = second.letter) :
    first = second := by
  have found := ofLetter?_letter first
  rw [same, ofLetter?_letter] at found
  exact (Option.some.inj found).symm

end Primitive

namespace Descriptor

theorem ofParts?_eq_some_iff {dimensions : Nat} {element : Element}
    {descriptor : Descriptor} :
    ofParts? dimensions element = some descriptor ↔
      descriptor.dimensions = dimensions ∧ descriptor.element = element := by
  constructor
  · intro made
    simp only [ofParts?] at made
    split at made
    · split at made
      · cases made
        exact ⟨rfl, rfl⟩
      · cases made
    · cases made
  · rintro ⟨rfl, rfl⟩
    rw [ofParts?, dif_pos descriptor.legal, dif_pos descriptor.noVoidArray]

/-- The texts of descriptors are those of the grammar. -/
theorem fieldSyntax_iff {chars : List Char} :
    FieldSyntax chars ↔
      ∃ descriptor : Descriptor, descriptor.chars = chars := by
  constructor
  · intro derived
    cases derived with
    | primitive dimensions listed =>
        rcases Primitive.exists_letter_eq listed with ⟨kind, rfl, notVoid⟩
        have noVoidArray : Element.primitive kind = .primitive .void →
            dimensions = 0 :=
          fun void => absurd (Element.primitive.inj void) notVoid
        exact ⟨⟨dimensions, .primitive kind, trivial, noVoidArray⟩, rfl⟩
    | void => exact ⟨⟨0, .primitive .void, trivial, fun _ => rfl⟩, rfl⟩
    | @object dimensions name nonempty unended =>
        refine ⟨⟨dimensions, .object (String.ofList name), ⟨?_, ?_⟩, nofun⟩, ?_⟩
        · simpa using nonempty
        · simpa using unended
        · simp [chars, Element.chars, dimensionMarks]
  · rintro ⟨⟨dimensions, element, legal, noVoidArray⟩, rfl⟩
    cases element with
    | primitive kind =>
        rcases kind.letter_mem_or_eq_void with listed | rfl
        · exact .primitive dimensions listed
        · cases noVoidArray rfl
          exact .void
    | object path =>
        rcases legal with ⟨nonempty, unended⟩
        have named : path.toList ≠ [] := by simpa using nonempty
        simpa [chars, Element.chars,
          dimensionMarks] using FieldSyntax.object dimensions named unended

theorem chars_eq_void_iff {descriptor : Descriptor} :
    descriptor.chars = ['V'] ↔ descriptor.element = .primitive .void := by
  rcases descriptor with ⟨dimensions, element, legal, noVoidArray⟩
  constructor
  · intro same
    cases dimensions with
    | zero =>
        cases element with
        | primitive kind =>
            simp only [chars, dimensionMarks, Element.chars,
              List.replicate_zero, List.nil_append, List.cons.injEq,
              and_true] at same
            exact congrArg Element.primitive (Primitive.letter_inj same)
        | object path => simp [chars, dimensionMarks, Element.chars] at same
    | succ dimensions =>
        simp [chars, dimensionMarks, List.replicate_succ] at same
  · rintro rfl
    cases noVoidArray rfl
    rfl

/--
A descriptor begins with a bracket, a letter of a primitive type or the letter
of objects.
-/
theorem exists_chars_eq_cons (descriptor : Descriptor) :
    ∃ c others, descriptor.chars = c :: others ∧ c ≠ ')' := by
  rcases descriptor with ⟨dimensions, element, legal, noVoidArray⟩
  cases dimensions with
  | zero =>
      cases element with
      | primitive kind => exact ⟨kind.letter, [], rfl, by cases kind <;> decide⟩
      | object path => exact ⟨'L', path.toList ++ [';'], rfl, by decide⟩
  | succ dimensions =>
      exact ⟨'[', dimensionMarks dimensions ++ element.chars, rfl, by decide⟩

end Descriptor

namespace WrittenType

/--
A text is read as a descriptor if it is the text of one, and is written out as
it was.
-/
theorem ofDescriptor_eq_ok_iff {text : String} {written : WrittenType} :
    ofDescriptor text = .ok written ↔
      ∃ found : Descriptor, written = .descriptor found ∧
        found.chars = text.toList := by
  have spelled (found : Descriptor) : found.text = text ↔
      found.chars = text.toList := by
    rw [Descriptor.text, ← String.toList_inj, String.toList_ofList]
  constructor
  · intro read
    simp only [ofDescriptor, Descriptor.parse] at read
    split at read
    · next found parsed =>
      cases read
      exact ⟨found, rfl, (spelled found).1 (Descriptor.text_of_parse? parsed)⟩
    · cases read
  · rintro ⟨found, rfl, same⟩
    rw [← (spelled found).2 same, ofDescriptor, Descriptor.parse,
      Descriptor.parse?_text]
    rfl

/-- Exactly the texts of the grammar are read as descriptors. -/
theorem ofDescriptor_accepts_iff (text : String) :
    (∃ written, ofDescriptor text = .ok written) ↔ FieldSyntax text.toList := by
  rw [Descriptor.fieldSyntax_iff]
  constructor
  · rintro ⟨written, read⟩
    rcases ofDescriptor_eq_ok_iff.1 read with ⟨found, -, same⟩
    exact ⟨found, same⟩
  · rintro ⟨found, same⟩
    exact ⟨.descriptor found, ofDescriptor_eq_ok_iff.2 ⟨found, rfl, same⟩⟩

/-- A text which is not read as a descriptor is reported itself. -/
theorem eq_malformed_of_ofDescriptor {text : String} {fault : TypeFault}
    (failed : ofDescriptor text = .error fault) :
    fault = .malformedDescriptor text := by
  simp only [ofDescriptor, Descriptor.parse] at failed
  split at failed
  · cases failed
  · cases failed
    rfl

end WrittenType

/-! ## Reading a type -/

/-- Brackets in front of something else count as the dimensions. -/
theorem leadingDimensions_append
    {dimensions : Nat} {c : Char} {others : List Char} (different : c ≠ '[') :
    leadingDimensions (dimensionMarks dimensions ++ c :: others) =
      dimensions := by
  rw [leadingDimensions, dimensionMarks,
    List.takeWhile_append_of_pos (by simp [List.mem_replicate]),
    List.takeWhile_cons_of_neg (by simpa using different)]
  simp

theorem withoutDimensions_append
    {dimensions : Nat} {c : Char} {others : List Char} (different : c ≠ '[') :
    withoutDimensions (dimensionMarks dimensions ++ c :: others) =
      c :: others := by
  rw [withoutDimensions, dimensionMarks,
    List.dropWhile_append_of_pos (by simp [List.mem_replicate]),
    List.dropWhile_cons_of_neg (by simpa using different)]

theorem Element.exists_chars_eq_cons (element : Element) :
    ∃ c others, element.chars = c :: others ∧ c ≠ '[' := by
  cases element with
  | primitive kind => exact ⟨kind.letter, [], rfl, by cases kind <;> decide⟩
  | object path => exact ⟨'L', path.toList ++ [';'], rfl, by decide⟩

namespace MethodType

/--
What can be read as an element: anything which ends where it should, were it
empty.
-/
def Readable (allowVoid : Bool) (dimensions : Nat) : Element → Prop
  | .primitive kind => kind = .void → allowVoid = true ∧ dimensions = 0
  | .object path => ';' ∉ path.toList

/--
The front of some characters up to the first semicolon, and what begins with it.
-/
theorem takeWhile_append_semicolon
    {front : List Char} (unended : ';' ∉ front) (rest : List Char) :
    (front ++ ';' :: rest).takeWhile (· ≠ ';') = front ∧
      (front ++ ';' :: rest).dropWhile (· ≠ ';') = ';' :: rest := by
  have before : ∀ c ∈ front, decide (c ≠ ';') = true := by
    intro c member
    apply decide_eq_true
    rintro rfl
    exact unended member
  constructor
  · rw [List.takeWhile_append_of_pos before]
    simp
  · rw [List.dropWhile_append_of_pos before]
    simp

theorem exists_of_dropWhile_semicolon
    {chars rest : List Char} {c : Char}
    (dropped : chars.dropWhile (· ≠ ';') = c :: rest) :
    ∃ front, chars = front ++ ';' :: rest ∧ ';' ∉ front := by
  have left : chars.dropWhile (fun c => decide (c ≠ ';')) ≠ [] := by
    rw [dropped]
    exact List.cons_ne_nil c rest
  have ends : c = ';' := by
    have head := List.head_dropWhile_not (fun c => decide (c ≠ ';')) left
    simp only [dropped, List.head_cons] at head
    simpa using head
  refine ⟨chars.takeWhile (· ≠ ';'), ?_, ?_⟩
  · calc
      chars = chars.takeWhile (· ≠ ';') ++ chars.dropWhile (· ≠ ';') :=
        List.takeWhile_append_dropWhile.symm
      _ = chars.takeWhile (· ≠ ';') ++ ';' :: rest := by rw [dropped, ends]
  · intro member
    simpa using List.all_eq_true.1 List.all_takeWhile _ member

/-- Whatever is read as an element was spelled like it. -/
theorem eq_append_of_readElement
    {allowVoid : Bool} {dimensions : Nat} {chars rest : List Char}
    {element : Element}
    (read : readElement allowVoid dimensions chars = .ok (element, rest)) :
    chars = element.chars ++ rest ∧ Readable allowVoid dimensions element := by
  simp only [readElement] at read
  split at read
  · cases read
  · next c others =>
    split at read
    · cases read
    · next placed =>
      split at read
      · next object =>
        split at read
        · cases read
        · next dropped =>
          cases read
          rcases exists_of_dropWhile_semicolon dropped with
            ⟨front, rfl, unended⟩
          rw [(takeWhile_append_semicolon unended _).1]
          refine ⟨?_, by simpa [Readable] using unended⟩
          simp [object, Element.chars]
      · split at read
        · next kind found =>
          cases read
          rcases Primitive.ofLetter?_eq_some_iff.1 found with rfl
          refine ⟨rfl, ?_⟩
          rintro rfl
          simpa [Primitive.letter] using placed
        · cases read

/-- Whatever can be read as an element is read as it, in front of anything. -/
theorem readElement_append
    {allowVoid : Bool} {dimensions : Nat} {element : Element}
    (readable : Readable allowVoid dimensions element) (rest : List Char) :
    readElement allowVoid dimensions (element.chars ++ rest) =
      .ok (element, rest) := by
  cases element with
  | primitive kind =>
      have placed : ¬(kind.letter = 'V' ∧
          (allowVoid = false ∨ 0 < dimensions)) := by
        rintro ⟨void, misplaced⟩
        rcases readable (Primitive.letter_inj void) with ⟨allowed, flat⟩
        simp [allowed, flat] at misplaced
      have notObject : kind.letter ≠ 'L' := by cases kind <;> decide
      show readElement allowVoid dimensions (kind.letter :: rest) = _
      rw [readElement, if_neg placed, if_neg notObject,
        Primitive.ofLetter?_letter]
  | object path =>
      have unended : ';' ∉ path.toList := readable
      have ends := takeWhile_append_semicolon unended rest
      show readElement allowVoid dimensions
        ('L' :: ((path.toList ++ [';']) ++ rest)) = _
      rw [List.append_assoc, List.singleton_append, readElement,
        if_neg (by simp), if_pos rfl, ends.1, ends.2, String.ofList_toList]

/--
A type may be read where its kind is allowed: all but `void` are allowed
everywhere.
-/
def Allowed (allowVoid : Bool) (descriptor : Descriptor) : Prop :=
  descriptor.element = .primitive .void → allowVoid = true

theorem readable_of_allowed
    {allowVoid : Bool} {descriptor : Descriptor}
    (allowed : Allowed allowVoid descriptor) :
    Readable allowVoid descriptor.dimensions descriptor.element := by
  rcases descriptor with ⟨dimensions, element, legal, noVoidArray⟩
  cases element with
  | primitive kind =>
      rintro rfl
      exact ⟨allowed rfl, noVoidArray rfl⟩
  | object path => exact legal.2

/-- Whatever is read as a type was spelled like it. -/
theorem eq_append_of_readType
    {allowVoid : Bool} {chars rest : List Char} {descriptor : Descriptor}
    (read : readType allowVoid chars = .ok (descriptor, rest)) :
    chars = descriptor.chars ++ rest ∧ Allowed allowVoid descriptor := by
  simp only [readType] at read
  split at read
  · cases read
  · next element left found =>
    split at read
    · next made =>
      cases read
      rcases eq_append_of_readElement found with ⟨split, readable⟩
      rcases Descriptor.ofParts?_eq_some_iff.1 made with ⟨dimensions, same⟩
      constructor
      · rw [Descriptor.chars, dimensions, same, List.append_assoc, ← split,
          dimensionMarks_append_withoutDimensions]
      · intro void
        rw [← same, void] at readable
        exact (readable rfl).1
    · cases read

/-- A descriptor is read where it is allowed, in front of anything. -/
theorem readType_append
    {allowVoid : Bool} {descriptor : Descriptor}
    (allowed : Allowed allowVoid descriptor)
    (rest : List Char) :
    readType allowVoid (descriptor.chars ++ rest) = .ok (descriptor, rest) := by
  rcases descriptor.element.exists_chars_eq_cons with
    ⟨c, others, begins, different⟩
  have spelled : descriptor.chars ++ rest =
      dimensionMarks descriptor.dimensions ++ c :: (others ++ rest) := by
    rw [Descriptor.chars, begins, List.append_assoc, List.cons_append]
  have read : readElement allowVoid descriptor.dimensions
      (c :: (others ++ rest)) =
      .ok (descriptor.element, rest) := by
    rw [← List.cons_append, ← begins]
    exact readElement_append (readable_of_allowed allowed) rest
  have made : Descriptor.ofParts? descriptor.dimensions descriptor.element =
      some descriptor :=
    Descriptor.ofParts?_eq_some_iff.2 ⟨rfl, rfl⟩
  simp only [readType, spelled, leadingDimensions_append different,
    withoutDimensions_append different, read, made]

/-! ## Reading a method descriptor -/

theorem readParameters_append
    {parameter : Descriptor} (allowed : Allowed false parameter)
    (done : List Descriptor)
    (rest : List Char) :
    readParameters done (parameter.chars ++ rest) =
      readParameters (parameter :: done) rest := by
  rcases parameter.exists_chars_eq_cons with ⟨c, others, begins, different⟩
  have read := readType_append allowed rest
  rw [begins, List.cons_append] at read ⊢
  rw [readParameters, if_neg different]
  split
  · next failed =>
      rw [read] at failed
      cases failed
  · next found =>
      rw [read] at found
      cases found
      rfl

theorem readParameters_eq_ok_iff
    {done parameters : List Descriptor} {chars rest : List Char} :
    readParameters done chars = .ok (parameters, rest) ↔
      ∃ more : List Descriptor, parameters = done.reverse ++ more ∧
        chars = more.flatMap Descriptor.chars ++ ')' :: rest ∧
          ∀ parameter ∈ more, Allowed false parameter := by
  constructor
  · intro read
    fun_induction readParameters done chars with
    | case1 => cases read
    | case2 done others =>
        cases read
        exact ⟨[], by simp, rfl, nofun⟩
    | case3 done c others different fault failed => cases read
    | case4 done c others different parameter left found shorter hypothesis =>
        rcases hypothesis read with ⟨more, rfl, spelled, allowed⟩
        rcases eq_append_of_readType found with ⟨split, first⟩
        refine ⟨parameter :: more, by simp, ?_, ?_⟩
        · rw [split, spelled, List.flatMap_cons, List.append_assoc]
        · exact List.forall_mem_cons.2 ⟨first, allowed⟩
  · rintro ⟨more, rfl, rfl, allowed⟩
    induction more generalizing done with
    | nil => simp [readParameters]
    | cons parameter others hypothesis =>
        rcases List.forall_mem_cons.1 allowed with ⟨first, others⟩
        rw [List.flatMap_cons, List.append_assoc, readParameters_append first,
          hypothesis others]
        simp

/--
What is read as a method descriptor is what is spelled like one, with `void` for
a result at most.
-/
theorem ofChars_eq_ok_iff {chars : List Char} {type : MethodType} :
    ofChars chars = .ok type ↔
      chars = type.chars ∧
        ∀ parameter ∈ type.parameters, Allowed false parameter := by
  constructor
  · intro read
    rw [ofChars.eq_def] at read
    split at read
    · rcases Decoder.bind_eq_ok read with
        ⟨⟨parameters, afterParameters⟩, readMany, resultRead⟩
      rcases Decoder.bind_eq_ok resultRead with
        ⟨⟨result, left⟩, readResult, finished⟩
      rcases readParameters_eq_ok_iff.1 readMany with ⟨more, rfl, rfl, allowed⟩
      rcases eq_append_of_readType readResult with ⟨rfl, -⟩
      simp only at finished
      split at finished
      · next ended =>
        cases finished
        rw [ended]
        exact ⟨by simp [MethodType.chars], allowed⟩
      · cases finished
    · cases read
  · rintro ⟨rfl, allowed⟩
    have readMany : readParameters
        [] (type.parameters.flatMap Descriptor.chars ++
        ')' :: type.result.chars) = .ok (type.parameters, type.result.chars) :=
      readParameters_eq_ok_iff.2 ⟨type.parameters, rfl, rfl, allowed⟩
    have readResult : readType true type.result.chars =
        .ok (type.result, []) := by
      rw [← List.append_nil type.result.chars]
      exact readType_append (fun _ => rfl) []
    show (readParameters [] (type.parameters.flatMap Descriptor.chars ++
      ')' :: type.result.chars) >>= _) = _
    rw [readMany]
    show (readType true type.result.chars >>= _) = _
    rw [readResult]
    rfl

/-- Texts which may be parameters are spelled by descriptors which may be. -/
theorem exists_parameters
    {texts : List (List Char)}
    (derived : ∀ text ∈ texts, FieldSyntax text ∧ text ≠ ['V']) :
    ∃ parameters : List Descriptor, parameters.map Descriptor.chars = texts ∧
      ∀ parameter ∈ parameters, Allowed false parameter := by
  induction texts with
  | nil => exact ⟨[], rfl, nofun⟩
  | cons text others hypothesis =>
      rcases List.forall_mem_cons.1 derived with
        ⟨⟨first, notVoid⟩, derivedOthers⟩
      rcases Descriptor.fieldSyntax_iff.1 first with ⟨parameter, rfl⟩
      rcases hypothesis derivedOthers with ⟨parameters, rfl, allowed⟩
      refine ⟨parameter :: parameters, rfl,
        List.forall_mem_cons.2 ⟨?_, allowed⟩⟩
      exact fun void => absurd (Descriptor.chars_eq_void_iff.2 void) notVoid

/-- A text of the grammar is read, and its parts are those of what is read. -/
theorem methodSyntax_iff {parameters : List (List Char)}
    {result text : List Char} :
    MethodSyntax parameters result text ↔
      ∃ type, ofChars text = .ok type ∧
        type.parameters.map Descriptor.chars = parameters ∧
        type.result.chars = result := by
  constructor
  · rintro ⟨ofParameters, ofResult, rfl⟩
    rcases exists_parameters ofParameters with ⟨parameters, rfl, allowed⟩
    rcases Descriptor.fieldSyntax_iff.1 ofResult with ⟨result, rfl⟩
    refine ⟨⟨parameters, result⟩, ofChars_eq_ok_iff.2 ⟨?_, allowed⟩, rfl, rfl⟩
    rw [MethodType.chars, List.flatMap_def]
  · rintro ⟨type, read, rfl, rfl⟩
    rcases ofChars_eq_ok_iff.1 read with ⟨rfl, allowed⟩
    refine ⟨?_, Descriptor.fieldSyntax_iff.2 ⟨_, rfl⟩, ?_⟩
    · intro parameter member
      rcases List.mem_map.1 member with ⟨descriptor, among, rfl⟩
      refine ⟨Descriptor.fieldSyntax_iff.2 ⟨_, rfl⟩, fun void => ?_⟩
      exact absurd
        (allowed descriptor among (Descriptor.chars_eq_void_iff.1 void))
        (by decide)
    · rw [MethodType.chars, List.flatMap_def]

/-- A method descriptor can be taken apart in one way only. -/
theorem eq_of_methodSyntax
    {firstParameters secondParameters : List (List Char)}
    {firstResult secondResult text : List Char}
    (first : MethodSyntax firstParameters firstResult text)
    (second : MethodSyntax secondParameters secondResult text) :
    firstParameters = secondParameters ∧ firstResult = secondResult := by
  rcases methodSyntax_iff.1 first with ⟨type, read, rfl, rfl⟩
  rcases methodSyntax_iff.1 second with ⟨other, readOther, rfl, rfl⟩
  rw [read] at readOther
  cases readOther
  exact ⟨rfl, rfl⟩

theorem parse_eq_ok_iff {text : String} {type : MethodType} :
    parse text = .ok type ↔ ofChars text.toList = .ok type := by
  rw [parse]
  cases ofChars text.toList with
  | error fault => exact ⟨nofun, nofun⟩
  | ok found =>
      constructor
      · intro same
        cases same
        rfl
      · intro same
        cases same
        rfl

/-- What is read from a text is spelled like it, and in this way only. -/
theorem methodSyntax_of_parse {text : String} {type : MethodType}
    (read : parse text = .ok type) :
    type.text = text ∧
      ∀ parameters result, MethodSyntax parameters result text.toList ↔
        parameters = type.parameters.map Descriptor.chars ∧
          result = type.result.chars := by
  have found := parse_eq_ok_iff.1 read
  have syntax_ : MethodSyntax (type.parameters.map Descriptor.chars)
      type.result.chars text.toList :=
    methodSyntax_iff.2 ⟨type, found, rfl, rfl⟩
  constructor
  · rw [MethodType.text, ← (ofChars_eq_ok_iff.1 found).1, String.ofList_toList]
  · intro parameters result
    constructor
    · intro derived
      exact eq_of_methodSyntax derived syntax_
    · rintro ⟨rfl, rfl⟩
      exact syntax_

/-- Exactly the texts of the grammar are read as method descriptors. -/
theorem parse_accepts_iff (text : String) :
    (∃ type, parse text = .ok type) ↔
      ∃ parameters result, MethodSyntax parameters result text.toList := by
  constructor
  · rintro ⟨type, read⟩
    exact ⟨_, _, methodSyntax_iff.2 ⟨type, parse_eq_ok_iff.1 read, rfl, rfl⟩⟩
  · rintro ⟨parameters, result, derived⟩
    rcases methodSyntax_iff.1 derived with ⟨type, found, -⟩
    exact ⟨type, parse_eq_ok_iff.2 found⟩

/--
A text which is not read as a method descriptor is reported itself, with a
reason.
-/
theorem exists_reason_of_parse {text : String} {fault : TypeFault}
    (failed : parse text = .error fault) :
    ∃ reason, fault = .malformedMethodDescriptor text reason := by
  rw [parse] at failed
  split at failed
  · cases failed
  · next reason _ =>
      cases failed
      exact ⟨reason, rfl⟩

end MethodType

end ClassFormat
