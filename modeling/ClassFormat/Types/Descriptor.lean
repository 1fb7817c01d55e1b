import ClassFormat.Text.Segments
import ClassFormat.Types.Fault
import ClassFormat.Types.Primitive

/-!
# Field descriptors

A field descriptor names a type by a number of array dimensions and an element:
a primitive letter, or `L`, the path of a class and `;`.  `void` counts as a
descriptor too, but has no arrays.  A value of `Descriptor` is always
well-formed, and `Descriptor.text` is its only spelling: reading accepts exactly
the spellings (`parse?_text`, `text_of_parse?`).
-/

namespace ClassFormat

open Text

/-- What the arrays of a type are made of. -/
inductive Element where
  | primitive (kind : Primitive)
  | object (path : String)
  deriving DecidableEq, Repr

namespace Element

/-- The spelling of an element in descriptors. -/
def chars : Element → List Char
  | primitive kind => [kind.letter]
  | object path => 'L' :: path.toList ++ [';']

/-- The spelling of an element in identifiers. -/
def identifierChars : Element → List Char
  | primitive kind => kind.keyword.toList
  | object path => replaceChar '/' '.' path.toList

/--
Read what follows the `L` of an element: a path without `;` and, as the last
character, `;`.
-/
def objectOfChars? (chars : List Char) : Option Element :=
  let path := chars.takeWhile (· ≠ ';')
  if path ≠ [] ∧ chars = path ++ [';'] then
    some (object (String.ofList path))
  else
    none

/-- Read an element from the whole of a text. -/
def ofChars? : List Char → Option Element
  | [] => none
  | 'L' :: others => objectOfChars? others
  | chars => (Primitive.ofDescriptor? chars).map primitive

/-- An object needs a path, and no path holds the character which ends it. -/
def Legal : Element → Prop
  | primitive _ => True
  | object path => path ≠ "" ∧ ';' ∉ path.toList

instance : DecidablePred Legal := fun element => by
  cases element <;> unfold Legal <;> infer_instance

theorem ofChars?_chars {element : Element} (legal : element.Legal) :
    ofChars? element.chars = some element := by
  match element with
  | primitive kind => cases kind <;> rfl
  | object path =>
    rcases legal with ⟨nonempty, unended⟩
    have whole : (path.toList ++ [';']).takeWhile (fun c => !decide (c = ';')) =
        path.toList := by
      rw [List.takeWhile_append_of_pos]
      · simp
      · intro c inside
        simp only [Bool.not_eq_eq_eq_not, Bool.not_true,
          decide_eq_false_iff_not]
        rintro rfl
        exact unended inside
    simp [chars, ofChars?, objectOfChars?, whole, nonempty]

theorem eq_chars_of_ofChars? {chars : List Char} {element : Element}
    (read : ofChars? chars = some element) :
    chars = element.chars ∧ element.Legal := by
  simp only [ofChars?] at read
  split at read
  · simp at read
  · next others =>
    simp only [objectOfChars?] at read
    simp only [ne_eq, decide_not] at read
    split at read
    · next accepted =>
      rcases accepted with ⟨nonempty, whole⟩
      rcases Option.some.inj read with rfl
      have unended : ';' ∉ others.takeWhile (fun c => !decide (c = ';')) := by
        intro inside
        simpa using List.all_eq_true.1 (List.all_takeWhile) _ inside
      refine ⟨?_, ?_, ?_⟩
      · simpa [Element.chars] using whole
      · intro empty
        apply nonempty
        simpa using congrArg String.toList empty
      · simpa using unended
    · simp at read
  · next letters _ _ =>
    rcases Option.map_eq_some_iff.1 read with ⟨kind, found, rfl⟩
    simp only [Primitive.ofDescriptor?] at found
    split at found
    · simp [Element.chars, Legal, Primitive.ofLetter?_eq_some_iff.1 found]
    · simp at found

theorem withoutDimensions_chars (element : Element) :
    element.chars.dropWhile (· = '[') = element.chars := by
  match element with
  | primitive kind => cases kind <;> rfl
  | object path => simp [chars]

theorem leadingDimensions_chars (element : Element) :
    element.chars.takeWhile (· = '[') = [] := by
  match element with
  | primitive kind => cases kind <;> rfl
  | object path => simp [chars]

end Element

/-- A well-formed field descriptor. -/
structure Descriptor where
  dimensions : Nat
  element : Element
  legal : element.Legal
  noVoidArray : element = .primitive .void → dimensions = 0
  deriving DecidableEq, Repr

/-- The number of array dimensions in front of a text. -/
def leadingDimensions (chars : List Char) : Nat :=
  (chars.takeWhile (· = '[')).length

/-- A text without the array dimensions in front of it. -/
def withoutDimensions (chars : List Char) : List Char :=
  chars.dropWhile (· = '[')

/-- The marks of a number of array dimensions. -/
def dimensionMarks (dimensions : Nat) : List Char :=
  List.replicate dimensions '['

theorem dimensionMarks_append_withoutDimensions (chars : List Char) :
    dimensionMarks (leadingDimensions chars) ++ withoutDimensions chars =
      chars := by
  induction chars with
  | nil => rfl
  | cons c others hypothesis =>
    by_cases mark : c = '['
    · simpa [dimensionMarks, leadingDimensions, withoutDimensions, mark,
        List.replicate_succ]
        using hypothesis
    · simp [dimensionMarks, leadingDimensions, withoutDimensions, mark]

namespace Descriptor

/-- The descriptor with the given parts, unless they do not go together. -/
def ofParts? (dimensions : Nat) (element : Element) : Option Descriptor :=
  if legal : element.Legal then
    if noVoidArray : element = .primitive .void → dimensions = 0 then
      some ⟨dimensions, element, legal, noVoidArray⟩
    else
      none
  else
    none

/-- The characters of a descriptor. -/
def chars (descriptor : Descriptor) : List Char :=
  dimensionMarks descriptor.dimensions ++ descriptor.element.chars

/-- The text of a descriptor. -/
def text (descriptor : Descriptor) : String :=
  String.ofList descriptor.chars

/-- The type's name with the element spelled as in a program. -/
def identifierChars (descriptor : Descriptor) : List Char :=
  dimensionMarks descriptor.dimensions ++ descriptor.element.identifierChars

/-- Two descriptors name the same type when their identifiers agree. -/
def sameType (first second : Descriptor) : Bool :=
  first.identifierChars = second.identifierChars

/-- Read a descriptor from the whole of a text. -/
def ofChars? (chars : List Char) : Option Descriptor :=
  (Element.ofChars? (withoutDimensions chars)).bind
    (ofParts? (leadingDimensions chars))

/-- Read a descriptor from the whole of a text. -/
def parse? (text : String) : Option Descriptor :=
  ofChars? text.toList

theorem parse?_text (descriptor : Descriptor) :
    parse? descriptor.text = some descriptor := by
  have before (marks : Nat) :
      leadingDimensions (dimensionMarks marks ++ descriptor.element.chars) =
        marks := by
    simp only [leadingDimensions, dimensionMarks]
    rw [List.takeWhile_append_of_pos (by simp [List.mem_replicate]),
      Element.leadingDimensions_chars]
    simp
  have after (marks : Nat) :
      withoutDimensions (dimensionMarks marks ++ descriptor.element.chars) =
        descriptor.element.chars := by
    simp only [withoutDimensions, dimensionMarks]
    rw [List.dropWhile_append_of_pos (by simp [List.mem_replicate]),
      Element.withoutDimensions_chars]
  simp only [parse?, text, String.toList_ofList, ofChars?, chars, before, after,
    Element.ofChars?_chars descriptor.legal, Option.bind_some, ofParts?]
  rw [dif_pos descriptor.legal, dif_pos descriptor.noVoidArray]

theorem text_of_parse? {text : String} {descriptor : Descriptor}
    (read : parse? text = some descriptor) :
    descriptor.text = text := by
  rcases Option.bind_eq_some_iff.1 read with ⟨element, found, fits⟩
  simp only [ofParts?] at fits
  split at fits
  · split at fits
    · rcases Option.some.inj fits with rfl
      simp only [Descriptor.text, chars,
        ← (Element.eq_chars_of_ofChars? found).1,
        dimensionMarks_append_withoutDimensions, String.ofList_toList]
    · simp at fits
  · simp at fits

/-- Read a descriptor, or say which text is none. -/
def parse (text : String) : Except TypeFault Descriptor :=
  match parse? text with
  | some descriptor => .ok descriptor
  | none => .error (.malformedDescriptor text)

end Descriptor

end ClassFormat
