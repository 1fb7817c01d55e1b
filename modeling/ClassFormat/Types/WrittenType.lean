import ClassFormat.Types.Descriptor

/-!
# Written types

A type's name as somebody wrote it: as an identifier (`java.lang.String`,
`[int`), as a path (`java/lang/String`; a path which begins with `[` is spelled
like a descriptor, but may be malformed) or as a descriptor.  The spelling is
kept, and the other spellings are derived from it.
-/

namespace ClassFormat

open Text

/-- A type's name in one of its three spellings. -/
inductive WrittenType where
  | identifier (name : String)
  | path (name : String)
  | descriptor (descriptor : Descriptor)
  deriving DecidableEq, Repr

namespace WrittenType

/-- The name as it was written. -/
def text : WrittenType → String
  | identifier name => name
  | path name => name
  | descriptor d => d.text

/-- Read a descriptor spelling. -/
def ofDescriptor (text : String) : Except TypeFault WrittenType :=
  (Descriptor.parse text).map descriptor

/-- The number of array dimensions in front of the name. -/
def dimensions (written : WrittenType) : Nat :=
  leadingDimensions written.text.toList

/-- The element of an array path in identifier spelling, malformed or not. -/
def arrayPathElement (chars : List Char) : List Char :=
  match Element.ofChars? chars with
  | some element => element.identifierChars
  | none => replaceChar '/' '.' chars

/-- The characters of the identifier spelling. -/
def identifierChars : WrittenType → List Char
  | identifier name => name.toList
  | path name =>
    match name.toList with
    | '[' :: others =>
      dimensionMarks (leadingDimensions ('[' :: others)) ++
        arrayPathElement (withoutDimensions ('[' :: others))
    | chars => replaceChar '/' '.' chars
  | descriptor d => d.identifierChars

/-- The identifier spelling. -/
def toIdentifier (written : WrittenType) : String :=
  String.ofList written.identifierChars

/--
A name whose packages are divided by `separator` as a descriptor: a keyword
becomes its letter, and anything else the path of an object.
-/
def describe (separator : Char) (chars : List Char) : List Char :=
  let element := withoutDimensions chars
  dimensionMarks (leadingDimensions chars) ++
    match Primitive.ofKeyword? (String.ofList element) with
    | some kind => [kind.letter]
    | none => 'L' :: replaceChar separator '/' element ++ [';']

/--
The characters of the descriptor spelling.  They need not form a well-formed
descriptor.
-/
def descriptorChars : WrittenType → List Char
  | identifier name => describe '.' name.toList
  | path name =>
    match name.toList with
    | '[' :: others => '[' :: others
    | chars => describe '/' chars
  | descriptor d => d.chars

/-- The descriptor spelling. -/
def toDescriptor (written : WrittenType) : String :=
  String.ofList written.descriptorChars

/--
The path spelling.  An identifier has none, since `a.b.C.D` may be a class
nested in `a.b.C` or one of the package `a.b.C`; neither has a primitive type.
-/
def toPath : WrittenType → Except TypeFault String
  | identifier name =>
    .error (.unsupportedConversion
      ("there is no reliable way to convert the identifier " ++ name ++
        " to a path"))
  | path name => .ok name
  | descriptor d =>
    match d.dimensions, d.element with
    | 0, .primitive _ =>
      .error
        (.unsupportedConversion ("primitives cannot be converted to a path: " ++
          d.text))
    | 0, .object name => .ok name
    | _, _ => .ok d.text

/-- The packages, enclosing names and simple name which make up the name. -/
def components (written : WrittenType) : Except TypeFault (List String) :=
  match written with
  | identifier name => .ok ((split '.' name.toList).map String.ofList)
  | _ =>
    written.toPath.map fun name => (split '/' name.toList).map String.ofList

/--
Two written types name the same type when their identifier spellings agree.
-/
def sameType (first second : WrittenType) : Bool :=
  first.identifierChars = second.identifierChars

/--
For each of some written types, the place of the first one which names the same
type.
-/
def firstPlaces (types : List WrittenType) : List Nat :=
  types.map fun type => types.findIdx (·.sameType type)

end WrittenType

end ClassFormat
