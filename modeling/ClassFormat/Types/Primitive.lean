/-!
# Primitive types

The eight primitive types and `void`, with the names under which each one is
known: the letter it has in descriptors, its keyword, its name among the
generated native types, and its native value type.
-/

namespace ClassFormat

/-- A primitive type, or the absence of a value. -/
inductive Primitive where
  | byte
  | char
  | double
  | float
  | int
  | long
  | short
  | boolean
  | void
  deriving DecidableEq, Repr

namespace Primitive

/-- Every primitive type. -/
def all : List Primitive :=
  [byte, char, double, float, int, long, short, boolean, void]

theorem mem_all (kind : Primitive) : kind ∈ all := by
  cases kind <;> decide

/-- The letter of the type in descriptors. -/
def letter : Primitive → Char
  | byte => 'B'
  | char => 'C'
  | double => 'D'
  | float => 'F'
  | int => 'I'
  | long => 'J'
  | short => 'S'
  | boolean => 'Z'
  | void => 'V'

/-- The keyword of the type. -/
def keyword : Primitive → String
  | byte => "byte"
  | char => "char"
  | double => "double"
  | float => "float"
  | int => "int"
  | long => "long"
  | short => "short"
  | boolean => "boolean"
  | void => "void"

/-- The name of the generated type which wraps a value of the type. -/
def wrapper : Primitive → String
  | byte => "JByte"
  | char => "JChar"
  | double => "JDouble"
  | float => "JFloat"
  | int => "JInt"
  | long => "JLong"
  | short => "JShort"
  | boolean => "JBoolean"
  | void => "JVoid"

/-- The native type of a value. -/
def native : Primitive → String
  | byte => "jbyte"
  | char => "jchar"
  | double => "jdouble"
  | float => "jfloat"
  | int => "jint"
  | long => "jlong"
  | short => "jshort"
  | boolean => "jboolean"
  | void => "void"

/-- The native type of an array of the type. -/
def nativeArray : Primitive → String
  | byte => "jbyteArray"
  | char => "jcharArray"
  | double => "jdoubleArray"
  | float => "jfloatArray"
  | long => "jlongArray"
  | short => "jshortArray"
  | boolean => "jbooleanArray"
  | int | void => "jobjectArray"

/-- The type with a given letter. -/
def ofLetter? (c : Char) : Option Primitive :=
  all.find? (·.letter = c)

/-- The type with a given keyword. -/
def ofKeyword? (word : String) : Option Primitive :=
  all.find? (·.keyword = word)

/-- The type whose whole descriptor is the given text. -/
def ofDescriptor? : List Char → Option Primitive
  | [c] => ofLetter? c
  | _ => none

@[simp]
theorem ofLetter?_letter (kind : Primitive) :
    ofLetter? kind.letter = some kind := by
  cases kind <;> decide

@[simp]
theorem ofKeyword?_keyword (kind : Primitive) :
    ofKeyword? kind.keyword = some kind := by
  cases kind <;> decide

theorem ofLetter?_eq_some_iff {c : Char} {kind : Primitive} :
    ofLetter? c = some kind ↔ c = kind.letter := by
  constructor
  · intro found
    have := List.find?_some found
    simp at this
    exact this.symm
  · rintro rfl
    exact ofLetter?_letter kind

end Primitive

end ClassFormat
