import ClassFormat.Flags
import ClassFormat.Pool.Lookup
import ClassFormat.Attribute.Name

/-!
# Attributes

An attribute has a name, given by the index of a text in the pool, and a
content.  The content of the code attribute holds further attributes, so it
stands apart from the contents of all the others, which hold none.
-/

namespace ClassFormat

/--
The part of some code within which a handler catches the exceptions of a type.
-/
structure Handler where
  start : UInt16
  stop : UInt16
  handler : UInt16
  catchType : UInt16
  deriving DecidableEq, Repr

/-- A class which is declared inside of another one. -/
structure InnerClass where
  inner : UInt16
  outer : UInt16
  name : UInt16
  flags : Flags .class_
  deriving DecidableEq, Repr

/-- A variable of some code, and the part of the code where it lives. -/
structure LocalVariable where
  start : UInt16
  length : UInt16
  name : UInt16
  descriptor : UInt16
  index : UInt16
  deriving DecidableEq, Repr

/-- The instructions of a method. -/
structure Code where
  maxStack : UInt16
  maxLocals : UInt16
  instructions : List UInt8
  handlers : List Handler
  deriving DecidableEq, Repr

/-- What an attribute other than code holds. -/
inductive Content where
  | constantValue (value : UInt16)
  | deprecated
  | exceptions (classes : List UInt16)
  | innerClasses (classes : List InnerClass)
  | localVariableTable (entries : List LocalVariable)
  | signature (text : UInt16)
  | synthetic
  /-- The content of an attribute which is not understood. -/
  | unknown (bytes : List UInt8)
  deriving DecidableEq, Repr

/-- An attribute. -/
inductive Attribute where
  | plain (name : UInt16) (content : Content)
  | code (name : UInt16) (code : Code) (attributes : List Attribute)
  deriving Repr

namespace Attribute

mutual

/-- Whether two attributes are equal. -/
def same : Attribute → Attribute → Bool
  | plain firstName first, plain secondName second =>
    firstName = secondName && first = second
  | code firstName first firstNested, code secondName second secondNested =>
    firstName = secondName && first = second && sameAll firstNested secondNested
  | _, _ => false

/-- Whether the attributes of two lists are equal, one by one. -/
def sameAll : List Attribute → List Attribute → Bool
  | [], [] => true
  | first :: firsts, second :: seconds =>
    same first second && sameAll firsts seconds
  | _, _ => false

end

mutual

theorem same_iff :
    (first second : Attribute) → (same first second = true ↔ first = second)
  | plain _ _, plain _ _ => by simp [same]
  | code _ _ firstNested, code _ _ secondNested => by
    simp [same, sameAll_iff firstNested secondNested, and_assoc]
  | plain _ _, code _ _ _ => by simp [same]
  | code _ _ _, plain _ _ => by simp [same]

theorem sameAll_iff :
    (firsts seconds : List Attribute) →
      (sameAll firsts seconds = true ↔ firsts = seconds)
  | [], [] => by simp [sameAll]
  | first :: firsts, second :: seconds => by
    simp [sameAll, same_iff first second, sameAll_iff firsts seconds]
  | [], _ :: _ => by simp [sameAll]
  | _ :: _, [] => by simp [sameAll]

end

instance : DecidableEq Attribute := fun first second =>
  decidable_of_iff _ (same_iff first second)

/-- The index of an attribute's name. -/
def nameIndex : Attribute → UInt16
  | plain name _ => name
  | code name _ _ => name

/-- An attribute's name. -/
def name (attr : Attribute) (pool : Pool) : Except FormatFault String :=
  pool.text attr.nameIndex

/--
What is shown of an attribute which is not understood: its size in place of its
bytes.
-/
def abridged (name : UInt16) (bytes : List UInt8) : String :=
  "UnknownAttribute \x7b name_index: " ++ toString name.toNat ++
    ", info: \"(" ++
    toString bytes.length ++ " bytes)\" \x7d"

end Attribute

/-- Whether a name could be looked up and is the one asked for. -/
def isNamed (asked : String) : Except FormatFault String → Bool
  | .ok found => found = asked
  | .error _ => false

/-- The attributes of a class, of a member or of some code, in order. -/
abbrev Attributes := List Attribute

namespace Attributes

/-- The first attribute with a given name. -/
def find? (attributes : Attributes) (name : String) (pool : Pool) :
    Option Attribute :=
  List.find? (fun attr => isNamed name (attr.name pool)) attributes

/-- The first code and its own attributes. -/
def code? (attributes : Attributes) : Option (Code × Attributes) :=
  attributes.findSome? fun
    | .code _ code nested => some (code, nested)
    | _ => none

/-- The index of the first constant value. -/
def constantValue? (attributes : Attributes) : Option UInt16 :=
  attributes.findSome? fun
    | .plain _ (.constantValue value) => some value
    | _ => none

/-- The indices of the first list of exceptions. -/
def exceptions? (attributes : Attributes) : Option (List UInt16) :=
  attributes.findSome? fun
    | .plain _ (.exceptions classes) => some classes
    | _ => none

/-- The index of the first signature. -/
def signature? (attributes : Attributes) : Option UInt16 :=
  attributes.findSome? fun
    | .plain _ (.signature text) => some text
    | _ => none

/-- Whether one of the attributes marks a synthetic element. -/
def isSynthetic (attributes : Attributes) : Bool :=
  attributes.any fun
    | .plain _ .synthetic => true
    | _ => false

/-- Whether one of the attributes marks a deprecated element. -/
def isDeprecated (attributes : Attributes) : Bool :=
  attributes.any fun
    | .plain _ .deprecated => true
    | _ => false

end Attributes

/--
Make a mark of synthetic elements, whose name is added to the pool if need be.
-/
def Pool.syntheticMark (pool : Pool) :
    Except FormatFault (Attribute × Pool) := do
  let (name, pool) ← pool.intern AttributeName.synthetic.text
  return (.plain name .synthetic, pool)

/--
Make a mark of deprecated elements, whose name is added to the pool if need be.
-/
def Pool.deprecatedMark (pool : Pool) :
    Except FormatFault (Attribute × Pool) := do
  let (name, pool) ← pool.intern AttributeName.deprecated.text
  return (.plain name .deprecated, pool)

end ClassFormat
