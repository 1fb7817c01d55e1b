import ClassFormat.Member

/-!
# Compiled classes

A class as a class file holds it: the version of its format, a pool of
constants, flags, the indices of its own name, of its superclass and of its
interfaces, its members and its attributes.
-/

namespace ClassFormat

/-- A compiled class.  The index of the superclass is 0 if there is none. -/
structure CompiledClass where
  major : UInt16
  minor : UInt16
  pool : Pool
  flags : Flags .class_
  thisClass : UInt16
  superClass : UInt16
  interfaces : List UInt16
  fields : List Field
  methods : List Method
  attributes : Attributes
  deriving DecidableEq

namespace CompiledClass

/-- The number which every class file begins with. -/
def magic : UInt32 := 0xcafebabe

/-- The name of a class. -/
def name (class_ : CompiledClass) : Except FormatFault WrittenType :=
  class_.pool.className class_.thisClass

/-- The name of the superclass, if there is one. -/
def superName? (class_ : CompiledClass) :
    Except FormatFault (Option WrittenType) :=
  if class_.superClass = 0 then .ok none
  else (class_.pool.className class_.superClass).map some

/-- The names of the interfaces. -/
def interfaceNames (class_ : CompiledClass) :
    Except FormatFault (List WrittenType) :=
  class_.interfaces.mapM class_.pool.className

/-- The first field with a given name. -/
def findField? (class_ : CompiledClass) (name : String) : Option Field :=
  class_.fields.find? fun field => isNamed name (field.nameText class_.pool)

/-- The first method with a given name; overloads share theirs. -/
def findMethod? (class_ : CompiledClass) (name : String) : Option Method :=
  class_.methods.find? fun method => isNamed name (method.nameText class_.pool)

/-- Whether the methods of two lists agree, one by one. -/
def methodsAgree : List Method → List Method → Bool
  | [], [] => true
  | first :: firsts, second :: seconds =>
    first.agrees second && methodsAgree firsts seconds
  | _, _ => false

/-- Two classes agree when they differ in nothing but the spelling of types. -/
def agrees (first second : CompiledClass) : Bool :=
  first.major = second.major && first.minor = second.minor &&
    first.pool = second.pool && first.flags = second.flags &&
    first.thisClass = second.thisClass &&
    first.superClass = second.superClass &&
    first.interfaces = second.interfaces && first.fields = second.fields &&
    methodsAgree first.methods second.methods &&
    first.attributes = second.attributes

end CompiledClass

end ClassFormat
