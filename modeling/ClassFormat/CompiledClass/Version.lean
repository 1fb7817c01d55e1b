import ClassFormat.CompiledClass.Basic

/-!
# Changing the version of a class

From Java 5 on, synthetic elements are marked by a flag, and classes and methods
have flags for annotations, enumerations, bridges and variable arguments.  Older
formats have none of these flags and mark synthetic elements by an attribute.

Taking a class below Java 5 therefore clears those flags and appends the
attribute to whatever had the synthetic flag.  Only the name of the attribute
may have to be added to the pool, and when there is no room for it nothing is
changed.  Taking a class up to Java 5 changes nothing but its version.
-/

namespace ClassFormat.CompiledClass

/-- The first major version with the flags of Java 5. -/
def java5 : UInt16 := 49

/--
Whether the class, one of its fields or one of its methods has the synthetic
flag.
-/
def hasSyntheticFlags (class_ : CompiledClass) : Bool :=
  class_.flags.contains .synthetic ||
    class_.fields.any (·.flags.contains .synthetic) ||
    class_.methods.any (·.flags.contains .synthetic)

/-- Attributes with a mark at the end, if their owner needs one. -/
def marked (attributes : Attributes) (mark : Option Attribute)
    (isSynthetic : Bool) : Attributes :=
  if isSynthetic then attributes ++ mark.toList else attributes

/-- A field without the flags of Java 5, and marked if it was synthetic. -/
def downgradeField (mark : Option Attribute) (field : Field) : Field :=
  { field with
    flags := (field.flags.remove .enumField).remove .synthetic
    attributes :=
      marked field.attributes mark (field.flags.contains .synthetic) }

/-- A method without the flags of Java 5, and marked if it was synthetic. -/
def downgradeMethod (mark : Option Attribute) (method : Method) : Method :=
  { method with
    flags := (method.flags.remove (.insert .bridge .varargs)).remove .synthetic
    attributes :=
      marked method.attributes mark (method.flags.contains .synthetic) }

/--
A class and its members without the flags of Java 5, and marked where they were
synthetic.
-/
def withoutJava5Flags (class_ : CompiledClass) (mark : Option Attribute) :
    CompiledClass :=
  { class_ with
    flags :=
      (class_.flags.remove (.insert .annotationClass .enumClass)).remove
        .synthetic
    attributes :=
      marked class_.attributes mark (class_.flags.contains .synthetic)
    fields := class_.fields.map (downgradeField mark)
    methods := class_.methods.map (downgradeMethod mark) }

/-- A class in the terms of the formats below Java 5. -/
def downgrade (class_ : CompiledClass) : Except FormatFault CompiledClass :=
  if class_.hasSyntheticFlags then do
    let (mark, pool) ← class_.pool.syntheticMark
    return { class_ with pool }.withoutJava5Flags (some mark)
  else
    .ok (class_.withoutJava5Flags none)

/-- Give a class another version. -/
def setVersion (class_ : CompiledClass) (major minor : UInt16) :
    Except FormatFault CompiledClass :=
  if java5 ≤ class_.major ∧ major < java5 then do
    let class_ ← class_.downgrade
    return { class_ with major, minor }
  else
    .ok { class_ with major, minor }

end ClassFormat.CompiledClass
