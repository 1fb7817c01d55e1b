/-!
# Access flags

A set of flags is sixteen bits, and what a bit means depends on what carries it:
a class, a field or a method.  Bits without a meaning are kept like the others.
-/

namespace ClassFormat

/-- What a set of access flags belongs to. -/
inductive FlagOwner where
  | class_
  | field
  | method
  deriving DecidableEq, Repr

/-- The named flags of an owner, in the order in which they are listed. -/
def FlagOwner.names : FlagOwner → List (UInt16 × String)
  | class_ => [
    (0x0001, "public"), (0x0010, "final"), (0x0020, "super"),
    (0x0200, "interface"), (0x0400, "abstract"), (0x1000, "synthetic"),
    (0x2000, "annotation"), (0x4000, "enum")]
  | field => [
    (0x0001, "public"), (0x0002, "private"), (0x0004, "protected"),
    (0x0008, "static"), (0x0010, "final"), (0x0040, "volatile"),
    (0x0080, "transient"), (0x4000, "enum"), (0x1000, "synthetic")]
  | method => [
    (0x0001, "public"), (0x0002, "private"), (0x0004, "protected"),
    (0x0008, "static"), (0x0010, "final"), (0x0020, "synchronized"),
    (0x0040, "bridge"), (0x0080, "varargs"), (0x0100, "native"),
    (0x0400, "abstract"), (0x0800, "strict"), (0x1000, "synthetic")]

/-- The access flags of an owner. -/
structure Flags (owner : FlagOwner) where
  bits : UInt16
  deriving DecidableEq, Repr

namespace Flags

variable {owner : FlagOwner}

/-- The flag of whatever no source text declares; every owner has it. -/
def synthetic : Flags owner := ⟨0x1000⟩

/-- The flag of an enumeration class. -/
def enumClass : Flags .class_ := ⟨0x4000⟩

/-- The flag of an annotation class. -/
def annotationClass : Flags .class_ := ⟨0x2000⟩

/-- The flag of a field which holds a member of an enumeration. -/
def enumField : Flags .field := ⟨0x4000⟩

/-- The flag of a bridge method. -/
def bridge : Flags .method := ⟨0x0040⟩

/-- The flag of a method with a variable number of arguments. -/
def varargs : Flags .method := ⟨0x0080⟩

/-- All flags of both sets. -/
def insert (flags others : Flags owner) : Flags owner :=
  ⟨flags.bits ||| others.bits⟩

/-- The flags of the first set which the second one lacks. -/
def remove (flags others : Flags owner) : Flags owner :=
  ⟨flags.bits &&& ~~~others.bits⟩

/-- Whether all flags of the second set are in the first one. -/
def contains (flags others : Flags owner) : Bool :=
  flags.bits &&& others.bits = others.bits

/-- Whether no flag is set. -/
def isEmpty (flags : Flags owner) : Bool :=
  flags.bits = 0

/-- The names of the flags which have one. -/
def names (flags : Flags owner) : List String :=
  (owner.names.filter fun (bit, _) => flags.contains ⟨bit⟩).map Prod.snd

/-- The names of the flags with spaces between them. -/
def display (flags : Flags owner) : String :=
  String.intercalate " " flags.names

end Flags

end ClassFormat
