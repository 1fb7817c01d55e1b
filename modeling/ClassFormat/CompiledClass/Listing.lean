import ClassFormat.CompiledClass.Basic

/-!
# Listings

A short listing of a class: one line each for the class, its interfaces, its
fields and its methods, and one for the names of its attributes.  What cannot be
resolved is shown as such, so every class has a listing.
-/

namespace ClassFormat

namespace Listing

/-- A text which may fail to resolve. -/
def shown : Except FormatFault String → String
  | .ok text => text
  | .error _ => "<invalid>"

/-- The names of flags, with a space after them if there are any. -/
def flagWords {owner : FlagOwner} (flags : Flags owner) : String :=
  if flags.display = "" then "" else flags.display ++ " "

/-- The identifier of a type which may fail to resolve. -/
def shownType (written : Except FormatFault WrittenType) : String :=
  shown (written.map WrittenType.toIdentifier)

/-- The identifiers of descriptors. -/
def identifiers (descriptors : List Descriptor) : List String :=
  descriptors.map fun descriptor => String.ofList descriptor.identifierChars

/-- Texts with a comma between neighbours. -/
def commas (texts : List String) : String :=
  String.intercalate ", " texts

/-- The superclass, if there is one. -/
def superClause (class_ : CompiledClass) : String :=
  match class_.superName? with
  | .ok (some written) => " extends " ++ written.toIdentifier
  | .ok none => ""
  | .error _ => " extends <invalid>"

/-- The line of a class. -/
def heading (class_ : CompiledClass) : String :=
  flagWords class_.flags ++ "class " ++ shownType class_.name ++
    superClause class_ ++
    " (version " ++ toString class_.major.toNat ++ "." ++
      toString class_.minor.toNat ++ ")\n"

/-- The line of an interface. -/
def interfaceLine (pool : Pool) (index : UInt16) : String :=
  "  implements " ++ shownType (pool.className index) ++ "\n"

/-- The initial value of a field, if it can be told. -/
def valueClause (pool : Pool) (field : Field) : String :=
  match field.initialValue? pool with
  | .ok (some literal) => " = " ++ literal.display
  | _ => ""

/-- The line of a field. -/
def fieldLine (pool : Pool) (field : Field) : String :=
  "  field " ++ flagWords field.flags ++
    shown ((field.type pool).map fun descriptor =>
      String.ofList descriptor.identifierChars) ++
    " " ++ shown (field.nameText pool) ++ valueClause pool field ++ "\n"

/-- The exceptions of a method, if there are any and all of them can be told. -/
def throwsClause (pool : Pool) (method : Method) : String :=
  match method.exceptions pool with
  | .ok [] => ""
  | .ok classes => " throws " ++ commas (classes.map WrittenType.toIdentifier)
  | .error _ => ""

/-- The line of a method. -/
def methodLine (pool : Pool) (method : Method) : String :=
  "  method " ++ flagWords method.flags ++
    String.ofList method.types.result.identifierChars ++ " " ++
      shown (method.nameText pool) ++
    "(" ++ commas (identifiers method.types.parameters) ++ ")" ++
      throwsClause pool method ++ "\n"

/-- The line of the attributes. -/
def attributeLine (pool : Pool) (attributes : Attributes) : String :=
  "  attributes: " ++ commas (attributes.map fun attr => shown (attr.name pool))

end Listing

/-- The listing of a class. -/
def CompiledClass.listing (class_ : CompiledClass) : String :=
  Listing.heading class_ ++
    String.join (class_.interfaces.map (Listing.interfaceLine class_.pool)) ++
    String.join (class_.fields.map (Listing.fieldLine class_.pool)) ++
    String.join (class_.methods.map (Listing.methodLine class_.pool)) ++
    Listing.attributeLine class_.pool class_.attributes

end ClassFormat
