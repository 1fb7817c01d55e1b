import ClassFormat.Text.UpperCase
import ClassFormat.Types.WrittenType

/-!
# Resolved types

A type as generated native code sees it: a primitive value or its proxy, an
array, or a class given by its name and package.  A package is the list of its
names from the outermost inwards.  Generated code lives in packages of its own:
a proxy for a class is put below `proxyRoot`, a peer below `peerRoot`.
Projecting a type moves it among the proxies, and back.

Identifiers of a class file are used as identifiers of native code.  A reserved
word gets a trailing underscore, and each `$`, which native identifiers lack,
becomes an underscore.
-/

namespace ClassFormat

open Text

/-! ## Native names -/

/-- The words which native code reserves. -/
def reservedWords : List String := [
  "NULL", "and", "and_eq", "asm", "auto", "bitand", "bitor", "bool", "break",
  "case", "catch", "char", "class", "compl", "const", "const_cast", "continue",
  "default", "delete", "do", "double", "dynamic_cast", "else", "enum",
  "explicit", "export", "extern", "false", "float", "for", "friend", "goto",
  "if", "inline", "int", "long", "mutable", "namespace", "new", "not", "not_eq",
  "operator", "or", "or_eq", "private", "protected", "public", "register",
  "reinterpret_cast", "return", "short", "signed", "sizeof", "static",
  "static_cast", "struct", "switch", "template", "this", "throw", "true", "try",
  "typedef", "typeid", "typename", "union", "unsigned", "using", "virtual",
  "void", "volatile", "wchar_t", "while", "xor", "xor_eq"]

/-- An identifier with `$` replaced. -/
def withoutDollars (identifier : String) : String :=
  String.ofList (Text.replaceChar '$' '_' identifier.toList)

/-- The native name of an identifier. -/
def nativeName (identifier : String) : String :=
  if identifier ∈ reservedWords then
    withoutDollars identifier ++ "_"
  else
    withoutDollars identifier

/-! ## Packages -/

/-- The names which lead to a package. -/
structure Package where
  components : List String
  deriving DecidableEq, Repr

namespace Package

/-- The package of a type which belongs to none. -/
def empty : Package := ⟨[]⟩

/-- Where proxies live. -/
def proxyRoot : List String := ["org", "jace", "proxy"]

/-- Where peers live. -/
def peerRoot : List String := ["org", "jace", "peer"]

/-- The names with a separator between neighbours. -/
def join (separator : String) (components : List String) : String :=
  String.ofList
    (List.intercalate separator.toList (components.map String.toList))

/-- The name of a package. -/
def name (package : Package) (separator : String) : String :=
  join separator package.components

/-- The name of a package in front of the name of one of its members. -/
def qualifier (package : Package) (separator : String) : String :=
  if package.components = [] then "" else package.name separator ++ separator

/-- Whether a package lies below a root, or is that root. -/
def isBelow (package : Package) (root : List String) : Bool :=
  root.isPrefixOf package.components

/-- Whether a package belongs to the proxies. -/
def isProxied (package : Package) : Bool :=
  package.isBelow proxyRoot

/-- The package of the same names below a root. -/
def below (package : Package) (root : List String) : Package :=
  ⟨root ++ package.components⟩

/-- The package without a root it lies below. -/
def above? (package : Package) (root : List String) : Option Package :=
  if package.isBelow root then
    some ⟨package.components.drop root.length⟩
  else
    none

end Package

/-! ## Classes -/

/--
A class by its simple name, as written in the class file, and its package.
-/
structure QualifiedClass where
  name : String
  package : Package
  deriving DecidableEq, Repr

namespace QualifiedClass

/-- The simple name for native code. -/
def simpleName (class_ : QualifiedClass) : String :=
  nativeName class_.name

/-- The native name with its package. -/
def qualifiedName (class_ : QualifiedClass) (separator : String) : String :=
  class_.package.qualifier separator ++ class_.simpleName

/-- The written name with its package. -/
def qualifiedTrueName (class_ : QualifiedClass) (separator : String) : String :=
  class_.package.qualifier separator ++ class_.name

/-- Whether the class is a proxy. -/
def isProxy (class_ : QualifiedClass) : Bool :=
  class_.package.isProxied

/-- The proxy of a class. -/
def proxy (class_ : QualifiedClass) : Except TypeFault QualifiedClass :=
  if class_.isProxy then
    .error
      (.illegalProjection (class_.qualifiedName "." ++ " is already a proxy"))
  else
    .ok { class_ with package := class_.package.below Package.proxyRoot }

/-- The class of a proxy. -/
def unProxy (class_ : QualifiedClass) : Except TypeFault QualifiedClass :=
  match class_.package.above? Package.proxyRoot with
  | some package => .ok { class_ with package }
  | none =>
    .error (.illegalProjection (class_.qualifiedName "." ++ " is not a proxy"))

/-- The peer of a class. -/
def peer (class_ : QualifiedClass) : QualifiedClass :=
  { class_ with package := class_.package.below Package.peerRoot }

/-- The native type of a reference to the class. -/
def nativeType (class_ : QualifiedClass) : String :=
  match class_.qualifiedTrueName "." with
  | "java.lang.Class" => "jclass"
  | "java.lang.String" => "jstring"
  | "java.lang.Throwable" => "jthrowable"
  | _ => "jobject"

/-- The macro which guards the header of the class. -/
def guardName (class_ : QualifiedClass) : String :=
  upper (class_.package.qualifier "_") ++ upper class_.simpleName ++ "_H"

/-- The header which declares the class. -/
def headerPath (class_ : QualifiedClass) : String :=
  class_.package.qualifier "/" ++ withoutDollars class_.name ++ ".h"

/-- The file which defines the class. -/
def classFilePath (class_ : QualifiedClass) : String :=
  class_.package.qualifier "/" ++ class_.name ++ ".class"

/--
The class with the given components, the last of which is its name.  An empty
name belongs to no class, and the whole descriptor is at fault.
-/
def ofComponents (components : List String) (descriptor : String) :
    Except TypeFault QualifiedClass :=
  match components.getLast? with
  | some name =>
    if name = "" then
      .error (.malformedDescriptor descriptor)
    else
      .ok ⟨name, ⟨components.dropLast⟩⟩
  | none => .error (.malformedDescriptor descriptor)

end QualifiedClass

/-! ## Types -/

/-- A type for native code. -/
inductive ResolvedType where
  | primitive (kind : Primitive) (proxied : Bool)
  | array (element : ResolvedType)
  | object (class_ : QualifiedClass)
  deriving DecidableEq, Repr

namespace ResolvedType

/-- A type under a number of array layers. -/
def layers : Nat → ResolvedType → ResolvedType
  | 0, type => type
  | depth + 1, type => array (layers depth type)

/-- Resolve the element of a descriptor. -/
def ofElement : Element → Except TypeFault ResolvedType
  | .primitive kind => .ok (primitive kind false)
  | .object path =>
    (QualifiedClass.ofComponents ((split '/' path.toList).map String.ofList)
      (String.ofList (Element.object path).chars)).map object

/-- Resolve a descriptor. -/
def ofDescriptor (descriptor : Descriptor) : Except TypeFault ResolvedType :=
  (ofElement descriptor.element).map (layers descriptor.dimensions)

/--
Resolve a written type.  Its descriptor spelling decides whether it is an array,
a primitive or a class; the components of a class are those of the spelling it
was written in.
-/
def resolve (written : WrittenType) : Except TypeFault ResolvedType :=
  match written.descriptorChars with
  | '[' :: component => do
    let element ← Descriptor.parse (String.ofList component)
    let resolved ← ofDescriptor element
    return array resolved
  | chars =>
    match Primitive.ofDescriptor? chars with
    | some kind => .ok (primitive kind false)
    | none => do
      let components ← written.components
      let class_ ← QualifiedClass.ofComponents components (String.ofList chars)
      return object class_

/-- Whether the type is a primitive or its proxy. -/
def isPrimitive : ResolvedType → Bool
  | primitive _ _ => true
  | _ => false

/-- Whether the type is a proxy; an array is one when its elements are. -/
def isProxy : ResolvedType → Bool
  | primitive _ proxied => proxied
  | array element => element.isProxy
  | object class_ => class_.isProxy

/-- The element of an array. -/
def element? : ResolvedType → Option ResolvedType
  | array element => some element
  | _ => none

/-- The type below all array layers. -/
def innermost : ResolvedType → ResolvedType
  | array element => element.innermost
  | type => type

/-- The number of array layers. -/
def depth : ResolvedType → Nat
  | array element => element.depth + 1
  | _ => 0

/-- The simple name for native code. -/
def simpleName : ResolvedType → String
  | primitive kind _ => kind.wrapper
  | array element => "JArray< " ++ element.simpleName ++ " >"
  | object class_ => class_.simpleName

/-- The native name with its package. -/
def qualifiedName (type : ResolvedType) (separator : String) : String :=
  match type with
  | primitive kind false => kind.wrapper
  | primitive kind true =>
    Package.join separator (Package.proxyRoot ++ ["types", kind.wrapper])
  | array element =>
    "jace::JArray< ::" ++ element.qualifiedName separator ++ " >"
  | object class_ => class_.qualifiedName separator

/-- The package of the type. -/
def package : ResolvedType → Package
  | primitive _ _ => Package.empty
  | array element => element.package
  | object class_ => class_.package

/-- The proxy of a type. -/
def proxy : ResolvedType → Except TypeFault ResolvedType
  | primitive kind false => .ok (primitive kind true)
  | primitive kind true =>
    .error
      (.illegalProjection
        ((primitive kind true).qualifiedName "." ++ " is already a proxy"))
  | array element => element.proxy.map array
  | object class_ => class_.proxy.map object

/-- The type of a proxy. -/
def unProxy : ResolvedType → Except TypeFault ResolvedType
  | primitive kind true => .ok (primitive kind false)
  | primitive kind false =>
    .error
      (.illegalProjection
        ((primitive kind false).qualifiedName "." ++ " is not a proxy"))
  | array element => element.unProxy.map array
  | object class_ => class_.unProxy.map object

/-- The native type of a value. -/
def nativeType : ResolvedType → String
  | primitive kind _ => kind.native
  | array (primitive kind _) => kind.nativeArray
  | array _ => "jobjectArray"
  | object class_ => class_.nativeType

/-- The macro which guards the header of the type. -/
def guardName : ResolvedType → String
  | primitive kind _ => "JACE_TYPES_" ++ upper kind.wrapper ++ "_H"
  | array element => element.guardName
  | object class_ => class_.guardName

/-- The header which declares the type. -/
def headerPath : ResolvedType → String
  | primitive kind _ =>
    Package.join "/" (Package.proxyRoot ++ ["types", kind.wrapper ++ ".h"])
  | array element => element.headerPath
  | object class_ => class_.headerPath

/-- The file which defines the innermost class; primitives have none. -/
def classFilePath? : ResolvedType → Option String
  | primitive _ _ => none
  | array element => element.classFilePath?
  | object class_ => some class_.classFilePath

/-- The type as a program writes it. -/
def display : ResolvedType → String
  | primitive kind proxied => (primitive kind proxied).qualifiedName "."
  | array element => element.display ++ "[]"
  | object class_ => class_.qualifiedTrueName "."

end ResolvedType

end ClassFormat
