import ClassFormat.Attribute.Name
import ClassFormat.Constant
import ClassFormat.Types.Fault

/-!
# Faults of class files

What can go wrong when a class is read, written or edited, and the words for it.
-/

namespace ClassFormat

open Text

/-- The kinds of failure of a stream which are told apart. -/
inductive IoKind where
  | unexpectedEnd
  | writeZero
  | other (name : String)
  deriving DecidableEq, Repr

/-- A failure of the stream which a class is read from or written to. -/
structure IoFailure where
  kind : IoKind
  text : String
  deriving DecidableEq, Repr

/-- A count or a length which has a field of limited width in the format. -/
inductive Measure where
  | pool
  | poolCount
  | utf8Length
  | interfaceCount
  | fieldCount
  | methodCount
  | attributeCount
  | attributeLength
  | codeLength
  | exceptionTableLength
  | exceptionCount
  | innerClassCount
  | localVariableCount
  deriving DecidableEq, Repr

namespace Measure

/-- Every measure. -/
def all : List Measure := [
  pool, poolCount, utf8Length, interfaceCount, fieldCount, methodCount,
  attributeCount, attributeLength, codeLength, exceptionTableLength,
  exceptionCount, innerClassCount, localVariableCount]

/-- A measure in words. -/
def text : Measure → String
  | pool => "constant pool"
  | poolCount => "constant pool count"
  | utf8Length => "Utf8 constant length"
  | interfaceCount => "interface count"
  | fieldCount => "field count"
  | methodCount => "method count"
  | attributeCount => "attribute count"
  | attributeLength => "attribute length"
  | codeLength => "code length"
  | exceptionTableLength => "exception table length"
  | exceptionCount => "exception count"
  | innerClassCount => "inner class count"
  | localVariableCount => "local variable count"

end Measure

/-- A measure which exceeds its field. -/
structure Oversize where
  what : Measure
  count : Nat
  deriving DecidableEq, Repr

/-- What a place in a pool was expected to hold. -/
inductive Expected where
  | kind (kind : ConstantKind)
  | literal
  deriving DecidableEq, Repr

/-- An expectation in words. -/
def Expected.text : Expected → String
  | kind k => k.name
  | literal => "a constant value"

/-- What can go wrong with a class file. -/
inductive FormatFault where
  /-- The input ends too early. -/
  | truncated
  | io (failure : IoFailure)
  | badMagic (magic : UInt32)
  | unknownTag (tag : UInt8)
  | attributeName (expected : AttributeName) (found : String)
  | attributeLength (name : String) (declared actual : Nat)
  | poolCount (declared actual : Nat)
  /-- The pool holds something else, or nothing, at an index. -/
  | wrongConstant (index : UInt16) (expected : Expected)
      (found : Option ConstantKind)
  | tooLarge (excess : Oversize)
  | typeName (fault : TypeFault)
  deriving DecidableEq, Repr

namespace FormatFault

/-- What was found at an index of a pool, in words. -/
def foundText : Option ConstantKind → String
  | some kind => kind.name
  | none => "nothing"

/-- The digits of a number to the base sixteen, in upper case. -/
def upperHex (n : Nat) : String :=
  String.ofList ((Nat.toDigits 16 n).map Char.toUpper)

/-- A fault in words. -/
def message : FormatFault → String
  | truncated =>
    "The class file ends before a declared field or payload is complete"
  | io failure => failure.text
  | badMagic magic => "Invalid magic identifier: 0x" ++ upperHex magic.toNat
  | unknownTag tag => "Unrecognized constant tag: " ++ toString tag.toNat
  | attributeName expected found =>
    "Expected the attribute name " ++ expected.text ++ ", found " ++
      quoted found
  | attributeLength name declared actual =>
    "The " ++ name ++ " attribute declares " ++ toString declared ++
      " bytes, but its payload holds " ++ toString actual
  | poolCount declared actual =>
    "The constant pool declares " ++ toString declared ++
      " slots, but its entries span " ++
      toString actual
  | wrongConstant index expected found =>
    "Expected " ++ expected.text ++ " at constant pool index " ++
      toString index.toNat ++
      ", found " ++ foundText found
  | tooLarge excess =>
    "The " ++ excess.what.text ++ " (" ++ toString excess.count ++
      ") does not fit in its class file field"
  | typeName fault => fault.message

/--
The fault which a failing stream causes; a premature end is the same wherever it
shows.
-/
def ofIo (failure : IoFailure) : FormatFault :=
  match failure.kind with
  | .unexpectedEnd => truncated
  | _ => io failure

end FormatFault

end ClassFormat
