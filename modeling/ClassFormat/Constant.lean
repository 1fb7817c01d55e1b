import ClassFormat.Text.ModifiedUtf8

/-!
# Constants

The entries of a constant pool.  Most of them refer to other entries by index.
Numbers are kept as the bits which are stored; a 64-bit number is stored in two
halves and takes two indices of its pool.

There are seventeen kinds of constants, each with its name and its tag.
-/

namespace ClassFormat

/-- A kind of constant. -/
inductive ConstantKind where
  | utf8
  | integer
  | float
  | long
  | double
  | classRef
  | string
  | fieldRef
  | methodRef
  | interfaceMethodRef
  | nameAndType
  | methodHandle
  | methodType
  | dynamic
  | invokeDynamic
  | moduleRef
  | packageRef
  deriving DecidableEq, Repr

namespace ConstantKind

/-- Every kind of constant, in the order of their tags. -/
def all : List ConstantKind := [
  utf8, integer, float, long, double, classRef, string, fieldRef, methodRef,
  interfaceMethodRef, nameAndType, methodHandle, methodType, dynamic,
  invokeDynamic, moduleRef, packageRef]

theorem mem_all (kind : ConstantKind) : kind ∈ all := by
  cases kind <;> decide

/-- The name of a kind. -/
def name : ConstantKind → String
  | utf8 => "Utf8"
  | integer => "Integer"
  | float => "Float"
  | long => "Long"
  | double => "Double"
  | classRef => "Class"
  | string => "String"
  | fieldRef => "FieldRef"
  | methodRef => "MethodRef"
  | interfaceMethodRef => "InterfaceMethodRef"
  | nameAndType => "NameAndType"
  | methodHandle => "MethodHandle"
  | methodType => "MethodType"
  | dynamic => "Dynamic"
  | invokeDynamic => "InvokeDynamic"
  | moduleRef => "Module"
  | packageRef => "Package"

/-- The byte which announces a constant of the kind. -/
def tag : ConstantKind → UInt8
  | utf8 => 1
  | integer => 3
  | float => 4
  | long => 5
  | double => 6
  | classRef => 7
  | string => 8
  | fieldRef => 9
  | methodRef => 10
  | interfaceMethodRef => 11
  | nameAndType => 12
  | methodHandle => 15
  | methodType => 16
  | dynamic => 17
  | invokeDynamic => 18
  | moduleRef => 19
  | packageRef => 20

/-- The kind which a byte announces. -/
def ofTag? (byte : UInt8) : Option ConstantKind :=
  all.find? (·.tag = byte)

@[simp]
theorem ofTag?_tag (kind : ConstantKind) : ofTag? kind.tag = some kind := by
  cases kind <;> decide

theorem tag_of_ofTag? {byte : UInt8} {kind : ConstantKind}
    (found : ofTag? byte = some kind) :
    kind.tag = byte := by
  simpa using List.find?_some found

end ConstantKind

/-- An entry of a constant pool. -/
inductive Constant where
  | utf8 (text : ModifiedUtf8)
  | integer (bits : UInt32)
  | float (bits : UInt32)
  | long (high low : UInt32)
  | double (high low : UInt32)
  | classRef (name : UInt16)
  | string (text : UInt16)
  | fieldRef (owner nameAndType : UInt16)
  | methodRef (owner nameAndType : UInt16)
  | interfaceMethodRef (owner nameAndType : UInt16)
  | nameAndType (name descriptor : UInt16)
  | methodHandle (referenceKind : UInt8) (reference : UInt16)
  | methodType (descriptor : UInt16)
  | dynamic (bootstrapMethod nameAndType : UInt16)
  | invokeDynamic (bootstrapMethod nameAndType : UInt16)
  | moduleRef (name : UInt16)
  | packageRef (name : UInt16)
  deriving DecidableEq, Repr

namespace Constant

/-- The kind of a constant. -/
def kind : Constant → ConstantKind
  | utf8 _ => .utf8
  | integer _ => .integer
  | float _ => .float
  | long _ _ => .long
  | double _ _ => .double
  | classRef _ => .classRef
  | string _ => .string
  | fieldRef _ _ => .fieldRef
  | methodRef _ _ => .methodRef
  | interfaceMethodRef _ _ => .interfaceMethodRef
  | nameAndType _ _ => .nameAndType
  | methodHandle _ _ => .methodHandle
  | methodType _ => .methodType
  | dynamic _ _ => .dynamic
  | invokeDynamic _ _ => .invokeDynamic
  | moduleRef _ => .moduleRef
  | packageRef _ => .packageRef

/-- The number of indices which a constant takes. -/
def width : Constant → Nat
  | long _ _ => 2
  | double _ _ => 2
  | _ => 1

theorem width_eq_one_or_two (constant : Constant) :
    constant.width = 1 ∨ constant.width = 2 := by
  cases constant <;> simp [width]

theorem width_pos (constant : Constant) : 0 < constant.width := by
  rcases constant.width_eq_one_or_two with equal | equal <;> omega

theorem width_le_two (constant : Constant) : constant.width ≤ 2 := by
  rcases constant.width_eq_one_or_two with equal | equal <;> omega

end Constant

end ClassFormat
