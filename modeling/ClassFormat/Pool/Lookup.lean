import ClassFormat.Decimal.Shortest
import ClassFormat.Pool.Basic
import ClassFormat.Text.Quoted
import ClassFormat.Types.WrittenType

/-!
# Looking constants up

What the constants of a pool mean to those who refer to them: texts, names of
classes, pairs of a name and a descriptor, and literals.  A reference to a
constant of another kind is a fault, and so is one to no constant.
-/

namespace ClassFormat

/-! ## Literals -/

/-- A value of a program: a text, or a number. -/
inductive Literal where
  | text (text : String)
  | integer (value : Int)
  | float (bits : UInt32)
  | long (value : Int)
  | double (bits : UInt64)
  deriving DecidableEq, Repr

/-- The number which 32 bits stand for in two's complement. -/
def signed32 (bits : UInt32) : Int :=
  if bits.toNat < 2147483648 then
    bits.toNat
  else
    (bits.toNat : Int) - 4294967296

/-- The 64 bits with the given halves. -/
def halves (high low : UInt32) : UInt64 :=
  (high.toNat * 4294967296 + low.toNat).toUInt64

/-- The number which 64 bits stand for in two's complement. -/
def signed64 (bits : UInt64) : Int :=
  if bits.toNat < 9223372036854775808 then bits.toNat
  else (bits.toNat : Int) - 18446744073709551616

/--
A literal as a listing shows it: texts between quotes, numbers in decimal.
-/
def Literal.display : Literal → String
  | text t => Text.quoted t
  | integer value => toString value
  | float bits => Decimal.single.decimal bits.toNat
  | long value => toString value
  | double bits => Decimal.double.decimal bits.toNat

namespace Pool

/-! ## References -/

/-- The fault of a reference to something else than what was expected. -/
def wrongConstant (pool : Pool) (index : UInt16) (expected : Expected) :
    FormatFault :=
  .wrongConstant index expected ((pool.get? index).map Constant.kind)

/-- The text at an index. -/
def text (pool : Pool) (index : UInt16) : Except FormatFault String :=
  match pool.get? index with
  | some (.utf8 text) => .ok text.text
  | _ => .error (pool.wrongConstant index (.kind .utf8))

/-- The index of the name of the class at an index. -/
def classRef (pool : Pool) (index : UInt16) : Except FormatFault UInt16 :=
  match pool.get? index with
  | some (.classRef name) => .ok name
  | _ => .error (pool.wrongConstant index (.kind .classRef))

/-- The indices of the name and the descriptor at an index. -/
def nameAndType (pool : Pool) (index : UInt16) :
    Except FormatFault (UInt16 × UInt16) :=
  match pool.get? index with
  | some (.nameAndType name descriptor) => .ok (name, descriptor)
  | _ => .error (pool.wrongConstant index (.kind .nameAndType))

/-- The name of the class at an index, which is written as a path. -/
def className (pool : Pool) (index : UInt16) :
    Except FormatFault WrittenType := do
  let name ← pool.classRef index
  let path ← pool.text name
  return .path path

theorem get?_eq_some_iff {pool : Pool} {index : UInt16} {constant : Constant} :
    pool.get? index = some constant ↔
      ∃ position, pool.position? index = some position ∧
        pool.entries.toList[position]? = some constant := by
  simp [get?, Option.bind_eq_some_iff]

/--
Exchange the constant at an index for one of the same width which is made from
it.
-/
def update (pool : Pool) (index : UInt16) (old new : Constant)
    (found : pool.get? index = some old) (sameWidth : old.width = new.width) :
    Pool :=
  match located : pool.position? index with
  | none => pool
  | some position => pool.replaceAt position new (by
      intro other present
      rcases get?_eq_some_iff.1 found with ⟨_, same, constant⟩
      rw [located] at same
      rcases Option.some.inj same with rfl
      rw [present] at constant
      rcases Option.some.inj constant with rfl
      exact sameWidth)

/-- Give the class at an index another name. -/
def setClassRef (pool : Pool) (index name : UInt16) : Except FormatFault Pool :=
  match found : pool.get? index with
  | some (.classRef old) =>
    .ok (pool.update index (.classRef old) (.classRef name) found rfl)
  | _ => .error (pool.wrongConstant index (.kind .classRef))

/-- Give the pair at an index another name and descriptor. -/
def setNameAndType (pool : Pool) (index name descriptor : UInt16) :
    Except FormatFault Pool :=
  match found : pool.get? index with
  | some (.nameAndType oldName oldDescriptor) =>
    .ok
      (pool.update index (.nameAndType oldName oldDescriptor)
        (.nameAndType name descriptor) found rfl)
  | _ => .error (pool.wrongConstant index (.kind .nameAndType))

/-- The literal which a constant stands for, if its kind stands for any. -/
def literal? (pool : Pool) : Constant → Except FormatFault (Option Literal)
  | .utf8 text => .ok (some (.text text.text))
  | .string text => do return some (.text (← pool.text text))
  | .classRef name => do return some (.text (← pool.text name))
  | .integer bits => .ok (some (.integer (signed32 bits)))
  | .float bits => .ok (some (.float bits))
  | .long high low => .ok (some (.long (signed64 (halves high low))))
  | .double high low => .ok (some (.double (halves high low)))
  | _ => .ok none

end Pool

end ClassFormat
