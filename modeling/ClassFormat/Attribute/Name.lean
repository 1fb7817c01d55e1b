/-!
# Names of attributes

The names of the eight attributes whose contents are understood.  An attribute
of any other name is kept as the bytes it holds.
-/

namespace ClassFormat

/-- An attribute whose contents are understood. -/
inductive AttributeName where
  | code
  | constantValue
  | deprecated
  | exceptions
  | innerClasses
  | localVariableTable
  | signature
  | synthetic
  deriving DecidableEq, Repr

namespace AttributeName

/-- Every name, in alphabetical order. -/
def all : List AttributeName := [
  code, constantValue, deprecated, exceptions, innerClasses, localVariableTable,
  signature, synthetic]

/-- The name as it stands in a pool. -/
def text : AttributeName → String
  | code => "Code"
  | constantValue => "ConstantValue"
  | deprecated => "Deprecated"
  | exceptions => "Exceptions"
  | innerClasses => "InnerClasses"
  | localVariableTable => "LocalVariableTable"
  | signature => "Signature"
  | synthetic => "Synthetic"

/-- The name with a given text. -/
def ofText? (text : String) : Option AttributeName :=
  all.find? (·.text = text)

@[simp]
theorem ofText?_text (name : AttributeName) :
    ofText? name.text = some name := by
  cases name <;> decide

theorem text_of_ofText? {text : String} {name : AttributeName}
    (found : ofText? text = some name) :
    name.text = text := by
  simpa using List.find?_some found

end AttributeName

end ClassFormat
