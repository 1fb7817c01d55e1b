import ClassFormat.CompiledClass.Basic

/-!
# Editing a class

Renaming a class or its superclass, and changes to single members.  A renaming
first adds the new name to the pool and then points the constant of the class at
it.  Where the second step fails the name stays in the pool, so every edit tells
both how it ended and what the class is afterwards.
-/

namespace ClassFormat

/-- How an edit ended, and the class afterwards. -/
structure Edited where
  result : Except FormatFault Unit
  class_ : CompiledClass

namespace CompiledClass

/-- Add the path of a type to the pool. -/
def internPath (class_ : CompiledClass) (written : WrittenType) :
    Except FormatFault (UInt16 × CompiledClass) := do
  let path ← liftType written.toPath
  let (name, pool) ← class_.pool.intern path
  return (name, { class_ with pool })

/-- Point the constant of a class at another name. -/
def renameConstant (class_ : CompiledClass) (index name : UInt16) : Edited :=
  match class_.pool.setClassRef index name with
  | .ok pool => ⟨.ok (), { class_ with pool }⟩
  | .error fault => ⟨.error fault, class_⟩

/-- Give a class another name. -/
def rename (class_ : CompiledClass) (written : WrittenType) : Edited :=
  match class_.internPath written with
  | .ok (name, named) => named.renameConstant named.thisClass name
  | .error fault => ⟨.error fault, class_⟩

/-- Make the class of a name the superclass, where there was none. -/
def addSuper (class_ : CompiledClass) (name : UInt16) : Edited :=
  match class_.pool.add (.classRef name) with
  | .ok (superClass, pool) => ⟨.ok (), { class_ with pool, superClass }⟩
  | .error fault => ⟨.error fault, class_⟩

/-- Give a class another superclass, or none. -/
def setSuper (class_ : CompiledClass) : Option WrittenType → Edited
  | none => ⟨.ok (), { class_ with superClass := 0 }⟩
  | some written =>
    match class_.internPath written with
    | .ok (name, named) =>
      if named.superClass = 0 then named.addSuper name
      else named.renameConstant named.superClass name
    | .error fault => ⟨.error fault, class_⟩

/-- Append attributes to a class. -/
def addAttributes (class_ : CompiledClass) (attributes : Attributes) :
    CompiledClass :=
  { class_ with attributes := class_.attributes ++ attributes }

/-- Change the field at a place in the order of fields. -/
def modifyField (class_ : CompiledClass) (place : Nat)
    (change : Field → Field) : CompiledClass :=
  { class_ with fields := class_.fields.modify place change }

/-- Change the method at a place in the order of methods. -/
def modifyMethod (class_ : CompiledClass) (place : Nat)
    (change : Method → Method) :
    CompiledClass :=
  { class_ with methods := class_.methods.modify place change }

end CompiledClass

end ClassFormat
