import ClassFormat.CompiledClass.Binary
import ClassFormat.CompiledClass.Version

/-!
# Journals

What there is to tell about reading a class and about changing its version, note
by note.  The notes of a reading which fails are those up to the point where it
does.
-/

namespace ClassFormat

/-- How much a note matters. -/
inductive NoteLevel where
  | trace
  | debug
  deriving DecidableEq, Repr

/-- Something to tell. -/
inductive Note where
  /-- A constant was read, and belongs at an index. -/
  | constant (index : Nat) (constant : Constant)
  | pool (constants indices : Nat)
  /-- An attribute which is not understood was kept. -/
  | kept (bytes : Nat) (name : String)
  | read (class_ : CompiledClass) (name : WrittenType)
      (super : Option WrittenType)
  /-- Attributes which mark synthetic elements were left as they are. -/
  | upgraded (major minor : UInt16)
  | classFlag
  | fieldFlag (name : UInt16)
  | methodFlag (name : UInt16)

namespace Note

/-- A record with named fields. -/
def record (name : String) (fields : List (String × String)) : String :=
  name ++ " \x7b " ++
    String.intercalate ", " (fields.map fun (field, value) =>
      field ++ ": " ++ value) ++
    " \x7d"

/-- A record inside of a constant of a kind. -/
def wrapped (kind : ConstantKind) (name : String)
    (fields : List (String × String)) : String :=
  kind.name ++ "(" ++ record name fields ++ ")"

/-- A constant with all its fields. -/
def constantText (constant : Constant) : String :=
  let number (n : UInt16) : String := toString n.toNat
  let signed (bits : UInt32) : String := toString (signed32 bits)
  let reference (owner member : UInt16) : String :=
    wrapped constant.kind "RefInfo"
      [("class_index", number owner), ("name_and_type_index", number member)]
  let bootstrap (method member : UInt16) : String :=
    wrapped constant.kind "DynamicInfo"
      [("bootstrap_method_attr_index", number method),
        ("name_and_type_index", number member)]
  match constant with
  | .utf8 text =>
    wrapped .utf8 "Utf8Info"
      [("bytes", "[" ++
        String.intercalate ", "
          (text.bytes.map fun byte => toString byte.toNat) ++ "]")]
  | .integer bits => "Integer(" ++ signed bits ++ ")"
  | .float bits => "Float(" ++ signed bits ++ ")"
  | .long high low => record "Long" [("high", signed high), ("low", signed low)]
  | .double high low =>
    record "Double" [("high", signed high), ("low", signed low)]
  | .classRef name =>
    wrapped .classRef "ClassInfo" [("name_index", number name)]
  | .string text => record "String" [("string_index", number text)]
  | .fieldRef owner member => reference owner member
  | .methodRef owner member => reference owner member
  | .interfaceMethodRef owner member => reference owner member
  | .nameAndType name descriptor =>
    wrapped .nameAndType "NameAndTypeInfo"
      [("name_index", number name), ("descriptor_index", number descriptor)]
  | .methodHandle kind index =>
    wrapped .methodHandle "MethodHandleInfo"
      [("reference_kind", toString kind.toNat),
        ("reference_index", number index)]
  | .methodType descriptor =>
    wrapped .methodType "MethodTypeInfo"
      [("descriptor_index", number descriptor)]
  | .dynamic method member => bootstrap method member
  | .invokeDynamic method member => bootstrap method member
  | .moduleRef name => record "Module" [("name_index", number name)]
  | .packageRef name => record "Package" [("name_index", number name)]

/-- How much a note matters. -/
def level : Note → NoteLevel
  | pool _ _ => .debug
  | read _ _ _ => .debug
  | upgraded _ _ => .debug
  | _ => .trace

/-- A version, with the major number in front. -/
def versionText (major minor : UInt16) : String :=
  toString major.toNat ++ "." ++ toString minor.toNat

/-- A note in words. -/
def text : Note → String
  | constant index held => "#" ++ toString index ++ " = " ++ constantText held
  | pool constants indices =>
    "Read " ++ toString constants ++ " constants spanning " ++
      toString indices ++ " indices"
  | kept bytes name =>
    "Keeping " ++ toString bytes ++ " bytes of the " ++ name ++ " attribute"
  | read class_ name super =>
    "Parsed " ++ name.text ++ " version " ++
      versionText class_.major class_.minor ++
      ": super class " ++ (super.map WrittenType.text).getD "none" ++ ", " ++
      toString class_.interfaces.length ++ " interfaces, " ++
        toString class_.fields.length ++
      " fields, " ++ toString class_.methods.length ++ " methods"
  | upgraded major minor =>
    "Upgraded to version " ++ versionText major minor ++
      " without converting Synthetic attributes to flags"
  | classFlag => "Replacing the synthetic class flag with an attribute"
  | fieldFlag name =>
    "Replacing the synthetic flag of field " ++ toString name.toNat ++
      " with an attribute"
  | methodFlag name =>
    "Replacing the synthetic flag of method " ++ toString name.toNat ++
      " with an attribute"

end Note

namespace Journal

open Decoder

/-- Steps which take notes, the latest first, until one of them fails. -/
abbrev Steps := ExceptT Unit (StateM (List Note))

/-- Take a note. -/
def note (text : Note) : Steps Unit :=
  modify (text :: ·)

/-- A step without notes. -/
def step {ε α : Type} : Except ε α → Steps α
  | .ok value => pure value
  | .error _ => throw ()

/-- Note the constants of a pool up to the first one which cannot be read. -/
def constants (indices index : Nat) (done : List Note) (input : List UInt8) :
    List Note :=
  if index ≤ indices then
    match Constant.decode input with
    | .ok (constant, rest) =>
      have := constant.width_pos
      constants indices (index + constant.width)
        (.constant index constant :: done) rest
    | .error _ => done
  else
    done
termination_by indices + 1 - index

/--
Note the attributes which are kept as they are, up to the first one which cannot
be read.  The bytes after the attributes are given if all of them could.
-/
def attributes (pool : Pool) (done : List Note) (count : Nat)
    (input : List UInt8) :
    List Note × Option (List UInt8) :=
  match count with
  | 0 => (done, some input)
  | others + 1 =>
    match cut : AttributeRecord.decode input with
    | .error _ => (done, none)
    | .ok (record, rest) =>
      have := AttributeRecord.length_of_decode cut
      match opens : record.opened pool with
      | .error _ => (done, none)
      | .ok (.whole (.plain name (.unknown bytes))) =>
        let kept := Note.kept bytes.length ((pool.text name).toOption.getD "")
        attributes pool (kept :: done) others rest
      | .ok (.whole _) => attributes pool done others rest
      | .ok (.code _ nestedCount nestedInput) =>
        have := AttributeRecord.length_lt_of_opened opens
        match attributes pool done nestedCount.toNat nestedInput with
        | (done, some []) => attributes pool done others rest
        | (done, _) => (done, none)
termination_by input.length

/-- The steps of noting a count and as many attributes. -/
def attributeSteps (pool : Pool) (input : List UInt8) : Steps (List UInt8) := do
  let (count, input) ← step (u16 input)
  let (notes, rest?) := attributes pool (← get) count.toNat input
  set notes
  match rest? with
  | some rest => return rest
  | none => throw ()

/--
Note a number of members.  Each of them has three numbers in front of its
attributes, and may turn out to be at fault after them.
-/
def memberSteps {α : Type} (decode : Decoder α) (pool : Pool) :
    Nat → List UInt8 → Steps (List UInt8)
  | 0, input => return input
  | others + 1, input => do
    let (_, afterStart) ← step (many 3 u16 input)
    let _ ← attributeSteps pool afterStart
    let (_, rest) ← step (decode input)
    memberSteps decode pool others rest

/-- The steps of reading a class. -/
def readingSteps (bytes : List UInt8) : Steps Unit := do
  let (_, input) ← step (CompiledClass.decodeMagic bytes)
  let (_, input) ← step (many 2 u16 input)
  let (count, afterCount) ← step (u16 input)
  modify fun notes => constants (count.toNat - 1) 1 notes afterCount
  let (pool, input) ← step (Pool.decode input)
  note (.pool pool.size pool.width)
  let (_, input) ← step (many 3 u16 input)
  let (_, input) ← step (counted u16 input)
  let (fields, input) ← step (u16 input)
  let input ← memberSteps (Field.decode pool) pool fields.toNat input
  let (methods, input) ← step (u16 input)
  let input ← memberSteps (Method.decode pool) pool methods.toNat input
  let _ ← attributeSteps pool input
  let (class_, _) ← step (CompiledClass.decode bytes)
  let name ← step class_.name
  let super ← step class_.superName?
  note (.read class_ name super)

/-- The notes on reading a class. -/
def reading (bytes : List UInt8) : List Note :=
  ((readingSteps bytes).run.run []).2.reverse

/-- The notes on replacing the flags of synthetic elements. -/
def replacedFlags (class_ : CompiledClass) : List Note :=
  (if class_.flags.contains .synthetic then [.classFlag] else []) ++
    (class_.fields.filter (·.flags.contains .synthetic)).map
      (fun field => .fieldFlag field.name) ++
    (class_.methods.filter (·.flags.contains .synthetic)).map
      (fun method => .methodFlag method.name)

/-- The notes on giving a class another version. -/
def settingVersion (class_ : CompiledClass) (major minor : UInt16) :
    List Note :=
  if CompiledClass.java5 ≤ class_.major ∧ major < CompiledClass.java5 then
    match class_.downgrade with
    | .ok _ => replacedFlags class_
    | .error _ => []
  else if class_.major < CompiledClass.java5 ∧ CompiledClass.java5 ≤ major then
    [.upgraded major minor]
  else
    []

end Journal

end ClassFormat
