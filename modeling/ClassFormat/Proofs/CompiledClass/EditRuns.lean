import ClassFormat.CompiledClass.Version
import ClassFormat.Proofs.CompiledClass.Renaming

/-!
# Runs of edits

A class which was parsed stays well-formed under every run of edits, whatever
their order and whether or not they succeed.  Some of them change the pool
before they fail; no edit touches a text, and this is what keeps the names of
attributes and the types of methods right.

Two edits are only looked at with arguments which make sense: a class constant
is pointed at a text, and an attribute which is added has a name which goes with
what it holds.
-/

namespace ClassFormat

/-- An edit of a class, of one of its members or of its pool. -/
inductive Edit where
  | setVersion (major minor : UInt16)
  | setFlags (flags : Flags .class_)
  | setFieldFlags (place : Nat) (flags : Flags .field)
  | setMethodFlags (place : Nat) (flags : Flags .method)
  | rename (written : WrittenType)
  | setSuper (written : Option WrittenType)
  | setFieldName (place : Nat) (name : UInt16)
  | setMethodName (place : Nat) (name : UInt16)
  | setFieldDescriptor (place : Nat) (descriptor : UInt16)
  | setMethodDescriptor (place : Nat) (descriptor : UInt16)
  | addConstant (constant : Constant)
  | addText (text : String)
  | setNameAndType (index name descriptor : UInt16)
  | setClassRef (index name : UInt16)
  | addAttribute (attr : Attribute)
  | addFieldAttribute (place : Nat) (attr : Attribute)
  | addMethodAttribute (place : Nat) (attr : Attribute)

namespace CompiledClass

/-- Change the pool of a class, unless that fails. -/
def editPool (class_ : CompiledClass)
    (change : Pool → Except FormatFault Pool) : Edited :=
  match change class_.pool with
  | .ok pool => ⟨.ok (), { class_ with pool }⟩
  | .error fault => ⟨.error fault, class_⟩

/-- Give the method at a place another descriptor, unless that is malformed. -/
def setMethodDescriptor (class_ : CompiledClass) (place : Nat)
    (descriptor : UInt16) : Edited :=
  match class_.methods[place]? with
  | none => ⟨.ok (), class_⟩
  | some method =>
    match method.setDescriptor class_.pool descriptor with
    | .ok after => ⟨.ok (), class_.modifyMethod place fun _ => after⟩
    | .error fault => ⟨.error fault, class_⟩

end CompiledClass

namespace Edit

/-- How an edit of a class ends, and the class afterwards. -/
def perform (class_ : CompiledClass) : Edit → Edited
  | setVersion major minor =>
    match class_.setVersion major minor with
    | .ok after => ⟨.ok (), after⟩
    | .error fault => ⟨.error fault, class_⟩
  | setFlags flags => ⟨.ok (), { class_ with flags }⟩
  | setFieldFlags place flags =>
    ⟨.ok (), class_.modifyField place ({ · with flags })⟩
  | setMethodFlags place flags =>
    ⟨.ok (), class_.modifyMethod place ({ · with flags })⟩
  | rename written => class_.rename written
  | setSuper written => class_.setSuper written
  | setFieldName place name =>
    ⟨.ok (), class_.modifyField place ({ · with name })⟩
  | setMethodName place name =>
    ⟨.ok (), class_.modifyMethod place ({ · with name })⟩
  | setFieldDescriptor place descriptor =>
    ⟨.ok (), class_.modifyField place ({ · with descriptor })⟩
  | setMethodDescriptor place descriptor =>
    class_.setMethodDescriptor place descriptor
  | addConstant constant =>
    class_.editPool fun pool => (pool.add constant).map Prod.snd
  | addText text => class_.editPool fun pool => (pool.intern text).map Prod.snd
  | setNameAndType index name descriptor =>
    class_.editPool (·.setNameAndType index name descriptor)
  | setClassRef index name => class_.editPool (·.setClassRef index name)
  | addAttribute attr => ⟨.ok (), class_.addAttributes [attr]⟩
  | addFieldAttribute place attr =>
    ⟨.ok (), class_.modifyField place fun field =>
      { field with attributes := field.attributes ++ [attr] }⟩
  | addMethodAttribute place attr =>
    ⟨.ok (), class_.modifyMethod place fun method =>
      { method with attributes := method.attributes ++ [attr] }⟩

/--
The arguments which an edit of a class may have: a class constant is pointed at
a text, and an attribute which is added is named in the pool, with everything
inside of it.
-/
def Admissible (class_ : CompiledClass) : Edit → Prop
  | setClassRef _ name => ∃ text, class_.pool.get? name = some (.utf8 text)
  | addAttribute attr => Attributes.NamedIn [attr] class_.pool
  | addFieldAttribute _ attr => Attributes.NamedIn [attr] class_.pool
  | addMethodAttribute _ attr => Attributes.NamedIn [attr] class_.pool
  | _ => True

/-- A class after some edits, one after another, of which some may fail. -/
def performAll (class_ : CompiledClass) : List Edit → CompiledClass
  | [] => class_
  | edit :: others => performAll (edit.perform class_).class_ others

/-- Edits each of which is admissible when its turn comes. -/
def AllAdmissible (class_ : CompiledClass) : List Edit → Prop
  | [] => True
  | edit :: others =>
    edit.Admissible class_ ∧ AllAdmissible (edit.perform class_).class_ others

end Edit

/-! ## Members and marks -/

/--
What holds of all members of a list still does after one of them was changed.
-/
theorem forall_mem_modify {α : Type} {holds : α → Prop} {members : List α}
    {change : α → α} (all : ∀ member ∈ members, holds member)
    (kept : ∀ member, holds member → holds (change member)) (place : Nat) :
    ∀ member ∈ members.modify place change, holds member := by
  intro member present
  rcases List.mem_iff_getElem?.1 present with ⟨position, found⟩
  rw [List.getElem?_modify] at found
  rcases Option.map_eq_some_iff.1 found with ⟨old, foundOld, rfl⟩
  have holdsOld := all old (List.mem_of_getElem? foundOld)
  split
  · exact kept old holdsOld
  · exact holdsOld

/-- A mark which was made is named in the pool it was made with. -/
theorem Pool.namedIn_syntheticMark {pool after : Pool} {mark : Attribute}
    (made : pool.syntheticMark = .ok (mark, after)) :
    after.Keeps pool ∧ Attributes.NamedIn [mark] after := by
  rcases Decoder.bind_eq_ok made with ⟨⟨name, extended⟩, interned, done⟩
  cases done
  refine ⟨Keeps.of_intern interned, Attributes.namedIn_plain.2 ?_⟩
  exact ⟨_, get?_of_intern interned, ModifiedUtf8.text_ofText _⟩

/-! ## What one edit keeps -/

namespace CompiledClass.WellFormed

variable {class_ : CompiledClass}

/-- Another pool will do if it keeps the texts and the names of classes. -/
theorem withPool (wellFormed : class_.WellFormed) {pool : Pool}
    (keeps : pool.Keeps class_.pool) :
    { class_ with pool }.WellFormed where
  name := keeps.classes wellFormed.name
  superClass := wellFormed.superClass.imp_right keeps.classes
  interfaces :=
    fun interface member =>
      keeps.classes (wellFormed.interfaces interface member)
  fields := fun field member => (wellFormed.fields field member).keep keeps
  methods := fun method member => (wellFormed.methods method member).keep keeps
  attributes := wellFormed.attributes.keep keeps

theorem editPool (wellFormed : class_.WellFormed)
    {change : Pool → Except FormatFault Pool}
    (keeps : ∀ {pool : Pool}, change class_.pool = .ok pool →
      pool.Keeps class_.pool) :
    (class_.editPool change).class_.WellFormed := by
  rw [CompiledClass.editPool]
  split
  · next pool changed => exact wellFormed.withPool (keeps changed)
  · exact wellFormed

theorem modifyField (wellFormed : class_.WellFormed) (place : Nat)
    {change : Field → Field}
    (kept : ∀ field : Field, field.attributes.NamedIn class_.pool →
      (change field).attributes.NamedIn class_.pool) :
    (class_.modifyField place change).WellFormed :=
  { wellFormed with fields := forall_mem_modify wellFormed.fields kept place }

theorem modifyMethod (wellFormed : class_.WellFormed) (place : Nat)
    {change : Method → Method}
    (kept : ∀ method : Method, method.Fits class_.pool →
      (change method).Fits class_.pool) :
    (class_.modifyMethod place change).WellFormed :=
  { wellFormed with methods := forall_mem_modify wellFormed.methods kept place }

theorem addAttributes (wellFormed : class_.WellFormed) {attributes : Attributes}
    (named : attributes.NamedIn class_.pool) :
    (class_.addAttributes attributes).WellFormed :=
  { wellFormed with
    attributes := Attributes.namedIn_append.2 ⟨wellFormed.attributes, named⟩ }

/-! ### Descriptors -/

theorem setMethodDescriptor
    (wellFormed : class_.WellFormed) (place : Nat) (descriptor : UInt16) :
    (class_.setMethodDescriptor place descriptor).class_.WellFormed := by
  rw [CompiledClass.setMethodDescriptor]
  split
  · exact wellFormed
  · next method found =>
      have fits := wellFormed.methods method (List.mem_of_getElem? found)
      split
      · next after set =>
          rcases Decoder.bind_eq_ok set with ⟨types, typed, done⟩
          cases done
          exact wellFormed.modifyMethod place fun _ _ =>
            ⟨fits.attributes, typed⟩
      · exact wellFormed

/-! ### Names -/

theorem internPath
    (wellFormed : class_.WellFormed) {written : WrittenType} {name : UInt16}
    {named : CompiledClass}
    (interned : class_.internPath written = .ok (name, named)) :
    named.WellFormed ∧ ∃ text, named.pool.get? name = some (.utf8 text) := by
  rcases internPath_eq_ok_iff.1 interned with ⟨path, pool, -, added, rfl⟩
  exact ⟨wellFormed.withPool (Pool.Keeps.of_intern added), _,
    Pool.get?_of_intern added⟩

theorem setClassRef
    (wellFormed : class_.WellFormed) (index : UInt16) {name : UInt16}
    {text : ModifiedUtf8}
    (told : class_.pool.get? name = some (.utf8 text)) :
    (class_.editPool (·.setClassRef index name)).class_.WellFormed :=
  wellFormed.editPool (Pool.Keeps.of_setClassRef told)

theorem rename (wellFormed : class_.WellFormed) (written : WrittenType) :
    (class_.rename written).class_.WellFormed := by
  rw [CompiledClass.rename]
  split
  · next name named interned =>
      rcases wellFormed.internPath interned with ⟨namedWell, text, told⟩
      exact namedWell.setClassRef named.thisClass told
  · exact wellFormed

theorem addSuper
    (wellFormed : class_.WellFormed) {name : UInt16} {text : ModifiedUtf8}
    (told : class_.pool.get? name = some (.utf8 text)) :
    (class_.addSuper name).class_.WellFormed := by
  rw [CompiledClass.addSuper]
  split
  · next superClass pool added =>
      have keeps := Pool.Keeps.of_add added
      rcases Pool.add_eq_ok_iff.1 added with ⟨fits, rfl, rfl⟩
      have named :
          (class_.pool.push (.classRef name) fits).NamesClass
            class_.pool.nextIndex :=
        ⟨name, text, Pool.get?_push_nextIndex class_.pool (.classRef name) fits,
          keeps.texts told⟩
      exact { wellFormed.withPool keeps with superClass := .inr named }
  · exact wellFormed

theorem setSuper (wellFormed : class_.WellFormed)
    (written : Option WrittenType) :
    (class_.setSuper written).class_.WellFormed := by
  cases written with
  | none => exact { wellFormed with superClass := .inl rfl }
  | some written =>
      simp only [CompiledClass.setSuper]
      split
      · next name named interned =>
          rcases wellFormed.internPath interned with ⟨namedWell, text, told⟩
          split
          · exact namedWell.addSuper told
          · exact namedWell.setClassRef named.superClass told
      · exact wellFormed

/-! ### Versions -/

theorem namedIn_marked
    {attributes : Attributes} {mark : Option Attribute} {pool : Pool}
    (isSynthetic : Bool)
    (named : attributes.NamedIn pool)
    (namedMark : Attributes.NamedIn mark.toList pool) :
    (marked attributes mark isSynthetic).NamedIn pool := by
  rw [marked]
  split
  · exact Attributes.namedIn_append.2 ⟨named, namedMark⟩
  · exact named

theorem withoutJava5Flags
    (wellFormed : class_.WellFormed) {mark : Option Attribute}
    (namedMark : Attributes.NamedIn mark.toList class_.pool) :
    (class_.withoutJava5Flags mark).WellFormed where
  name := wellFormed.name
  superClass := wellFormed.superClass
  interfaces := wellFormed.interfaces
  fields := by
    intro field member
    rcases List.mem_map.1 member with ⟨old, oldMember, rfl⟩
    exact namedIn_marked _ (wellFormed.fields old oldMember) namedMark
  methods := by
    intro method member
    rcases List.mem_map.1 member with ⟨old, oldMember, rfl⟩
    have fits := wellFormed.methods old oldMember
    exact ⟨namedIn_marked _ fits.attributes namedMark, fits.types⟩
  attributes := namedIn_marked _ wellFormed.attributes namedMark

theorem downgrade
    (wellFormed : class_.WellFormed) {after : CompiledClass}
    (downgraded : class_.downgrade = .ok after) : after.WellFormed := by
  rw [CompiledClass.downgrade] at downgraded
  split at downgraded
  · rcases Decoder.bind_eq_ok downgraded with ⟨⟨mark, pool⟩, made, done⟩
    cases done
    rcases Pool.namedIn_syntheticMark made with ⟨keeps, namedMark⟩
    exact (wellFormed.withPool keeps).withoutJava5Flags namedMark
  · cases downgraded
    apply wellFormed.withoutJava5Flags
    intro attr occurs
    cases occurs with
    | listed member => cases member
    | inside member deeper => cases member

/-- Nothing which refers to the pool is concerned with the version. -/
theorem withVersion (wellFormed : class_.WellFormed) (major minor : UInt16) :
    { class_ with major, minor }.WellFormed :=
  { wellFormed with }

theorem setVersion
    (wellFormed : class_.WellFormed) {major minor : UInt16}
    {after : CompiledClass}
    (set : class_.setVersion major minor = .ok after) : after.WellFormed := by
  rw [CompiledClass.setVersion] at set
  split at set
  · rcases Decoder.bind_eq_ok set with ⟨lowered, downgraded, done⟩
    cases done
    exact (wellFormed.downgrade downgraded).withVersion major minor
  · cases set
    exact wellFormed.withVersion major minor

/-! ### All edits -/

/-- Whether it succeeds or not, an edit keeps a class well-formed. -/
theorem perform
    (wellFormed : class_.WellFormed) {edit : Edit}
    (admissible : edit.Admissible class_) :
    (edit.perform class_).class_.WellFormed := by
  cases edit with
  | setVersion major minor =>
      simp only [Edit.perform]
      split
      · next after set => exact wellFormed.setVersion set
      · exact wellFormed
  | setFlags flags => exact { wellFormed with }
  | setFieldFlags place flags =>
      exact wellFormed.modifyField place fun _ named => named
  | setMethodFlags place flags =>
      exact wellFormed.modifyMethod place fun _ fits =>
        ⟨fits.attributes, fits.types⟩
  | rename written => exact wellFormed.rename written
  | setSuper written => exact wellFormed.setSuper written
  | setFieldName place name =>
      exact wellFormed.modifyField place fun _ named => named
  | setMethodName place name =>
      exact wellFormed.modifyMethod place fun _ fits =>
        ⟨fits.attributes, fits.types⟩
  | setFieldDescriptor place descriptor =>
      exact wellFormed.modifyField place fun _ named => named
  | setMethodDescriptor place descriptor =>
      exact wellFormed.setMethodDescriptor place descriptor
  | addConstant constant =>
      apply wellFormed.editPool
      intro pool changed
      rcases Decoder.exists_of_map_eq_ok changed with
        ⟨⟨index, after⟩, added, rfl⟩
      exact Pool.Keeps.of_add added
  | addText text =>
      apply wellFormed.editPool
      intro pool changed
      rcases Decoder.exists_of_map_eq_ok changed with
        ⟨⟨index, after⟩, interned, rfl⟩
      exact Pool.Keeps.of_intern interned
  | setNameAndType index name descriptor =>
      exact wellFormed.editPool Pool.Keeps.of_setNameAndType
  | setClassRef index name =>
      rcases admissible with ⟨text, told⟩
      exact wellFormed.setClassRef index told
  | addAttribute attr => exact wellFormed.addAttributes admissible
  | addFieldAttribute place attr =>
      apply wellFormed.modifyField
      intro field named
      exact Attributes.namedIn_append.2 ⟨named, admissible⟩
  | addMethodAttribute place attr =>
      apply wellFormed.modifyMethod
      intro method fits
      exact ⟨Attributes.namedIn_append.2 ⟨fits.attributes, admissible⟩,
        fits.types⟩

/-- A run of edits keeps a class well-formed. -/
theorem performAll
    (wellFormed : class_.WellFormed) {edits : List Edit}
    (admissible : Edit.AllAdmissible class_ edits) :
    (Edit.performAll class_ edits).WellFormed := by
  induction edits generalizing class_ with
  | nil => exact wellFormed
  | cons edit others hypothesis =>
      rcases admissible with ⟨first, later⟩
      exact hypothesis (wellFormed.perform first) later

end CompiledClass.WellFormed

/-! ## Runs after parsing -/

namespace CompiledClass

/-- An attribute of a class or of one of its members, at any depth. -/
def Holds (class_ : CompiledClass) (attr : Attribute) : Prop :=
  attr.Occurs class_.attributes ∨
    (∃ field ∈ class_.fields, attr.Occurs field.attributes) ∨
      ∃ method ∈ class_.methods, attr.Occurs method.attributes

/--
A class whose names can be told, whose attributes have names which go with what
they hold, and whose methods keep the types which their descriptors are read as.
-/
structure Resolves (class_ : CompiledClass) : Prop where
  name : ∃ name, class_.name = .ok name
  superName : ∃ superName, class_.superName? = .ok superName
  interfaceNames : ∃ names, class_.interfaceNames = .ok names
  attributes : ∀ attr : Attribute, class_.Holds attr →
    ∃ text, attr.name class_.pool = .ok text ∧ attr.MayBeCalled text
  types : ∀ method ∈ class_.methods,
    ∃ text, class_.pool.text method.descriptor = .ok text ∧
      MethodType.parse text = .ok method.types

theorem WellFormed.namedIn {class_ : CompiledClass}
    (wellFormed : class_.WellFormed) {attr : Attribute}
    (holds : class_.Holds attr) : attr.NamedIn class_.pool := by
  rcases holds with occurs | ⟨field, member, occurs⟩ | ⟨method, member, occurs⟩
  · exact wellFormed.attributes attr occurs
  · exact wellFormed.fields field member attr occurs
  · exact (wellFormed.methods method member).attributes attr occurs

theorem WellFormed.resolves {class_ : CompiledClass}
    (wellFormed : class_.WellFormed) :
    class_.Resolves where
  name := Pool.namesClass_iff.1 wellFormed.name
  superName := exists_superName?_iff.2 wellFormed.superClass
  interfaceNames := exists_interfaceNames_iff.2 wellFormed.interfaces
  attributes := by
    intro attr holds
    rcases wellFormed.namedIn holds with ⟨entry, found, called⟩
    exact ⟨entry.text, Pool.text_eq_ok_iff.2 ⟨entry, found, rfl⟩, called⟩
  types := by
    intro method member
    rcases Pool.methodType_eq_ok_iff.1
      (wellFormed.methods method member).types with ⟨entry, found, parsed⟩
    exact ⟨entry.text, Pool.text_eq_ok_iff.2 ⟨entry, found, rfl⟩, parsed⟩

/--
Whatever was parsed and then edited, in any order and with any success, still
resolves.
-/
theorem resolves_performAll_of_parse
    {bytes : List UInt8} {class_ : CompiledClass} {edits : List Edit}
    (parsed : parse bytes = .ok class_)
    (admissible : Edit.AllAdmissible class_ edits) :
    (Edit.performAll class_ edits).Resolves := by
  rcases parse_eq_ok_iff.1 parsed with ⟨rest, read⟩
  have wellFormed : class_.WellFormed := (spans_decode read).2
  exact (wellFormed.performAll admissible).resolves

/--
A run with an edit which fails: the first text of the sample is not a
descriptor.
-/
def sampleEdits : List Edit :=
  [.rename (.path "B"), .setMethodDescriptor 0 1, .addText "Deprecated",
   .addMethodAttribute 0 (.plain 9 .deprecated), .setClassRef 2 8,
   .setMethodFlags 0 ⟨0x1000⟩, .setVersion 48 0]

theorem resolves_performAll_of_parse_sample :
    parse sampleBytes = .ok sample ∧ Edit.AllAdmissible sample sampleEdits ∧
      (Edit.performAll sample sampleEdits).Resolves := by
  have parsed : parse sampleBytes = .ok sample := by decide +kernel
  have admissible : Edit.AllAdmissible sample sampleEdits := by
    refine ⟨trivial, trivial, trivial, ?_, ⟨.ofText "B", ?_⟩, trivial, trivial,
      trivial⟩
    · have found : (Edit.performAll sample (sampleEdits.take 3)).pool.get? 9 =
          some (.utf8 (.ofText "Deprecated")) := by decide +kernel
      exact Attributes.namedIn_plain.2 ⟨_, found, ModifiedUtf8.text_ofText _⟩
    · decide +kernel
  exact ⟨parsed, admissible, resolves_performAll_of_parse parsed admissible⟩

end CompiledClass

end ClassFormat
