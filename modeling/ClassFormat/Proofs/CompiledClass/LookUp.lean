import ClassFormat.Proofs.Attribute.Dispatch
import ClassFormat.Proofs.CompiledClass.EditRuns

/-!
# Looking attributes up

An attribute is looked up by its name, which is a text of the pool, or by what
it holds.  In attributes which are named in a pool the name goes with what is
held, so both ways lead to the same attribute.  It does not matter how the bytes
of the pool spell the name, nor whether there are several attributes of the
kind, since both ways stop at the first one.
-/

namespace ClassFormat

/--
Two searches which agree about every member of a list agree about the list.
-/
theorem rel_findSome? {α β γ : Type} {Related : β → γ → Prop}
    {first : α → Option β} {second : α → Option γ} {members : List α}
    (agree : ∀ member ∈ members,
      Option.Rel Related (first member) (second member)) :
    Option.Rel Related (members.findSome? first)
      (members.findSome? second) := by
  induction members with
  | nil => exact .none
  | cons member others hypothesis =>
      rcases List.forall_mem_cons.1 agree with ⟨here, there⟩
      rw [List.findSome?_cons, List.findSome?_cons]
      generalize first member = found, second member = other at here
      cases here with
      | none => exact hypothesis there
      | some related => exact .some related

/-! ## One attribute -/

/-- The names of the attributes which are also looked up by what they hold. -/
def AttributeName.sought : List AttributeName :=
  [code, constantValue, exceptions, signature, synthetic, deprecated]

namespace Attribute

variable {attr : Attribute} {pool : Pool}

/-- An attribute which is not looked up by what it holds. -/
inductive Unsought : Attribute → Prop where
  | unknown (name : UInt16) (bytes : List UInt8) :
      Unsought (.plain name (.unknown bytes))
  | innerClasses (name : UInt16) (classes : List InnerClass) :
      Unsought (.plain name (.innerClasses classes))
  | localVariableTable (name : UInt16) (entries : List LocalVariable) :
      Unsought (.plain name (.localVariableTable entries))

theorem unsought_of_known?
    (other : ∀ known ∈ AttributeName.sought, attr.known? ≠ some known) :
    attr.Unsought := by
  cases attr with
  | code name body nested => exact absurd rfl (other .code (by decide))
  | plain name content =>
      cases content with
      | constantValue value =>
          exact absurd rfl (other .constantValue (by decide))
      | deprecated => exact absurd rfl (other .deprecated (by decide))
      | exceptions classes => exact absurd rfl (other .exceptions (by decide))
      | innerClasses classes => exact .innerClasses name classes
      | localVariableTable entries => exact .localVariableTable name entries
      | signature text => exact absurd rfl (other .signature (by decide))
      | synthetic => exact absurd rfl (other .synthetic (by decide))
      | unknown bytes => exact .unknown name bytes

/-- The name of an attribute can be told if it is named in the pool. -/
theorem NamedIn.exists_name (named : attr.NamedIn pool) :
    ∃ text, attr.name pool = .ok text ∧ attr.MayBeCalled text := by
  rcases named with ⟨entry, found, called⟩
  exact ⟨entry.text, Pool.text_of_utf8 found, called⟩

/--
An attribute is found by a text only if this goes with what the attribute holds.
-/
theorem NamedIn.mayBeCalled (named : attr.NamedIn pool) {asked : String}
    (found : isNamed asked (attr.name pool) = true) :
    attr.MayBeCalled asked := by
  rcases named.exists_name with ⟨text, told, called⟩
  rw [told, isNamed, decide_eq_true_eq] at found
  rwa [← found]

/-- To ask for the name of a kind is to ask for the kind. -/
theorem NamedIn.isNamed_text (named : attr.NamedIn pool)
    (known : AttributeName) :
    isNamed known.text (attr.name pool) =
      decide (attr.known? = some known) := by
  rw [Bool.eq_iff_iff, decide_eq_true_eq]
  constructor
  · intro found
    rw [← mayBeCalled_iff.1 (named.mayBeCalled found),
      AttributeName.ofText?_text]
  · intro kind
    rcases named.exists_name with ⟨text, told, called⟩
    rw [MayBeCalled, kind] at called
    rw [told, isNamed, decide_eq_true_eq]
    exact called

end Attribute

/-! ## Lists of attributes -/

namespace Attributes

variable {attributes : Attributes} {pool : Pool}

/--
To look attributes up by their names is to look them up by what they hold.  What
is found by the name of a kind is what is found by the kind, if anything is
found at all, and what is found by another name is of no kind that can be asked
for.
-/
structure LookUpsAgree (attributes : Attributes) (pool : Pool) : Prop where
  code : Option.Rel
    (fun attr found => ∃ name, attr = .code name found.1 found.2)
    (attributes.find? "Code" pool) attributes.code?
  constantValue : Option.Rel
    (fun attr value => ∃ name, attr = .plain name (.constantValue value))
    (attributes.find? "ConstantValue" pool) attributes.constantValue?
  exceptions : Option.Rel
    (fun attr classes => ∃ name, attr = .plain name (.exceptions classes))
    (attributes.find? "Exceptions" pool) attributes.exceptions?
  signature : Option.Rel
    (fun attr text => ∃ name, attr = .plain name (.signature text))
    (attributes.find? "Signature" pool) attributes.signature?
  synthetic : attributes.isSynthetic = true ↔
    ∃ attr, attributes.find? "Synthetic" pool = some attr
  deprecated : attributes.isDeprecated = true ↔
    ∃ attr, attributes.find? "Deprecated" pool = some attr
  others : ∀ text : String,
    (∀ known ∈ AttributeName.sought, text ≠ known.text) →
    ∀ attr, attributes.find? text pool = some attr → attr.Unsought

theorem NamedIn.attribute (named : attributes.NamedIn pool) {attr : Attribute}
    (member : attr ∈ attributes) : attr.NamedIn pool :=
  named attr (.listed member)

theorem NamedIn.front {front : Attributes} (named : attributes.NamedIn pool)
    (begins : front <+: attributes) : front.NamedIn pool :=
  fun attr occurs =>
    named attr (occurs.mono fun _ member => begins.subset member)

section Named

variable (named : attributes.NamedIn pool)
include named

/--
A kind is found by its name if it is found by a view of what attributes of the
kind hold.
-/
theorem rel_find?_findSome? {α : Type} {Held : Attribute → α → Prop}
    {view : Attribute → Option α} (known : AttributeName)
    (held : ∀ attr : Attribute,
      Option.Rel Held (Option.guard (fun attr => attr.known? = some known) attr)
        (view attr)) :
    Option.Rel Held (attributes.find? known.text pool)
      (attributes.findSome? view) := by
  rw [find?, ← List.findSome?_guard]
  apply rel_findSome?
  intro attr member
  rw [Option.guard, (named.attribute member).isNamed_text]
  exact held attr

/-- A mark is there if it is found by its name. -/
theorem any_iff_find? {marks : Attribute → Bool} (known : AttributeName)
    (marked : ∀ attr : Attribute,
      marks attr = decide (attr.known? = some known)) :
    attributes.any marks = true ↔
      ∃ attr, attributes.find? known.text pool = some attr := by
  rw [← Option.isSome_iff_exists, find?, List.find?_isSome, List.any_eq_true]
  apply exists_congr
  intro attr
  apply and_congr_right
  intro member
  rw [(named.attribute member).isNamed_text, marked]

/-- Both ways to look attributes up agree if the names go with what is held. -/
theorem lookUpsAgree_of_namedIn : attributes.LookUpsAgree pool where
  code := by
    refine rel_find?_findSome? named .code fun attr => ?_
    cases attr with
    | code name body nested => exact .some ⟨name, rfl⟩
    | plain name content => cases content <;> exact .none
  constantValue := by
    refine rel_find?_findSome? named .constantValue fun attr => ?_
    cases attr with
    | code name body nested => exact .none
    | plain name content =>
        cases content with
        | constantValue value => exact .some ⟨name, rfl⟩
        | _ => exact .none
  exceptions := by
    refine rel_find?_findSome? named .exceptions fun attr => ?_
    cases attr with
    | code name body nested => exact .none
    | plain name content =>
        cases content with
        | exceptions classes => exact .some ⟨name, rfl⟩
        | _ => exact .none
  signature := by
    refine rel_find?_findSome? named .signature fun attr => ?_
    cases attr with
    | code name body nested => exact .none
    | plain name content =>
        cases content with
        | signature text => exact .some ⟨name, rfl⟩
        | _ => exact .none
  synthetic := by
    refine any_iff_find? named .synthetic fun attr => ?_
    cases attr with
    | plain name content => cases content <;> rfl
    | code name body nested => rfl
  deprecated := by
    refine any_iff_find? named .deprecated fun attr => ?_
    cases attr with
    | plain name content => cases content <;> rfl
    | code name body nested => rfl
  others := by
    intro text other attr found
    have asked := List.find?_some found
    have called :=
      (named.attribute (List.mem_of_find?_eq_some found)).mayBeCalled asked
    apply Attribute.unsought_of_known?
    intro known among kind
    rw [Attribute.MayBeCalled, kind] at called
    exact other known among called

end Named

end Attributes

/-! ## Classes which were read -/

namespace CompiledClass

/--
The lists of attributes in a class: its own, those of its members, and those
inside of code among them.
-/
inductive HasAttributes (class_ : CompiledClass) : Attributes → Prop where
  | ofClass : HasAttributes class_ class_.attributes
  | ofField {field : Field} (member : field ∈ class_.fields) :
      HasAttributes class_ field.attributes
  | ofMethod {method : Method} (member : method ∈ class_.methods) :
      HasAttributes class_ method.attributes
  | ofCode {attributes nested : Attributes} {name : UInt16} {body : Code}
      (listed : HasAttributes class_ attributes)
      (member : .code name body nested ∈ attributes) :
      HasAttributes class_ nested

variable {class_ : CompiledClass} {attributes : Attributes}

/-- What is in one of the lists, at any depth, is held by the class. -/
theorem HasAttributes.holds (listed : class_.HasAttributes attributes)
    {attr : Attribute} (occurs : attr.Occurs attributes) :
    class_.Holds attr := by
  induction listed with
  | ofClass => exact .inl occurs
  | ofField member => exact .inr (.inl ⟨_, member, occurs⟩)
  | ofMethod member => exact .inr (.inr ⟨_, member, occurs⟩)
  | ofCode listed member hypothesis => exact hypothesis (.inside member occurs)

/--
In a well-formed class both ways to look attributes up agree, wherever the
attributes are.
-/
theorem WellFormed.lookUpsAgree (wellFormed : class_.WellFormed)
    (listed : class_.HasAttributes attributes) {front : Attributes}
    (begins : front <+: attributes) :
    front.LookUpsAgree class_.pool := by
  have named : attributes.NamedIn class_.pool :=
    fun attr occurs => wellFormed.namedIn (listed.holds occurs)
  exact Attributes.lookUpsAgree_of_namedIn (named.front begins)

/--
In a class which was parsed, every list of attributes can be looked up by name
or by what is held, and both ways agree.  They agree in every front of the list,
so both stop at the same attribute, the first one of its kind.
-/
theorem lookUps_agree {bytes : List UInt8} (parsed : parse bytes = .ok class_)
    (listed : class_.HasAttributes attributes) :
    ∀ front, front <+: attributes →
      Attributes.LookUpsAgree front class_.pool := by
  intro front begins
  rcases parse_eq_ok_iff.1 parsed with ⟨rest, read⟩
  exact (spans_decode read).2.lookUpsAgree listed begins

/--
The sample with two signatures inside of code, of which the first one is spelled
unusually.
-/
def homonyms : CompiledClass := {
  sample with
  pool := {
    entries := #[
      .utf8 ⟨[65]⟩, .classRef 1, .utf8 ⟨[67, 111, 100, 101]⟩,
      .utf8 ⟨[0xc1, 0x93, 105, 103, 110, 97, 116, 117, 114, 101]⟩,
      .utf8 ⟨[83, 105, 103, 110, 97, 116, 117, 114, 101]⟩, .utf8 ⟨[40, 41, 86]⟩]
    slots := #[some 0, some 1, some 2, some 3, some 4, some 5]
    slots_eq := rfl
    width_le := by decide }
  methods := sample.methods.map fun method => {
    method with
    attributes := [
      .code 3
        { maxStack := 0, maxLocals := 1, instructions := [177], handlers := [] }
        [.plain 4 (.signature 1), .plain 5 (.signature 6)]] } }

/-- The class file of the class. -/
def homonymsBytes : List UInt8 :=
  [202, 254, 186, 190, 0, 0, 0, 49, 0, 7, 1, 0, 1, 65, 7, 0, 1, 1, 0, 4, 67,
    111, 100, 101, 1, 0, 10, 193, 147, 105, 103, 110, 97, 116, 117, 114, 101, 1,
    0, 9, 83, 105, 103, 110, 97, 116, 117, 114, 101, 1, 0, 3, 40, 41, 86, 128,
    32, 0, 2, 0, 0, 0, 0, 0, 0, 0, 1, 128, 1, 0, 1, 0, 6, 0, 1, 0, 3, 0, 0, 0,
    29, 0, 0, 0, 1, 0, 0, 0, 1, 177, 0, 0, 0, 2, 0, 4, 0, 0, 0, 2, 0, 1, 0, 5,
    0, 0, 0, 2, 0, 6, 0, 0]

/--
The first of two signatures is found in both ways, though the other one is
spelled as usual.
-/
theorem lookUps_agree_sample :
    let signed : Attributes :=
      [.plain 4 (.signature 1), .plain 5 (.signature 6)]
    parse homonymsBytes = .ok homonyms ∧ homonyms.HasAttributes signed ∧
      signed.signature? = some 1 ∧
        (∃ name,
          signed.find? "Signature" homonyms.pool =
            some (.plain name (.signature 1))) ∧
      ∀ front, front <+: signed →
        Attributes.LookUpsAgree front homonyms.pool := by
  intro signed
  have parsed : parse homonymsBytes = .ok homonyms := by decide +kernel
  have listed : homonyms.HasAttributes signed :=
    .ofCode (.ofMethod (List.mem_map_of_mem List.mem_cons_self))
      List.mem_cons_self
  have first : signed.signature? = some 1 := rfl
  have agree := lookUps_agree parsed listed
  refine ⟨parsed, listed, first, ?_, agree⟩
  have both := (agree signed List.prefix_rfl).signature
  rw [first] at both
  generalize signed.find? "Signature" homonyms.pool = found at both
  cases both with
  | some held => exact held.imp fun name same => congrArg some same

end CompiledClass

end ClassFormat
