import ClassFormat.Attribute.Basic
import ClassFormat.Proofs.Pool.Resolution

/-!
# Attributes and their names

What an attribute holds goes with its name: a content which is understood has
one name, and a content which is not understood has any name but the eight which
are.  A list of attributes is *named* in a pool if this is so for every
attribute in it, those inside of code included, however deep.

Names depend on the texts of a pool only, so they survive every edit which keeps
the texts.
-/

namespace ClassFormat

/-- The name which goes with a content, if the content is understood. -/
def Content.name? : Content → Option AttributeName
  | .constantValue _ => some .constantValue
  | .deprecated => some .deprecated
  | .exceptions _ => some .exceptions
  | .innerClasses _ => some .innerClasses
  | .localVariableTable _ => some .localVariableTable
  | .signature _ => some .signature
  | .synthetic => some .synthetic
  | .unknown _ => none

namespace AttributeName

theorem mem_all (name : AttributeName) : name ∈ all := by
  cases name <;> decide

theorem ofText?_eq_none_iff {text : String} :
    ofText? text = none ↔ ∀ name : AttributeName, text ≠ name.text := by
  simp only [ofText?, List.find?_eq_none, decide_eq_true_eq]
  constructor
  · intro unknown name same
    exact unknown name (mem_all name) same.symm
  · intro unknown name _ same
    exact unknown name same.symm

theorem ofText?_eq_some_iff {text : String} {name : AttributeName} :
    ofText? text = some name ↔ text = name.text := by
  constructor
  · intro found
    exact (text_of_ofText? found).symm
  · rintro rfl
    exact ofText?_text name

end AttributeName

namespace Attribute

/-- The name which goes with what an attribute holds, if that is understood. -/
def known? : Attribute → Option AttributeName
  | plain _ content => content.name?
  | code _ _ _ => some .code

/--
A text which may be the name of an attribute, given what the attribute holds.
-/
def MayBeCalled (attr : Attribute) (text : String) : Prop :=
  match attr.known? with
  | some name => text = name.text
  | none => ∀ name : AttributeName, text ≠ name.text

theorem mayBeCalled_iff {attr : Attribute} {text : String} :
    attr.MayBeCalled text ↔ AttributeName.ofText? text = attr.known? := by
  simp only [MayBeCalled]
  cases attr.known? with
  | none => exact AttributeName.ofText?_eq_none_iff.symm
  | some name => exact AttributeName.ofText?_eq_some_iff.symm

/--
An attribute whose index of a name leads to a text which goes with what the
attribute holds.
-/
def NamedIn (attr : Attribute) (pool : Pool) : Prop :=
  ∃ entry, pool.get? attr.nameIndex = some (.utf8 entry) ∧
    attr.MayBeCalled entry.text

/-- Names survive whatever keeps the texts of a pool. -/
theorem NamedIn.keep {attr : Attribute} {after before : Pool}
    (named : attr.NamedIn before) (keeps : after.Keeps before) :
    attr.NamedIn after := by
  rcases named with ⟨entry, found, called⟩
  exact ⟨entry, keeps.texts found, called⟩

/--
An attribute which is found in some attributes, or inside of code among them, at
any depth.
-/
inductive Occurs (attr : Attribute) : List Attribute → Prop where
  | listed {attributes : List Attribute} (member : attr ∈ attributes) :
      Occurs attr attributes
  | inside {attributes nested : List Attribute} {name : UInt16} {body : Code}
      (member : code name body nested ∈ attributes)
      (deeper : Occurs attr nested) :
      Occurs attr attributes

theorem Occurs.mono {attr : Attribute} {attributes others : List Attribute}
    (occurs : attr.Occurs attributes)
    (among : ∀ member ∈ attributes, member ∈ others) :
    attr.Occurs others := by
  cases occurs with
  | listed member => exact .listed (among attr member)
  | inside member deeper => exact .inside (among _ member) deeper

/--
What holds of all attributes at any depth is a matter of one attribute of a list
at a time.
-/
theorem forall_occurs_iff {property : Attribute → Prop}
    {attributes : List Attribute} :
    (∀ attr : Attribute, attr.Occurs attributes → property attr) ↔
      ∀ member ∈ attributes, ∀ attr : Attribute, attr.Occurs [member] →
        property attr := by
  constructor
  · intro all member among attr occurs
    apply all attr (occurs.mono _)
    intro only same
    rwa [List.mem_singleton.1 same]
  · intro all attr occurs
    cases occurs with
    | listed member => exact all attr member attr (.listed List.mem_cons_self)
    | inside member deeper =>
        exact all _ member attr (.inside List.mem_cons_self deeper)

theorem occurs_plain_iff {attr : Attribute} {name : UInt16}
    {content : Content} :
    attr.Occurs [plain name content] ↔ attr = plain name content := by
  constructor
  · intro occurs
    cases occurs with
    | listed member => exact List.mem_singleton.1 member
    | inside member deeper => cases List.mem_singleton.1 member
  · rintro rfl
    exact .listed List.mem_cons_self

theorem occurs_code_iff {attr : Attribute} {name : UInt16} {body : Code}
    {nested : Attributes} :
    attr.Occurs [code name body nested] ↔
      attr = code name body nested ∨ attr.Occurs nested := by
  constructor
  · intro occurs
    cases occurs with
    | listed member => exact Or.inl (List.mem_singleton.1 member)
    | inside member deeper =>
        cases List.mem_singleton.1 member
        exact Or.inr deeper
  · rintro (rfl | occurs)
    · exact .listed List.mem_cons_self
    · exact .inside List.mem_cons_self occurs

/--
Induction on attributes: what holds of code whenever it holds of the attributes
inside holds of every attribute.
-/
@[elab_as_elim, induction_eliminator]
theorem induction {motive : Attribute → Prop}
    (plain : ∀ name content, motive (.plain name content))
    (code : ∀ name body nested, (∀ attr ∈ nested, motive attr) →
      motive (.code name body nested)) :
    ∀ attr, motive attr
  | .plain name content => plain name content
  | .code name body nested =>
      code name body nested fun attr _ => induction plain code attr

end Attribute

namespace Attributes

/-- Attributes all of which are named in a pool, at any depth. -/
def NamedIn (attributes : Attributes) (pool : Pool) : Prop :=
  ∀ attr : Attribute, attr.Occurs attributes → attr.NamedIn pool

theorem NamedIn.keep {attributes : Attributes} {after before : Pool}
    (named : attributes.NamedIn before) (keeps : after.Keeps before) :
    attributes.NamedIn after :=
  fun attr occurs => (named attr occurs).keep keeps

/--
Attributes are named if each of them is, together with what is inside of it.
-/
theorem namedIn_iff_forall_mem {attributes : Attributes} {pool : Pool} :
    attributes.NamedIn pool ↔ ∀ attr ∈ attributes, NamedIn [attr] pool :=
  Attribute.forall_occurs_iff

theorem namedIn_append {first second : Attributes} {pool : Pool} :
    NamedIn (first ++ second) pool ↔
      first.NamedIn pool ∧ second.NamedIn pool := by
  rw [namedIn_iff_forall_mem, List.forall_mem_append, ← namedIn_iff_forall_mem,
    ← namedIn_iff_forall_mem]

theorem namedIn_plain {name : UInt16} {content : Content} {pool : Pool} :
    NamedIn [.plain name content] pool ↔
      (Attribute.plain name content).NamedIn pool := by
  simp only [NamedIn, Attribute.occurs_plain_iff, forall_eq]

theorem namedIn_code {name : UInt16} {body : Code} {nested : Attributes}
    {pool : Pool} :
    NamedIn [.code name body nested] pool ↔
      (Attribute.code name body nested).NamedIn pool ∧ nested.NamedIn pool := by
  simp only [NamedIn, Attribute.occurs_code_iff, forall_eq_or_imp]

end Attributes

end ClassFormat
