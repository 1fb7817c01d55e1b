import ClassFormat.Proofs.CompiledClass.VersionChange

/-!
# Changing the version in place

A class whose version is changed in place is taken apart step by step: the name
of an attribute is put into its pool, then the class itself, its fields and its
methods are lowered one after another, and the version is written at last.  A
step which fails leaves behind what the steps before it have done.

Only the first step can fail, and it changes nothing when it does.  So a change
of the version is done as a whole or not at all, and comes to the same as
computing the class which it results in.  It fails for one reason only: the name
of an attribute is needed, and the pool is full.
-/

namespace ClassFormat

/--
After changes in their places up to a bound, the members below it are changed,
and only these.
-/
theorem getElem?_foldl_modify {α : Type} (members : List α) (change : α → α)
    (bound place : Nat) :
    ((List.range bound).foldl
        (fun changed place => changed.modify place change) members)[place]? =
      if place < bound then members[place]?.map change
      else members[place]? := by
  induction bound with
  | zero => simp
  | succ bound hypothesis =>
      rw [List.range_succ, List.foldl_append, List.foldl_cons, List.foldl_nil,
        List.getElem?_modify, hypothesis]
      rcases Nat.lt_trichotomy place bound with before | here | after
      · rw [if_pos before, if_pos (Nat.lt_succ_of_lt before)]
        simp [Nat.ne_of_gt before]
      · subst here
        simp
      · have late : ¬place < bound + 1 := by omega
        rw [if_neg (Nat.lt_asymm after), if_neg late]
        simp [Nat.ne_of_lt after]

/--
Changing every member in its place, one after another, changes all of them.
-/
theorem foldl_modify_range {α : Type} (members : List α) (change : α → α) :
    (List.range members.length).foldl
      (fun changed place => changed.modify place change) members =
      members.map change := by
  apply List.ext_getElem?
  intro place
  rw [getElem?_foldl_modify, List.getElem?_map]
  split
  · rfl
  · next beyond => simp [List.getElem?_eq_none (Nat.le_of_not_lt beyond)]

namespace CompiledClass

/-! ## The steps -/

/--
A change of a class in place.  It may stop with a fault at every step, and
leaves behind what the steps before have made of the class.
-/
abbrev InPlace := EStateM FormatFault CompiledClass

namespace InPlace

/--
Append a constant to the pool of the class and give its index, if there is room
for it.
-/
def addConstant (constant : Constant) : InPlace UInt16 := do
  let class_ ← get
  if fits : class_.pool.Fits constant then
    set { class_ with pool := class_.pool.push constant fits }
    return class_.pool.nextIndex
  else
    throw (class_.pool.noRoom constant)

/--
The index of a text in the pool of the class, to which it is added if it is
missing.
-/
def internText (text : String) : InPlace UInt16 := do
  let class_ ← get
  match class_.pool.findText? text with
  | some index => return index
  | none => addConstant (.utf8 (.ofText text))

/--
Make the mark which is needed, if one is.  Its name is put into the pool of the
class.
-/
def makeMark : InPlace (Option Attribute) := do
  let class_ ← get
  if class_.hasSyntheticFlags then
    let name ← internText AttributeName.synthetic.text
    return some (.plain name .synthetic)
  else
    return none

/-- Lower the class, but none of its members. -/
def lowerClass (mark : Option Attribute) : InPlace Unit :=
  modify fun class_ => { class_ with
    flags :=
      (class_.flags.remove (.insert .annotationClass .enumClass)).remove
        .synthetic
    attributes :=
      marked class_.attributes mark (class_.flags.contains .synthetic) }

/-- Lower the fields of the class, one after another. -/
def lowerFields (mark : Option Attribute) : InPlace Unit := do
  let class_ ← get
  (List.range class_.fields.length).forM fun place =>
    modify (·.modifyField place (downgradeField mark))

/-- Lower the methods of the class, one after another. -/
def lowerMethods (mark : Option Attribute) : InPlace Unit := do
  let class_ ← get
  (List.range class_.methods.length).forM fun place =>
    modify (·.modifyMethod place (downgradeMethod mark))

/-- Take the class below Java 5. -/
def lower : InPlace Unit := do
  let mark ← makeMark
  lowerClass mark
  lowerFields mark
  lowerMethods mark

/-- Give the class another version. -/
def changeVersion (asked : Version) : InPlace Unit := do
  let class_ ← get
  if CrossesDown class_.version asked then lower
  modify (·.atVersion asked)

/-! ## What the steps come to -/

/--
How a change ends which is done as a whole, with what was computed for it, or
not at all.
-/
def allOrNothing (class_ : CompiledClass) :
    Except FormatFault CompiledClass →
      EStateM.Result FormatFault CompiledClass Unit
  | .ok after => .ok () after
  | .error fault => .error fault class_

variable {class_ : CompiledClass}

theorem allOrNothing_eq_ok_iff
    {computed : Except FormatFault CompiledClass} {after : CompiledClass} :
    allOrNothing class_ computed = .ok () after ↔ computed = .ok after := by
  cases computed <;> simp [allOrNothing]

theorem allOrNothing_eq_error_iff
    {computed : Except FormatFault CompiledClass} {fault : FormatFault}
    {after : CompiledClass} :
    allOrNothing class_ computed = .error fault after ↔
      computed = .error fault ∧ after = class_ := by
  cases computed <;> simp [allOrNothing, eq_comm]

theorem run_forM_modify (change : Nat → CompiledClass → CompiledClass)
    (places : List Nat) (class_ : CompiledClass) :
    EStateM.run
      (places.forM fun place => (modify (change place) : InPlace Unit)) class_ =
      .ok ()
        (places.foldl (fun changed place => change place changed) class_) := by
  induction places generalizing class_ with
  | nil => rfl
  | cons place others hypothesis => exact hypothesis (change place class_)

theorem foldl_modifyField (change : Field → Field) (places : List Nat)
    (class_ : CompiledClass) :
    places.foldl
        (fun changed place => changed.modifyField place change) class_ =
      { class_ with
        fields :=
          places.foldl (fun changed place => changed.modify place change)
            class_.fields } := by
  induction places generalizing class_ with
  | nil => rfl
  | cons place others hypothesis =>
      exact hypothesis (class_.modifyField place change)

theorem foldl_modifyMethod (change : Method → Method) (places : List Nat)
    (class_ : CompiledClass) :
    places.foldl
        (fun changed place => changed.modifyMethod place change) class_ =
      { class_ with
        methods :=
          places.foldl (fun changed place => changed.modify place change)
            class_.methods } := by
  induction places generalizing class_ with
  | nil => rfl
  | cons place others hypothesis =>
      exact hypothesis (class_.modifyMethod place change)

theorem run_lowerFields (mark : Option Attribute) (class_ : CompiledClass) :
    (lowerFields mark).run class_ =
      .ok () { class_ with
        fields := class_.fields.map (downgradeField mark) } := by
  show EStateM.run (List.forM _ _) class_ = _
  rw [run_forM_modify, foldl_modifyField, foldl_modify_range]

theorem run_lowerMethods (mark : Option Attribute) (class_ : CompiledClass) :
    (lowerMethods mark).run class_ =
      .ok () { class_ with
        methods := class_.methods.map (downgradeMethod mark) } := by
  show EStateM.run (List.forM _ _) class_ = _
  rw [run_forM_modify, foldl_modifyMethod, foldl_modify_range]

/--
With a mark at hand nothing fails, and the class and its members lose the flags
of Java 5.
-/
theorem run_lowerMembers (mark : Option Attribute) (class_ : CompiledClass) :
    EStateM.run
        (do lowerClass mark; lowerFields mark; lowerMethods mark) class_ =
      .ok () (class_.withoutJava5Flags mark) := by
  simp only [EStateM.run_bind, lowerClass, EStateM.run_modify, run_lowerFields,
    run_lowerMethods]
  rfl

/-- How a step on the pool ends, with what was computed from the pool. -/
def onPool {α : Type} (class_ : CompiledClass) :
    Except FormatFault (α × Pool) → EStateM.Result FormatFault CompiledClass α
  | .ok (result, pool) => .ok result { class_ with pool }
  | .error fault => .error fault class_

theorem run_addConstant (constant : Constant) (class_ : CompiledClass) :
    (addConstant constant).run class_ =
      onPool class_ (class_.pool.add constant) := by
  simp only [addConstant, EStateM.run_bind, EStateM.run_get, Pool.add]
  split <;> rfl

theorem run_internText (text : String) (class_ : CompiledClass) :
    (internText text).run class_ = onPool class_ (class_.pool.intern text) := by
  simp only [internText, EStateM.run_bind, EStateM.run_get, Pool.intern]
  cases class_.pool.findText? text with
  | some index => rfl
  | none => exact run_addConstant (.utf8 (.ofText text)) class_

/--
Taking a class below Java 5 step by step is done as a whole or not at all.
-/
theorem run_lower (class_ : CompiledClass) :
    lower.run class_ = allOrNothing class_ class_.downgrade := by
  simp only [lower, makeMark, EStateM.run_bind, EStateM.run_get, downgrade]
  cases class_.hasSyntheticFlags with
  | false => exact run_lowerMembers none class_
  | true =>
      simp only [if_true, EStateM.run_bind, run_internText, Pool.syntheticMark]
      cases class_.pool.intern AttributeName.synthetic.text with
      | error fault => rfl
      | ok interned =>
          let mark : Attribute := .plain interned.1 .synthetic
          exact run_lowerMembers (some mark) { class_ with pool := interned.2 }

/-- Changing the version step by step is done as a whole or not at all. -/
theorem run_changeVersion (class_ : CompiledClass) (asked : Version) :
    (changeVersion asked).run class_ =
      allOrNothing class_ (class_.setVersion asked.major asked.minor) := by
  rw [setVersion_eq, changeVersion, EStateM.run_bind, EStateM.run_get]
  by_cases crosses : CrossesDown class_.version asked
  · simp only [if_pos crosses, EStateM.run_bind, run_lower]
    cases class_.downgrade <;> rfl
  · simp only [if_neg crosses]
    rfl

end InPlace

/-! ## When a change of the version fails -/

/--
A change of the version which cannot be made: it takes the class below Java 5,
the name of an attribute is needed and missing, and every index of the pool is
taken.
-/
structure Stuck (class_ : CompiledClass) (asked : Version) : Prop where
  recent : 49 ≤ class_.major
  older : asked.major < 49
  needsName : class_.NeedsName
  full : class_.pool.width = 65534

theorem downgrade_eq_error_iff {class_ : CompiledClass} {fault : FormatFault} :
    class_.downgrade = .error fault ↔
      class_.NeedsName ∧ class_.pool.width = 65534 ∧
        fault = .tooLarge ⟨.pool, 65536⟩ := by
  rw [NeedsName, ← hasSyntheticFlags_iff, and_assoc, syntheticName,
    ← Pool.intern_eq_error_iff, downgrade]
  cases class_.hasSyntheticFlags with
  | false => simp
  | true =>
      simp only [if_true, true_and]
      show (class_.pool.syntheticMark >>= _) = _ ↔ _
      rw [Pool.syntheticMark]
      cases class_.pool.intern AttributeName.synthetic.text with
      | error refusal =>
          show Except.error refusal = Except.error fault ↔ _
          rw [Except.error.injEq, Except.error.injEq]
      | ok interned =>
          show Except.ok _ = Except.error fault ↔
            Except.ok interned = Except.error fault
          simp

theorem setVersion_eq_error_iff
    {class_ : CompiledClass} {asked : Version} {fault : FormatFault} :
    class_.setVersion asked.major asked.minor = .error fault ↔
      class_.Stuck asked ∧ fault = .tooLarge ⟨.pool, 65536⟩ := by
  rw [setVersion_eq]
  by_cases crosses : CrossesDown class_.version asked
  · rw [if_pos crosses]
    have same : class_.downgrade.map (·.atVersion asked) = .error fault ↔
        class_.downgrade = .error fault := by
      cases class_.downgrade <;> simp [Except.map]
    rw [same, downgrade_eq_error_iff]
    constructor
    · rintro ⟨needsName, full, reason⟩
      exact ⟨⟨crosses.1, crosses.2, needsName, full⟩, reason⟩
    · rintro ⟨stuck, reason⟩
      exact ⟨stuck.needsName, stuck.full, reason⟩
  · rw [if_neg crosses]
    constructor
    · nofun
    · rintro ⟨stuck, -⟩
      exact absurd ⟨stuck.recent, stuck.older⟩ crosses

/--
A change of the version fails in one situation only, with one fault, and has
then changed nothing of the class; in every other situation it succeeds.  Made
step by step it ends like the computed one.
-/
theorem changeVersion_fails_iff (class_ : CompiledClass) (asked : Version) :
    (∀ fault, class_.setVersion asked.major asked.minor = .error fault ↔
      class_.Stuck asked ∧ fault = .tooLarge ⟨.pool, 65536⟩) ∧
    (∀ fault after,
      (InPlace.changeVersion asked).run class_ = .error fault after ↔
        class_.Stuck asked ∧ fault = .tooLarge ⟨.pool, 65536⟩ ∧
          after = class_) ∧
    ∀ after, (InPlace.changeVersion asked).run class_ = .ok () after ↔
      class_.setVersion asked.major asked.minor = .ok after := by
  refine ⟨fun fault => setVersion_eq_error_iff, fun fault after => ?_,
    fun after => ?_⟩
  · rw [InPlace.run_changeVersion, InPlace.allOrNothing_eq_error_iff,
      setVersion_eq_error_iff, and_assoc]
  · rw [InPlace.run_changeVersion, InPlace.allOrNothing_eq_ok_iff]

theorem layout_replicate_integer (position count : Nat) (bits : UInt32) :
    layout position (List.replicate count (.integer bits)) =
      (List.range' position count).map some := by
  induction count generalizing position with
  | zero => rfl
  | succ count hypothesis =>
      rw [List.replicate_succ, layout, hypothesis, List.range'_succ,
        List.map_cons]
      rfl

/-- A pool in which every index names a number. -/
def fullPool : Pool where
  entries := Array.replicate maxWidth (.integer 0)
  slots := (Array.range maxWidth).map some
  slots_eq := by
    rw [Array.toList_replicate, layout_replicate_integer, Array.toList_map,
      Array.toList_range, List.range_eq_range']
  width_le := by simp

/--
The class has the synthetic flag, and its pool has no room for the name of the
attribute.
-/
theorem changeVersion_fails_iff_sample :
    let class_ := { sample with pool := fullPool, flags := ⟨0x9020⟩ }
    class_.Stuck ⟨48, 0⟩ ∧
      (InPlace.changeVersion ⟨48, 0⟩).run class_ =
        .error (.tooLarge ⟨.pool, 65536⟩) class_ := by
  intro class_
  have unnamed : syntheticName ∉ class_.pool.entries.toList := by
    rw [show class_.pool.entries.toList =
      List.replicate maxWidth (.integer 0) from Array.toList_replicate,
      List.mem_replicate]
    rintro ⟨-, same⟩
    cases same
  have full : class_.pool.width = 65534 := by
    rw [show class_.pool.width =
      ((Array.range maxWidth).map some).size from rfl,
      Array.size_map, Array.size_range, maxWidth]
  have stuck : class_.Stuck ⟨48, 0⟩ := {
    recent := by decide
    older := by decide
    needsName := ⟨.inl (by decide), unnamed⟩
    full }
  exact ⟨stuck,
    ((changeVersion_fails_iff class_ ⟨48, 0⟩).2.1 _ class_).2 ⟨stuck, rfl, rfl⟩⟩

end CompiledClass

end ClassFormat
