import ClassFormat.Proofs.CompiledClass.EditRuns

/-!
# Renamings which fail

A renaming changes the pool before its last step, so one which fails might leave
something behind.  In a class which was parsed and edited the last step of a
renaming finds its constant and cannot fail: what can fail is the first step,
which then changes nothing.

To give a class a superclass where there was none takes two additions to the
pool, and the second one may find no index left.  Then the name stays in the
pool if it was lacking.  This happens in one situation only, which is described
here; and even there no index which led anywhere leads anywhere else.
-/

namespace ClassFormat

/-- The constant of a class can be given any name. -/
theorem Pool.exists_setClassRef {pool : Pool} {index old : UInt16}
    (found : pool.get? index = some (.classRef old)) (name : UInt16) :
    ∃ after, pool.setClassRef index name = .ok after := by
  rw [setClassRef]
  split
  · exact ⟨_, rfl⟩
  · next other => exact absurd found (other old)

/--
Behind a text which was lacking there is one index less, and otherwise there are
as many.
-/
theorem Pool.width_of_intern {pool after : Pool} {text : String}
    {index : UInt16} (interned : pool.intern text = .ok (index, after)) :
    after.width = pool.width + (pool.lacking text).length := by
  rw [width_eq_totalWidth, extended_of_intern interned, totalWidth_append,
    totalWidth_lacking, ← width_eq_totalWidth]

namespace CompiledClass

variable {class_ after : CompiledClass} {written : WrittenType}
  {fault : FormatFault}

/-! ## Where a step fails -/

theorem renameConstant_of_namesClass {index : UInt16}
    (names : class_.pool.NamesClass index) (name : UInt16) :
    ∃ renamed, class_.renameConstant index name = ⟨.ok (), renamed⟩ := by
  rcases names with ⟨old, text, found, -⟩
  rcases Pool.exists_setClassRef found name with ⟨pool, renamed⟩
  exact ⟨_, renameConstant_eq_ok_iff.2 ⟨pool, renamed, rfl⟩⟩

theorem addSuper_eq_error_iff {name : UInt16} :
    class_.addSuper name = ⟨.error fault, after⟩ ↔
      ¬class_.pool.Fits (.classRef name) ∧
        fault = class_.pool.noRoom (.classRef name) ∧
        after = class_ := by
  rw [← and_assoc, ← Pool.add_eq_error_iff, addSuper]
  cases class_.pool.add (.classRef name) with
  | ok given => simp
  | error refusal => simp [eq_comm]

/--
The classes which had names have them after the path of a type was interned.
-/
theorem namesClass_of_internPath {name index : UInt16} {named : CompiledClass}
    (interned : class_.internPath written = .ok (name, named))
    (names : class_.pool.NamesClass index) : named.pool.NamesClass index := by
  rcases internPath_eq_ok_iff.1 interned with ⟨path, pool, -, added, rfl⟩
  exact (Pool.Keeps.of_intern added).classes names

/--
Renaming the class fails only where its path cannot be interned, and then
changes nothing.
-/
theorem rename_eq_error_iff (names : class_.pool.NamesClass class_.thisClass) :
    class_.rename written = ⟨.error fault, after⟩ ↔
      class_.internPath written = .error fault ∧ after = class_ := by
  rw [rename]
  cases interned : class_.internPath written with
  | error refusal => simp [eq_comm]
  | ok given =>
      rcases given with ⟨name, named⟩
      have same : named.thisClass = class_.thisClass := by
        rw [eq_of_internPath interned]
      rcases renameConstant_of_namesClass
        (namesClass_of_internPath interned names) name with ⟨renamed, done⟩
      simp [same, done]

/--
Setting the superclass fails where the path cannot be interned, and then changes
nothing.  Otherwise it fails only where there was no superclass and no index is
left for one, and then the path is interned.
-/
theorem setSuper_eq_error_iff
    (names : class_.superClass = 0 ∨ class_.pool.NamesClass class_.superClass) :
    class_.setSuper (some written) = ⟨.error fault, after⟩ ↔
      (class_.internPath written = .error fault ∧ after = class_) ∨
        ∃ name, class_.internPath written = .ok (name, after) ∧
          class_.superClass = 0 ∧
          ¬after.pool.Fits (.classRef name) ∧
            fault = after.pool.noRoom (.classRef name) := by
  simp only [setSuper]
  cases interned : class_.internPath written with
  | error refusal => simp [eq_comm]
  | ok given =>
      rcases given with ⟨name, named⟩
      have same : named.superClass = class_.superClass := by
        rw [eq_of_internPath interned]
      by_cases absent : class_.superClass = 0
      · simp only [same, absent, ↓reduceIte, addSuper_eq_error_iff]
        constructor
        · rintro ⟨full, reason, rfl⟩
          exact Or.inr ⟨name, rfl, trivial, full, reason⟩
        · rintro (⟨⟨⟩, -⟩ | ⟨index, found, -, full, reason⟩)
          cases found
          exact ⟨full, reason, rfl⟩
      · have present :=
          namesClass_of_internPath interned (names.resolve_left absent)
        rcases renameConstant_of_namesClass present name with ⟨renamed, done⟩
        simp [same, absent, done]

/-! ## What is left behind -/

/--
A class which cannot be given a superclass with the given path, but whose pool
has room for the path: there is no superclass, one index is left, and no entry
holds the path.
-/
structure LeavesPath (class_ : CompiledClass) (path : String) : Prop where
  noSuper : class_.superClass = 0
  oneLeft : class_.pool.width = 65533
  lacking : .utf8 (.ofText path) ∉ class_.pool.entries.toList

/--
Where the class finds no index left, its path was either there or has taken the
last one.
-/
theorem leavesPath_or_eq_of_internPath {name : UInt16}
    (absent : class_.superClass = 0)
    (interned : class_.internPath written = .ok (name, after))
    (full : ¬after.pool.Fits (.classRef name)) :
    ∃ path, written.toPath = .ok path ∧
      ((class_.LeavesPath path ∧
          after.pool.entries.toList =
            class_.pool.entries.toList ++ [.utf8 (.ofText path)]) ∨
        (.utf8 (.ofText path) ∈ class_.pool.entries.toList ∧
          after.pool = class_.pool)) := by
  rcases internPath_eq_ok_iff.1 interned with ⟨path, pool, spelled, added, rfl⟩
  refine ⟨path, spelled, ?_⟩
  by_cases present : .utf8 (.ofText path) ∈ class_.pool.entries.toList
  · exact Or.inr ⟨present, (Pool.entries_of_intern added).2 present⟩
  · have width : pool.width = class_.pool.width + 1 := by
      rw [Pool.width_of_intern added, Pool.lacking, if_neg present]
      rfl
    have exhausted : ¬pool.width + 1 ≤ 65534 := full
    have bound : pool.width ≤ 65534 := pool.width_le
    exact Or.inl
      ⟨⟨absent, by omega, present⟩, (Pool.entries_of_intern added).1 present⟩

/--
The path which takes the last index can be interned, and the pool is full then.
-/
theorem exists_intern_of_leavesPath {path : String}
    (leaves : class_.LeavesPath path) :
    ∃ name pool, class_.pool.intern path = .ok (name, pool) ∧
      pool.width = 65534 := by
  cases added : class_.pool.intern path with
  | error refusal =>
      rcases Pool.intern_eq_error_iff.1 added with ⟨-, full, -⟩
      rw [leaves.oneLeft] at full
      cases full
  | ok given =>
      refine ⟨given.1, given.2, rfl, ?_⟩
      rw [Pool.width_of_intern added, Pool.lacking, if_neg leaves.lacking,
        leaves.oneLeft]
      rfl

/-- Where the path takes the last index, the class fails to get a superclass. -/
theorem setSuper_of_leavesPath {path : String}
    (spelled : written.toPath = .ok path) (leaves : class_.LeavesPath path) :
    ∃ left, class_.setSuper (some written) =
      ⟨.error (.tooLarge ⟨.pool, 65536⟩), left⟩ := by
  rcases exists_intern_of_leavesPath leaves with ⟨name, pool, added, width⟩
  have full : ¬pool.Fits (.classRef name) := by
    show ¬pool.width + 1 ≤ 65534
    omega
  have reason : FormatFault.tooLarge ⟨.pool, 65536⟩ =
      pool.noRoom (.classRef name) := by
    rw [Pool.noRoom, width]
    rfl
  have interned : class_.internPath written =
      .ok (name, { class_ with pool }) :=
    internPath_eq_ok_iff.2 ⟨path, pool, spelled, added, rfl⟩
  exact ⟨_, (setSuper_eq_error_iff (Or.inl leaves.noSuper)).2
    (Or.inr ⟨name, interned, leaves.noSuper, full, reason⟩)⟩

/-- No index leads anywhere else after the path of a type was interned. -/
theorem get?_of_internPath {name index : UInt16}
    (interned : class_.internPath written = .ok (name, after))
    (inside : index.toNat ≤ class_.pool.width) :
    after.pool.get? index = class_.pool.get? index := by
  rcases internPath_eq_ok_iff.1 interned with ⟨path, pool, -, added, rfl⟩
  exact Pool.get?_of_extended (Pool.extended_of_intern added) inside

/--
What it means that a class could not be given a superclass and is left as
another one.  Nothing but the pool may differ, and no index leads anywhere else.
Even the pool is the same but for one situation, in which the path has been
appended to it.
-/
structure SuperRefused (class_ : CompiledClass) (written : WrittenType)
    (after : CompiledClass) :
    Prop where
  others : after = { class_ with pool := after.pool }
  indices : ∀ index, index.toNat ≤ class_.pool.width →
    after.pool.get? index = class_.pool.get? index
  unchanged : (∀ path, written.toPath = .ok path → ¬class_.LeavesPath path) →
    after.pool = class_.pool
  appended : ∀ path, written.toPath = .ok path → class_.LeavesPath path →
    after.pool.entries.toList =
      class_.pool.entries.toList ++ [.utf8 (.ofText path)]

theorem superRefused_of_setSuper
    (names : class_.superClass = 0 ∨ class_.pool.NamesClass class_.superClass)
    (failed : class_.setSuper (some written) = ⟨.error fault, after⟩) :
    class_.SuperRefused written after := by
  rcases (setSuper_eq_error_iff names).1 failed with
    ⟨refused, rfl⟩ | ⟨name, interned, absent, full, -⟩
  · refine ⟨rfl, fun _ _ => rfl, fun _ => rfl, ?_⟩
    intro path spelled leaves
    rcases exists_intern_of_leavesPath leaves with ⟨name, pool, added, -⟩
    have granted := internPath_eq_ok_iff.2 ⟨path, pool, spelled, added, rfl⟩
    cases granted.symm.trans refused
  · have indices : ∀ index : UInt16, index.toNat ≤ class_.pool.width →
        after.pool.get? index = class_.pool.get? index :=
          fun _ => get?_of_internPath interned
    rcases leavesPath_or_eq_of_internPath absent interned full with
      ⟨path, spelled, ⟨leaves, extended⟩ | ⟨present, same⟩⟩
    · refine ⟨eq_of_internPath interned, indices,
        fun never => absurd leaves (never path spelled), ?_⟩
      intro other spelledOther _
      cases spelled.symm.trans spelledOther
      exact extended
    · refine ⟨eq_of_internPath interned, indices, fun _ => same, ?_⟩
      intro other spelledOther leaves
      cases spelled.symm.trans spelledOther
      exact absurd present leaves.lacking

/--
In a class which was parsed and then edited, a renaming which fails leaves the
class as it was, and so does setting the superclass, but for a path which may
have been appended to the pool.  It is appended in one situation only, and there
setting the superclass does fail.
-/
theorem failed_renaming_keeps_references
    {bytes : List UInt8} {class_ : CompiledClass} {edits : List Edit}
    (parsed : parse bytes = .ok class_)
    (admissible : Edit.AllAdmissible class_ edits)
    (written : WrittenType) :
    let reached := Edit.performAll class_ edits
    (∀ fault after, reached.rename written = ⟨.error fault, after⟩ →
      after = reached) ∧
      (∀ fault after, reached.setSuper (some written) = ⟨.error fault, after⟩ →
        reached.SuperRefused written after) ∧
        ∀ path, written.toPath = .ok path → reached.LeavesPath path →
          ∃ after, reached.setSuper (some written) =
            ⟨.error (.tooLarge ⟨.pool, 65536⟩), after⟩ := by
  intro reached
  rcases parse_eq_ok_iff.1 parsed with ⟨rest, read⟩
  have wellFormed : reached.WellFormed :=
    (spans_decode read).2.performAll admissible
  refine ⟨?_, ?_, ?_⟩
  · intro fault after failed
    exact ((rename_eq_error_iff wellFormed.name).1 failed).2
  · intro fault after failed
    exact superRefused_of_setSuper wellFormed.superClass failed
  · intro path spelled leaves
    exact setSuper_of_leavesPath spelled leaves

/-! ## A class with one index left -/

/-- Adding one number again and again, as long as there are indices for it. -/
theorem performAll_addNumbers (class_ : CompiledClass) (count : Nat)
    (bits : UInt32) (room : class_.pool.width + count ≤ 65534) :
    ∃ pool,
      Edit.performAll class_
        (List.replicate count (.addConstant (.integer bits))) =
        { class_ with pool } ∧
      pool.entries.toList =
        class_.pool.entries.toList ++ List.replicate count (.integer bits) ∧
        pool.width = class_.pool.width + count := by
  induction count generalizing class_ with
  | zero => exact ⟨class_.pool, rfl, (List.append_nil _).symm, rfl⟩
  | succ count hypothesis =>
      have fits : class_.pool.Fits (.integer bits) := by
        show class_.pool.width + 1 ≤ 65534
        omega
      let extended := class_.pool.push (.integer bits) fits
      have width : extended.width = class_.pool.width + 1 :=
        Pool.width_push _ _ fits
      have added : (Edit.addConstant (.integer bits)).perform class_ =
          ⟨.ok (), { class_ with pool := extended }⟩ := by
        simp only [Edit.perform, editPool,
          Pool.add_eq_ok_iff.2 ⟨fits, rfl, rfl⟩]
        rfl
      rcases hypothesis { class_ with pool := extended }
        (show extended.width + count ≤ 65534 by omega) with
          ⟨pool, performed, entries, total⟩
      refine ⟨pool, ?_, ?_, ?_⟩
      · rw [List.replicate_succ, Edit.performAll, added]
        exact performed
      · rw [entries, Pool.toList_entries_push, List.append_assoc]
        rfl
      · rw [total]
        show extended.width + count = _
        omega

theorem allAdmissible_addNumbers (class_ : CompiledClass) (count : Nat)
    (bits : UInt32) :
    Edit.AllAdmissible class_
      (List.replicate count (.addConstant (.integer bits))) := by
  induction count generalizing class_ with
  | zero => trivial
  | succ count hypothesis => exact ⟨trivial, hypothesis _⟩

/--
The sample is filled up to one index, which the path of the superclass takes.
-/
theorem failed_renaming_keeps_references_sample :
    let edits := List.replicate 65526 (Edit.addConstant (.integer 0))
    parse sampleBytes = .ok sample ∧ Edit.AllAdmissible sample edits ∧
      ∃ after,
        (Edit.performAll sample edits).setSuper (some (.path "p/B")) =
            ⟨.error (.tooLarge ⟨.pool, 65536⟩), after⟩ ∧
          after.superClass = 0 ∧
            after.pool.entries.toList =
              (Edit.performAll sample edits).pool.entries.toList ++
                [.utf8 (.ofText "p/B")] := by
  intro edits
  have parsed : parse sampleBytes = .ok sample := by decide +kernel
  have admissible : Edit.AllAdmissible sample edits :=
    allAdmissible_addNumbers sample 65526 0
  rcases performAll_addNumbers sample 65526 0 (by decide) with
    ⟨pool, performed, entries, width⟩
  have leaves : (Edit.performAll sample edits).LeavesPath "p/B" := by
    rw [performed]
    refine ⟨rfl, width, ?_⟩
    rw [entries, List.mem_append, List.mem_replicate, not_or]
    exact ⟨by decide +kernel, nofun⟩
  rcases failed_renaming_keeps_references parsed admissible (.path "p/B") with
    ⟨-, refusing, failing⟩
  rcases failing "p/B" rfl leaves with ⟨after, failed⟩
  have refused := refusing _ after failed
  refine ⟨parsed, admissible, after, failed, ?_,
    refused.appended "p/B" rfl leaves⟩
  rw [refused.others, performed]
  rfl

end CompiledClass

end ClassFormat
