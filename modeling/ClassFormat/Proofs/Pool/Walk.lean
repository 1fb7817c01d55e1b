import ClassFormat.Proofs.Pool.InPlace

/-!
# Walking along a pool

The plain way to find the constant which an index names is to walk along the
constants and to count the indices which they take.  The table of slots has to
give the same answer, in every pool which came about by adding constants and
texts and by rewriting constants in place, whether or not all of that succeeded.

What an index was given for stays where it is.  The only thing that can happen
to it afterwards is that the indices inside of it are rewritten, and this module
says exactly when and to what.
-/

namespace ClassFormat

namespace Constant

/-- A class with another name; other constants stay as they are. -/
def withName (name : UInt16) : Constant → Constant
  | classRef _ => classRef name
  | other => other

/--
A pair with another name and descriptor; other constants stay as they are.
-/
def withNameAndType (name descriptor : UInt16) : Constant → Constant
  | nameAndType _ _ => nameAndType name descriptor
  | other => other

end Constant

namespace Pool

/-! ## The walk -/

/--
The constant whose first index is the given one, found by walking along some
constants of which the first one begins at the index `start`.
-/
def walk (start index : Nat) : List Constant → Option Constant
  | [] => none
  | constant :: others =>
    if index = start then
      some constant
    else
      walk (start + constant.width) index others

theorem walk_eq_some_iff
    {start index : Nat} {constants : List Constant} {found : Constant} :
    walk start index constants = some found ↔
      ∃ before after,
        constants = before ++ found :: after ∧
          index = start + totalWidth before := by
  induction constants generalizing start with
  | nil => simp [walk]
  | cons constant others hypothesis =>
      have positive := constant.width_pos
      simp only [walk]
      split
      · next here =>
          constructor
          · intro same
            cases same
            exact ⟨[], others, rfl, here⟩
          · rintro ⟨before, after, split, counted⟩
            cases before with
            | nil =>
                cases split
                rfl
            | cons head tail =>
                cases split
                rw [totalWidth_cons] at counted
                omega
      · next elsewhere =>
          rw [hypothesis]
          constructor
          · rintro ⟨before, after, rfl, counted⟩
            refine ⟨constant :: before, after, rfl, ?_⟩
            rw [totalWidth_cons, counted, Nat.add_assoc]
          · rintro ⟨before, after, split, counted⟩
            cases before with
            | nil => exact absurd counted elsewhere
            | cons head tail =>
                cases split
                refine ⟨tail, after, rfl, ?_⟩
                rw [counted, totalWidth_cons, Nat.add_assoc]

/-- The table of slots leads to the constant which the walk leads to. -/
theorem get?_eq_walk (pool : Pool) (index : UInt16) :
    pool.get? index = walk 1 index.toNat pool.entries.toList := by
  ext found
  rw [get?_eq_some_iff_totalWidth, walk_eq_some_iff]
  simp only [Nat.add_comm 1]

/--
An index which names a constant, together with those the constant takes, lies in
the pool.
-/
theorem toNat_add_width_le {pool : Pool} {index : UInt16} {constant : Constant}
    (found : pool.get? index = some constant) :
    0 < index.toNat ∧ index.toNat + constant.width ≤ pool.width + 1 := by
  rcases get?_eq_some_iff_totalWidth.1 found with
    ⟨before, after, split, counted⟩
  have width := pool.width_eq_totalWidth
  rw [split, totalWidth_append, totalWidth_cons] at width
  omega

theorem toNat_le_width {pool : Pool} {index : UInt16} {constant : Constant}
    (found : pool.get? index = some constant) : index.toNat ≤ pool.width := by
  have inside := (toNat_add_width_le found).2
  have positive := constant.width_pos
  omega

/-- Inside of a wide constant there is no other one. -/
theorem get?_second_eq_none
    {pool : Pool} {index second : UInt16} {constant : Constant}
    (found : pool.get? index = some constant) (wide : constant.width = 2)
    (next : second.toNat = index.toNat + 1) : pool.get? second = none := by
  rw [Option.eq_none_iff_forall_ne_some]
  intro other present
  rcases get?_eq_some_iff_totalWidth.1 found with
    ⟨before, after, split, counted⟩
  rcases get?_eq_some_iff_totalWidth.1 present with
    ⟨front, back, same, countedOther⟩
  rw [split] at same
  -- Whatever stands before the other constant either contains the wide one or
  -- does not.
  rcases List.append_eq_append_iff.1 same with
    ⟨between, rfl, rest⟩ | ⟨between, rfl, rest⟩
  · cases between with
    | nil =>
        rw [List.append_nil] at countedOther
        omega
    | cons head tail =>
        cases rest
        rw [totalWidth_append, totalWidth_cons] at countedOther
        omega
  · rw [totalWidth_append] at counted
    omega

/--
A pool whose indices are those which a walk counts.  This leaves nothing at the
index 0, at the second index of a wide constant or past the end.
-/
structure Walks (pool : Pool) : Prop where
  get?_eq : ∀ index, pool.get? index = walk 1 index.toNat pool.entries.toList
  zero : pool.get? 0 = none
  second : ∀ {index second constant},
    pool.get? index = some constant → constant.width = 2 →
      second.toNat = index.toNat + 1 →
      pool.get? second = none
  pastEnd : ∀ {index}, pool.width < index.toNat → pool.get? index = none
  width_eq : pool.width = totalWidth pool.entries.toList
  width_le : pool.width ≤ 65534

theorem walks (pool : Pool) : pool.Walks where
  get?_eq := pool.get?_eq_walk
  zero := by
    rw [Option.eq_none_iff_forall_ne_some]
    intro constant found
    exact absurd (toNat_add_width_le found).1 (by decide)
  second := get?_second_eq_none
  pastEnd := by
    intro index beyond
    rw [Option.eq_none_iff_forall_ne_some]
    intro constant found
    exact absurd (toNat_le_width found) (Nat.not_le.2 beyond)
  width_eq := pool.width_eq_totalWidth
  width_le := pool.width_le

/-! ## Operations -/

/-- A change of a pool. -/
inductive Operation where
  | add (constant : Constant)
  | intern (text : String)
  | setClassRef (index name : UInt16)
  | setNameAndType (index name descriptor : UInt16)

/--
How an operation ended, with the index it gave if it gives one, and the pool
afterwards.
-/
structure Outcome where
  result : Except FormatFault (Option UInt16)
  pool : Pool

namespace Outcome

/--
The outcome of a change of a pool which gives an index; what fails leaves the
pool alone.
-/
def giving (pool : Pool) : Except FormatFault (UInt16 × Pool) → Outcome
  | .ok (index, after) => ⟨.ok (some index), after⟩
  | .error fault => ⟨.error fault, pool⟩

/--
The outcome of a change of a pool which gives nothing; what fails leaves the
pool alone.
-/
def rewriting (pool : Pool) : Except FormatFault Pool → Outcome
  | .ok after => ⟨.ok none, after⟩
  | .error fault => ⟨.error fault, pool⟩

end Outcome

namespace Operation

/-- Perform an operation on a pool. -/
def perform (pool : Pool) : Operation → Outcome
  | add constant => .giving pool (pool.add constant)
  | intern text => .giving pool (pool.intern text)
  | setClassRef index name => .rewriting pool (pool.setClassRef index name)
  | setNameAndType index name descriptor =>
    .rewriting pool (pool.setNameAndType index name descriptor)

/-- A pool after some operations, one after another, of which some may fail. -/
def performAll (pool : Pool) : List Operation → Pool
  | [] => pool
  | operation :: others => performAll (operation.perform pool).pool others

/-- The constant to which an operation gives an index. -/
def given? : Operation → Option Constant
  | add constant => some constant
  | intern text => some (.utf8 (.ofText text))
  | setClassRef _ _ => none
  | setNameAndType _ _ _ => none

/--
What an operation makes of the constant at an index: a class and a pair of a
name and a descriptor are given other indices if the operation is about the very
index, and all else stays as it is.
-/
def rewrite (index : UInt16) (held : Constant) : Operation → Constant
  | add _ => held
  | intern _ => held
  | setClassRef place name => if place = index then held.withName name else held
  | setNameAndType place name descriptor =>
    if place = index then held.withNameAndType name descriptor else held

/--
What some operations, one after another, make of the constant at an index.
-/
def rewriteAll (index : UInt16) (held : Constant)
    (operations : List Operation) : Constant :=
  operations.foldl (rewrite index) held

end Operation

/-- What cannot be renamed is no class. -/
theorem withName_of_setClassRef
    {pool : Pool} {place name : UInt16} {fault : FormatFault}
    {constant : Constant}
    (refused : pool.setClassRef place name = .error fault)
    (found : pool.get? place = some constant) :
    constant.withName name = constant := by
  simp only [setClassRef] at refused
  split at refused
  · cases refused
  · next other =>
      cases constant with
      | classRef old => exact absurd found (other old)
      | _ => rfl

/-- What cannot be rewritten as a pair is no pair. -/
theorem withNameAndType_of_setNameAndType
    {pool : Pool} {place name descriptor : UInt16} {fault : FormatFault}
    {constant : Constant}
    (refused : pool.setNameAndType place name descriptor = .error fault)
    (found : pool.get? place = some constant) :
    constant.withNameAndType name descriptor = constant := by
  simp only [setNameAndType] at refused
  split at refused
  · cases refused
  · next other =>
      cases constant with
      | nameAndType oldName oldDescriptor =>
          exact absurd found (other oldName oldDescriptor)
      | _ => rfl

namespace Outcome

variable {pool : Pool} {index : UInt16} {held : Constant}

theorem eq_ok_of_result_giving
    {change : Except FormatFault (UInt16 × Pool)}
    (given : (giving pool change).result = .ok (some index)) :
    ∃ after, change = .ok (index, after) ∧
      (giving pool change).pool = after := by
  cases change with
  | error fault => cases given
  | ok place =>
      cases given
      exact ⟨place.2, rfl, rfl⟩

theorem result_rewriting_ne
    (pool : Pool) (change : Except FormatFault Pool) (index : UInt16) :
    (rewriting pool change).result ≠ .ok (some index) := by
  cases change <;> nofun

theorem get?_giving_add
    {constant : Constant} (found : pool.get? index = some held) :
    (giving pool (pool.add constant)).pool.get? index = some held := by
  cases added : pool.add constant with
  | error fault => exact found
  | ok given =>
      rcases add_eq_ok_iff.1 added with ⟨fits, -, same⟩
      simp only [giving, same]
      exact get?_push_of_some fits found

theorem get?_giving_intern
    {text : String} (found : pool.get? index = some held) :
    (giving pool (pool.intern text)).pool.get? index = some held := by
  cases interned : pool.intern text with
  | error fault => exact found
  | ok given =>
      rcases intern_eq_ok interned with ⟨-, same⟩ | added
      · simpa only [giving, same] using found
      · rw [← added]
        exact get?_giving_add found

/--
A change in place makes of the constant at its place what it should, provided
that it is refused only where there is nothing to change.
-/
theorem get?_rewriting
    {place : UInt16} {change : Except FormatFault Pool}
    {made : Constant → Constant}
    (refused : ∀ {fault constant},
      change = .error fault → pool.get? place = some constant →
        made constant = constant)
    (done : ∀ {after}, change = .ok after →
      after.get? place = (pool.get? place).map made ∧
        ∀ other, other ≠ place → after.get? other = pool.get? other)
    (found : pool.get? index = some held) :
    (rewriting pool change).pool.get? index =
      some (if place = index then made held else held) := by
  cases changed : change with
  | error fault =>
      simp only [rewriting, found]
      split
      · next same =>
          rw [refused changed (same ▸ found)]
      · rfl
  | ok after =>
      rcases done changed with ⟨atPlace, elsewhere⟩
      simp only [rewriting]
      split
      · next same => rw [← same, atPlace, same, found, Option.map_some]
      · next different => rw [elsewhere index (Ne.symm different), found]

end Outcome

namespace Operation

variable {pool : Pool} {index : UInt16} {held : Constant}

/--
Whatever an index named it still names after an operation, which may have
rewritten it.
-/
theorem get?_perform (operation : Operation)
    (found : pool.get? index = some held) :
    (operation.perform pool).pool.get? index =
      some (operation.rewrite index held) := by
  cases operation with
  | add constant => exact Outcome.get?_giving_add found
  | intern text => exact Outcome.get?_giving_intern found
  | setClassRef place name =>
      apply Outcome.get?_rewriting withName_of_setClassRef _ found
      intro after renamed
      rcases get?_of_setClassRef renamed with ⟨⟨old, present⟩, named, others⟩
      exact ⟨by rw [named, present]; rfl, others⟩
  | setNameAndType place name descriptor =>
      apply Outcome.get?_rewriting withNameAndType_of_setNameAndType _ found
      intro after rewritten
      rcases get?_of_setNameAndType rewritten with
        ⟨⟨oldName, oldDescriptor, present⟩, paired, others⟩
      exact ⟨by rw [paired, present]; rfl, others⟩

theorem get?_performAll (operations : List Operation)
    (found : pool.get? index = some held) :
    (performAll pool operations).get? index =
      some (rewriteAll index held operations) := by
  induction operations generalizing pool held with
  | nil => exact found
  | cons operation others hypothesis =>
      exact hypothesis (operation.get?_perform found)

/--
An index which an operation gives names the constant which it was given for.
-/
theorem get?_of_result
    {operation : Operation}
    (given : (operation.perform pool).result = .ok (some index)) :
    ∃ constant, operation.given? = some constant ∧
      (operation.perform pool).pool.get? index = some constant := by
  cases operation with
  | add constant =>
      rcases Outcome.eq_ok_of_result_giving given with ⟨after, added, left⟩
      rcases add_eq_ok_iff.1 added with ⟨fits, rfl, rfl⟩
      refine ⟨constant, rfl, ?_⟩
      rw [perform, left]
      exact get?_push_nextIndex pool constant fits
  | intern text =>
      rcases Outcome.eq_ok_of_result_giving given with ⟨after, interned, left⟩
      refine ⟨.utf8 (.ofText text), rfl, ?_⟩
      rw [perform, left]
      exact get?_of_intern interned
  | setClassRef place name =>
      exact absurd given (Outcome.result_rewriting_ne _ _ _)
  | setNameAndType place name descriptor =>
      exact absurd given (Outcome.result_rewriting_ne _ _ _)

/-! ## What every history of a pool has led to -/

/--
What adding a constant to a pool comes to.  It succeeds exactly if there are
indices left, gives the first index after the others and puts the constant at
the end; if it fails it has changed nothing.  The same is true of the tables to
which the constant is added step by step: they come to be those of the pool, and
where a step is stopped none before it has changed them.
-/
structure AddsAtEnd (pool : Pool) (constant : Constant) (outcome : Outcome) :
    Prop where
  succeeds_iff :
    (∃ index, outcome.result = .ok (some index)) ↔
      pool.width + constant.width ≤ 65534
  index : ∀ {index}, outcome.result = .ok (some index) →
    index.toNat = pool.width + 1
  entries : ∀ {index}, outcome.result = .ok (some index) →
    outcome.pool.entries.toList = pool.entries.toList ++ [constant]
  unchanged : ∀ {fault}, outcome.result = .error fault → outcome.pool = pool
  inPlace : (InPlace.addConstant constant).run pool.tables =
    InPlace.ending pool (pool.add constant)
  tablesUnchanged : ∀ {trap left},
    (InPlace.addConstant constant).run pool.tables = .error trap left →
      left = pool.tables

theorem addsAtEnd (pool : Pool) (constant : Constant) :
    AddsAtEnd pool constant ((add constant).perform pool) := by
  have steps := InPlace.run_addConstant pool constant
  have left {trap : Trap} {tables : Tables}
      (stopped : (InPlace.addConstant constant).run pool.tables =
        .error trap tables) :
      tables = pool.tables :=
    InPlace.eq_tables_of_ending (steps.symm.trans stopped)
  by_cases fits : pool.Fits constant
  · have added : (add constant).perform pool =
        ⟨.ok (some pool.nextIndex), pool.push constant fits⟩ := by
      simp [perform, Pool.add, fits, Outcome.giving]
    rw [added]
    refine ⟨⟨fun _ => fits, fun _ => ⟨_, rfl⟩⟩, ?_, ?_, ?_, steps, left⟩
    · intro index given
      cases given
      exact toNat_nextIndex fits
    · intro index given
      exact toList_entries_push pool constant fits
    · intro fault failed
      cases failed
  · have refused : (add constant).perform pool =
        ⟨.error (pool.noRoom constant), pool⟩ := by
      simp [perform, Pool.add, fits, Outcome.giving]
    rw [refused]
    refine ⟨⟨?_, fun room => absurd room fits⟩, ?_, ?_, ?_, steps, left⟩
    · intro succeeded
      rcases succeeded with ⟨index, given⟩
      cases given
    · intro index given
      cases given
    · intro index given
      cases given
    · intro fault failed
      rfl

/--
Whatever operations have made of the empty pool, its indices are those which a
walk along the constants counts; another constant is added at the end if there
is room for it, and else each step of adding it has left the tables alone; and
an index which an operation has given names what it was given for ever after,
but for the rewriting of the indices inside of it.
-/
theorem walks_performAll (operations : List Operation) :
    let pool := performAll empty operations
    pool.Walks ∧
      (∀ constant, AddsAtEnd pool constant ((add constant).perform pool)) ∧
        ∀ (operation : Operation) (index : UInt16) (later : List Operation),
          (operation.perform pool).result = .ok (some index) →
            ∃ constant, operation.given? = some constant ∧
              (performAll (operation.perform pool).pool later).get? index =
                some (rewriteAll index constant later) := by
  intro pool
  refine ⟨pool.walks, addsAtEnd pool, ?_⟩
  intro operation index later given
  rcases get?_of_result given with ⟨constant, meant, found⟩
  exact ⟨constant, meant, get?_performAll later found⟩

/--
A class behind a wide constant is renamed by its own index, and not by one
inside of the other.
-/
theorem walks_performAll_sample :
    let pool := performAll empty [.add (.long 0 1), .setClassRef 1 5]
    ((add (.classRef 4)).perform pool).result = .ok (some 3) ∧
      (InPlace.addConstant (.classRef 4)).run pool.tables =
        .ok 3 ((add (.classRef 4)).perform pool).pool.tables ∧
      (performAll ((add (.classRef 4)).perform pool).pool
        [.intern "A", .setClassRef 2 7, .setClassRef 3 9]).get? 3 =
          some (.classRef 9) := by
  intro pool
  have given : ((add (.classRef 4)).perform pool).result = .ok (some 3) := by
    rfl
  rcases walks_performAll [.add (.long 0 1), .setClassRef 1 5] with
    ⟨-, adds, lasting⟩
  rcases lasting (add (.classRef 4)) 3
    [.intern "A", .setClassRef 2 7, .setClassRef 3 9] given with
    ⟨constant, meant, found⟩
  cases meant
  exact ⟨given, (adds (.classRef 4)).inPlace, found⟩

end Operation

end Pool

end ClassFormat
