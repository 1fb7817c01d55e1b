import ClassFormat.CompiledClass.Edit
import ClassFormat.Proofs.CompiledClass.RoundTrip
import ClassFormat.Proofs.Pool.Interning

/-!
# Renaming a class and its superclass

A class gets another name by interning the path and pointing the constant of the
class at it.  What this does to the pool is said in full: one constant refers to
another text, and the text was appended if it was lacking.  So no index other
than that of the class leads to anything new, and the name of every other class
is what it was.

Where there was no superclass, a constant for it is appended behind the text,
and nothing else happens.
-/

namespace ClassFormat

namespace Pool

/-! ## Pools which were extended -/

/--
The constants which interning a text appends: the text, if no entry holds it.
-/
def lacking (pool : Pool) (text : String) : List Constant :=
  if .utf8 (.ofText text) ∈ pool.entries.toList then
    []
  else
    [.utf8 (.ofText text)]

theorem eq_utf8_of_mem_lacking {pool : Pool} {text : String}
    {constant : Constant} (member : constant ∈ pool.lacking text) :
    constant = .utf8 (.ofText text) := by
  rw [lacking] at member
  split at member
  · cases member
  · exact List.mem_singleton.1 member

theorem totalWidth_lacking (pool : Pool) (text : String) :
    totalWidth (pool.lacking text) = (pool.lacking text).length := by
  rw [lacking]
  split <;> rfl

theorem extended_of_intern {pool after : Pool} {text : String} {index : UInt16}
    (interned : pool.intern text = .ok (index, after)) :
    after.entries.toList = pool.entries.toList ++ pool.lacking text := by
  rw [lacking]
  split
  · next present => rw [(entries_of_intern interned).2 present, List.append_nil]
  · next missing => exact (entries_of_intern interned).1 missing

/-- No index of a pool leads to anything else after constants were appended. -/
theorem get?_of_extended {pool after : Pool} {appended : List Constant}
    {index : UInt16}
    (extended : after.entries.toList = pool.entries.toList ++ appended)
    (inside : index.toNat ≤ pool.width) :
    after.get? index = pool.get? index := by
  rw [width_eq_totalWidth] at inside
  ext held
  rw [get?_eq_some_iff_totalWidth, get?_eq_some_iff_totalWidth, extended]
  constructor
  · rintro ⟨before, others, split, counted⟩
    rcases List.append_eq_append_iff.1 split with
      ⟨between, rfl, -⟩ | ⟨between, same, rest⟩
    · rw [totalWidth_append] at counted
      omega
    · cases between with
      | nil =>
          rw [same, List.append_nil] at inside
          omega
      | cons head tail =>
          cases rest
          exact ⟨before, tail, same, counted⟩
  · rintro ⟨before, others, split, counted⟩
    refine ⟨before, others ++ appended, ?_, counted⟩
    rw [split, List.append_assoc, List.cons_append]

/--
A class keeps its name if only one index leads elsewhere, and not to a text
before.
-/
theorem className_of_elsewhere {before after : Pool} {index other : UInt16}
    {written : WrittenType}
    (noText : ∀ text, before.get? index ≠ some (.utf8 text))
    (elsewhere : ∀ other, other.toNat ≤ before.width → other ≠ index →
      after.get? other = before.get? other)
    (different : other ≠ index) (named : before.className other = .ok written) :
    after.className other = .ok written := by
  rcases className_eq_ok_iff.1 named with ⟨name, entry, found, told, rfl⟩
  have differentName : name ≠ index := by
    rintro rfl
    exact noText entry told
  refine className_eq_ok_iff.2 ⟨name, entry, ?_, ?_, rfl⟩
  · rw [elsewhere other (toNat_le_width found) different, found]
  · rw [elsewhere name (toNat_le_width told) differentName, told]

/-! ## Giving a class another name -/

/--
What it means that the class at an index was given a name.  The class has the
name, its constant refers to another text, and behind the last constant stands
the text if it was lacking.  All other indices lead where they led, and all
other classes have their names.
-/
structure Renamed (before : Pool) (index : UInt16) (path : String)
    (after : Pool) : Prop where
  named : after.className index = .ok (.path path)
  entries : ∃ front back old name,
    before.entries.toList = front ++ .classRef old :: back ∧
      index.toNat = totalWidth front + 1 ∧
      after.entries.toList =
        front ++ .classRef name :: back ++ before.lacking path
  elsewhere : ∀ other, other.toNat ≤ before.width → other ≠ index →
    after.get? other = before.get? other
  names : ∀ {other written}, other ≠ index →
    before.className other = .ok written → after.className other = .ok written

/--
What it means that a class with a name was added and given an index.  Its
constant stands at the end, behind the text if that was lacking.  All other
indices lead where they led, and all other classes have their names.
-/
structure ClassAdded (before : Pool) (index : UInt16) (path : String)
    (after : Pool) : Prop where
  named : after.className index = .ok (.path path)
  entries : ∃ name,
    after.entries.toList =
      before.entries.toList ++ before.lacking path ++ [.classRef name]
  index : index.toNat = before.width + (before.lacking path).length + 1
  elsewhere : ∀ other, other.toNat ≤ before.width →
    after.get? other = before.get? other
  names : ∀ {other written},
    before.className other = .ok written → after.className other = .ok written

/-- Renaming a class exchanges its constant in the sequence. -/
theorem entries_of_setClassRef {pool after : Pool} {index name : UInt16}
    (renamed : pool.setClassRef index name = .ok after) :
    ∃ front back old, pool.entries.toList = front ++ .classRef old :: back ∧
      index.toNat = totalWidth front + 1 ∧
        after.entries.toList = front ++ .classRef name :: back := by
  rw [setClassRef] at renamed
  split at renamed
  · next old found =>
      cases renamed
      rcases get?_eq_some_iff_totalWidth.1 found with
        ⟨front, back, split, counted⟩
      exact ⟨front, back, old, split, counted,
        toList_entries_update found _ split counted⟩
  · cases renamed

/--
A member of two lists in a row which is not in the second one splits the first
one.
-/
theorem exists_of_append_eq {constants appended front back : List Constant}
    {constant : Constant} (foreign : constant ∉ appended)
    (split : constants ++ appended = front ++ constant :: back) :
    ∃ between, constants = front ++ constant :: between ∧
      back = between ++ appended := by
  rcases List.append_eq_append_iff.1 split with
    ⟨between, -, rest⟩ | ⟨between, same, rest⟩
  · rw [rest] at foreign
    exact absurd (List.mem_append_right between List.mem_cons_self) foreign
  · cases between with
    | nil =>
        rw [List.nil_append] at rest
        rw [← rest] at foreign
        exact absurd List.mem_cons_self foreign
    | cons head tail =>
        cases rest
        exact ⟨tail, same, rfl⟩

variable {pool extended after : Pool} {path : String} {index name : UInt16}

/-- A class which is pointed at an interned text has the text for its name. -/
theorem className_of_intern
    (interned : pool.intern path = .ok (name, extended))
    (told : after.get? name = extended.get? name)
    (pointed : after.get? index = some (.classRef name)) :
    after.className index = .ok (.path path) := by
  refine className_eq_ok_iff.2 ⟨name, .ofText path, pointed, ?_, ?_⟩
  · rw [told, get?_of_intern interned]
  · rw [ModifiedUtf8.text_ofText]

theorem renamed_of_intern
    (interned : pool.intern path = .ok (name, extended))
    (renamed : extended.setClassRef index name = .ok after) :
    pool.Renamed index path after := by
  have extension := extended_of_intern interned
  rcases get?_of_setClassRef renamed with ⟨⟨old, found⟩, pointed, others⟩
  rcases entries_of_setClassRef renamed with
    ⟨front, back, held, split, counted, exchanged⟩
  have foreign : .classRef held ∉ pool.lacking path := by
    intro member
    cases eq_utf8_of_mem_lacking member
  rcases exists_of_append_eq foreign (extension.symm.trans split) with
    ⟨between, present, rfl⟩
  have inPool : pool.get? index = some (.classRef held) :=
    get?_eq_some_iff_totalWidth.2 ⟨front, between, present, counted⟩
  have elsewhere : ∀ other, other.toNat ≤ pool.width → other ≠ index →
      after.get? other = pool.get? other := by
    intro other inside different
    rw [others other different, get?_of_extended extension inside]
  have noText : ∀ text, pool.get? index ≠ some (.utf8 text) := by
    intro text
    rw [inPool]
    nofun
  refine ⟨?_, ?_, elsewhere, className_of_elsewhere noText elsewhere⟩
  · apply className_of_intern interned (others name _) pointed
    rintro rfl
    rw [get?_of_intern interned] at found
    cases found
  · refine ⟨front, between, held, name, present, counted, ?_⟩
    rw [exchanged, List.append_assoc, List.cons_append]

theorem classAdded_of_intern
    (interned : pool.intern path = .ok (name, extended))
    (added : extended.add (.classRef name) = .ok (index, after)) :
    pool.ClassAdded index path after := by
  have extension := extended_of_intern interned
  rcases add_eq_ok_iff.1 added with ⟨fits, rfl, rfl⟩
  have appended : (extended.push (.classRef name) fits).entries.toList =
      pool.entries.toList ++ pool.lacking path ++ [.classRef name] := by
    rw [toList_entries_push, extension]
  have elsewhere : ∀ other, other.toNat ≤ pool.width →
      (extended.push (.classRef name) fits).get? other = pool.get? other := by
    intro other inside
    exact get?_of_extended (appended.trans (List.append_assoc ..)) inside
  have zero : ∀ text, pool.get? 0 ≠ some (.utf8 text) := by
    intro text
    rw [pool.walks.zero]
    nofun
  refine ⟨?_, ⟨name, appended⟩, ?_, elsewhere, ?_⟩
  · apply className_of_intern interned _
      (get?_push_nextIndex extended (.classRef name) fits)
    rw [get?_of_intern interned,
      get?_push_of_some fits (get?_of_intern interned)]
  · rw [toNat_nextIndex fits, width_eq_totalWidth, extension, totalWidth_append,
      totalWidth_lacking, ← width_eq_totalWidth]
  · intro other written named
    apply className_of_elsewhere zero (fun other inside _ =>
      elsewhere other inside) _ named
    rintro rfl
    rcases className_eq_ok_iff.1 named with ⟨old, entry, found, -⟩
    rw [pool.walks.zero] at found
    cases found

end Pool

namespace CompiledClass

variable {class_ after : CompiledClass} {written : WrittenType}

/-! ## Renaming a class -/

theorem internPath_eq_ok_iff {name : UInt16} :
    class_.internPath written = .ok (name, after) ↔
      ∃ path pool, written.toPath = .ok path ∧
        class_.pool.intern path = .ok (name, pool) ∧
        { class_ with pool } = after := by
  constructor
  · intro interned
    rcases Decoder.bind_eq_ok interned with ⟨path, spelled, interned⟩
    rcases Decoder.bind_eq_ok interned with ⟨⟨index, pool⟩, added, done⟩
    cases done
    exact ⟨path, pool, Decoder.eq_ok_of_mapError spelled, added, rfl⟩
  · rintro ⟨path, pool, spelled, added, rfl⟩
    rw [internPath, spelled]
    show (class_.pool.intern path >>= fun given =>
      pure (given.1, { class_ with pool := given.2 })) = _
    rw [added]
    rfl

theorem renameConstant_eq_ok_iff {index name : UInt16} :
    class_.renameConstant index name = ⟨.ok (), after⟩ ↔
      ∃ pool, class_.pool.setClassRef index name = .ok pool ∧
        { class_ with pool } = after := by
  rw [renameConstant]
  cases class_.pool.setClassRef index name <;> simp

theorem addSuper_eq_ok_iff {name : UInt16} :
    class_.addSuper name = ⟨.ok (), after⟩ ↔
      ∃ superClass pool,
        class_.pool.add (.classRef name) = .ok (superClass, pool) ∧
          { class_ with pool, superClass } = after := by
  rw [addSuper]
  cases class_.pool.add (.classRef name) with
  | error fault => simp
  | ok given => simp [Prod.ext_iff, eq_comm, and_assoc]

/--
Pointing a constant at a path which was interned renames its class and changes
nothing else.
-/
theorem renamed_of_renameConstant {named : CompiledClass} {index name : UInt16}
    (interned : class_.internPath written = .ok (name, named))
    (done : named.renameConstant index name = ⟨.ok (), after⟩) :
    ∃ path, written.toPath = .ok path ∧
      class_.pool.Renamed index path after.pool ∧
      after = { class_ with pool := after.pool } := by
  rcases internPath_eq_ok_iff.1 interned with
    ⟨path, extended, spelled, added, rfl⟩
  rcases renameConstant_eq_ok_iff.1 done with ⟨pool, renamed, rfl⟩
  exact ⟨path, spelled, Pool.renamed_of_intern added renamed, rfl⟩

/--
Appending a constant for a path which was interned adds a class and makes it the
superclass.
-/
theorem classAdded_of_addSuper {named : CompiledClass} {name : UInt16}
    (interned : class_.internPath written = .ok (name, named))
    (done : named.addSuper name = ⟨.ok (), after⟩) :
    ∃ path, written.toPath = .ok path ∧
      class_.pool.ClassAdded after.superClass path after.pool ∧
      after =
        { class_ with pool := after.pool, superClass := after.superClass } := by
  rcases internPath_eq_ok_iff.1 interned with
    ⟨path, extended, spelled, added, rfl⟩
  rcases addSuper_eq_ok_iff.1 done with ⟨superClass, pool, appended, rfl⟩
  exact ⟨path, spelled, Pool.classAdded_of_intern added appended, rfl⟩

/-- Interning the path of a type changes nothing but the pool. -/
theorem eq_of_internPath {named : CompiledClass} {name : UInt16}
    (interned : class_.internPath written = .ok (name, named)) :
    named = { class_ with pool := named.pool } := by
  rcases internPath_eq_ok_iff.1 interned with ⟨path, pool, -, -, rfl⟩
  rfl

theorem renamed_of_rename (done : class_.rename written = ⟨.ok (), after⟩) :
    ∃ path, written.toPath = .ok path ∧
      class_.pool.Renamed class_.thisClass path after.pool ∧
      after = { class_ with pool := after.pool } := by
  rw [rename] at done
  split at done
  · next name named interned =>
      rw [congrArg thisClass (eq_of_internPath interned)] at done
      exact renamed_of_renameConstant interned done
  · cases done

theorem renamed_of_setSuper (present : class_.superClass ≠ 0)
    (done : class_.setSuper (some written) = ⟨.ok (), after⟩) :
    ∃ path, written.toPath = .ok path ∧
      class_.pool.Renamed class_.superClass path after.pool ∧
      after = { class_ with pool := after.pool } := by
  simp only [setSuper] at done
  split at done
  · next name named interned =>
      rw [congrArg superClass (eq_of_internPath interned),
        if_neg present] at done
      exact renamed_of_renameConstant interned done
  · cases done

theorem classAdded_of_setSuper (absent : class_.superClass = 0)
    (done : class_.setSuper (some written) = ⟨.ok (), after⟩) :
    ∃ path, written.toPath = .ok path ∧
      class_.pool.ClassAdded after.superClass path after.pool ∧
      after =
        { class_ with pool := after.pool, superClass := after.superClass } := by
  simp only [setSuper] at done
  split at done
  · next name named interned =>
      rw [congrArg superClass (eq_of_internPath interned),
        if_pos absent] at done
      exact classAdded_of_addSuper interned done
  · cases done

theorem superName?_of_named {path : String} (present : class_.superClass ≠ 0)
    (named : class_.pool.className class_.superClass = .ok (.path path)) :
    class_.superName? = .ok (some (.path path)) := by
  rw [superName?, if_neg present, named]
  rfl

/--
A class which was renamed has the path of the new name, and so has its
superclass if that was set.  The class differs from what it was in the pool
only, which has had one constant renamed; a class without a superclass has got
an index for it too, and one constant more.  To take the superclass away is
always possible and changes nothing else.
-/
theorem renaming_changes_one_name (class_ : CompiledClass) :
    (∀ {written : WrittenType} {after : CompiledClass},
      class_.rename written = ⟨.ok (), after⟩ →
        ∃ path name, written.toPath = .ok path ∧
          after.name = .ok name ∧ name.toPath = .ok path ∧
          after = { class_ with pool := after.pool } ∧
          class_.pool.Renamed class_.thisClass path after.pool) ∧
    (∀ {written : WrittenType} {after : CompiledClass},
      class_.setSuper (some written) = ⟨.ok (), after⟩ →
        ∃ path name, written.toPath = .ok path ∧ after.superClass ≠ 0 ∧
          after.superName? = .ok (some name) ∧ name.toPath = .ok path ∧
          (class_.superClass ≠ 0 →
            after = { class_ with pool := after.pool } ∧
              class_.pool.Renamed class_.superClass path after.pool) ∧
          (class_.superClass = 0 →
            after =
              { class_ with
                pool := after.pool, superClass := after.superClass } ∧
              class_.pool.ClassAdded after.superClass path after.pool)) ∧
    class_.setSuper none = ⟨.ok (), { class_ with superClass := 0 }⟩ := by
  refine ⟨?_, ?_, rfl⟩
  · intro written after done
    rcases renamed_of_rename done with ⟨path, spelled, renamed, same⟩
    refine ⟨path, .path path, spelled, ?_, rfl, same, renamed⟩
    rw [name, same]
    exact renamed.named
  · intro written after done
    by_cases absent : class_.superClass = 0
    · rcases classAdded_of_setSuper absent done with
        ⟨path, spelled, added, same⟩
      have present : after.superClass ≠ 0 := by
        intro zero
        have counted := added.index
        rw [zero] at counted
        exact absurd counted (by simp)
      refine ⟨path, .path path, spelled, present,
        superName?_of_named present added.named, rfl, ?_, ?_⟩
      · exact fun nonzero => absurd absent nonzero
      · exact fun _ => ⟨same, added⟩
    · rcases renamed_of_setSuper absent done with ⟨path, spelled, renamed, same⟩
      have kept : after.superClass = class_.superClass := by rw [same]
      have named : after.superName? = .ok (some (.path path)) := by
        apply superName?_of_named
        · rwa [kept]
        · rw [kept]
          exact renamed.named
      refine ⟨path, .path path, spelled, ?_, named, rfl,
        fun _ => ⟨same, renamed⟩, ?_⟩
      · rwa [kept]
      · exact fun none_ => absurd none_ absent

/--
A class is renamed to a text which was lacking; a class named by a text which
was there becomes its superclass; and a superclass is renamed.
-/
theorem renaming_changes_one_name_sample :
    let derived := { sample with superClass := 2 }
    ∃ renamed based rebased : CompiledClass,
      sample.rename (.path "p/B") = ⟨.ok (), renamed⟩ ∧
        sample.pool.Renamed 2 "p/B" renamed.pool ∧
      sample.setSuper (some (.path "A")) = ⟨.ok (), based⟩ ∧
        sample.pool.ClassAdded based.superClass "A" based.pool ∧
      derived.setSuper (some (.path "p/B")) = ⟨.ok (), rebased⟩ ∧
        derived.pool.Renamed 2 "p/B" rebased.pool := by
  intro derived
  let renamed := (sample.rename (.path "p/B")).class_
  let based := (sample.setSuper (some (.path "A"))).class_
  let rebased := (derived.setSuper (some (.path "p/B"))).class_
  have renames : sample.rename (.path "p/B") = ⟨.ok (), renamed⟩ := by rfl
  have bases : sample.setSuper (some (.path "A")) = ⟨.ok (), based⟩ := by rfl
  have rebases : derived.setSuper (some (.path "p/B")) = ⟨.ok (), rebased⟩ := by
    rfl
  rcases (renaming_changes_one_name sample).1 renames with
    ⟨path, -, ⟨⟩, -, -, -, named⟩
  rcases (renaming_changes_one_name sample).2.1 bases with
    ⟨path, -, ⟨⟩, -, -, -, -, added⟩
  rcases (renaming_changes_one_name derived).2.1 rebases with
    ⟨path, -, ⟨⟩, -, -, -, superNamed, -⟩
  exact ⟨renamed, based, rebased, renames, named, bases, (added rfl).2, rebases,
    (superNamed (by decide)).2⟩

end CompiledClass

end ClassFormat
