import ClassFormat.Binary.Decoder
import ClassFormat.Pool.Lookup

/-!
# Which constant an index names

An index names the constant in front of which the others take all smaller
indices.  This description does not mention the table of slots, and everything
else follows from it: a constant which is appended is named by the next index
and leaves the others where they are, and a constant which is exchanged for one
of the same width takes its place.

The last section is about what edits of a pool leave intact.  A pool *keeps*
another one if every text is still found at its index, and every index which
named a class whose name can be told still does.
-/

namespace ClassFormat

/-- The number of indices which some constants take. -/
def totalWidth : List Constant → Nat
  | [] => 0
  | constant :: others => constant.width + totalWidth others

@[simp]
theorem totalWidth_nil : totalWidth [] = 0 := by
  rfl

@[simp]
theorem totalWidth_cons (constant : Constant) (others : List Constant) :
    totalWidth (constant :: others) = constant.width + totalWidth others := by
  rfl

@[simp]
theorem totalWidth_append (first second : List Constant) :
    totalWidth (first ++ second) = totalWidth first + totalWidth second := by
  induction first with
  | nil => simp
  | cons constant others hypothesis => simp [hypothesis, Nat.add_assoc]

theorem length_layout (position : Nat) (constants : List Constant) :
    (layout position constants).length = totalWidth constants := by
  induction constants generalizing position with
  | nil => rfl
  | cons constant others hypothesis => simp [layout, hypothesis]

theorem getElem?_slotsOf_eq_some_iff
    {position place slot : Nat} {constant : Constant} :
    (slotsOf position constant)[slot]? = some (some place) ↔
      slot = 0 ∧ place = position := by
  cases slot with
  | zero => simp [slotsOf, eq_comm]
  | succ slot => simp [slotsOf, List.getElem?_replicate]

/--
A constant stands in the first slot after those of the constants before it.
-/
theorem getElem?_layout_eq_some_iff
    {start place slot : Nat} {constants : List Constant} :
    (layout start constants)[slot]? = some (some place) ↔
      ∃ before constant after,
        constants = before ++ constant :: after ∧
          place = start + before.length ∧ slot = totalWidth before := by
  induction constants generalizing start slot with
  | nil => simp [layout]
  | cons first others hypothesis =>
      by_cases inside : slot < first.width
      · rw [layout, List.getElem?_append_left (by simpa using inside),
          getElem?_slotsOf_eq_some_iff]
        constructor
        · rintro ⟨rfl, rfl⟩
          exact ⟨[], first, others, rfl, rfl, rfl⟩
        · rintro ⟨before, constant, after, split, rfl, rfl⟩
          cases before with
          | nil => exact ⟨rfl, rfl⟩
          | cons head tail =>
              cases split
              rw [totalWidth_cons] at inside
              omega
      · have beyond : first.width ≤ slot := Nat.le_of_not_lt inside
        rw [layout, List.getElem?_append_right (by simpa using beyond),
          length_slotsOf, hypothesis]
        constructor
        · rintro ⟨before, constant, after, rfl, rfl, remaining⟩
          refine ⟨first :: before, constant, after, rfl, ?_, ?_⟩
          · simp only [List.length_cons]
            omega
          · rw [totalWidth_cons]
            omega
        · rintro ⟨before, constant, after, split, rfl, rfl⟩
          cases before with
          | nil => exact absurd first.width_pos inside
          | cons head tail =>
              cases split
              refine ⟨tail, constant, after, rfl, ?_, ?_⟩
              · simp only [List.length_cons]
                omega
              · simp

namespace Pool

theorem width_eq_totalWidth (pool : Pool) :
    pool.width = totalWidth pool.entries.toList := by
  have lengths := congrArg List.length pool.slots_eq
  rwa [Array.length_toList, length_layout] at lengths

theorem position?_eq_some_iff {pool : Pool} {index : UInt16} {position : Nat} :
    pool.position? index = some position ↔
      index ≠ 0 ∧
        (layout 0 pool.entries.toList)[index.toNat - 1]? =
          some (some position) := by
  rw [← pool.slots_eq, Array.getElem?_toList]
  by_cases zero : index = 0
  · simp [position?, zero]
  · simp [position?, zero, Option.join_eq_some_iff]

/--
An index names the constant in front of which the others take all smaller
indices.
-/
theorem get?_eq_some_iff_totalWidth {pool : Pool} {index : UInt16}
    {constant : Constant} :
    pool.get? index = some constant ↔
      ∃ before after,
        pool.entries.toList = before ++ constant :: after ∧
          index.toNat = totalWidth before + 1 := by
  rw [get?_eq_some_iff]
  constructor
  · rintro ⟨position, located, present⟩
    rcases position?_eq_some_iff.1 located with ⟨nonzero, placed⟩
    rcases getElem?_layout_eq_some_iff.1 placed with
      ⟨before, held, after, split, rfl, slot⟩
    refine ⟨before, after, ?_, ?_⟩
    · rw [split] at present ⊢
      simp at present
      rw [present]
    · have positive : index.toNat ≠ 0 :=
        fun zero => nonzero (UInt16.toNat_inj.1 zero)
      omega
  · rintro ⟨before, after, split, counted⟩
    refine ⟨before.length, position?_eq_some_iff.2 ⟨?_, ?_⟩, ?_⟩
    · rintro rfl
      simp at counted
    · apply getElem?_layout_eq_some_iff.2
      exact ⟨before, constant, after, split, (Nat.zero_add _).symm, by omega⟩
    · simp [split]

/-- A pool in which an index names a constant is not empty. -/
theorem width_pos_of_get? {pool : Pool} {index : UInt16} {constant : Constant}
    (found : pool.get? index = some constant) : 0 < pool.width := by
  rcases get?_eq_some_iff_totalWidth.1 found with ⟨before, after, split, -⟩
  rw [width_eq_totalWidth, split, totalWidth_append, totalWidth_cons]
  have := constant.width_pos
  omega

theorem text_eq_ok_iff {pool : Pool} {index : UInt16} {text : String} :
    pool.text index = .ok text ↔
      ∃ entry, pool.get? index = some (.utf8 entry) ∧ entry.text = text := by
  simp only [Pool.text]
  split
  · next entry found => simp [found]
  · next other =>
      constructor
      · nofun
      · rintro ⟨entry, found, -⟩
        exact absurd found (other entry)

/-! ## Appending constants -/

@[simp]
theorem toList_entries_push (pool : Pool) (constant : Constant)
    (fits : pool.Fits constant) :
    (pool.push constant fits).entries.toList =
      pool.entries.toList ++ [constant] := by
  simp [push]

theorem add_eq_ok_iff {pool after : Pool} {constant : Constant}
    {index : UInt16} :
    pool.add constant = .ok (index, after) ↔
      ∃ fits : pool.Fits constant, index = pool.nextIndex ∧
        after = pool.push constant fits := by
  by_cases fits : pool.Fits constant
  · simp [add, fits, eq_comm]
  · simp [add, fits]

/-- Adding a constant fails if there are no indices left for it. -/
theorem add_eq_error_iff {pool : Pool} {constant : Constant}
    {fault : FormatFault} :
    pool.add constant = .error fault ↔
      ¬pool.Fits constant ∧ fault = pool.noRoom constant := by
  by_cases fits : pool.Fits constant
  · simp [add, fits]
  · simp [add, fits, eq_comm]

theorem toNat_nextIndex {pool : Pool} {constant : Constant}
    (fits : pool.Fits constant) :
    pool.nextIndex.toNat = pool.width + 1 := by
  have room : pool.width + constant.width ≤ 65534 := fits
  have positive := constant.width_pos
  have small : pool.width + 1 < 65536 := by omega
  exact UInt16.toNat_ofNat_of_lt' small

/-- What was found in a pool is found after another constant was appended. -/
theorem get?_push_of_some
    {pool : Pool} {constant held : Constant} {index : UInt16}
    (fits : pool.Fits constant) (found : pool.get? index = some held) :
    (pool.push constant fits).get? index = some held := by
  rcases get?_eq_some_iff_totalWidth.1 found with
    ⟨before, after, split, counted⟩
  apply get?_eq_some_iff_totalWidth.2
  refine ⟨before, after ++ [constant], ?_, counted⟩
  rw [toList_entries_push, split]
  simp

/-- An appended constant is found at the index it was given. -/
theorem get?_push_nextIndex (pool : Pool) (constant : Constant)
    (fits : pool.Fits constant) :
    (pool.push constant fits).get? pool.nextIndex = some constant := by
  apply get?_eq_some_iff_totalWidth.2
  refine ⟨pool.entries.toList, [], toList_entries_push pool constant fits, ?_⟩
  rw [toNat_nextIndex fits, width_eq_totalWidth]

/-! ## Finding texts -/

/-- What is found is the first of the entries which hold the bytes. -/
theorem findBytes?_eq_some
    {bytes : List UInt8} {index found : Nat} {constants : List Constant}
    (search : findBytes? bytes index constants = some found) :
    ∃ before after,
      constants = before ++ .utf8 ⟨bytes⟩ :: after ∧ .utf8 ⟨bytes⟩ ∉ before ∧
        found = index + totalWidth before := by
  fun_induction findBytes? bytes index constants with
  | case1 => cases search
  | case2 index others text same =>
      cases search
      subst same
      exact ⟨[], others, rfl, List.not_mem_nil, rfl⟩
  | case3 index others text different hypothesis =>
      rcases hypothesis search with ⟨before, after, rfl, earlier, rfl⟩
      refine ⟨.utf8 text :: before, after, rfl,
        ?_, by simp [Constant.width, Nat.add_assoc]⟩
      rintro (_ | ⟨_, member⟩)
      · exact different rfl
      · exact earlier member
  | case4 index constant others other hypothesis =>
      rcases hypothesis search with ⟨before, after, rfl, earlier, rfl⟩
      refine ⟨constant :: before, after, rfl, ?_, by simp [Nat.add_assoc]⟩
      rintro (_ | ⟨_, member⟩)
      · exact other ⟨bytes⟩ rfl
      · exact earlier member

/--
The index of a text is that of the first entry with the canonical encoding of
the text.
-/
theorem findText?_eq_some {pool : Pool} {text : String} {index : UInt16}
    (search : pool.findText? text = some index) :
    ∃ before after,
      pool.entries.toList = before ++ .utf8 (.ofText text) :: after ∧
        .utf8 (.ofText text) ∉ before ∧
          index.toNat = totalWidth before + 1 := by
  rcases Option.map_eq_some_iff.1 search with ⟨found, searched, rfl⟩
  rcases findBytes?_eq_some searched with ⟨before, after, split, earlier, rfl⟩
  refine ⟨before, after, split, earlier, ?_⟩
  have width := pool.width_eq_totalWidth
  have bound : pool.width ≤ 65534 := pool.width_le
  rw [split, totalWidth_append, totalWidth_cons] at width
  have small : 1 + totalWidth before < 65536 := by omega
  rw [Nat.toUInt16_eq, UInt16.toNat_ofNat_of_lt' small, Nat.add_comm]

/-- The first of the entries which hold the bytes is found. -/
theorem findBytes?_of_first
    {bytes : List UInt8} {index : Nat} {before others : List Constant}
    (earlier : .utf8 ⟨bytes⟩ ∉ before) :
    findBytes? bytes index (before ++ .utf8 ⟨bytes⟩ :: others) =
      some (index + totalWidth before) := by
  induction before generalizing index with
  | nil => simp [findBytes?]
  | cons constant between hypothesis =>
      rw [List.mem_cons, not_or] at earlier
      rw [List.cons_append, totalWidth_cons, ← Nat.add_assoc]
      cases constant with
      | utf8 text =>
          have different : ¬text.bytes = bytes := by
            rintro rfl
            exact earlier.1 rfl
          rw [findBytes?, if_neg different]
          exact hypothesis earlier.2
      | _ => exact hypothesis earlier.2

/--
The index of the first entry with the canonical encoding of a text is that of
the text.
-/
theorem findText?_of_first
    {pool : Pool} {text : String} {index : UInt16}
    {before others : List Constant}
    (split : pool.entries.toList = before ++ .utf8 (.ofText text) :: others)
    (earlier : .utf8 (.ofText text) ∉ before)
    (counted : index.toNat = totalWidth before + 1) :
    pool.findText? text = some index := by
  have found :
      findBytes? (ModifiedUtf8.ofText text).bytes 1 pool.entries.toList =
        some index.toNat := by
    rw [split, counted, Nat.add_comm]
    exact findBytes?_of_first earlier
  exact Option.map_eq_some_iff.2 ⟨_, found, UInt16.ofNat_toNat⟩

/--
The index of a text names an entry with the canonical encoding of the text.
-/
theorem get?_of_findText? {pool : Pool} {text : String} {index : UInt16}
    (search : pool.findText? text = some index) :
    pool.get? index = some (.utf8 (.ofText text)) := by
  rcases findText?_eq_some search with ⟨before, after, split, -, counted⟩
  exact get?_eq_some_iff_totalWidth.2 ⟨before, after, split, counted⟩

theorem findBytes?_eq_none_iff
    {bytes : List UInt8} {index : Nat} {constants : List Constant} :
    findBytes? bytes index constants = none ↔ .utf8 ⟨bytes⟩ ∉ constants := by
  fun_induction findBytes? bytes index constants with
  | case1 => simp
  | case2 index others text same =>
      subst same
      simp
  | case3 index others text different hypothesis =>
      have other : Constant.utf8 ⟨bytes⟩ ≠ .utf8 text := by
        intro equal
        cases equal
        exact different rfl
      rw [hypothesis, List.mem_cons, not_or]
      exact (and_iff_right other).symm
  | case4 index constant others other hypothesis =>
      rw [hypothesis, List.mem_cons, not_or]
      exact (and_iff_right fun same => other ⟨bytes⟩ same.symm).symm

/-- A text has no index exactly if no entry holds its canonical encoding. -/
theorem findText?_eq_none_iff {pool : Pool} {text : String} :
    pool.findText? text = none ↔
      .utf8 (.ofText text) ∉ pool.entries.toList := by
  rw [findText?, Option.map_eq_none_iff, findBytes?_eq_none_iff]

/-- Adding a text either finds it, and changes nothing, or appends it. -/
theorem intern_eq_ok {pool after : Pool} {text : String} {index : UInt16}
    (interned : pool.intern text = .ok (index, after)) :
    (pool.findText? text = some index ∧ after = pool) ∨
      pool.add (.utf8 (.ofText text)) = .ok (index, after) := by
  simp only [intern] at interned
  split at interned
  · next found =>
      cases interned
      exact Or.inl ⟨found, rfl⟩
  · exact Or.inr interned

/-- Adding a text appends it exactly if no entry holds it. -/
theorem entries_of_intern {pool after : Pool} {text : String} {index : UInt16}
    (interned : pool.intern text = .ok (index, after)) :
    (.utf8 (.ofText text) ∉ pool.entries.toList →
      after.entries.toList = pool.entries.toList ++ [.utf8 (.ofText text)]) ∧
    (.utf8 (.ofText text) ∈ pool.entries.toList → after = pool) := by
  rw [intern] at interned
  cases search : pool.findText? text with
  | none =>
      rw [search] at interned
      rcases add_eq_ok_iff.1 interned with ⟨fits, -, rfl⟩
      exact ⟨fun _ => toList_entries_push pool _ fits,
        fun present => absurd present (findText?_eq_none_iff.1 search)⟩
  | some found =>
      rw [search] at interned
      cases interned
      have present : .utf8 (.ofText text) ∈ pool.entries.toList := by
        rw [← Decidable.not_not (p := _ ∈ _), ← findText?_eq_none_iff, search]
        nofun
      exact ⟨fun missing => absurd present missing, fun _ => rfl⟩

/--
Adding a text fails if no entry holds it and there is no index left for it.
-/
theorem intern_eq_error_iff {pool : Pool} {text : String}
    {fault : FormatFault} :
    pool.intern text = .error fault ↔
      .utf8 (.ofText text) ∉ pool.entries.toList ∧ pool.width = 65534 ∧
        fault = .tooLarge ⟨.pool, 65536⟩ := by
  rw [← findText?_eq_none_iff, intern]
  cases search : pool.findText? text with
  | some found => simp
  | none =>
      have bound : pool.width ≤ 65534 := pool.width_le
      have full : ¬pool.Fits (.utf8 (.ofText text)) ↔ pool.width = 65534 := by
        show ¬pool.width + 1 ≤ 65534 ↔ _
        omega
      simp only [add_eq_error_iff, full, true_and]
      refine and_congr_right fun exhausted => ?_
      rw [noRoom, exhausted]
      rfl

/-- After a text was added it is found at its index. -/
theorem get?_of_intern {pool after : Pool} {text : String} {index : UInt16}
    (interned : pool.intern text = .ok (index, after)) :
    after.get? index = some (.utf8 (.ofText text)) := by
  rcases intern_eq_ok interned with ⟨found, rfl⟩ | added
  · exact get?_of_findText? found
  · rcases add_eq_ok_iff.1 added with ⟨fits, rfl, rfl⟩
    exact get?_push_nextIndex pool (.utf8 (.ofText text)) fits

/-! ## Exchanging constants -/

theorem toList_entries_update
    {pool : Pool} {index : UInt16} {old new : Constant}
    {before after : List Constant}
    (found : pool.get? index = some old) (sameWidth : old.width = new.width)
    (split : pool.entries.toList = before ++ old :: after)
    (counted : index.toNat = totalWidth before + 1) :
    (pool.update index old new found sameWidth).entries.toList =
      before ++ new :: after := by
  have located : pool.position? index = some before.length := by
    apply position?_eq_some_iff.2
    constructor
    · rintro rfl
      simp at counted
    · apply getElem?_layout_eq_some_iff.2
      exact ⟨before, old, after, split, (Nat.zero_add _).symm, by omega⟩
  simp only [update]
  split
  · next missing =>
      rw [located] at missing
      cases missing
  · next position present =>
      rw [located] at present
      cases present
      simp [replaceAt, split]

/-- An exchanged constant is found at the index of the old one. -/
theorem get?_update_self
    {pool : Pool} {index : UInt16} {old new : Constant}
    (found : pool.get? index = some old) (sameWidth : old.width = new.width) :
    (pool.update index old new found sameWidth).get? index = some new := by
  rcases get?_eq_some_iff_totalWidth.1 found with
    ⟨before, after, split, counted⟩
  apply get?_eq_some_iff_totalWidth.2
  exact ⟨before, after, toList_entries_update found sameWidth split counted,
    counted⟩

/--
Where two pools differ in one constant only, whose width is the same, they agree
elsewhere.
-/
theorem get?_eq_some_of_exchanged
    {first second : Pool} {old new held : Constant}
    {before after : List Constant}
    {other : UInt16}
    (firstSplit : first.entries.toList = before ++ old :: after)
    (secondSplit : second.entries.toList = before ++ new :: after)
    (sameWidth : old.width = new.width)
    (elsewhere : other.toNat ≠ totalWidth before + 1)
    (found : first.get? other = some held) : second.get? other = some held := by
  rcases get?_eq_some_iff_totalWidth.1 found with ⟨front, back, split, counted⟩
  apply get?_eq_some_iff_totalWidth.2
  rw [firstSplit] at split
  rcases List.append_eq_append_iff.1 split with
    ⟨between, rfl, rest⟩ | ⟨between, rfl, rest⟩
  · cases between with
    | nil => exact absurd counted (by simpa using elsewhere)
    | cons head tail =>
        cases rest
        refine ⟨before ++ new :: tail, back, ?_, ?_⟩
        · rw [secondSplit, List.append_assoc]
          rfl
        · rw [counted]
          simp [sameWidth]
  · cases between with
    | nil => exact absurd counted (by simpa using elsewhere)
    | cons head tail =>
        cases rest
        refine ⟨front, tail ++ new :: after, ?_, counted⟩
        rw [secondSplit, List.append_assoc, List.cons_append]

/-- An exchange leaves all other indices alone. -/
theorem get?_update_of_ne
    {pool : Pool} {index other : UInt16} {old new : Constant}
    (found : pool.get? index = some old) (sameWidth : old.width = new.width)
    (different : other ≠ index) :
    (pool.update index old new found sameWidth).get? other =
      pool.get? other := by
  rcases get?_eq_some_iff_totalWidth.1 found with
    ⟨before, after, split, counted⟩
  have exchanged := toList_entries_update found sameWidth split counted
  have elsewhere : other.toNat ≠ totalWidth before + 1 := by
    intro same
    exact different (UInt16.toNat_inj.1 (same.trans counted.symm))
  ext held
  constructor
  · exact get?_eq_some_of_exchanged exchanged split sameWidth.symm elsewhere
  · exact get?_eq_some_of_exchanged split exchanged sameWidth elsewhere

/-- Renaming a class changes the constant at its index and no other. -/
theorem get?_of_setClassRef
    {pool after : Pool} {index name : UInt16}
    (renamed : pool.setClassRef index name = .ok after) :
    (∃ old, pool.get? index = some (.classRef old)) ∧
      after.get? index = some (.classRef name) ∧
        ∀ other, other ≠ index → after.get? other = pool.get? other := by
  simp only [setClassRef] at renamed
  split at renamed
  · next old found =>
      cases renamed
      exact ⟨⟨old, found⟩, get?_update_self found _,
        fun other different => get?_update_of_ne found _ different⟩
  · cases renamed

/--
Rewriting a pair of a name and a descriptor changes the constant at its index
and no other.
-/
theorem get?_of_setNameAndType
    {pool after : Pool} {index name descriptor : UInt16}
    (rewritten : pool.setNameAndType index name descriptor = .ok after) :
    (∃ oldName oldDescriptor,
      pool.get? index = some (.nameAndType oldName oldDescriptor)) ∧
      after.get? index = some (.nameAndType name descriptor) ∧
        ∀ other, other ≠ index → after.get? other = pool.get? other := by
  simp only [setNameAndType] at rewritten
  split at rewritten
  · next oldName oldDescriptor found =>
      cases rewritten
      exact ⟨⟨oldName, oldDescriptor, found⟩, get?_update_self found _,
        fun other different => get?_update_of_ne found _ different⟩
  · cases rewritten

/-! ## What edits keep -/

/-- An index which names a class whose name can be told. -/
def NamesClass (pool : Pool) (index : UInt16) : Prop :=
  ∃ name text, pool.get? index = some (.classRef name) ∧
    pool.get? name = some (.utf8 text)

theorem classRef_eq_ok_iff {pool : Pool} {index name : UInt16} :
    pool.classRef index = .ok name ↔
      pool.get? index = some (.classRef name) := by
  simp only [classRef]
  split
  · next found => simp [found]
  · next other =>
      constructor
      · intro resolved
        cases resolved
      · intro found
        exact absurd found (other name)

/-- The name of a class is the path which the index inside of it leads to. -/
theorem className_eq_ok_iff {pool : Pool} {index : UInt16}
    {written : WrittenType} :
    pool.className index = .ok written ↔
      ∃ name entry, pool.get? index = some (.classRef name) ∧
        pool.get? name = some (.utf8 entry) ∧ .path entry.text = written := by
  constructor
  · intro named
    rcases Decoder.bind_eq_ok named with ⟨name, resolved, named⟩
    rcases Decoder.bind_eq_ok named with ⟨path, told, done⟩
    rcases text_eq_ok_iff.1 told with ⟨entry, found, rfl⟩
    cases done
    exact ⟨name, entry, classRef_eq_ok_iff.1 resolved, found, rfl⟩
  · rintro ⟨name, entry, found, told, rfl⟩
    rw [className, classRef_eq_ok_iff.2 found]
    show (pool.text name >>= fun path => pure (WrittenType.path path)) = _
    rw [text_eq_ok_iff.2 ⟨entry, told, rfl⟩]
    rfl

/-- Exactly the indices of classes whose name can be told have a name. -/
theorem namesClass_iff {pool : Pool} {index : UInt16} :
    pool.NamesClass index ↔ ∃ written, pool.className index = .ok written := by
  constructor
  · rintro ⟨name, entry, found, told⟩
    exact ⟨.path entry.text,
      className_eq_ok_iff.2 ⟨name, entry, found, told, rfl⟩⟩
  · rintro ⟨written, named⟩
    rcases className_eq_ok_iff.1 named with ⟨name, entry, found, told, -⟩
    exact ⟨name, entry, found, told⟩

/--
A pool in which the texts and the names of classes of another one are still to
be found.
-/
structure Keeps (after before : Pool) : Prop where
  texts : ∀ {index : UInt16} {text : ModifiedUtf8},
    before.get? index = some (.utf8 text) → after.get? index = some (.utf8 text)
  classes : ∀ {index : UInt16}, before.NamesClass index → after.NamesClass index

namespace Keeps

theorem refl (pool : Pool) : pool.Keeps pool where
  texts := id
  classes := id

/-- Whatever was found is still found, so all of it is kept. -/
theorem of_get? {after before : Pool}
    (all : ∀ {index : UInt16} {constant : Constant},
      before.get? index = some constant → after.get? index = some constant) :
    after.Keeps before where
  texts := all
  classes := by
    rintro index ⟨name, text, named, told⟩
    exact ⟨name, text, all named, all told⟩

theorem of_add {pool after : Pool} {constant : Constant} {index : UInt16}
    (added : pool.add constant = .ok (index, after)) : after.Keeps pool := by
  rcases add_eq_ok_iff.1 added with ⟨fits, -, rfl⟩
  exact of_get? (get?_push_of_some fits)

theorem of_intern {pool after : Pool} {text : String} {index : UInt16}
    (interned : pool.intern text = .ok (index, after)) : after.Keeps pool := by
  rcases intern_eq_ok interned with ⟨-, rfl⟩ | added
  · exact refl after
  · exact of_add added

/--
Texts are not rewritten, so a class may be given any name which can be told.
-/
theorem of_setClassRef {pool after : Pool} {index name : UInt16}
    {text : ModifiedUtf8} (told : pool.get? name = some (.utf8 text))
    (renamed : pool.setClassRef index name = .ok after) : after.Keeps pool := by
  rcases get?_of_setClassRef renamed with ⟨⟨old, found⟩, named, others⟩
  have texts {place : UInt16} {entry : ModifiedUtf8}
      (present : pool.get? place = some (.utf8 entry)) :
      after.get? place = some (.utf8 entry) := by
    have different : place ≠ index := by
      rintro rfl
      rw [found] at present
      cases present
    rwa [others place different]
  refine ⟨texts, ?_⟩
  rintro place ⟨other, entry, present, toldOther⟩
  by_cases same : place = index
  · exact ⟨name, text, same ▸ named, texts told⟩
  · exact ⟨other, entry, (others place same).trans present, texts toldOther⟩

/-- Neither texts nor classes are pairs of a name and a descriptor. -/
theorem of_setNameAndType {pool after : Pool} {index name descriptor : UInt16}
    (rewritten : pool.setNameAndType index name descriptor = .ok after) :
    after.Keeps pool := by
  rcases get?_of_setNameAndType rewritten with
    ⟨⟨oldName, oldDescriptor, found⟩, -, others⟩
  have untouched {place : UInt16} {constant : Constant}
      (present : pool.get? place = some constant)
      (kind : constant.kind ≠ .nameAndType) :
      after.get? place = some constant := by
    have different : place ≠ index := by
      rintro rfl
      rw [found] at present
      cases present
      exact kind rfl
    rwa [others place different]
  refine ⟨fun present => untouched present nofun, ?_⟩
  rintro place ⟨other, entry, present, told⟩
  exact ⟨other, entry, untouched present nofun, untouched told nofun⟩

end Keeps

end Pool

end ClassFormat
