import Mathlib.Data.List.Nodup
import ClassFormat.Proofs.Pool.Walk
import ClassFormat.Proofs.Text.ModifiedUtf8

/-!
# What interning promises

The index which the scan for a text has counted is the one under which the text
is looked up, and it belongs to the first entry with the canonical encoding of
the text.  So to intern a text again changes nothing, and a pool in which texts
were interned and nothing else never stores a text a second time.
-/

namespace ClassFormat

/-- The text which an entry holds, if it is one for a text. -/
def Constant.text? : Constant → Option ModifiedUtf8
  | .utf8 text => some text
  | _ => none

namespace Pool

/-! ## The index of a text -/

/--
What it means that interning a text gave an index and a pool.  The text is read
at the index, which is that of the first entry with the canonical encoding of
the text.  If there was such an entry nothing has changed; otherwise this one
entry was appended.  To intern the text again gives the same index and changes
nothing.
-/
structure Interned (pool : Pool) (text : String) (index : UInt16)
    (after : Pool) : Prop where
  reads : after.text index = .ok text
  first : ∃ before others,
    after.entries.toList = before ++ .utf8 (.ofText text) :: others ∧
      .utf8 (.ofText text) ∉ before ∧ index.toNat = totalWidth before + 1
  unchanged : .utf8 (.ofText text) ∈ pool.entries.toList → after = pool
  appended : .utf8 (.ofText text) ∉ pool.entries.toList →
    after.entries.toList = pool.entries.toList ++ [.utf8 (.ofText text)] ∧
      index.toNat = pool.width + 1
  again : after.intern text = .ok (index, after)

/--
An interned text has the index of the first entry with its canonical encoding.
-/
theorem first_of_intern {pool after : Pool} {text : String} {index : UInt16}
    (computed : pool.intern text = .ok (index, after)) :
    ∃ before others,
      after.entries.toList = before ++ .utf8 (.ofText text) :: others ∧
        .utf8 (.ofText text) ∉ before ∧
          index.toNat = totalWidth before + 1 := by
  rw [intern] at computed
  cases search : pool.findText? text with
  | some found =>
      rw [search] at computed
      cases computed
      exact findText?_eq_some search
  | none =>
      rw [search] at computed
      rcases add_eq_ok_iff.1 computed with ⟨fits, rfl, rfl⟩
      refine ⟨pool.entries.toList, [], toList_entries_push pool _ fits,
        findText?_eq_none_iff.1 search, ?_⟩
      rw [toNat_nextIndex fits, width_eq_totalWidth]

/-- A text which is missing is given the index after all others. -/
theorem toNat_of_intern {pool after : Pool} {text : String} {index : UInt16}
    (computed : pool.intern text = .ok (index, after))
    (missing : .utf8 (.ofText text) ∉ pool.entries.toList) :
    index.toNat = pool.width + 1 := by
  rw [intern, findText?_eq_none_iff.2 missing] at computed
  rcases add_eq_ok_iff.1 computed with ⟨fits, rfl, -⟩
  exact toNat_nextIndex fits

theorem interned_of_intern {pool after : Pool} {text : String} {index : UInt16}
    (computed : pool.intern text = .ok (index, after)) :
    Interned pool text index after where
  reads :=
    text_eq_ok_iff.2 ⟨_, get?_of_intern computed, ModifiedUtf8.text_ofText text⟩
  first := first_of_intern computed
  unchanged := (entries_of_intern computed).2
  appended missing :=
    ⟨(entries_of_intern computed).1 missing, toNat_of_intern computed missing⟩
  again := by
    rcases first_of_intern computed with
      ⟨before, others, split, earlier, counted⟩
    rw [intern, findText?_of_first split earlier counted]

/-! ## No text twice -/

/-- The texts which the entries hold, in their order. -/
def texts (pool : Pool) : List ModifiedUtf8 :=
  pool.entries.toList.filterMap Constant.text?

theorem mem_texts_iff {pool : Pool} {text : ModifiedUtf8} :
    text ∈ pool.texts ↔ .utf8 text ∈ pool.entries.toList := by
  rw [texts, List.mem_filterMap]
  constructor
  · rintro ⟨constant, member, held⟩
    cases constant with
    | utf8 other =>
        cases held
        exact member
    | _ => cases held
  · intro member
    exact ⟨.utf8 text, member, rfl⟩

/-- Interning a text stores nothing that is stored already. -/
theorem nodup_texts_of_intern {pool after : Pool} {text : String}
    {index : UInt16} (distinct : pool.texts.Nodup)
    (computed : pool.intern text = .ok (index, after)) :
    after.texts.Nodup := by
  by_cases present : .utf8 (.ofText text) ∈ pool.entries.toList
  · rw [(entries_of_intern computed).2 present]
    exact distinct
  · have extended : after.texts = pool.texts.concat (.ofText text) := by
      rw [texts, (entries_of_intern computed).1 present, List.filterMap_append,
        List.concat_eq_append]
      rfl
    rw [extended]
    exact List.Nodup.concat (fun stored => present (mem_texts_iff.1 stored))
      distinct

/-- Texts which were interned one after another are stored once each. -/
theorem nodup_texts_performAll
    {pool : Pool} (interned : List String) (distinct : pool.texts.Nodup) :
    (Operation.performAll pool (interned.map .intern)).texts.Nodup := by
  induction interned generalizing pool with
  | nil => exact distinct
  | cons text others hypothesis =>
      apply hypothesis
      rw [Operation.perform]
      cases computed : pool.intern text with
      | error fault => exact distinct
      | ok given => exact nodup_texts_of_intern distinct computed

/--
To intern a text in place comes to `intern`, so that the count of the scan never
leaves its sixteen bits and a failure changes nothing.  Either there is an
index, with all that this promises, or the text is missing and no index is left.
A pool in which texts were interned and nothing else never stores a text twice,
whatever the texts are and whether or not there was room for all of them.
-/
theorem intern_deduplicates :
    (∀ (pool : Pool) (text : String),
      (InPlace.internText text).run pool.tables =
        InPlace.ending pool (pool.intern text) ∧
        ((∃ index after,
            pool.intern text = .ok (index, after) ∧
              Interned pool text index after) ∨
          (pool.intern text = .error (.tooLarge ⟨.pool, 65536⟩) ∧
            .utf8 (.ofText text) ∉ pool.entries.toList ∧ pool.width = 65534))) ∧
      ∀ interned : List String,
        (Operation.performAll empty (interned.map .intern)).texts.Nodup := by
  refine ⟨?_, fun interned => nodup_texts_performAll interned List.nodup_nil⟩
  intro pool text
  refine ⟨InPlace.run_internText pool text, ?_⟩
  cases computed : pool.intern text with
  | ok given =>
      exact Or.inl ⟨given.1, given.2, rfl, interned_of_intern computed⟩
  | error fault =>
      rcases intern_eq_error_iff.1 computed with ⟨missing, full, rfl⟩
      exact Or.inr ⟨rfl, missing, full⟩

/--
A text with a NUL and a character of two units is found behind a wide constant.
-/
theorem intern_deduplicates_sample :
    let pool := Operation.performAll empty [.add (.long 0 1), .intern "\u0000𝄞"]
    (InPlace.internText "\u0000𝄞").run pool.tables = .ok 3 pool.tables ∧
      pool.text 3 = .ok "\u0000𝄞" := by
  intro pool
  have present : .utf8 (.ofText "\u0000𝄞") ∈ pool.entries.toList := by
    decide +kernel
  have third : pool.findText? "\u0000𝄞" = some 3 := by decide +kernel
  rcases intern_deduplicates.1 pool "\u0000𝄞" with
    ⟨ran, ⟨index, after, computed, interned⟩ | ⟨-, missing, -⟩⟩
  · rcases interned.unchanged present with rfl
    have same : index = 3 := by
      rw [intern, third] at computed
      cases computed
      rfl
    subst same
    exact ⟨ran.trans (congrArg _ computed), interned.reads⟩
  · exact absurd present missing

end Pool

end ClassFormat
