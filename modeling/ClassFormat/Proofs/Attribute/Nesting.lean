import Mathlib.Logic.Function.Iterate
import ClassFormat.Proofs.Attribute.Extents

/-!
# How deep attributes are nested

To read an attribute may mean to read the attributes inside of its code, and so
on.  What is inside is read from the payload behind the start of the code, and
from what is left behind each attribute there.  All of this is shorter than the
record by at least 18 bytes: six in front of the payload, and twelve which the
start of some code takes even where it has no instructions and no handlers.  So
one reading inside of another one is never followed by more than there are 18
bytes for.

This is said in three ways: of the places where reading goes on, of a reader who
gives up at some depth, and of what is read in the end.
-/

namespace ClassFormat

open Decoder

namespace Decoder

/--
Two decoders read the same values if they agree at each place which the second
one comes to.
-/
theorem manyOnto_congr {α : Type} {first second : Decoder α}
    {reached : List UInt8 → Prop}
    (onwards : ∀ {part left value}, reached part →
      second part = .ok (value, left) → reached left)
    (agree : ∀ part, reached part → first part = second part) {count : Nat}
    {before : List α} {input : List UInt8} (start : reached input) :
    manyOnto first count before input = manyOnto second count before input := by
  induction count generalizing before input with
  | zero => rfl
  | succ count hypothesis =>
      rw [manyOnto_succ, manyOnto_succ, andThen, andThen, agree input start]
      cases read : second input with
      | error stop => rfl
      | ok found => exact hypothesis (onwards start read)

end Decoder

/-! ## The least size of what has code inside -/

theorem Code.size_plan (code : Code) : 10 ≤ code.plan.size := by
  show 10 ≤ 4 + 4 + code.instructions.length + (2 + _)
  omega

/-- The start of some code takes twelve bytes at least. -/
theorem AttributeRecord.length_add_le_of_opened {record : AttributeRecord}
    {pool : Pool} {body : Code} {count : UInt16} {inner : List UInt8}
    (opens : record.opened pool = .ok (.code body count inner)) :
    inner.length + 12 ≤ record.payload.length := by
  rcases (code_of_opened opens).1 with ⟨taken, whole, split⟩
  have follows := body.follows_encode.append (Encoding.follows_u16 count)
  have size : taken.length = body.plan.size + 2 := (follows.told taken whole).1
  have least := body.size_plan
  rw [split, List.length_append]
  omega

namespace Attribute

/-! ## Places where reading goes on -/

/--
The places where the attributes inside of some code are read, for the attribute
in front of some bytes: behind the start of the code, and behind each attribute
which is read at such a place.
-/
inductive ReadInside (pool : Pool) (input : List UInt8) :
    List UInt8 → Prop where
  | first {record : AttributeRecord} {rest inner : List UInt8}
      {body : Code} {count : UInt16}
      (cut : AttributeRecord.decode input = .ok (record, rest))
      (opens : record.opened pool = .ok (.code body count inner)) :
      ReadInside pool input inner
  | next {part left : List UInt8} {attr : Attribute}
      (before : ReadInside pool input part)
      (read : decode pool part = .ok (attr, left)) : ReadInside pool input left

variable {pool : Pool} {input part rest : List UInt8}

/--
What is read inside of a record lies in its payload, behind the start of the
code.
-/
theorem ReadInside.length_add_le (inside : ReadInside pool input part)
    {record : AttributeRecord}
    (cut : AttributeRecord.decode input = .ok (record, rest)) :
    part.length + 12 ≤ record.payload.length := by
  induction inside with
  | first sameCut opens =>
      cases sameCut.symm.trans cut
      exact AttributeRecord.length_add_le_of_opened opens
  | next before read hypothesis =>
      have shorter := (spans_decode read).1.length_le
      omega

theorem ReadInside.exists_cut (inside : ReadInside pool input part) :
    ∃ record rest, AttributeRecord.decode input = .ok (record, rest) := by
  induction inside with
  | first cut opens => exact ⟨_, _, cut⟩
  | next before read hypothesis => exact hypothesis

/-- Reading goes on inside only where there are 18 bytes less. -/
theorem ReadInside.length_add_le_input (inside : ReadInside pool input part) :
    part.length + 18 ≤ input.length := by
  rcases inside.exists_cut with ⟨record, rest, cut⟩
  have within := inside.length_add_le cut
  have whole := AttributeRecord.length_of_decode cut
  omega

theorem wellFounded_readInside (pool : Pool) :
    WellFounded fun part input => ReadInside pool input part := by
  refine Subrelation.wf ?_ (measure List.length).wf
  intro part input inside
  have shorter := inside.length_add_le_input
  show part.length < input.length
  omega

end Attribute

/-! ## Reading with another reader inside -/

/--
The attribute of a record, where the attributes inside of code are left to a
decoder.
-/
def AttributeRecord.readWith (record : AttributeRecord) (pool : Pool)
    (inside : Decoder Attribute) :
    Except FormatFault Attribute := do
  match ← record.opened pool with
  | .whole attr => return attr
  | .code body count inner =>
    let (nested, left) ← sealed (many count.toNat inside) inner
    record.finish .code (.code record.name body nested) left

namespace Attribute

/--
Read an attribute, where the attributes inside of code are left to a decoder.
-/
def decodeWith (pool : Pool) (inside : Decoder Attribute) :
    Decoder Attribute := fun input => do
  let (record, rest) ← AttributeRecord.decode input
  let attr ← (record.readWith pool inside).mapError .fault
  return (attr, rest)

/--
To read an attribute is to read the attributes inside of it in the same way.
-/
theorem decodeWith_decode (pool : Pool) :
    decodeWith pool (decode pool) = decode pool := by
  have same (record : AttributeRecord) : record.readWith pool (decode pool) =
      record.read pool := by
    rw [AttributeRecord.readWith]
    cases opens : record.opened pool with
    | error fault => exact (AttributeRecord.read_of_error opens).symm
    | ok opened =>
        cases opened with
        | whole attr => exact (AttributeRecord.read_of_whole opens).symm
        | code body count inner =>
            have reads := AttributeRecord.read_of_code opens
            rw [decodeOnto_eq_manyOnto] at reads
            exact reads.symm
  funext input
  simp only [decodeWith, same]
  rfl

/--
Nothing matters of a reader for what is inside but what it does at the places
where it is asked.
-/
theorem decodeWith_congr {inside : Decoder Attribute}
    (agrees : ∀ part, ReadInside pool input part →
      inside part = decode pool part) :
    decodeWith pool inside input = decode pool input := by
  rw [← decodeWith_decode pool, decodeWith, decodeWith]
  cases cut : AttributeRecord.decode input with
  | error stop => rfl
  | ok found =>
      rcases found with ⟨record, rest⟩
      have same : record.readWith pool inside =
          record.readWith pool (decode pool) := by
        rw [AttributeRecord.readWith, AttributeRecord.readWith]
        cases opens : record.opened pool with
        | error fault => rfl
        | ok opened =>
            cases opened with
            | whole attr => rfl
            | code body count inner =>
                have alike : manyOnto inside count.toNat [] inner =
                    manyOnto (decode pool) count.toNat [] inner :=
                  manyOnto_congr .next agrees (.first cut opens)
                simp only [bind, Except.bind, sealed, many, alike]
      show ((record.readWith pool inside).mapError Stop.fault >>= _) =
        ((record.readWith pool (decode pool)).mapError Stop.fault >>= _)
      rw [same]

/--
A reader who enters code only to some depth, and does whatever it likes below,
reads everything like a reader without a bound for which the bytes do not
suffice to go deeper.
-/
theorem iterate_decodeWith {limit : Nat} (below : Decoder Attribute)
    (short : input.length < 18 * limit) :
    (decodeWith pool)^[limit] below input = decode pool input := by
  -- One more level of code takes 18 bytes of the input and one application of
  -- `decodeWith`.
  induction limit generalizing input with
  | zero => omega
  | succ limit hypothesis =>
      rw [Function.iterate_succ_apply']
      apply decodeWith_congr
      intro part inside
      have shorter := inside.length_add_le_input
      exact hypothesis (by omega)

/-! ## What is read in the end -/

mutual

/--
The number of codes inside of one another, an attribute itself being the
outermost one.
-/
def codeDepth : Attribute → Nat
  | plain _ _ => 0
  | code _ _ nested => greatestCodeDepth nested + 1

/-- The greatest number of codes inside of one another among some attributes. -/
def greatestCodeDepth : List Attribute → Nat
  | [] => 0
  | first :: others => max first.codeDepth (greatestCodeDepth others)

end

/--
If codes inside of one another take 18 bytes each in every attribute, they do so
in all together.
-/
theorem greatestCodeDepth_le {attributes : List Attribute}
    (each : ∀ attr ∈ attributes,
      18 * attr.codeDepth ≤ (Plan.record attr.payload).size) :
    18 * greatestCodeDepth attributes ≤ (records attributes).size := by
  induction attributes with
  | nil => exact Nat.zero_le _
  | cons attr others hypothesis =>
      rw [List.forall_mem_cons] at each
      have ofFirst := each.1
      have ofOthers := hypothesis each.2
      show 18 * max _ _ ≤
        (Plan.record attr.payload).size + (records others).size
      omega

theorem codeDepth_le (attr : Attribute) :
    18 * attr.codeDepth ≤ (Plan.record attr.payload).size := by
  induction attr with
  | plain name content => exact Nat.zero_le _
  | code name body nested hypothesis =>
      have inside := greatestCodeDepth_le hypothesis
      have start := body.size_plan
      show 18 * (greatestCodeDepth nested + 1) ≤
        6 + (body.plan.size + (2 + (records nested).size))
      omega

/--
Where an attribute was read, there are 18 bytes for each code inside of another
one.
-/
theorem codeDepth_le_of_decode {attr : Attribute}
    (read : decode pool input = .ok (attr, rest)) :
    ∃ taken, input = taken ++ rest ∧ 18 * attr.codeDepth ≤ taken.length := by
  rcases (spans_decode read).1 with ⟨taken, whole, split⟩
  refine ⟨taken, split, ?_⟩
  rw [(attr.follows_encode.told taken whole).1]
  exact attr.codeDepth_le

/--
To read attributes, those inside of code included, comes to an end, and the
depth is bounded by the number of bytes.  Attributes are read one by one.  While
one is read, others are read only at the places inside, a relation without
infinite descent; their payloads are shorter than the one around them by 18
bytes or more.  A reader who enters code to a limited depth only is as good if
the bytes are too few for a greater depth.  And what is read from a record has
no more codes inside of one another than there are 18 bytes for.
-/
theorem nesting_is_bounded (pool : Pool) :
    (∀ before count,
        decodeOnto pool before count = manyOnto (decode pool) count before) ∧
      (∀ (inside : Decoder Attribute) (input : List UInt8),
        (∀ part, ReadInside pool input part → inside part = decode pool part) →
          decodeWith pool inside input = decode pool input) ∧
      (WellFounded fun part input => ReadInside pool input part) ∧
      (∀ {input part rest left : List UInt8} {outer inner : AttributeRecord},
        ReadInside pool input part →
          AttributeRecord.decode input = .ok (outer, rest) →
          AttributeRecord.decode part = .ok (inner, left) →
            inner.payload.length + 18 ≤ outer.payload.length) ∧
      (∀ (limit : Nat) (below : Decoder Attribute) (input : List UInt8),
        input.length < 18 * limit →
          (decodeWith pool)^[limit] below input = decode pool input) ∧
      ∀ {input rest : List UInt8} {attr : Attribute},
        decode pool input = .ok (attr, rest) →
          ∃ taken, input = taken ++ rest ∧
            18 * attr.codeDepth ≤ taken.length := by
  refine ⟨decodeOnto_eq_manyOnto pool,
    fun _ _ agrees => decodeWith_congr agrees, wellFounded_readInside pool, ?_,
    fun _ below _ short => iterate_decodeWith below short,
    codeDepth_le_of_decode⟩
  intro input part rest left outer inner inside cutOuter cutInner
  have within := inside.length_add_le cutOuter
  have whole := AttributeRecord.length_of_decode cutInner
  omega

/-- A pool which holds the name of code only. -/
def nestingPool : Pool :=
  Pool.empty.push (.utf8 (.ofText "Code")) (by decide)

/-- Code without instructions, and inside of it the same once more. -/
def nestedBytes : List UInt8 :=
  [0, 1, 0, 0, 0, 30, 0, 0, 0, 0, 0, 0, 0, 0, 0, 0, 0, 1,
   0, 1, 0, 0, 0, 12, 0, 0, 0, 0, 0, 0, 0, 0, 0, 0, 0, 0]

/--
The bound is reached: two codes take 36 bytes, and a reader who stops at depth
three reads both.
-/
theorem nesting_is_bounded_sample :
    let empty : Code :=
      { maxStack := 0, maxLocals := 0, instructions := [], handlers := [] }
    let nested : Attribute := .code 1 empty [.code 1 empty []]
    decode nestingPool nestedBytes = .ok (nested, []) ∧ nested.codeDepth = 2 ∧
      18 * nested.codeDepth ≤ nestedBytes.length ∧
      (decodeWith nestingPool)^[3] (fun _ => .error .early) nestedBytes =
        .ok (nested, []) ∧
      ReadInside nestingPool nestedBytes (nestedBytes.drop 18) ∧
        12 + 18 ≤ 30 := by
  intro empty nested
  have read : decode nestingPool nestedBytes = .ok (nested, []) := by
    decide +kernel
  have cutOuter : AttributeRecord.decode nestedBytes =
      .ok (⟨1, nestedBytes.drop 6⟩, []) := by
    decide +kernel
  have cutInner : AttributeRecord.decode (nestedBytes.drop 18) =
      .ok (⟨1, nestedBytes.drop 24⟩, []) := by decide +kernel
  have opens : AttributeRecord.opened ⟨1, nestedBytes.drop 6⟩ nestingPool =
      .ok (.code empty 1 (nestedBytes.drop 18)) := by decide +kernel
  have inside : ReadInside nestingPool nestedBytes (nestedBytes.drop 18) :=
    .first cutOuter opens
  rcases nesting_is_bounded nestingPool with
    ⟨-, -, -, shrinks, bounded, reached⟩
  rcases reached read with ⟨taken, whole, least⟩
  rw [List.append_nil] at whole
  refine ⟨read, by decide, whole ▸ least, ?_, inside,
    shrinks inside cutOuter cutInner⟩
  rw [bounded 3 _ nestedBytes (by decide), read]

end Attribute

end ClassFormat
