import ClassFormat.Proofs.Binary.Output

/-!
# Counts and lengths in what is written

Every count and every length is written in a field of two or of four bytes.  A
plan lists these extents for something which is to be written: how large each
one is and where its field will be.  They are listed in the order in which they
are known.  This is the order of their places with one exception: the length of
a record stands before the payload, but is known only when the payload is
complete.

An encoding follows a plan if it is cut short by the first extent which exceeds
its field; and if there is none, it has as many bytes as are planned, and in
them every extent as a number in its place.  Plans follow one another like
encodings do, so whatever is written in sequence has the plan of its parts in
sequence.
-/

namespace ClassFormat

/-- The number of bytes in which a measure is written. -/
def Measure.width : Measure → Nat
  | attributeLength | codeLength => 4
  | _ => 2

/-- The first number which is too large for the field of a measure. -/
def Measure.limit : Measure → Nat
  | attributeLength | codeLength => 4294967296
  | _ => 65536

theorem Measure.limit_eq (what : Measure) :
    what.limit = Nat.pow 256 what.width := by
  cases what <;> rfl

/-- A count or a length, and the place of its field. -/
structure Extent where
  place : Nat
  what : Measure
  count : Nat
  deriving DecidableEq, Repr

/-- The number which some bytes stand for, the most significant one first. -/
def number (bytes : List UInt8) : Nat :=
  bytes.foldl (fun before byte => before * 256 + byte.toNat) 0

theorem number_bytes16 (n : UInt16) :
    number (Encoding.bytes16 n) = n.toNat := by
  have small := n.toNat_lt
  simp only [number, Encoding.bytes16, List.foldl_cons, List.foldl_nil,
    UInt8.toNat_ofNat']
  omega

theorem number_bytes32 (n : UInt32) :
    number (Encoding.bytes32 n) = n.toNat := by
  have small := n.toNat_lt
  simp only [number, Encoding.bytes32, List.foldl_cons, List.foldl_nil,
    UInt8.toNat_ofNat']
  omega

namespace Extent

/-- Whether an extent can be told in its field. -/
def Fits (extent : Extent) : Prop :=
  extent.count < extent.what.limit

instance (extent : Extent) : Decidable extent.Fits :=
  inferInstanceAs (Decidable (_ < _))

/-- What is reported of an extent which exceeds its field. -/
def oversize (extent : Extent) : Oversize :=
  ⟨extent.what, extent.count⟩

/-- An extent of something which is written behind other bytes. -/
def behind (distance : Nat) (extent : Extent) : Extent :=
  { extent with place := distance + extent.place }

@[simp]
theorem fits_behind {distance : Nat} {extent : Extent} :
    (extent.behind distance).Fits ↔ extent.Fits :=
  Iff.rfl

/-- An extent which some bytes tell, in a field at its place. -/
def StandsIn (extent : Extent) (bytes : List UInt8) : Prop :=
  ∃ front field back, bytes = front ++ (field ++ back) ∧
    front.length = extent.place ∧
    field.length = extent.what.width ∧ number field = extent.count

theorem StandsIn.append {extent : Extent} {bytes : List UInt8}
    (stands : extent.StandsIn bytes) (more : List UInt8) :
    extent.StandsIn (bytes ++ more) := by
  rcases stands with ⟨front, field, back, rfl, place, width, told⟩
  exact ⟨front, field, back ++ more, by simp, place, width, told⟩

theorem StandsIn.behind {extent : Extent} {bytes : List UInt8}
    (stands : extent.StandsIn bytes) (before : List UInt8) :
    (extent.behind before.length).StandsIn (before ++ bytes) := by
  rcases stands with ⟨front, field, back, rfl, place, width, told⟩
  refine ⟨before ++ front, field, back, by simp, ?_, width, told⟩
  rw [List.length_append, place, Extent.behind]

end Extent

/--
The extents of what is to be written, in the order in which they are known, and
its size.
-/
structure Plan where
  extents : List Extent
  size : Nat
  deriving DecidableEq, Repr

namespace Plan

/-- Bytes which tell no extent. -/
def bytes (size : Nat) : Plan := ⟨[], size⟩

/-- A count or a length. -/
def measure (what : Measure) (count : Nat) :
    Plan := ⟨[⟨0, what, count⟩], what.width⟩

/-- One after another. -/
def append (first second : Plan) : Plan :=
  ⟨first.extents ++ second.extents.map (Extent.behind first.size),
    first.size + second.size⟩

instance : Append Plan := ⟨append⟩

/-- One after another, for any number. -/
def concat (plans : List Plan) : Plan :=
  plans.foldr (· ++ ·) (bytes 0)

/-- A count and as many of one sort. -/
def counted {α : Type} (what : Measure) (plan : α → Plan) (values : List α) :
    Plan :=
  measure what values.length ++ concat (values.map plan)

/--
The index of a name, a length, and a payload of this length, which is known
before its length.
-/
def record (payload : Plan) : Plan :=
  ⟨payload.extents.map (Extent.behind 6) ++
    [⟨2, .attributeLength, payload.size⟩], 6 + payload.size⟩

/-- What is reported of the first extent which exceeds its field. -/
def oversize? (plan : Plan) : Option Oversize :=
  (plan.extents.find? fun extent => ¬ extent.Fits).map Extent.oversize

/-- Every extent can be told in its field. -/
def Fits (plan : Plan) : Prop :=
  ∀ extent ∈ plan.extents, extent.Fits

theorem oversize?_eq_none_iff {plan : Plan} :
    plan.oversize? = none ↔ plan.Fits := by
  simp [oversize?, Fits]

/--
The first extent which exceeds its field is the one before which all others fit.
-/
theorem oversize?_eq_some_iff {plan : Plan} {excess : Oversize} :
    plan.oversize? = some excess ↔
      ∃ before extent after, plan.extents = before ++ extent :: after ∧
        (∀ earlier ∈ before, earlier.Fits) ∧ ¬ extent.Fits ∧
          excess = extent.oversize := by
  rw [oversize?, Option.map_eq_some_iff]
  constructor
  · rintro ⟨extent, found, rfl⟩
    rcases List.find?_eq_some_iff_append.1 found with
      ⟨exceeds, before, after, split, fitting⟩
    refine ⟨before, extent, after, split, ?_, of_decide_eq_true exceeds, rfl⟩
    intro earlier member
    simpa using fitting earlier member
  · rintro ⟨before, extent, after, split, fitting, exceeds, rfl⟩
    refine ⟨extent,
      List.find?_eq_some_iff_append.2 ⟨decide_eq_true exceeds, before, after,
        split, ?_⟩, rfl⟩
    intro earlier member
    simpa using fitting earlier member

/-- Where something is written does not decide what exceeds its field. -/
theorem find?_behind (distance : Nat) (extents : List Extent) :
    ((extents.map (Extent.behind distance)).find? fun extent =>
      ¬ extent.Fits).map Extent.oversize =
      (extents.find? fun extent => ¬ extent.Fits).map Extent.oversize := by
  rw [List.find?_map, Option.map_map]
  rfl

theorem oversize?_append (first second : Plan) :
    (first ++ second).oversize? = first.oversize?.or second.oversize? := by
  show Option.map _ (List.find? _
    (first.extents ++ second.extents.map (Extent.behind first.size))) = _
  rw [List.find?_append, Option.map_or, find?_behind]
  rfl

/--
The length of a record is looked at only when everything in its payload fits.
-/
theorem oversize?_record (payload : Plan) :
    (record payload).oversize? =
      payload.oversize?.or
        (measure .attributeLength payload.size).oversize? := by
  show Option.map _ (List.find? _
    (payload.extents.map (Extent.behind 6) ++
      (measure .attributeLength payload.size).extents.map
        (Extent.behind 2))) = _
  rw [List.find?_append, Option.map_or, find?_behind, find?_behind]
  rfl

/-! ## When everything fits -/

@[simp]
theorem fits_bytes (size : Nat) : (bytes size).Fits := by
  simp [bytes, Fits]

@[simp]
theorem fits_measure {what : Measure} {count : Nat} :
    (measure what count).Fits ↔ count < what.limit := by
  simp [measure, Fits, Extent.Fits]

@[simp]
theorem fits_append {first second : Plan} :
    (first ++ second).Fits ↔ first.Fits ∧ second.Fits := by
  show (∀ extent ∈ first.extents ++ second.extents.map _, extent.Fits) ↔ _
  simp only [List.forall_mem_append, List.forall_mem_map, Extent.fits_behind,
    Fits]

@[simp]
theorem fits_concat {plans : List Plan} :
    (concat plans).Fits ↔ ∀ plan ∈ plans, plan.Fits := by
  induction plans with
  | nil => simp [concat]
  | cons plan others hypothesis =>
      rw [List.forall_mem_cons, ← hypothesis]
      exact fits_append

@[simp]
theorem fits_counted {α : Type} {what : Measure} {plan : α → Plan}
    {values : List α} :
    (counted what plan values).Fits ↔
      values.length < what.limit ∧ ∀ value ∈ values, (plan value).Fits := by
  simp only [counted, fits_append, fits_measure, fits_concat,
    List.forall_mem_map]

@[simp]
theorem fits_record {payload : Plan} :
    (record payload).Fits ↔ payload.Fits ∧ payload.size < 4294967296 := by
  simp only [record, Fits, List.forall_mem_append, List.forall_mem_map,
    Extent.fits_behind, List.forall_mem_singleton]
  rfl

end Plan

namespace Encoding

/--
An encoding which tells the extents of a plan in their places, up to the first
one it cannot tell.
-/
structure Follows (encoding : Encoding) (plan : Plan) : Prop where
  excess : encoding.excess = plan.oversize?
  told : ∀ bytes, encoding = .ofBytes bytes →
    bytes.length = plan.size ∧ ∀ extent ∈ plan.extents, extent.StandsIn bytes

theorem follows_ofBytes {bytes : List UInt8} {size : Nat}
    (length : bytes.length = size) :
    (ofBytes bytes).Follows (.bytes size) where
  excess := rfl
  told := by
    intro written whole
    cases ofBytes_inj.1 whole
    exact ⟨length, nofun⟩

theorem follows_empty : empty.Follows (.bytes 0) :=
  follows_ofBytes List.length_nil

theorem follows_u8 (n : UInt8) : (u8 n).Follows (.bytes 1) :=
  follows_ofBytes rfl

theorem follows_u16 (n : UInt16) : (u16 n).Follows (.bytes 2) :=
  follows_ofBytes rfl

theorem follows_u32 (n : UInt32) : (u32 n).Follows (.bytes 4) :=
  follows_ofBytes rfl

/-- A field which is all there is of something. -/
theorem stands_alone {what : Measure} {count : Nat} {field : List UInt8}
    (width : field.length = what.width) (told : number field = count) :
    field.length = (Plan.measure what count).size ∧
      ∀ extent ∈ (Plan.measure what count).extents, extent.StandsIn field := by
  refine ⟨width, ?_⟩
  intro extent member
  cases List.mem_singleton.1 member
  exact ⟨[], field, [], by simp, rfl, width, told⟩

theorem follows_count16 {what : Measure} (narrow : what.width = 2)
    (count : Nat) :
    (count16 what count).Follows (.measure what count) where
  excess := by
    have limit : what.limit = 65536 := by rw [what.limit_eq, narrow]
    by_cases fits : count < 65536
    · simp [count16, u16, ofBytes, Plan.oversize?, Plan.measure, Extent.Fits,
        limit, fits]
    · simp [count16, Plan.oversize?, Plan.measure, Extent.Fits, Extent.oversize,
        limit, fits]
  told := by
    intro bytes whole
    rcases count16_eq_ofBytes_iff.1 whole with ⟨fits, rfl⟩
    have told :=
      (number_bytes16 count.toUInt16).trans (UInt16.toNat_ofNat_of_lt' fits)
    have two : (bytes16 count.toUInt16).length = 2 := rfl
    exact stands_alone (two.trans narrow.symm) told

theorem follows_length32 {what : Measure} (wide : what.width = 4)
    (length : Nat) :
    (length32 what length).Follows (.measure what length) where
  excess := by
    have limit : what.limit = 4294967296 := by rw [what.limit_eq, wide]
    by_cases fits : length < 4294967296
    · simp [length32, u32, ofBytes, Plan.oversize?, Plan.measure, Extent.Fits,
        limit, fits]
    · simp [length32, Plan.oversize?, Plan.measure, Extent.Fits,
        Extent.oversize, limit, fits]
  told := by
    intro bytes whole
    rcases length32_eq_ofBytes_iff.1 whole with ⟨fits, rfl⟩
    have told :=
      (number_bytes32 length.toUInt32).trans (UInt32.toNat_ofNat_of_lt' fits)
    have four : (bytes32 length.toUInt32).length = 4 := rfl
    exact stands_alone (four.trans wide.symm) told

theorem excess_append (first second : Encoding) :
    (first ++ second).excess = first.excess.or second.excess := by
  rcases first with ⟨bytes, none | excess⟩ <;> rfl

theorem Follows.append {first second : Encoding} {front back : Plan}
    (ofFirst : first.Follows front) (ofSecond : second.Follows back) :
    (first ++ second).Follows (front ++ back) where
  excess := by
    rw [excess_append, ofFirst.excess, ofSecond.excess, Plan.oversize?_append]
  told := by
    intro bytes whole
    rcases append_eq_ofBytes_iff.1 whole with
      ⟨frontBytes, backBytes, isFront, isBack, rfl⟩
    rcases ofFirst.told frontBytes isFront with ⟨frontSize, frontTold⟩
    rcases ofSecond.told backBytes isBack with ⟨backSize, backTold⟩
    constructor
    · rw [List.length_append, frontSize, backSize]
      rfl
    · intro extent member
      rcases List.mem_append.1 member with inFront | inBack
      · exact (frontTold extent inFront).append backBytes
      · rcases List.mem_map.1 inBack with ⟨inner, innerMember, rfl⟩
        rw [← frontSize]
        exact (backTold inner innerMember).behind frontBytes

theorem Follows.concat {α : Type} {encode : α → Encoding} {plan : α → Plan}
    {values : List α}
    (each : ∀ value ∈ values, (encode value).Follows (plan value)) :
    (Encoding.concat (values.map encode)).Follows
      (Plan.concat (values.map plan)) := by
  induction values with
  | nil => exact follows_empty
  | cons value others hypothesis =>
      rw [List.forall_mem_cons] at each
      exact each.1.append (hypothesis each.2)

theorem Follows.counted {α : Type} {encode : α → Encoding} {plan : α → Plan}
    {values : List α} {what : Measure} (narrow : what.width = 2)
    (each : ∀ value ∈ values, (encode value).Follows (plan value)) :
    (Encoding.counted what encode values).Follows
      (Plan.counted what plan values) :=
  (follows_count16 narrow values.length).append (Follows.concat each)

end Encoding

end ClassFormat
