import ClassFormat.Constant
import ClassFormat.Fault

/-!
# Constant pools

A pool is a sequence of constants addressed by the indices from 1 on.  A
constant takes as many indices as it is wide and is found under the first of
them; the second index of a wide constant holds nothing.  A table of slots, one
for each index, gives the position of the constant in the sequence, so that
looking one up does not depend on the size of the pool.

The number of indices plus one has to fit in sixteen bits, which every pool does
by construction.
-/

namespace ClassFormat

/--
The slots of a constant at a position: its own, and an empty one if it is wide.
-/
def slotsOf (position : Nat) (constant : Constant) : List (Option Nat) :=
  some position :: List.replicate (constant.width - 1) none

/-- The slots of constants which begin at a position. -/
def layout (position : Nat) : List Constant → List (Option Nat)
  | [] => []
  | constant :: others =>
    slotsOf position constant ++ layout (position + 1) others

@[simp]
theorem length_slotsOf (position : Nat) (constant : Constant) :
    (slotsOf position constant).length = constant.width := by
  have := constant.width_pos
  simp [slotsOf]
  omega

theorem layout_append (position : Nat) (first second : List Constant) :
    layout position (first ++ second) =
      layout position first ++ layout (position + first.length) second := by
  induction first generalizing position with
  | nil => simp [layout]
  | cons constant others hypothesis =>
    simp [layout, hypothesis, Nat.add_assoc, Nat.add_comm 1]

theorem layout_set (position place : Nat) (constants : List Constant)
    (constant : Constant)
    (sameWidth : ∀ old, constants[place]? = some old →
      old.width = constant.width) :
    layout position (constants.set place constant) =
      layout position constants := by
  induction constants generalizing position place with
  | nil => rfl
  | cons first others hypothesis =>
    match place with
    | 0 =>
      have := sameWidth first rfl
      simp [layout, slotsOf, this]
    | place + 1 =>
      simp only [List.set_cons_succ, layout]
      rw [hypothesis]
      simpa using sameWidth

/-- The largest number of indices of a pool. -/
def maxWidth : Nat := 65534

/-- A constant pool. -/
structure Pool where
  entries : Array Constant
  slots : Array (Option Nat)
  slots_eq : slots.toList = layout 0 entries.toList
  width_le : slots.size ≤ maxWidth

namespace Pool

/-- The pool without constants. -/
def empty : Pool := ⟨#[], #[], rfl, by simp [maxWidth]⟩

instance : Inhabited Pool := ⟨empty⟩

/-- The number of constants. -/
def size (pool : Pool) : Nat :=
  pool.entries.size

/-- The number of indices which the constants take. -/
def width (pool : Pool) : Nat :=
  pool.slots.size

theorem ext_entries {first second : Pool}
    (equal : first.entries = second.entries) :
    first = second := by
  have slots : first.slots = second.slots := by
    apply Array.ext'
    rw [first.slots_eq, second.slots_eq, equal]
  cases first
  cases second
  simp_all

instance : DecidableEq Pool := fun first second =>
  decidable_of_iff (first.entries = second.entries) ⟨ext_entries, fun equal =>
    equal ▸ rfl⟩

/-- The position of the constant at an index. -/
def position? (pool : Pool) (index : UInt16) : Option Nat :=
  if index = 0 then none else pool.slots[index.toNat - 1]?.join

/-- The constant at an index. -/
def get? (pool : Pool) (index : UInt16) : Option Constant :=
  (pool.position? index).bind (pool.entries[·]?)

/-- Append the slots of a constant at a position. -/
def pushSlots (slots : Array (Option Nat)) (position : Nat)
    (constant : Constant) :
    Array (Option Nat) :=
  if constant.width = 2 then
    (slots.push (some position)).push none
  else
    slots.push (some position)

theorem toList_pushSlots (slots : Array (Option Nat)) (position : Nat)
    (constant : Constant) :
    (pushSlots slots position constant).toList =
      slots.toList ++ slotsOf position constant := by
  simp only [pushSlots, slotsOf]
  rcases constant.width_eq_one_or_two with equal | equal <;> simp [equal]

/-- Whether there are indices left for a constant. -/
def Fits (pool : Pool) (constant : Constant) : Prop :=
  pool.width + constant.width ≤ maxWidth

instance (pool : Pool) (constant : Constant) : Decidable (pool.Fits constant) :=
  inferInstanceAs (Decidable (_ ≤ _))

/-- Append a constant which fits. -/
def push (pool : Pool) (constant : Constant) (fits : pool.Fits constant) :
    Pool :=
  let position := pool.entries.size
  { entries := pool.entries.push constant
    slots := pushSlots pool.slots position constant
    slots_eq := by
      simp [position, toList_pushSlots, pool.slots_eq, layout_append, layout]
    width_le := by
      have :=
        congrArg List.length (toList_pushSlots pool.slots position constant)
      simp only [Array.length_toList, List.length_append,
        length_slotsOf] at this
      simp only [Fits, width] at fits
      omega }

theorem width_push (pool : Pool) (constant : Constant)
    (fits : pool.Fits constant) :
    (pool.push constant fits).width = pool.width + constant.width := by
  have :=
    congrArg List.length
      (toList_pushSlots pool.slots pool.entries.size constant)
  simpa [width, push] using this

/-- The index of the next constant. -/
def nextIndex (pool : Pool) : UInt16 :=
  (pool.width + 1).toUInt16

/-- The fault of a constant which does not fit. -/
def noRoom (pool : Pool) (constant : Constant) : FormatFault :=
  .tooLarge ⟨.pool, pool.width + 1 + constant.width⟩

/--
Append a constant and give its index, unless it would take an index too many.
-/
def add (pool : Pool) (constant : Constant) :
    Except FormatFault (UInt16 × Pool) :=
  if fits : pool.Fits constant then
    let index := pool.nextIndex
    .ok (index, pool.push constant fits)
  else
    .error (pool.noRoom constant)

theorem width_of_add {pool after : Pool} {constant : Constant} {index : UInt16}
    (added : pool.add constant = .ok (index, after)) :
    after.width = pool.width + constant.width := by
  simp only [add] at added
  split at added
  · simp only [Except.ok.injEq, Prod.mk.injEq] at added
    rw [← added.2, width_push]
  · simp at added

/-- What adding one constant several times has led to. -/
structure Additions where
  count : Nat
  last : Option UInt16
  stopped : Option FormatFault
  pool : Pool

/--
Add a constant a number of times more, up to the first time it does not fit.
-/
def addTimes (constant : Constant) : Nat → Additions → Additions
  | 0, soFar => soFar
  | times + 1, ⟨count, last, stopped, pool⟩ =>
    if fits : pool.Fits constant then
      let index := pool.nextIndex
      addTimes constant times ⟨count + 1, some index, stopped,
        pool.push constant fits⟩
    else
      ⟨count, last, some (pool.noRoom constant), pool⟩

/-- Exchange the constant at a position for another one of the same width. -/
def replaceAt (pool : Pool) (position : Nat) (constant : Constant)
    (sameWidth : ∀ old, pool.entries.toList[position]? = some old →
      old.width = constant.width) :
    Pool :=
  { pool with
    entries := pool.entries.setIfInBounds position constant
    slots_eq := by
      simp only [Array.toList_setIfInBounds]
      rw [layout_set 0 position _ constant sameWidth, pool.slots_eq] }

/--
The index of the first entry which holds the given bytes, counting from an
index.
-/
def findBytes? (bytes : List UInt8) (index : Nat) : List Constant → Option Nat
  | [] => none
  | constant :: others =>
    match constant with
    | .utf8 text =>
      if text.bytes = bytes then
        some index
      else
        findBytes? bytes (index + 1) others
    | _ => findBytes? bytes (index + constant.width) others

/--
The index of the first entry which holds a text in its canonical encoding.
-/
def findText? (pool : Pool) (text : String) : Option UInt16 :=
  (findBytes? (ModifiedUtf8.ofText text).bytes 1 pool.entries.toList).map
    Nat.toUInt16

/-- The index of a text, which is appended unless an entry holds it. -/
def intern (pool : Pool) (text : String) : Except FormatFault (UInt16 × Pool) :=
  match pool.findText? text with
  | some index => .ok (index, pool)
  | none => pool.add (.utf8 (.ofText text))

end Pool

end ClassFormat
