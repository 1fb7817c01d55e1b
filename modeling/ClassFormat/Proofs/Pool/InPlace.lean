import ClassFormat.Proofs.Pool.Resolution

/-!
# Changing the tables of a pool in place

A text is interned by a scan along the entries, which counts the index of each
of them in sixteen bits and does not look at the table of slots.  If the scan
finds nothing, the text is appended to both tables, one after the other, and so
is any other constant which is added.

Here the scan and the appending are taken step by step, with tables that need
not fit together and a count that may overflow.  What stops a step leaves behind
what the steps before it have made of the tables.  From the tables of a pool the
steps lead to the tables of the pool which `add` or `intern` computes, the count
stays in range, and a constant for which there is no room leaves both tables
alone.
-/

namespace ClassFormat

namespace Pool

/-! ## The steps -/

/-- The two tables of a pool, whether or not they fit together. -/
structure Tables where
  entries : Array Constant
  slots : Array (Option Nat)

/-- The tables of a pool. -/
def tables (pool : Pool) : Tables :=
  ⟨pool.entries, pool.slots⟩

/-- What stops a step: a count which leaves its sixteen bits, or a fault. -/
inductive Trap where
  | overflow
  | fault (fault : FormatFault)

/--
A step which changes the tables.  When it is stopped it leaves behind what it
has made of them.
-/
abbrev InPlace := EStateM Trap Tables

namespace InPlace

/--
Look for an entry with the given bytes, and count the index at which each
constant begins.
-/
def scan (bytes : List UInt8) (index : UInt16) :
    List Constant → InPlace (Option UInt16)
  | [] => return none
  | constant :: others =>
    if constant = .utf8 ⟨bytes⟩ then
      return some index
    else if index.toNat + constant.width < 65536 then
      scan bytes (index + constant.width.toUInt16) others
    else
      throw .overflow

/-- Append a constant: first its slots, and then the constant itself. -/
def addConstant (constant : Constant) : InPlace UInt16 := do
  let index := (← get).slots.size + 1
  if 65535 < index + constant.width then
    throw (.fault (.tooLarge ⟨.pool, index + constant.width⟩))
  modify fun tables =>
    { tables with slots := tables.slots.push (some tables.entries.size) }
  if constant.width = 2 then
    modify fun tables => { tables with slots := tables.slots.push none }
  modify fun tables => { tables with entries := tables.entries.push constant }
  return index.toUInt16

/-- The index of a text, which is appended unless the scan finds it. -/
def internText (text : String) : InPlace UInt16 := do
  let entry := ModifiedUtf8.ofText text
  match ← scan entry.bytes 1 (← get).entries.toList with
  | some index => return index
  | none => addConstant (.utf8 entry)

/-! ## What the steps come to -/

/-- How a step ends which comes to the given change of a pool. -/
def ending (pool : Pool) :
    Except FormatFault (UInt16 × Pool) → EStateM.Result Trap Tables UInt16
  | .ok (index, after) => .ok index after.tables
  | .error fault => .error (.fault fault) pool.tables

/--
A step which comes to a change that fails has left the tables as they were.
-/
theorem eq_tables_of_ending {pool : Pool}
    {change : Except FormatFault (UInt16 × Pool)} {trap : Trap}
    {left : Tables} (stopped : ending pool change = .error trap left) :
    left = pool.tables := by
  cases change with
  | ok given => cases stopped
  | error fault =>
      cases stopped
      rfl

/--
As long as there are indices for all the constants, the count of a scan stays in
range.
-/
theorem run_scan
    {bytes : List UInt8} {index : UInt16} {constants : List Constant}
    (tables : Tables)
    (room : index.toNat + totalWidth constants < 65536) :
    (scan bytes index constants).run tables =
      .ok ((findBytes? bytes index.toNat constants).map Nat.toUInt16)
        tables := by
  induction constants generalizing index with
  | nil => rfl
  | cons constant others hypothesis =>
      rw [totalWidth_cons] at room
      rw [scan]
      split
      · next same =>
          subst same
          simp [findBytes?]
      · next different =>
          have inside : index.toNat + constant.width < 65536 := by omega
          have small : constant.width < 65536 := by omega
          have counted : (index + constant.width.toUInt16).toNat =
              index.toNat + constant.width := by
            rw [UInt16.toNat_add, Nat.toUInt16_eq,
              UInt16.toNat_ofNat_of_lt' small]
            exact Nat.mod_eq_of_lt inside
          rw [if_pos inside, hypothesis (by omega), counted]
          cases constant with
          | utf8 text =>
              have other : ¬text.bytes = bytes := by
                rintro rfl
                exact different rfl
              rw [findBytes?, if_neg other]
              rfl
          | _ => rfl

/-- The two tables are extended as `push` extends them, or not at all. -/
theorem run_addConstant (pool : Pool) (constant : Constant) :
    (addConstant constant).run pool.tables =
      ending pool (pool.add constant) := by
  simp only [addConstant, EStateM.run_bind, EStateM.run_get]
  by_cases fits : pool.Fits constant
  · have inside : ¬65535 < pool.tables.slots.size + 1 + constant.width := by
      have room : pool.width + constant.width ≤ 65534 := fits
      show ¬65535 < pool.width + 1 + constant.width
      omega
    rw [add_eq_ok_iff.2 ⟨fits, rfl, rfl⟩, if_neg inside]
    simp only [ending, push, pushSlots, tables]
    by_cases wide : constant.width = 2
    · simp only [wide, ↓reduceIte]
      rfl
    · simp only [wide, ↓reduceIte]
      rfl
  · have beyond : 65535 < pool.tables.slots.size + 1 + constant.width := by
      have full : ¬pool.width + constant.width ≤ 65534 := fits
      show 65535 < pool.width + 1 + constant.width
      omega
    rw [add_eq_error_iff.2 ⟨fits, rfl⟩, if_pos beyond]
    rfl

/--
In a pool the count stays in range, and the scan finds what `findText?` finds.
-/
theorem run_scan_entries (pool : Pool) (text : String) :
    (scan (ModifiedUtf8.ofText text).bytes 1 pool.entries.toList).run
      pool.tables =
      .ok (pool.findText? text) pool.tables := by
  apply run_scan
  have width := pool.width_eq_totalWidth
  have bound : pool.width ≤ 65534 := pool.width_le
  show 1 + totalWidth pool.entries.toList < 65536
  omega

/--
Interning step by step comes to `intern`, and what fails leaves the tables
alone.
-/
theorem run_internText (pool : Pool) (text : String) :
    (internText text).run pool.tables = ending pool (pool.intern text) := by
  simp only [internText, EStateM.run_bind, EStateM.run_get]
  rw [show pool.tables.entries = pool.entries from rfl, run_scan_entries,
    intern]
  cases pool.findText? text with
  | some index => rfl
  | none => exact run_addConstant pool (.utf8 (.ofText text))

end InPlace

end Pool

end ClassFormat
