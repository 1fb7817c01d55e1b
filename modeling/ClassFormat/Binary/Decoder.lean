import ClassFormat.Fault

/-!
# Reading binary data

A decoder takes a value off the front of some bytes and gives the bytes after
it.  It can stop for two reasons: the bytes end before the value does, which
more bytes might mend, or the bytes are at fault.  The two are kept apart, since
what an early end means is for the source of the bytes to say.

Numbers are stored with the most significant byte first.
-/

namespace ClassFormat

/-- Why a decoder gives no value. -/
inductive Stop where
  /-- The bytes end before the value does. -/
  | early
  | fault (fault : FormatFault)
  deriving DecidableEq, Repr

/-- What a stop means for bytes which are all there is. -/
def Stop.toFault : Stop → FormatFault
  | early => .truncated
  | fault f => f

/-- Taking a value off the front of some bytes. -/
abbrev Decoder (α : Type) := List UInt8 → Except Stop (α × List UInt8)

namespace Decoder

/-- One byte. -/
def u8 : Decoder UInt8
  | a :: rest => .ok (a, rest)
  | _ => .error .early

/-- A number of two bytes. -/
def u16 : Decoder UInt16
  | a :: b :: rest => .ok ((a.toNat * 256 + b.toNat).toUInt16, rest)
  | _ => .error .early

/-- A number of four bytes. -/
def u32 : Decoder UInt32
  | a :: b :: c :: d :: rest =>
    .ok
      ((a.toNat * 16777216 + b.toNat * 65536 + c.toNat * 256 +
        d.toNat).toUInt32, rest)
  | _ => .error .early

/-- A given number of bytes as they are. -/
def bytes (count : Nat) : Decoder (List UInt8) := fun input =>
  let taken := input.take count
  if taken.length = count then .ok (taken, input.drop count) else .error .early

/--
A given number of values of one sort, put after those already read, which are
held in reverse.
-/
def manyOnto {α : Type} (decode : Decoder α) : Nat → List α → Decoder (List α)
  | 0, done, input => .ok (done.reverse, input)
  | count + 1, done, input =>
    match decode input with
    | .ok (value, rest) => manyOnto decode count (value :: done) rest
    | .error stop => .error stop

/-- A given number of values of one sort. -/
def many {α : Type} (count : Nat) (decode : Decoder α) : Decoder (List α) :=
  manyOnto decode count []

/-- A count of two bytes and as many values of one sort. -/
def counted {α : Type} (decode : Decoder α) :
    Decoder (List α) := fun input => do
  let (count, input) ← u16 input
  many count.toNat decode input

theorem bind_eq_ok {ε α β : Type} {first : Except ε α} {next : α → Except ε β}
    {result : β} (given : (first >>= next) = .ok result) :
    ∃ value, first = .ok value ∧ next value = .ok result := by
  cases first with
  | error _ => cases given
  | ok value => exact ⟨value, rfl, given⟩

theorem eq_ok_of_mapError {ε δ α : Type} {result : Except ε α}
    {change : ε → δ} {value : α} (given : result.mapError change = .ok value) :
    result = .ok value := by
  cases result with
  | error fault => cases given
  | ok found =>
    cases given
    rfl

theorem length_of_u16 {input rest : List UInt8} {value : UInt16}
    (read : u16 input = .ok (value, rest)) :
    rest.length + 2 = input.length := by
  simp only [u16] at read
  split at read
  · simp only [Except.ok.injEq, Prod.mk.injEq] at read
    simp [← read.2]
  · simp at read

theorem length_of_u32 {input rest : List UInt8} {value : UInt32}
    (read : u32 input = .ok (value, rest)) :
    rest.length + 4 = input.length := by
  simp only [u32] at read
  split at read
  · simp only [Except.ok.injEq, Prod.mk.injEq] at read
    simp [← read.2]
  · simp at read

theorem length_of_bytes {count : Nat} {input rest value : List UInt8}
    (read : bytes count input = .ok (value, rest)) :
    value.length + rest.length = input.length := by
  simp only [bytes] at read
  split at read
  · simp only [Except.ok.injEq, Prod.mk.injEq] at read
    rw [← read.1, ← read.2, List.length_take, List.length_drop]
    omega
  · simp at read

theorem length_le_of_manyOnto {α : Type} {decode : Decoder α}
    (shorter : ∀ {input rest value}, decode input = .ok (value, rest) →
      rest.length ≤ input.length)
    {count : Nat} {done values : List α} {input rest : List UInt8}
    (read : manyOnto decode count done input = .ok (values, rest)) :
    rest.length ≤ input.length := by
  induction count generalizing done input with
  | zero =>
    simp only [manyOnto, Except.ok.injEq, Prod.mk.injEq] at read
    simp [← read.2]
  | succ count hypothesis =>
    simp only [manyOnto] at read
    split at read
    · next found => exact Nat.le_trans (hypothesis read) (shorter found)
    · simp at read

theorem length_le_of_counted {α : Type} {decode : Decoder α}
    (shorter : ∀ {input rest value}, decode input = .ok (value, rest) →
      rest.length ≤ input.length)
    {values : List α} {input rest : List UInt8}
    (read : counted decode input = .ok (values, rest)) :
    rest.length ≤ input.length := by
  rcases bind_eq_ok read with ⟨⟨count, afterCount⟩, readCount, read⟩
  have := length_of_u16 readCount
  have := length_le_of_manyOnto shorter read
  omega

/-- Bytes which are all there is: whatever they lack is missing for good. -/
def sealed {α : Type} (decode : Decoder α) (input : List UInt8) :
    Except FormatFault (α × List UInt8) :=
  (decode input).mapError Stop.toFault

theorem eq_ok_of_sealed {α : Type} {decode : Decoder α} {input : List UInt8}
    {result : α × List UInt8} (read : sealed decode input = .ok result) :
    decode input = .ok result :=
  eq_ok_of_mapError read

end Decoder

end ClassFormat
