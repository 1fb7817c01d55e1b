import ClassFormat.Proofs.Binary.Faults
import ClassFormat.Proofs.Pool.Binary

/-!
# Wide constants at the end of a pool

A pool is read until its constants take the declared number of indices.  A wide
constant which begins at the last of these takes one index too many, and the
constants straddle the end of the pool.

Two limits meet there.  One is the declared number, which is compared with the
indices taken after the last constant has been added; the other is that of the
pool itself, which has no room for more than `maxWidth` indices and refuses a
constant when it is added.  The second is the first to be looked at, so which
fault is found in constants that straddle the end depends on whether as many
indices are declared as a pool can have at all.  Apart from them, only tags are
found at fault.
-/

namespace ClassFormat

open Decoder

theorem Constant.faultsIn_decodeFields {sort : FormatFault → Prop}
    (kind : ConstantKind) :
    FaultsIn sort (decodeFields kind) := by
  cases kind with
  | utf8 =>
      show FaultsIn sort (u16.andThen fun length =>
        (bytes length.toNat).andThen fun bytes =>
        done (utf8 ⟨bytes⟩))
      exact FaultsIn.u16.andThen fun length =>
        (FaultsIn.bytes length.toNat).one _ rfl
  | integer => exact FaultsIn.u32.one integer rfl
  | float => exact FaultsIn.u32.one float rfl
  | long =>
      exact FaultsIn.u32.andThen fun high => FaultsIn.u32.one (long high) rfl
  | double =>
      exact FaultsIn.u32.andThen fun high => FaultsIn.u32.one (double high) rfl
  | classRef => exact FaultsIn.u16.one classRef rfl
  | string => exact FaultsIn.u16.one string rfl
  | fieldRef =>
      exact FaultsIn.u16.andThen fun owner =>
        FaultsIn.u16.one (fieldRef owner) rfl
  | methodRef =>
      exact FaultsIn.u16.andThen fun owner =>
        FaultsIn.u16.one (methodRef owner) rfl
  | interfaceMethodRef =>
      exact FaultsIn.u16.andThen fun owner =>
        FaultsIn.u16.one (interfaceMethodRef owner) rfl
  | nameAndType =>
      exact FaultsIn.u16.andThen fun name =>
        FaultsIn.u16.one (nameAndType name) rfl
  | methodHandle =>
      exact FaultsIn.u8.andThen fun kind =>
        FaultsIn.u16.one (methodHandle kind) rfl
  | methodType => exact FaultsIn.u16.one methodType rfl
  | dynamic =>
      exact FaultsIn.u16.andThen fun bootstrap =>
        FaultsIn.u16.one (dynamic bootstrap) rfl
  | invokeDynamic =>
      exact FaultsIn.u16.andThen fun bootstrap =>
        FaultsIn.u16.one (invokeDynamic bootstrap) rfl
  | moduleRef => exact FaultsIn.u16.one moduleRef rfl
  | packageRef => exact FaultsIn.u16.one packageRef rfl

theorem Constant.faultsIn_decode :
    FaultsIn (fun fault => ∃ tag, fault = .unknownTag tag) decode := by
  rw [decode_eq_andThen]
  refine FaultsIn.andThen FaultsIn.u8 ?_
  intro tag input fault stopped
  simp only at stopped
  split at stopped
  · next kind known =>
      exact absurd stopped (FaultsIn.never (faultsIn_decodeFields kind))
  · cases stopped
    exact ⟨tag, rfl⟩

namespace Pool

/--
The constants whose kind is that of numbers of eight bytes are the wide ones.
-/
theorem width_eq_two_iff {constant : Constant} :
    constant.width = 2 ↔ constant.kind = .long ∨ constant.kind = .double := by
  cases constant <;> simp [Constant.width, Constant.kind]

/--
Some bytes from which constants are read one after another, so that a wide one
begins at the last of a number of indices.
-/
inductive Straddles : Nat → List UInt8 → Prop where
  | last {constant : Constant} {input rest : List UInt8}
      (read : Constant.decode input = .ok (constant, rest))
      (wide : constant.kind = .long ∨ constant.kind = .double) :
      Straddles 1 input
  | next {constant : Constant} {input rest : List UInt8} {indices : Nat}
      (read : Constant.decode input = .ok (constant, rest))
      (others : Straddles indices rest) :
      Straddles (constant.width + indices) input

theorem Straddles.pos {indices : Nat} {input : List UInt8}
    (straddles : Straddles indices input) :
    0 < indices := by
  induction straddles with
  | last => exact Nat.one_pos
  | next read others hypothesis => omega

variable {pool : Pool} {constant : Constant} {input rest : List UInt8}
  {indices : Nat}

/--
The constants after the first one of those which a pool lacks may straddle its
end.
-/
theorem Straddles.of_rest {next : Pool}
    (read : Constant.decode input = .ok (constant, rest))
    (grown : next.width = pool.width + constant.width)
    (begun : next.width ≤ indices)
    (others : Straddles (indices - next.width) rest) :
    Straddles (indices - pool.width) input := by
  have remaining : indices - pool.width =
      constant.width + (indices - next.width) := by omega
  rw [remaining]
  exact .next read others

/-- A constant for which one index is left, but which takes two. -/
theorem Straddles.of_last (read : Constant.decode input = .ok (constant, rest))
    (two : constant.width = 2) (remaining : indices - pool.width = 1) :
    Straddles (indices - pool.width) input := by
  rw [remaining]
  exact .last read (width_eq_two_iff.1 two)

/-! ## Reading up to a number of indices -/

/-- A constant for which there is room is added before the others are read. -/
theorem decodeOnto_of_fits (lacking : pool.width < indices)
    (read : Constant.decode input = .ok (constant, rest))
    (fits : pool.Fits constant) :
    decodeOnto indices pool input =
      decodeOnto indices (pool.push constant fits) rest := by
  rw [decodeOnto_of_lt lacking]
  simp only [andThen, read, bind, Except.bind]
  rw [add_eq_ok_iff.2 ⟨fits, rfl, rfl⟩]

/-- A constant for which there is no room ends the pool. -/
theorem decodeOnto_of_full (lacking : pool.width < indices)
    (read : Constant.decode input = .ok (constant, rest))
    (full : ¬ pool.Fits constant) :
    decodeOnto indices pool input = .error (.fault (pool.noRoom constant)) := by
  rw [decodeOnto_of_lt lacking]
  simp only [andThen, read, bind, Except.bind]
  rw [add_eq_error_iff.2 ⟨full, rfl⟩]

/-- The fault of a wide constant for which the pool itself lacks an index. -/
def lacksRoom : FormatFault :=
  .tooLarge ⟨.pool, maxWidth + 2⟩

theorem noRoom_of_last (two : constant.width = 2)
    (last : pool.width + 1 = maxWidth) :
    pool.noRoom constant = lacksRoom := by
  simp only [lacksRoom, noRoom, two, last]

/--
Where a pool can have more indices than are declared, a wide constant at the end
takes one more.
-/
theorem exists_decodeOnto_of_straddles
    (straddles : Straddles indices input)
    (room : pool.width + indices < maxWidth) :
    ∃ after rest,
      decodeOnto (pool.width + indices) pool input = .ok (after, rest) ∧
        after.width = pool.width + indices + 1 := by
  induction straddles generalizing pool with
  | @last constant input rest read wide =>
      have two := width_eq_two_iff.2 wide
      have fits : pool.Fits constant := by
        show pool.width + constant.width ≤ maxWidth
        omega
      have wider : (pool.push constant fits).width = pool.width + 1 + 1 := by
        rw [width_push, two]
      refine ⟨pool.push constant fits, rest, ?_, wider⟩
      rw [decodeOnto_of_fits (Nat.lt_succ_self _) read fits,
        decodeOnto_of_le (by omega)]
      rfl
  | @next constant input rest indices read others hypothesis =>
      have positive := constant.width_pos
      have fits : pool.Fits constant := by
        show pool.width + constant.width ≤ maxWidth
        omega
      have pushed := width_push pool constant fits
      rw [decodeOnto_of_fits (by omega) read fits, ← Nat.add_assoc, ← pushed]
      exact hypothesis (by omega)

/--
Where as many indices are declared as a pool can have, a wide constant at the
end is refused.
-/
theorem decodeOnto_maxWidth_of_straddles
    (straddles : Straddles indices input)
    (declared : pool.width + indices = maxWidth) :
    decodeOnto maxWidth pool input = .error (.fault lacksRoom) := by
  induction straddles generalizing pool with
  | @last constant input rest read wide =>
      have two := width_eq_two_iff.2 wide
      have full : ¬ pool.Fits constant := by
        show ¬ pool.width + constant.width ≤ maxWidth
        omega
      rw [decodeOnto_of_full (by omega) read full, noRoom_of_last two declared]
  | @next constant input rest indices read others hypothesis =>
      have positive := others.pos
      have fits : pool.Fits constant := by
        show pool.width + constant.width ≤ maxWidth
        omega
      have pushed := width_push pool constant fits
      rw [decodeOnto_of_fits (by omega) read fits]
      exact hypothesis (by omega)

/--
A pool takes as many indices as are declared, or one more if the constants
straddle its end.
-/
theorem width_of_decodeOnto {after : Pool}
    (read : decodeOnto indices pool input = .ok (after, rest))
    (begun : pool.width ≤ indices) :
    after.width = indices ∨
      after.width = indices + 1 ∧ Straddles (indices - pool.width) input := by
  fun_induction decodeOnto indices pool input with
  | case1 pool input lacking stop stopped => cases read
  | case2 pool input lacking constant left found fault full => cases read
  | case3 pool input lacking constant left found index next added _ _
      hypothesis =>
      have grown := width_of_add added
      by_cases reached : next.width ≤ indices
      · rcases hypothesis read reached with exact | ⟨wider, straddles⟩
        · exact Or.inl exact
        · exact Or.inr ⟨wider, straddles.of_rest found grown reached⟩
      · rw [decodeOnto_of_le (by omega)] at read
        cases read
        have small := constant.width_le_two
        exact Or.inr ⟨by omega, .of_last found (by omega) (by omega)⟩
  | case4 pool input complete =>
      cases read
      exact Or.inl (by omega)

/--
Besides an unknown tag, nothing is at fault but a wide constant at the end of as
many indices as there can be.
-/
theorem fault_of_decodeOnto {fault : FormatFault}
    (stopped : decodeOnto indices pool input = .error (.fault fault))
    (begun : pool.width ≤ indices)
    (bound : indices ≤ maxWidth) :
    (∃ tag, fault = .unknownTag tag) ∨
      indices = maxWidth ∧ Straddles (indices - pool.width) input ∧
        fault = lacksRoom := by
  fun_induction decodeOnto indices pool input with
  | case1 pool input lacking stop refused =>
      cases stopped
      exact Or.inl (Constant.faultsIn_decode input fault refused)
  | case2 pool input lacking constant left found cause full =>
      cases stopped
      rcases add_eq_error_iff.1 full with ⟨tooWide, rfl⟩
      have wider : ¬ pool.width + constant.width ≤ maxWidth := tooWide
      have small := constant.width_le_two
      have two : constant.width = 2 := by omega
      exact Or.inr ⟨by omega, .of_last found two (by omega),
        noRoom_of_last two (by omega)⟩
  | case3 pool input lacking constant left found index next added _ _
      hypothesis =>
      have grown := width_of_add added
      by_cases reached : next.width ≤ indices
      · rcases hypothesis stopped reached with unknown | ⟨most, straddles, same⟩
        · exact Or.inl unknown
        · exact Or.inr ⟨most, straddles.of_rest found grown reached, same⟩
      · rw [decodeOnto_of_le (by omega)] at stopped
        cases stopped
  | case4 pool input complete => cases stopped

/-! ## Declared counts -/

/--
The number of indices which a count declares is never more than a pool can have.
-/
theorem indices_le_maxWidth (count : UInt16) : count.toNat - 1 ≤ maxWidth := by
  have small := count.toNat_lt
  simp only [maxWidth]
  omega

theorem indices_eq_maxWidth_iff {count : UInt16} :
    count.toNat - 1 = maxWidth ↔ count = 65535 := by
  have small := count.toNat_lt
  rw [← UInt16.toNat_inj]
  simp only [maxWidth]
  show _ ↔ count.toNat = 65535
  omega

/--
The fault of a count whose constants straddle the end of the pool it declares.
-/
def straddlingFault (count : UInt16) : FormatFault :=
  if count = 65535 then lacksRoom else .poolCount (count.toNat - 1) count.toNat

/-- Constants which straddle the end of a pool are always found at fault. -/
theorem decode_of_straddles {count : UInt16} {body : List UInt8}
    (straddles : Straddles (count.toNat - 1) body) :
    decode (Encoding.bytes16 count ++ body) =
      .error (.fault (straddlingFault count)) := by
  have width : empty.width = 0 := rfl
  by_cases most : count = 65535
  · have declared := indices_eq_maxWidth_iff.2 most
    have refused : decodeOnto maxWidth empty body = .error (.fault lacksRoom) :=
      decodeOnto_maxWidth_of_straddles straddles (by omega)
    simp only [decode, u16_bytes16, bind, Except.bind, declared, refused,
      straddlingFault, if_pos most]
  · have room : count.toNat - 1 < maxWidth :=
      Nat.lt_of_le_of_ne (indices_le_maxWidth count) fun same =>
        most (indices_eq_maxWidth_iff.1 same)
    have begun : empty.width + (count.toNat - 1) < maxWidth := by omega
    rcases exists_decodeOnto_of_straddles straddles begun with
      ⟨after, rest, read, wider⟩
    have positive := straddles.pos
    rw [width, Nat.zero_add] at read wider
    have actual : after.width = count.toNat := by omega
    have disagrees : ¬ count.toNat = count.toNat - 1 := by omega
    simp only [decode, u16_bytes16, bind, Except.bind, read, actual,
      if_neg disagrees, straddlingFault, if_neg most]

/--
A pool is at fault for an unknown tag, or because its constants straddle its
end.
-/
theorem fault_of_decode {fault : FormatFault}
    (stopped : decode input = .error (.fault fault)) :
    (∃ tag, fault = .unknownTag tag) ∨
      ∃ count body, input = Encoding.bytes16 count ++ body ∧
        Straddles (count.toNat - 1) body ∧
        fault = straddlingFault count := by
  rcases bind_eq_error stopped with refused | ⟨⟨count, body⟩, readCount, behind⟩
  · exact absurd refused (FaultsIn.never FaultsIn.u16)
  · rcases spans_u16 readCount with ⟨taken, whole, rfl⟩
    cases Encoding.ofBytes_inj.1 whole
    have bound := indices_le_maxWidth count
    rcases bind_eq_error behind with refused | ⟨⟨pool, rest⟩, read, finished⟩
    · rcases fault_of_decodeOnto refused (Nat.zero_le _) bound with
        unknown | ⟨most, straddles, rfl⟩
      · exact Or.inl unknown
      · refine Or.inr ⟨count, body, rfl, straddles, ?_⟩
        rw [straddlingFault, if_pos (indices_eq_maxWidth_iff.1 most)]
    · simp only at finished
      split at finished
      · cases finished
      · next disagrees =>
          cases finished
          rcases width_of_decodeOnto read (Nat.zero_le _) with
            agrees | ⟨wider, straddles⟩
          · exact absurd agrees disagrees
          · refine Or.inr ⟨count, body, rfl, straddles, ?_⟩
            have room := pool.width_le
            have positive := straddles.pos
            have some : count ≠ 65535 := by
              intro most
              have declared := indices_eq_maxWidth_iff.2 most
              have bound : pool.width ≤ maxWidth := pool.width_le
              omega
            have actual : pool.width = count.toNat := by
              have none : empty.width = 0 := rfl
              omega
            rw [straddlingFault, if_neg some, actual]

end Pool

end ClassFormat
