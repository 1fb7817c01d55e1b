import ClassFormat.Pool.Binary
import ClassFormat.Proofs.Binary.Reading
import ClassFormat.Proofs.Pool.Resolution

/-!
# The binary form of pools, both ways

Constants and pools which are written are read back, and those which were read
are written as the bytes they were read from.  The second statement has an
exception: a declared count of zero is read like a count of one and written as
one.  It concerns the empty pool only.
-/

namespace ClassFormat

open Decoder

namespace Constant

theorem readsBack_decodeFields (constant : Constant) :
    ReadsBack (decodeFields constant.kind) constant.encodeFields constant := by
  cases constant with
  | utf8 text =>
      show ReadsBack (u16.andThen fun length =>
        (bytes length.toNat).andThen fun bytes =>
        done (utf8 ⟨bytes⟩)) _ _
      apply readsBack_count16_andThen
      intro same
      rw [same]
      exact (readsBack_bytes text.bytes).one (fun bytes => utf8 ⟨bytes⟩) rfl
  | integer bits => exact (readsBack_u32 bits).one integer rfl
  | float bits => exact (readsBack_u32 bits).one float rfl
  | long high low => exact (readsBack_u32 high).two (readsBack_u32 low) long rfl
  | double high low =>
      exact (readsBack_u32 high).two (readsBack_u32 low) double rfl
  | classRef name => exact (readsBack_u16 name).one classRef rfl
  | string text => exact (readsBack_u16 text).one string rfl
  | fieldRef owner member =>
      exact (readsBack_u16 owner).two (readsBack_u16 member) fieldRef rfl
  | methodRef owner member =>
      exact (readsBack_u16 owner).two (readsBack_u16 member) methodRef rfl
  | interfaceMethodRef owner member =>
      exact (readsBack_u16 owner).two (readsBack_u16 member)
        interfaceMethodRef rfl
  | nameAndType name descriptor =>
      exact (readsBack_u16 name).two (readsBack_u16 descriptor) nameAndType rfl
  | methodHandle referenceKind reference =>
      exact (readsBack_u8 referenceKind).two (readsBack_u16 reference)
        methodHandle rfl
  | methodType descriptor => exact (readsBack_u16 descriptor).one methodType rfl
  | dynamic bootstrap member =>
      exact (readsBack_u16 bootstrap).two (readsBack_u16 member) dynamic rfl
  | invokeDynamic bootstrap member =>
      exact (readsBack_u16 bootstrap).two (readsBack_u16 member)
        invokeDynamic rfl
  | moduleRef name => exact (readsBack_u16 name).one moduleRef rfl
  | packageRef name => exact (readsBack_u16 name).one packageRef rfl

theorem decode_eq_andThen :
    decode = u8.andThen fun tag input =>
      match ConstantKind.ofTag? tag with
      | some kind => decodeFields kind input
      | none => .error (.fault (.unknownTag tag)) := by
  rfl

/-- Every constant is read back. -/
theorem readsBack_decode (constant : Constant) :
    ReadsBack decode constant.encode constant := by
  rw [decode_eq_andThen]
  apply (readsBack_u8 constant.kind.tag).andThen
  rw [ConstantKind.ofTag?_tag]
  exact readsBack_decodeFields constant

theorem spans_decodeFields
    {kind : ConstantKind} {constant : Constant} {input rest : List UInt8}
    (read : decodeFields kind input = .ok (constant, rest)) :
    constant.kind = kind ∧ constant.encodeFields.Spans input rest := by
  cases kind with
  | utf8 =>
      rcases bind_eq_ok read with ⟨⟨length, afterLength⟩, readLength, read⟩
      rcases bind_eq_ok read with ⟨⟨text, afterText⟩, readText, read⟩
      cases read
      rcases spans_bytes readText with ⟨counted, spansText⟩
      refine ⟨rfl, Encoding.Spans.append ?_ spansText⟩
      rw [counted, Encoding.count16_toNat]
      exact spans_u16 readLength
  | integer | float =>
      rcases bind_eq_ok read with ⟨⟨bits, afterBits⟩, readBits, read⟩
      cases read
      exact ⟨rfl, spans_u32 readBits⟩
  | long | double =>
      rcases bind_eq_ok read with ⟨⟨high, afterHigh⟩, readHigh, read⟩
      rcases bind_eq_ok read with ⟨⟨low, afterLow⟩, readLow, read⟩
      cases read
      exact ⟨rfl, (spans_u32 readHigh).append (spans_u32 readLow)⟩
  | classRef | string | methodType | moduleRef | packageRef =>
      rcases bind_eq_ok read with ⟨⟨index, afterIndex⟩, readIndex, read⟩
      cases read
      exact ⟨rfl, spans_u16 readIndex⟩
  | fieldRef | methodRef | interfaceMethodRef | nameAndType | dynamic
  | invokeDynamic =>
      rcases bind_eq_ok read with ⟨⟨first, afterFirst⟩, readFirst, read⟩
      rcases bind_eq_ok read with ⟨⟨second, afterSecond⟩, readSecond, read⟩
      cases read
      exact ⟨rfl, (spans_u16 readFirst).append (spans_u16 readSecond)⟩
  | methodHandle =>
      rcases bind_eq_ok read with ⟨⟨kind, afterKind⟩, readKind, read⟩
      rcases bind_eq_ok read with
        ⟨⟨reference, afterReference⟩, readReference, read⟩
      cases read
      exact ⟨rfl, (spans_u8 readKind).append (spans_u16 readReference)⟩

/-- A constant which was read is written as the bytes it was read from. -/
theorem spans_decode
    {constant : Constant} {input rest : List UInt8}
    (read : decode input = .ok (constant, rest)) :
    constant.encode.Spans input rest := by
  rcases bind_eq_ok read with ⟨⟨tag, afterTag⟩, readTag, read⟩
  simp only at read
  split at read
  · next kind known =>
      rcases spans_decodeFields read with ⟨rfl, spansFields⟩
      rw [← ConstantKind.tag_of_ofTag? known] at readTag
      exact (spans_u8 readTag).append spansFields
  · cases read

end Constant

namespace Pool

theorem decodeOnto_of_lt {indices : Nat} {pool : Pool}
    (lacking : pool.width < indices) :
    decodeOnto indices pool = Constant.decode.andThen fun constant =>
      fun input =>
      match pool.add constant with
      | .ok (_, after) => decodeOnto indices after input
      | .error fault => .error (.fault fault) := by
  funext input
  rw [decodeOnto, if_pos lacking]
  simp only [andThen]
  cases Constant.decode input with
  | error stop => rfl
  | ok read =>
      simp only [bind, Except.bind]
      cases pool.add read.1 <;> rfl

theorem decodeOnto_of_le {indices : Nat} {pool : Pool}
    (complete : indices ≤ pool.width) :
    decodeOnto indices pool = done pool := by
  funext input
  rw [decodeOnto, if_neg (Nat.not_lt.2 complete)]
  rfl

/-- The rest of a pool is read back onto the constants before it. -/
theorem readsBack_decodeOnto
    {pool before : Pool} {others : List Constant}
    (split : pool.entries.toList = before.entries.toList ++ others) :
    ReadsBack (decodeOnto pool.width before)
      (.concat (others.map Constant.encode)) pool := by
  induction others generalizing before with
  | nil =>
      have same : pool = before :=
        ext_entries (Array.ext' (by simpa using split))
      subst same
      rw [decodeOnto_of_le (Nat.le_refl _)]
      exact ReadsBack.done pool
  | cons constant others hypothesis =>
      have widths : pool.width =
          before.width + (constant.width + totalWidth others) := by
        rw [width_eq_totalWidth, split, totalWidth_append,
          ← width_eq_totalWidth, totalWidth_cons]
      have positive := constant.width_pos
      have room : pool.width ≤ maxWidth := pool.width_le
      have fits : before.Fits constant := by
        show before.width + constant.width ≤ maxWidth
        omega
      rw [decodeOnto_of_lt (by omega), List.map_cons, Encoding.concat_cons]
      apply (Constant.readsBack_decode constant).andThen
      rw [add_eq_ok_iff.2 ⟨fits, rfl, rfl⟩]
      apply hypothesis
      rw [toList_entries_push, split, List.append_assoc, List.singleton_append]

/-- Every pool is read back. -/
theorem readsBack_decode (pool : Pool) : ReadsBack decode pool.encode pool := by
  show ReadsBack
    (u16.andThen fun count =>
      andThen (decodeOnto (count.toNat - 1) empty) fun pool => fun input =>
        if pool.width = count.toNat - 1 then .ok (pool, input)
        else .error (.fault (.poolCount (count.toNat - 1) pool.width)))
    (.count16 .poolCount (pool.width + 1) ++
      .concat (pool.entries.toList.map Constant.encode)) pool
  apply readsBack_count16_andThen
  intro same
  rw [same, Nat.add_sub_cancel, ← Encoding.append_empty (.concat _)]
  apply ReadsBack.andThen (readsBack_decodeOnto (by simp [empty]))
  simp only [↓reduceIte]
  exact ReadsBack.done pool

theorem spans_decodeOnto
    {indices : Nat} {pool after : Pool} {input rest : List UInt8}
    (read : decodeOnto indices pool input = .ok (after, rest)) :
    ∃ found, after.entries.toList = pool.entries.toList ++ found ∧
      (Encoding.concat (found.map Constant.encode)).Spans input rest := by
  fun_induction decodeOnto indices pool input with
  | case1 pool input lacking stop stopped => cases read
  | case2 pool input lacking constant left found fault full => cases read
  | case3 pool input lacking constant left found index next added _ _
      hypothesis =>
      rcases hypothesis read with ⟨others, entries, spansOthers⟩
      rcases add_eq_ok_iff.1 added with ⟨fits, -, rfl⟩
      refine ⟨constant :: others, ?_,
        (Constant.spans_decode found).append spansOthers⟩
      rw [entries, toList_entries_push, List.append_assoc,
        List.singleton_append]
  | case4 pool input complete =>
      cases read
      exact ⟨[], (List.append_nil _).symm, Encoding.Spans.empty _⟩

/--
A pool which was read is written as the bytes it was read from, unless it is
empty.
-/
theorem spans_decode
    {pool : Pool} {input rest : List UInt8}
    (read : decode input = .ok (pool, rest)) (nonempty : 0 < pool.width) :
    pool.encode.Spans input rest := by
  rcases bind_eq_ok read with ⟨⟨count, afterCount⟩, readCount, read⟩
  rcases bind_eq_ok read with ⟨⟨found, afterFound⟩, readFound, read⟩
  simp only at read
  split at read
  · next agrees =>
      cases read
      rcases spans_decodeOnto readFound with
        ⟨constants, entries, spansConstants⟩
      have declared : pool.width + 1 = count.toNat := by omega
      rw [encode, declared, Encoding.count16_toNat, entries]
      exact (spans_u16 readCount).append spansConstants
  · cases read

end Pool

end ClassFormat
