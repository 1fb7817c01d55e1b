import ClassFormat.Binary.Encoding

/-!
# Encodings one after another

Encodings are joined like texts: joining is associative, and the encoding
without output changes nothing.  What makes them more than texts is the excess
which may cut one of them short.  Most statements here say when an encoding
comes out in full, which is when every part of it does; the bytes are then those
of the parts, in order.
-/

namespace ClassFormat.Encoding

@[simp]
theorem append_empty (encoding : Encoding) : encoding ++ empty = encoding := by
  rcases encoding with ⟨bytes, none | excess⟩
  · exact congrArg (Encoding.mk · none) (List.append_nil bytes)
  · rfl

theorem append_assoc (first second third : Encoding) :
    first ++ second ++ third = first ++ (second ++ third) := by
  rcases first with ⟨firstBytes, none | firstExcess⟩
  · rcases second with ⟨secondBytes, none | secondExcess⟩
    · exact congrArg (Encoding.mk · third.excess)
        (List.append_assoc firstBytes secondBytes third.bytes)
    · rfl
  · rfl

@[simp]
theorem ofBytes_inj {first second : List UInt8} :
    ofBytes first = ofBytes second ↔ first = second := by
  simp [ofBytes]

theorem ofBytes_append_ofBytes (first second : List UInt8) :
    ofBytes first ++ ofBytes second = ofBytes (first ++ second) := by
  rfl

/-- Two encodings come out in full together exactly if each of them does. -/
theorem append_eq_ofBytes_iff
    {first second : Encoding} {bytes : List UInt8} :
    first ++ second = ofBytes bytes ↔
      ∃ front back,
        first = ofBytes front ∧ second = ofBytes back ∧
          bytes = front ++ back := by
  constructor
  · intro whole
    rcases first with ⟨front, none | excess⟩
    · rcases second with ⟨back, none | excess⟩
      · exact ⟨front, back, rfl, rfl, (congrArg Encoding.bytes whole).symm⟩
      · exact absurd (congrArg Encoding.excess whole) nofun
    · exact absurd (congrArg Encoding.excess whole) nofun
  · rintro ⟨front, back, rfl, rfl, rfl⟩
    exact ofBytes_append_ofBytes front back

@[simp]
theorem concat_cons (first : Encoding) (others : List Encoding) :
    concat (first :: others) = first ++ concat others := by
  rfl

/-- A count comes out exactly if it fits in two bytes. -/
theorem count16_eq_ofBytes_iff
    {what : Measure} {count : Nat} {bytes : List UInt8} :
    count16 what count = ofBytes bytes ↔
      count < 65536 ∧ bytes = bytes16 count.toUInt16 := by
  by_cases fits : count < 65536
  · simp [count16, u16, fits, eq_comm]
  · simp [count16, ofBytes, fits]

/-- A length comes out exactly if it fits in four bytes. -/
theorem length32_eq_ofBytes_iff
    {what : Measure} {length : Nat} {bytes : List UInt8} :
    length32 what length = ofBytes bytes ↔
      length < 4294967296 ∧ bytes = bytes32 length.toUInt32 := by
  by_cases fits : length < 4294967296
  · simp [length32, u32, fits, eq_comm]
  · simp [length32, ofBytes, fits]

/-- The count of two bytes which was read somewhere is put out again. -/
theorem count16_toNat (what : Measure) (count : UInt16) :
    count16 what count.toNat = u16 count := by
  have fits : count.toNat < 65536 := count.toNat_lt
  simp [count16, fits]

/-- The length of four bytes which was read somewhere is put out again. -/
theorem length32_toNat (what : Measure) (length : UInt32) :
    length32 what length.toNat = u32 length := by
  have fits : length.toNat < 4294967296 := length.toNat_lt
  simp [length32, fits]

/-- There are bytes exactly if the encoding came out in full. -/
theorem toBytes_eq_ok_iff {encoding : Encoding} {bytes : List UInt8} :
    encoding.toBytes = .ok bytes ↔ encoding = ofBytes bytes := by
  rcases encoding with ⟨written, none | excess⟩
  · simp [toBytes, ofBytes]
  · simp [toBytes, ofBytes]

end ClassFormat.Encoding
