import ClassFormat.Proofs.CompiledClass.WellFormed

/-!
# Class files, there and back

Classes do not keep the bytes which they were read from: counts, lengths and the
gaps of wide constants are found again when a class is written.  Still, what is
written is what was read; what was written is read as the same class, whatever
comes after it; and no part of it but the whole is read as a class.
-/

namespace ClassFormat.CompiledClass

open Decoder

theorem parse_eq_ok_iff {bytes : List UInt8} {class_ : CompiledClass} :
    parse bytes = .ok class_ ↔ ∃ rest, decode bytes = .ok (class_, rest) := by
  constructor
  · intro parsed
    rcases exists_of_map_eq_ok parsed with ⟨⟨found, rest⟩, read, rfl⟩
    exact ⟨rest, eq_ok_of_sealed read⟩
  · rintro ⟨rest, read⟩
    rw [parse, sealed, read]
    rfl

theorem parse_eq_truncated_of_prefix
    {class_ : CompiledClass} {written cut : List UInt8}
    (takes : Takes decode written class_)
    (front : cut <+: written) (proper : cut ≠ written) :
    parse cut = .error .truncated := by
  rcases front with ⟨missing, rfl⟩
  have lacking : missing ≠ [] := by
    rintro rfl
    exact proper (List.append_nil cut).symm
  rw [parse, sealed, takes.early cut missing rfl lacking]
  rfl

/--
A class which was read is written as bytes which are read as the class and as
nothing less.
-/
theorem takes_of_decode
    {class_ : CompiledClass} {bytes rest : List UInt8}
    (read : decode bytes = .ok (class_, rest)) :
    ∃ written, class_.toBytes = .ok written ∧ bytes = written ++ rest ∧
      Takes decode written class_ := by
  rcases spans_decode read with ⟨⟨written, whole, rfl⟩, wellFormed⟩
  exact ⟨written, Encoding.toBytes_eq_ok_iff.2 whole, rfl,
    readsBack_decode wellFormed written whole⟩

/--
A class with a wide constant, and with an attribute without a known name inside
of code.
-/
def sample : CompiledClass where
  major := 49
  minor := 0
  pool := {
    entries := #[
      .utf8 ⟨[65]⟩, .classRef 1, .long 1 2, .utf8 ⟨[67, 111, 100, 101]⟩,
      .utf8 ⟨[40, 41, 86]⟩,
      .utf8 ⟨[255]⟩]
    slots := #[some 0, some 1, some 2, none, some 3, some 4, some 5]
    slots_eq := rfl
    width_le := by decide }
  flags := ⟨0x8020⟩
  thisClass := 2
  superClass := 0
  interfaces := []
  fields := []
  methods := [{
    flags := ⟨0x8001⟩
    name := 1
    descriptor := 6
    attributes := [
      .code 5
        { maxStack := 0, maxLocals := 1, instructions := [177], handlers := [] }
        [.plain 7 (.unknown [42])]]
    types := {
      parameters := []
      result := {
        dimensions := 0
        element := .primitive .void
        legal := trivial
        noVoidArray := by decide } } }]
  attributes := []

/-- The class file of the sample. -/
def sampleBytes : List UInt8 :=
  [202, 254, 186, 190, 0, 0, 0, 49, 0, 8, 1, 0, 1, 65, 7, 0, 1, 5, 0, 0, 0, 1,
    0, 0, 0, 2, 1, 0, 4, 67, 111, 100, 101, 1, 0, 3, 40, 41, 86, 1, 0, 1, 255,
    128, 32, 0, 2, 0, 0, 0, 0, 0, 0, 0, 1, 128, 1, 0, 1, 0, 6, 0, 1, 0, 5, 0, 0,
    0, 20, 0, 0, 0, 1, 0, 0, 0, 1, 177, 0, 0, 0, 1, 0, 7, 0, 0, 0, 1, 42, 0, 0]

/-! ## What was read is written -/

/--
A class which was parsed is written as exactly those bytes which parsing took.
What followed them was left alone and might have been anything; if nothing did,
the bytes are the same as a whole.
-/
theorem toBytes_of_parse
    {bytes : List UInt8} {class_ : CompiledClass}
    (parsed : parse bytes = .ok class_) :
    ∃ written rest,
      class_.toBytes = .ok written ∧ bytes = written ++ rest ∧
        decode bytes = .ok (class_, rest) ∧
          (∀ others, parse (written ++ others) = .ok class_) ∧
            (rest = [] → written = bytes) := by
  rcases parse_eq_ok_iff.1 parsed with ⟨rest, read⟩
  rcases takes_of_decode read with ⟨written, put, rfl, takes⟩
  refine ⟨written, rest, put, rfl, read, ?_, ?_⟩
  · intro others
    exact parse_eq_ok_iff.2 ⟨others, takes.whole others⟩
  · rintro rfl
    exact (List.append_nil written).symm

theorem toBytes_of_parse_sample :
    parse (sampleBytes ++ [7]) = .ok sample ∧
      ∃ written rest,
        sample.toBytes = .ok written ∧ sampleBytes ++ [7] = written ++ rest ∧
          decode (sampleBytes ++ [7]) = .ok (sample, rest) ∧
            (∀ others, parse (written ++ others) = .ok sample) ∧
              (rest = [] → written = sampleBytes ++ [7]) := by
  have parsed : parse (sampleBytes ++ [7]) = .ok sample := by decide +kernel
  exact ⟨parsed, toBytes_of_parse parsed⟩

/-! ## What was written is read -/

/--
A well-formed class which is written is read back as the same class, whatever
comes after it, and what comes after it is left alone.
-/
theorem decode_of_toBytes
    {class_ : CompiledClass} {bytes : List UInt8}
    (wellFormed : class_.WellFormed)
    (written : class_.toBytes = .ok bytes) (more : List UInt8) :
    decode (bytes ++ more) = .ok (class_, more) ∧
      parse (bytes ++ more) = .ok class_ := by
  have whole := Encoding.toBytes_eq_ok_iff.1 written
  have read := (readsBack_decode wellFormed bytes whole).whole more
  exact ⟨read, parse_eq_ok_iff.2 ⟨more, read⟩⟩

theorem decode_of_toBytes_sample :
    sample.WellFormed ∧ sample.toBytes = .ok sampleBytes ∧
      decode (sampleBytes ++ [7]) = .ok (sample, [7]) ∧
        parse (sampleBytes ++ [7]) = .ok sample := by
  have read : decode sampleBytes = .ok (sample, []) := by decide +kernel
  have written : sample.toBytes = .ok sampleBytes := by decide +kernel
  have wellFormed : sample.WellFormed := (spans_decode read).2
  exact ⟨wellFormed, written, decode_of_toBytes wellFormed written [7]⟩

/-! ## What lacks its end -/

/--
What parsing takes for a class is taken for the class whatever comes after it,
and everything that lacks the end of it is reported as truncated, wherever the
cut may fall.  So no class is written as the beginning of what another one is
written as.
-/
theorem truncated_of_parse
    {bytes : List UInt8} {class_ : CompiledClass}
    (parsed : parse bytes = .ok class_) :
    ∃ written rest,
      class_.toBytes = .ok written ∧ bytes = written ++ rest ∧
        decode bytes = .ok (class_, rest) ∧
          (∀ cut, cut <+: written → cut ≠ written →
            parse cut = .error .truncated) ∧
            (∀ others, parse (written ++ others) = .ok class_) ∧
              ∀ otherBytes other otherWritten,
                parse otherBytes = .ok other →
                  other.toBytes = .ok otherWritten →
                  otherWritten <+: written →
                    otherWritten = written ∧ other = class_ := by
  rcases parse_eq_ok_iff.1 parsed with ⟨rest, read⟩
  rcases takes_of_decode read with ⟨written, put, rfl, takes⟩
  refine ⟨written, rest, put, rfl, read, ?_, ?_, ?_⟩
  · intro cut front proper
    exact parse_eq_truncated_of_prefix takes front proper
  · intro others
    exact parse_eq_ok_iff.2 ⟨others, takes.whole others⟩
  · intro otherBytes other otherWritten otherParsed otherPut front
    rcases parse_eq_ok_iff.1 otherParsed with ⟨otherRest, otherRead⟩
    rcases takes_of_decode otherRead with ⟨same, samePut, -, otherTakes⟩
    cases otherPut.symm.trans samePut
    exact otherTakes.eq_of_prefix takes front

theorem truncated_of_parse_sample :
    parse sampleBytes = .ok sample ∧
      ∃ written rest,
        sample.toBytes = .ok written ∧ sampleBytes = written ++ rest ∧
          decode sampleBytes = .ok (sample, rest) ∧
            (∀ cut, cut <+: written → cut ≠ written →
              parse cut = .error .truncated) ∧
              (∀ others, parse (written ++ others) = .ok sample) ∧
                ∀ otherBytes other otherWritten,
                  parse otherBytes = .ok other →
                    other.toBytes = .ok otherWritten →
                    otherWritten <+: written →
                      otherWritten = written ∧ other = sample := by
  have parsed : parse sampleBytes = .ok sample := by decide +kernel
  exact ⟨parsed, truncated_of_parse parsed⟩

end ClassFormat.CompiledClass
