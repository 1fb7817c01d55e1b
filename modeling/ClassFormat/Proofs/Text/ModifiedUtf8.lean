import Mathlib.Data.List.Basic
import ClassFormat.Proofs.Text.Groups
import ClassFormat.Proofs.Text.Utf16

/-!
# What the canonical encoding is read as

A text is put into a pool in modified UTF-8, and is read back as it was.
Reading tries standard UTF-8 first, so this takes two arguments.  Where the
bytes are no standard UTF-8 they are read group by group, which undoes the
writing of one group for each unit, and the units are paired as they were.
Where they are, they are the standard encoding of some text; as they hold
neither a zero byte nor a character of four bytes, they are the canonical
encoding of the same text, and so of no other.
-/

namespace ClassFormat

namespace ModifiedUtf8

open Text Text.Utf8

/-! ## Reading canonical encodings -/

/-- Read group by group, encoded units are the units. -/
theorem units_flatMap_encodeUnit (list : List UInt16) :
    units (list.flatMap encodeUnit) = list := by
  induction list with
  | nil => rfl
  | cons unit list hypothesis =>
      rcases exists_group_of_encodeUnit unit with ⟨group, bytes, same, -⟩
      rw [List.flatMap_cons, ← bytes, units_bytes_append, same, hypothesis]

/-- Read group by group, the canonical encoding of a text is the text. -/
theorem decode_encode (text : List Char) : decode (encode text) = text := by
  rw [decode, encode, units_flatMap_encodeUnit, Utf16.decode_encode]

/-! ## Canonical encodings -/

/--
No byte of a group is zero, and none is the first of the four which standard
UTF-8 may use.
-/
theorem bounds_of_mem_encodeUnit {unit : UInt16} {byte : UInt8}
    (member : byte ∈ encodeUnit unit) :
    0 < byte.toNat ∧ byte.toNat < 0xf0 := by
  have bound : unit.toNat < 0x10000 := unit.toNat_lt
  have small {code : Nat} (positive : 0 < code) (below : code < 0xf0) :
      0 < (UInt8.ofNat code).toNat ∧ (UInt8.ofNat code).toNat < 0xf0 := by
    rw [toNat_ofNat_of_lt (Nat.lt_trans below (by decide))]
    exact ⟨positive, below⟩
  by_cases one : 0 < unit.toNat ∧ unit.toNat < 0x80
  · rw [encodeUnit_of_one one.1 one.2, List.mem_singleton] at member
    rw [member]
    exact small (by omega) (by omega)
  rcases Nat.lt_or_ge unit.toNat 0x800 with two | notTwo
  · rw [encodeUnit_of_two one two, List.mem_pair] at member
    rcases member with rfl | rfl <;> exact small (by omega) (by omega)
  · rw [encodeUnit_of_three notTwo, List.mem_cons, List.mem_pair] at member
    rcases member with rfl | rfl | rfl <;> exact small (by omega) (by omega)

theorem bounds_of_mem_encode {text : List Char} {byte : UInt8}
    (member : byte ∈ encode text) :
    0 < byte.toNat ∧ byte.toNat < 0xf0 := by
  rcases List.mem_flatMap.1 member with ⟨unit, -, inside⟩
  exact bounds_of_mem_encodeUnit inside

/--
Where every byte of the standard encoding may occur in a group, the character
has one unit.
-/
theorem basic_of_bounds {c : Char}
    (bounds : ∀ byte ∈ String.utf8EncodeChar c, 0 < byte.toNat ∧
      byte.toNat < 0xf0) :
    0 < c.toNat ∧ c.toNat < 0x10000 := by
  constructor
  · rw [Nat.pos_iff_ne_zero]
    intro zero
    rw [utf8EncodeChar_of_one (by omega), zero] at bounds
    exact absurd (bounds _ (List.mem_singleton_self _)).1 (by decide)
  · rw [← Nat.not_le]
    intro beyond
    have bound := codePoint_lt c
    rw [utf8EncodeChar_of_four beyond] at bounds
    have lead := (bounds _ List.mem_cons_self).2
    rw [toNat_ofNat_of_lt (by omega)] at lead
    omega

/--
The two encodings of a character of the basic plane are the same, but for that
of U+0000.
-/
theorem encodeUnit_of_basic {c : Char} (nonzero : 0 < c.toNat)
    (basic : c.toNat < 0x10000) :
    encodeUnit c.toNat.toUInt16 = String.utf8EncodeChar c := by
  have code := Utf16.toNat_toUInt16_of_lt basic
  rcases Nat.lt_or_ge c.toNat 0x80 with one | notOne
  · rw [encodeUnit_of_one (by omega) (by omega), code,
      utf8EncodeChar_of_one one]
  rcases Nat.lt_or_ge c.toNat 0x800 with two | notTwo
  · rw [encodeUnit_of_two (by omega) (by omega), code,
      utf8EncodeChar_of_two notOne two]
  · rw [encodeUnit_of_three (by omega), code,
      utf8EncodeChar_of_three notTwo basic]

/--
A text whose standard encoding may be canonical has the same canonical encoding.
-/
theorem encode_eq_of_bounds {chars : List Char}
    (bounds : ∀ byte ∈ chars.flatMap String.utf8EncodeChar, 0 < byte.toNat ∧
      byte.toNat < 0xf0) :
    encode chars = chars.flatMap String.utf8EncodeChar := by
  rw [encode, Utf16.encode, List.flatMap_assoc]
  apply List.flatMap_congr
  intro c member
  rcases basic_of_bounds fun byte inside =>
    bounds byte (List.mem_flatMap.2 ⟨c, member, inside⟩) with ⟨nonzero, basic⟩
  rw [Utf16.ofChar, if_pos basic, List.flatMap_singleton,
    encodeUnit_of_basic nonzero basic]

/--
Even where the canonical encoding of a text happens to be standard UTF-8, it is
the encoding of this text and no other.
-/
theorem text_ofText (text : String) : (ofText text).text = text := by
  rw [ModifiedUtf8.text]
  split
  · next chars accepted =>
      have standard : encode text.toList =
          chars.flatMap String.utf8EncodeChar :=
        decode?_eq_some_iff.1 accepted
      -- The standard encoding of these characters is their canonical one, which
      -- can be undone.
      have canonical : encode chars = encode text.toList := by
        rw [standard]
        apply encode_eq_of_bounds
        rw [← standard]
        exact fun byte member => bounds_of_mem_encode member
      have same : chars = text.toList := by
        rw [← decode_encode chars, canonical, decode_encode]
      rw [same, String.ofList_toList]
  · show String.ofList (decode (encode text.toList)) = text
    rw [decode_encode, String.ofList_toList]

/-- Entries of standard UTF-8 are read as such. -/
theorem text_of_standard {entry : ModifiedUtf8} {text : String}
    (standard : entry.bytes = text.toList.flatMap String.utf8EncodeChar) :
    entry.text = text := by
  rw [ModifiedUtf8.text, decode?_eq_some_iff.2 standard]
  exact String.ofList_toList

/-- All other entries are read group by group. -/
theorem text_of_not_standard {entry : ModifiedUtf8}
    (other : ∀ text : String,
      entry.bytes ≠ text.toList.flatMap String.utf8EncodeChar) :
    entry.text = String.ofList (decode entry.bytes) := by
  rw [ModifiedUtf8.text]
  split
  · next chars accepted =>
      have standard := decode?_eq_some_iff.1 accepted
      exact absurd (by rwa [String.toList_ofList]) (other (String.ofList chars))
  · rfl

/--
A text is read back from its canonical encoding, so different texts are encoded
differently.  The encoding holds neither a zero byte nor one which begins a
character of four bytes.  Entries are read as standard UTF-8 exactly where they
are that, and group by group otherwise.
-/
theorem ofText_reads_back :
    (∀ text : String, (ofText text).text = text ∧
      ∀ byte ∈ (ofText text).bytes, byte ≠ 0x00 ∧ byte < 0xf0) ∧
    Function.Injective ofText ∧
    ∀ entry : ModifiedUtf8,
      (∀ text : String,
        entry.bytes = text.toList.flatMap String.utf8EncodeChar →
        entry.text = text) ∧
      ((∀ text : String,
        entry.bytes ≠ text.toList.flatMap String.utf8EncodeChar) →
        entry.text = String.ofList (decode entry.bytes)) := by
  refine ⟨fun text => ⟨text_ofText text, ?_⟩,
    Function.LeftInverse.injective text_ofText,
    fun entry => ⟨fun text => text_of_standard, text_of_not_standard⟩⟩
  intro byte member
  rcases bounds_of_mem_encode member with ⟨positive, below⟩
  refine ⟨?_, UInt8.lt_iff_toNat_lt.2 below⟩
  rintro rfl
  exact absurd positive (by decide)

/--
A text with U+0000 and with characters of one, two and four bytes of standard
UTF-8.
-/
theorem ofText_reads_back_sample :
    let text := "a\x00é😀"
    (ofText text).text = text ∧ 0xed ∈ (ofText text).bytes ∧
      (0xed : UInt8) < 0xf0 ∧
      (⟨[0xc3, 0xa9]⟩ : ModifiedUtf8).text = "é" ∧
      (⟨[0x61, 0xc0, 0x80]⟩ : ModifiedUtf8).text = "a\x00" := by
  intro text
  rcases ofText_reads_back with ⟨all, -, readings⟩
  have member : 0xed ∈ (ofText text).bytes := by decide
  have twoBytes : [0xc3, 0xa9] = "é".toList.flatMap String.utf8EncodeChar := by
    decide
  have refused : decode? [0x61, 0xc0, 0x80] = none := by decide +kernel
  have other (standard : String) :
      [0x61, 0xc0, 0x80] ≠ standard.toList.flatMap String.utf8EncodeChar := by
    intro same
    rw [decode?_eq_some_iff.2 same] at refused
    cases refused
  refine ⟨(all text).1, member, ((all text).2 _ member).2,
    (readings _).1 "é" twoBytes, ?_⟩
  exact ((readings _).2 other).trans (by decide +kernel)

end ModifiedUtf8

end ClassFormat
