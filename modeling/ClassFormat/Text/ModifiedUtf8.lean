import ClassFormat.Text.Utf8
import ClassFormat.Text.Utf16

/-!
# Modified UTF-8

The text encoding of class files.  It writes each UTF-16 unit on its own, in one
to three bytes, so a character outside the basic plane takes two three-byte
groups; and it writes U+0000 in two bytes, so no byte of an encoded text is
zero.

An entry is kept as the bytes it was read from, which need not be canonical, nor
even decodable.  `ModifiedUtf8.text` reads them as standard UTF-8 where they are
that, and otherwise group by group, putting U+FFFD for a byte which begins no
complete group.
-/

namespace ClassFormat

/-- The bytes of a text in the modified encoding. -/
structure ModifiedUtf8 where
  bytes : List UInt8
  deriving DecidableEq, Repr, Inhabited

namespace ModifiedUtf8

open Text

/-- The group of bytes which stands for one unit. -/
def encodeUnit (unit : UInt16) : List UInt8 :=
  let n := unit.toNat
  if 0 < n ∧ n < 0x80 then
    [n.toUInt8]
  else if n < 0x800 then
    [(0xc0 + n / 64).toUInt8, (0x80 + n % 64).toUInt8]
  else
    [(0xe0 + n / 4096).toUInt8, (0x80 + n / 64 % 64).toUInt8,
      (0x80 + n % 64).toUInt8]

/-- The bytes which the modified encoding gives a text. -/
def encode (text : List Char) : List UInt8 :=
  (Utf16.encode text).flatMap encodeUnit

/-- The canonical encoding of a text. -/
def ofText (text : String) : ModifiedUtf8 :=
  ⟨encode text.toList⟩

/-- The unit which stands for a byte that begins no complete group. -/
def unreadable : UInt16 := 0xfffd

/-- The unit of a two-byte group; only the low bits of each byte count. -/
def unit2 (a b : UInt8) : UInt16 :=
  (a.toNat % 32 * 64 + b.toNat % 64).toUInt16

/-- The unit of a three-byte group; only the low bits of each byte count. -/
def unit3 (a b c : UInt8) : UInt16 :=
  (a.toNat % 16 * 4096 + b.toNat % 64 * 64 + c.toNat % 64).toUInt16

/--
Read the units of a byte sequence after those already read, which are held in
reverse.  The first byte of a group fixes its length, and the others are taken
whatever their high bits are.
-/
def unitsOnto (done : List UInt16) : List UInt8 → List UInt16
  | [] => done.reverse
  | a :: rest =>
    if a < 0x80 then
      unitsOnto (a.toUInt16 :: done) rest
    else if 0xc0 ≤ a ∧ a < 0xe0 then
      match rest with
      | b :: rest => unitsOnto (unit2 a b :: done) rest
      | [] => unitsOnto (unreadable :: done) []
    else if 0xe0 ≤ a ∧ a < 0xf0 then
      match rest with
      | b :: c :: rest => unitsOnto (unit3 a b c :: done) rest
      | rest => unitsOnto (unreadable :: done) rest
    else
      unitsOnto (unreadable :: done) rest

/-- The units of a byte sequence, group by group. -/
def units (bytes : List UInt8) : List UInt16 :=
  unitsOnto [] bytes

/--
The text of a byte sequence read group by group, with surrogates paired again.
-/
def decode (bytes : List UInt8) : List Char :=
  Utf16.decode (units bytes)

/-- The text of an entry. -/
def text (entry : ModifiedUtf8) : String :=
  match Utf8.decode? entry.bytes with
  | some chars => String.ofList chars
  | none => String.ofList (decode entry.bytes)

end ModifiedUtf8

end ClassFormat
