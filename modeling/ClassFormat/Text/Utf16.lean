/-!
# UTF-16 units

A text as 16-bit units and back.  A character outside the basic plane becomes a
high surrogate followed by a low one; reading pairs them again and puts U+FFFD
where a surrogate has no partner.
-/

namespace ClassFormat.Text.Utf16

/-- The character which stands for text that could not be read. -/
def replacement : Char := '\ufffd'

/-- The units of one character. -/
def ofChar (c : Char) : List UInt16 :=
  if c.toNat < 0x10000 then
    [c.toNat.toUInt16]
  else
    [(0xd800 + (c.toNat - 0x10000) / 1024).toUInt16,
      (0xdc00 + (c.toNat - 0x10000) % 1024).toUInt16]

/-- The units of a text. -/
def encode (text : List Char) : List UInt16 :=
  text.flatMap ofChar

/-- The first unit of a pair. -/
def isHigh (unit : UInt16) : Bool :=
  0xd800 ≤ unit && unit < 0xdc00

/-- The second unit of a pair. -/
def isLow (unit : UInt16) : Bool :=
  0xdc00 ≤ unit && unit < 0xe000

/-- The character which a high and a low unit stand for together. -/
def pair (high low : UInt16) : Char :=
  Char.ofNat (0x10000 + (high.toNat - 0xd800) * 1024 + (low.toNat - 0xdc00))

/-- The character of a unit which is no part of a pair. -/
def single (unit : UInt16) : Char :=
  if isHigh unit || isLow unit then replacement else Char.ofNat unit.toNat

/--
Read units, putting the characters after those already read, which are held in
reverse.
-/
def decodeOnto (done : List Char) : List UInt16 → List Char
  | [] => done.reverse
  | [unit] => (single unit :: done).reverse
  | unit :: next :: rest =>
    if isHigh unit && isLow next then
      decodeOnto (pair unit next :: done) rest
    else
      decodeOnto (single unit :: done) (next :: rest)

/-- The text of some units. -/
def decode (units : List UInt16) : List Char :=
  decodeOnto [] units

end ClassFormat.Text.Utf16
