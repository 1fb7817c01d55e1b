/-!
# Strict UTF-8

Reading standard UTF-8 from bytes.  `nextChar?` takes one well-formed character
off the front: the shortest form of a Unicode scalar value, in one to four
bytes.  `decode?` reads a whole sequence and gives nothing unless every byte of
it belongs to a well-formed character.
-/

namespace ClassFormat.Text.Utf8

/-- A continuation byte has the bits `10xxxxxx`. -/
def isContinuation (byte : UInt8) : Bool :=
  0x80 ≤ byte && byte ≤ 0xbf

/-- The six bits which a continuation byte adds to a character. -/
def continuationBits (byte : UInt8) : Nat :=
  byte.toNat % 64

/--
The character with a given code point, if the code point is at least `least` and
a scalar value.
-/
def scalar? (least code : Nat) : Option Char :=
  if valid : code.isValidChar then
    if least ≤ code then some ⟨code.toUInt32, by
      rcases valid with small | ⟨_, _⟩ <;>
        simp [UInt32.isValidChar, Nat.isValidChar, Nat.toUInt32,
          UInt32.toNat_ofNat'] <;> omega⟩
    else none
  else
    none

/-- Read one well-formed character from the front of some bytes. -/
def nextChar? : List UInt8 → Option (Char × List UInt8)
  | [] => none
  | lead :: rest =>
    if lead < 0x80 then
      (scalar? 0 lead.toNat).map (·, rest)
    else if lead < 0xe0 then
      match rest with
      | b :: rest =>
        if 0xc0 ≤ lead ∧ isContinuation b then
          (scalar? 0x80 (lead.toNat % 32 * 64 + continuationBits b)).map
            (·, rest)
        else
          none
      | _ => none
    else if lead < 0xf0 then
      match rest with
      | b :: c :: rest =>
        if isContinuation b ∧ isContinuation c then
          (scalar? 0x800
            (lead.toNat % 16 * 4096 + continuationBits b * 64 +
              continuationBits c)).map (·, rest)
        else
          none
      | _ => none
    else if lead < 0xf8 then
      match rest with
      | b :: c :: d :: rest =>
        if isContinuation b ∧ isContinuation c ∧ isContinuation d then
          (scalar? 0x10000
            (lead.toNat % 8 * 262144 + continuationBits b * 4096 +
              continuationBits c * 64 +
              continuationBits d)).map (·, rest)
        else
          none
      | _ => none
    else
      none

theorem length_lt_of_nextChar?
    {bytes rest : List UInt8} {c : Char}
    (read : nextChar? bytes = some (c, rest)) :
    rest.length < bytes.length := by
  simp only [nextChar?] at read
  split at read
  · simp at read
  · repeat' split at read
    all_goals simp at read
    all_goals
      rcases read with ⟨_, _, _, rfl⟩
      simp <;> omega

/--
Read well-formed characters up to the end of the bytes, putting them after those
already read, which are held in reverse.
-/
def decodeOnto? (done : List Char) (bytes : List UInt8) : Option (List Char) :=
  match bytes with
  | [] => some done.reverse
  | byte :: others =>
    match read : nextChar? (byte :: others) with
    | none => none
    | some (c, rest) =>
      have := length_lt_of_nextChar? read
      decodeOnto? (c :: done) rest
termination_by bytes.length
decreasing_by assumption

/-- The characters of a whole byte sequence, if it is well-formed UTF-8. -/
def decode? (bytes : List UInt8) : Option (List Char) :=
  decodeOnto? [] bytes

end ClassFormat.Text.Utf8
