/-!
# Shortest decimals

The two interchange formats of IEEE 754 which class files use, and decimal texts
of their numbers.  A bit pattern is unpacked into a sign, a whole mantissa and a
power of two; the exponent field of a normal number hides the leading mantissa
bit, and the all-ones field holds the infinities and the patterns which are no
number.

The decimal text of a binary floating-point number: the coarsest power of ten
with a multiple that reads back as the number, the multiple nearest to it where
two of them do, and the larger one in a tie.  A decimal reads back when it lies
between the midpoints towards the two neighbouring numbers; the midpoints
themselves count exactly when the mantissa is even.

The text is positional whatever the magnitude, and a whole number has no point.
-/

namespace ClassFormat.Decimal

/-! ## Binary floating point -/

/-- The field widths of a binary format. -/
structure BinaryFormat where
  fractionBits : Nat
  exponentBits : Nat

/-- The 32-bit format. -/
def single : BinaryFormat := ⟨23, 8⟩

/-- The 64-bit format. -/
def double : BinaryFormat := ⟨52, 11⟩

/-- What a bit pattern stands for. -/
inductive BinaryFloat where
  | notANumber
  | infinite (negative : Bool)
  | zero (negative : Bool)
  /--
  The number `mantissa * 2 ^ exponent`, signed.  `narrowBelow` holds where the
  next smaller number is half as far away as the next larger one.
  -/
  | finite (negative : Bool) (mantissa : Nat) (exponent : Int)
      (narrowBelow : Bool)
  deriving DecidableEq, Repr

/-- Unpack a bit pattern. -/
def BinaryFormat.unpack (format : BinaryFormat) (bits : Nat) : BinaryFloat :=
  let fraction := bits % Nat.pow 2 format.fractionBits
  let field :=
    bits / Nat.pow 2 format.fractionBits % Nat.pow 2 format.exponentBits
  let negative :=
    bits / Nat.pow 2 (format.fractionBits + format.exponentBits) % 2 = 1
  let bias : Int :=
    Nat.pow 2 (format.exponentBits - 1) - 1 + format.fractionBits
  if field = Nat.pow 2 format.exponentBits - 1 then
    if fraction = 0 then .infinite negative else .notANumber
  else if field = 0 then
    if fraction = 0 then
      .zero negative
    else
      .finite negative fraction (1 - bias) false
  else
    .finite negative (Nat.pow 2 format.fractionBits + fraction) (field - bias)
      (fraction = 0 && 1 < field)

/-! ## Decimals -/

/-- The number `coefficient * 10 ^ power`. -/
structure DecimalNumber where
  coefficient : Nat
  power : Int
  deriving DecidableEq, Repr

/--
The decimals which read back as one number: those between `low / scale` and
`high / scale`, around the number `value / scale` itself.
-/
structure Neighbourhood where
  low : Nat
  value : Nat
  high : Nat
  scale : Nat
  /-- Whether the two ends read back too. -/
  closed : Bool
  deriving DecidableEq, Repr

/--
The neighbourhood of `mantissa * 2 ^ exponent`, counted in quarters of the last
mantissa bit.
-/
def Neighbourhood.around (mantissa : Nat) (exponent : Int)
    (narrowBelow : Bool) : Neighbourhood :=
  let quarter := Nat.pow 2 (exponent - 2).toNat
  { low := (4 * mantissa - if narrowBelow then 1 else 2) * quarter
    value := 4 * mantissa * quarter
    high := (4 * mantissa + 2) * quarter
    scale := Nat.pow 2 (2 - exponent).toNat
    closed := mantissa % 2 = 0 }

/--
Whether `a` comes before `b`, or may coincide with it in a closed neighbourhood.
-/
def Neighbourhood.ordered (around : Neighbourhood) (a b : Nat) : Bool :=
  a < b || (around.closed && a = b)

/--
The multiple of `10 ^ power` which reads back and is nearest to the number, if
any multiple does.  Only the multiples right below and right above the number
need to be tried.
-/
def Neighbourhood.multiple? (around : Neighbourhood) (power : Int) :
    Option Nat :=
  let fine := Nat.pow 10 (-power).toNat
  let step := around.scale * Nat.pow 10 power.toNat
  let below := around.value * fine / step
  let belowFits := around.ordered (around.low * fine) (below * step)
  let aboveFits := around.ordered ((below + 1) * step) (around.high * fine)
  let belowNearer := 2 * (around.value * fine) < (2 * below + 1) * step
  match belowFits, aboveFits with
  | true, true => some (if belowNearer then below else below + 1)
  | true, false => some below
  | false, true => some (below + 1)
  | false, false => none

/-- Try `tries` powers of ten from `power` downwards. -/
def Neighbourhood.search (around : Neighbourhood) (power : Int) :
    Nat → Option DecimalNumber
  | 0 => none
  | tries + 1 =>
    match around.multiple? power with
    | some coefficient => some ⟨coefficient, power⟩
    | none => around.search (power - 1) tries

/--
The shortest decimal of a neighbourhood.  The search begins above the number,
and ends where the powers of ten are finer than its scale.
-/
def Neighbourhood.shortest (around : Neighbourhood) : DecimalNumber :=
  let digits := (Nat.toDigits 10 (around.high / around.scale)).length
  (around.search digits (digits + Nat.log2 around.scale + 2)).getD
    ⟨around.value, 0⟩

/-- The positional digits of a decimal. -/
def DecimalNumber.chars (number : DecimalNumber) : List Char :=
  let digits := Nat.toDigits 10 number.coefficient
  if 0 ≤ number.power then
    digits ++ List.replicate number.power.toNat '0'
  else
    let places := (-number.power).toNat
    let padded := List.replicate (places + 1 - digits.length) '0' ++ digits
    padded.take (padded.length - places) ++
      '.' :: padded.drop (padded.length - places)

/-- The decimal text of a floating-point number. -/
def BinaryFloat.chars : BinaryFloat → List Char
  | .notANumber => ['N', 'a', 'N']
  | .infinite negative => sign negative ++ ['i', 'n', 'f']
  | .zero negative => sign negative ++ ['0']
  | .finite negative mantissa exponent narrowBelow =>
    sign negative ++
      (Neighbourhood.around mantissa exponent narrowBelow).shortest.chars
where
  /-- A negative number has a minus sign in front. -/
  sign (negative : Bool) : List Char :=
    if negative then ['-'] else []

/-- The decimal text of a bit pattern in a format. -/
def BinaryFormat.decimal (format : BinaryFormat) (bits : Nat) : String :=
  String.ofList (format.unpack bits).chars

end ClassFormat.Decimal
