import PseudoLint.Numeral

/-! # Shortest decimals

Among the decimals that are read back as a given binary number of 64 bits, the shortest have the
fewest digits, and the nearest of these stands for the number. The reals that are read back as
`mantissa * 2 ^ exponent` reach halfway to the two neighbouring numbers, and include the two ends
exactly if the mantissa is even. All comparisons are exact.
-/

namespace PseudoLint.Decimal

/-- A positive binary number, `mantissa * 2 ^ exponent`. -/
structure Binary where
  mantissa : Nat
  exponent : Int
  /-- The gap to the number below is half the gap to the number above. -/
  narrowBelow : Bool
deriving DecidableEq, Repr

/-- A decimal, `digits * 10 ^ exponent`. -/
structure Scaled where
  digits : Nat
  exponent : Int
deriving DecidableEq, Repr

/-- The given power of ten, or one if the exponent is negative. -/
def tens (exponent : Int) : Nat :=
  Nat.pow 10 exponent.toNat

/-- The given power of two, or one if the exponent is negative. -/
def twos (exponent : Int) : Nat :=
  Nat.pow 2 exponent.toNat

/-- The number with the given bits, its sign set aside. -/
def Binary.ofBits (bits : UInt64) : Binary :=
  let exponent := ((bits >>> 52) &&& 0x7FF).toNat
  let fraction := (bits &&& 0xFFFFFFFFFFFFF).toNat
  if exponent = 0 then ⟨fraction, -1074, false⟩
  else ⟨twos 52 + fraction, (exponent : Int) - 1075, fraction = 0 ∧ 1 < exponent⟩

/-- Compares `decimal` with `count * 2 ^ exponent`. -/
def Scaled.compareWith (decimal : Scaled) (count : Nat) (exponent : Int) : Ordering :=
  compare (decimal.digits * tens decimal.exponent * twos (-exponent))
    (count * twos exponent * tens (-decimal.exponent))

/-- Whether a decimal is read back as a number. -/
def Binary.readsBack (number : Binary) (decimal : Scaled) : Bool :=
  let below := 4 * number.mantissa - (if number.narrowBelow then 1 else 2)
  let above := 4 * number.mantissa + 2
  let even := number.mantissa % 2 == 0
  let low := decimal.compareWith below (number.exponent - 2)
  let high := decimal.compareWith above (number.exponent - 2)
  (low == .gt || (even && low == .eq)) && (high == .lt || (even && high == .eq))

/-- The least power of ten above a number. -/
def Binary.magnitude (number : Binary) : Int :=
  let numerator := number.mantissa * tens 400 * twos number.exponent
  let scaled := numerator / twos (-number.exponent)
  ((Nat.toDigits 10 scaled).length : Int) - 400

/-- The decimal with the given number of digits that is nearest to a number among those that are
read back as it; a tie goes to the even one. -/
def Binary.candidate? (number : Binary) (count : Nat) : Option Scaled :=
  let grid := number.magnitude - count
  let numerator := number.mantissa * twos number.exponent * tens (-grid)
  let denominator := twos (-number.exponent) * tens grid
  let floor := numerator / denominator
  let below : Scaled := ⟨floor, grid⟩
  let above : Scaled := ⟨floor + 1, grid⟩
  match number.readsBack below, number.readsBack above with
  | false, false => none
  | true, false => some below
  | false, true => some above
  | true, true =>
    match compare (2 * numerator) ((2 * floor + 1) * denominator) with
    | .lt => some below
    | .gt => some above
    | .eq => some (if floor % 2 = 0 then below else above)

/-- The shortest decimal of a number among those of up to seventeen digits. -/
def Binary.shortest (number : Binary) : Scaled :=
  ((List.range 17).findSome? fun count => number.candidate? (count + 1)).getD
    ⟨number.mantissa * twos number.exponent, 0⟩

/-- The digits of a decimal without trailing zeros, and the power of ten of the first one. -/
def Scaled.significant (decimal : Scaled) : Text × Int :=
  let digits := Nat.toDigits 10 decimal.digits
  let kept := (digits.reverse.dropWhile (· == '0')).reverse
  (kept, decimal.exponent + digits.length - 1)

/-- Digits as a number with a point: positionally from 0.0001 to below 10 ^ 16, and otherwise with
a signed exponent of at least two digits. -/
def layout (digits : Text) (power : Int) : Text :=
  if -4 ≤ power ∧ power < 0 then
    "0." ++ List.replicate (-power - 1).toNat '0' ++ digits
  else if 0 ≤ power ∧ power < 16 then
    let whole := power.toNat + 1
    let fraction := digits.drop whole
    digits.take whole ++ List.replicate (whole - digits.length) '0' ++ "." ++
      (if fraction.isEmpty then ['0'] else fraction)
  else
    let fraction := digits.drop 1
    let sign : Text := if power < 0 then ['-'] else ['+']
    digits.take 1 ++ (if fraction.isEmpty then [] else '.' :: fraction) ++ "e" ++ sign ++
      (Numeral.ofNat power.natAbs).leftpad 2 '0'

/-- The text of a floating-point number. -/
def ofFloat (value : Float) : Text :=
  let bits := value.toBits
  let sign : Text := if bits >>> 63 = 1 then ['-'] else []
  if value.isNaN then "nan"
  else if value.isInf then sign ++ "inf"
  else
    let number := Binary.ofBits bits
    if number.mantissa = 0 then sign ++ "0.0"
    else
      let (digits, power) := number.shortest.significant
      sign ++ layout digits power

/-! ## Literals -/

/-- The value of a decimal integer with an optional sign. -/
def signedValue : Text → Int
  | '-' :: digits => -(Numeral.digitsValue digits : Int)
  | '+' :: digits => Numeral.digitsValue digits
  | digits => Numeral.digitsValue digits

/-- The floating-point number that `digits * 10 ^ exponent` is read as. Numbers far outside the
range are settled without computing the power. -/
def toFloat (digits : Nat) (exponent : Int) : Float :=
  let size := exponent + (Nat.toDigits 10 digits).length
  if digits = 0 ∨ size < -400 then 0.0
  else if 400 < size then Float.ofScientific 1 false 400
  else Float.ofScientific digits (exponent < 0) exponent.natAbs

/-- The text of the number that a literal with a fraction or an exponent is read as. -/
def ofLiteral (literal : Text) : Text :=
  let negative := literal.head? == some '-'
  let body := if negative then literal.drop 1 else literal
  let mantissa := body.takeWhile fun c => c != 'e' && c != 'E'
  let exponent := signedValue (body.drop (mantissa.length + 1))
  let (whole, fraction?) := Text.cut '.' mantissa
  let fraction := fraction?.getD []
  let magnitude :=
    toFloat (Numeral.digitsValue (whole ++ fraction)) (exponent - fraction.length)
  (if negative then ['-'] else []) ++ ofFloat magnitude

end PseudoLint.Decimal
