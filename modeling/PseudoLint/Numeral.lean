import PseudoLint.Text.Digit

/-! # Integers as text

Integers are written in decimal with a minus sign if they are negative, and read from decimal digits
of any script. More than 4300 digits are neither written nor read: the leading zeros of a literal
count towards the limit, and a sign never does.
-/

namespace PseudoLint.Numeral

def ofNat (n : Nat) : Text :=
  Nat.toDigits 10 n

def ofInt : Int → Text
  | .ofNat n => ofNat n
  | .negSucc n => '-' :: ofNat (n + 1)

/-- The longest integer that can be written or read has this many digits. -/
def digitLimit : Nat :=
  4300

/-- Whether the decimal text of an integer stays within the limit. -/
def isWritable (value : Int) : Bool :=
  (ofNat value.natAbs).length ≤ digitLimit

def digitsValue (digits : Text) : Nat :=
  digits.foldl (fun value digit => value * 10 + (decimalValue? digit).getD 0) 0

/-- An integer literal as it is written: an optional minus sign and its decimal digits. -/
structure Literal where
  negative : Bool
  digits : Text
deriving DecidableEq, Repr

/-- The value of a literal, or the number of its digits if they are too many. -/
def Literal.value (literal : Literal) : Except Nat Int :=
  if digitLimit < literal.digits.length then .error literal.digits.length
  else
    let magnitude : Int := digitsValue literal.digits
    .ok (if literal.negative then -magnitude else magnitude)

/-- The wording of the refusal of too many digits. Their number is given for a literal that was to
be read, and not for an integer that was to be written. -/
def limitMessage (count? : Option Nat) : Text :=
  let counted : Text :=
    match count? with
    | some count => ": value has " ++ ofNat count ++ " digits"
    | none => ""
  "Exceeds the limit (" ++ ofNat digitLimit ++ " digits) for integer string conversion" ++
    counted ++ "; use sys.set_int_max_str_digits() to increase the limit"

end PseudoLint.Numeral
