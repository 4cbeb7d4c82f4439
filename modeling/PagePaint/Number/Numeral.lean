import PagePaint.Number.Shortest

set_option autoImplicit false

/-!
# Numbers as text

Messages show numbers in full, without an exponent. Listings of a value's fields tag each number
as fractional and switch to an exponent where the positional form grows long. The two forms differ
only in a record of decisions.
-/

namespace PagePaint.Numeral

open PagePaint

/-- How a number is laid out: what follows the digits of a number without a fraction, and which
leading powers of ten are written with an exponent. -/
structure Layout where
  wholeEnding : String
  usesExponent : Int → Bool

/-- Numbers in messages: never an exponent, and no fraction for a whole number. -/
def plain : Layout := ⟨"", fun _ => false⟩

/-- Numbers in listings: a whole number ends in `.0`; an exponent stands below a ten-thousandth
and from ten to the power of sixteen on. -/
def tagged : Layout := ⟨".0", fun power => power < -4 || 16 ≤ power⟩

private def zeros (count : Nat) : String := String.ofList (List.replicate count '0')

def decimalText (layout : Layout) (decimal : Shortest.Decimal) : String :=
  let digits := Nat.toDigits 10 decimal.digits
  let power := decimal.exponent + digits.length - 1
  if layout.usesExponent power then
    let mantissa := match digits with
      | [] => ""
      | [digit] => String.singleton digit
      | digit :: rest => String.singleton digit ++ "." ++ String.ofList rest
    mantissa ++ "e" ++ toString power
  else if 0 ≤ decimal.exponent then
    String.ofList digits ++ zeros decimal.exponent.toNat ++ layout.wholeEnding
  else if 0 ≤ power then
    let whole := (power + 1).toNat
    String.ofList (digits.take whole) ++ "." ++ String.ofList (digits.drop whole)
  else
    "0." ++ zeros (-power - 1).toNat ++ String.ofList digits

/-- The text of a single-precision number. A zero keeps its sign. -/
def text (layout : Layout) (number : Float32) : String :=
  match Binary32.read number with
  | .nan => "NaN"
  | .infinite negative => if negative then "-inf" else "inf"
  | .finite negative significand exponent =>
    let magnitude :=
      if significand = 0 then "0" ++ layout.wholeEnding
      else decimalText layout (Shortest.decimal significand exponent)
    if negative then "-" ++ magnitude else magnitude

def digitsValue? : List Char → Option Nat
  | [] => none
  | digits =>
    if digits.all Char.isDigit then
      some (digits.foldl (fun value digit => 10 * value + (digit.toNat - '0'.toNat)) 0)
    else none

/-- Reads a natural number below a bound: digits only, behind at most one plus sign. -/
def readNat? (bound : Nat) (numeral : String) : Option Nat :=
  let digits := match numeral.toList with
    | '+' :: rest => rest
    | all => all
  (digitsValue? digits).filter (· < bound)

def splitSign : List Char → Bool × List Char
  | '-' :: rest => (true, rest)
  | '+' :: rest => (false, rest)
  | rest => (false, rest)

def readExponent? : List Char → Option Int
  | [] => some 0
  | mark :: rest =>
    if mark = 'e' ∨ mark = 'E' then
      let (negative, digits) := splitSign rest
      (digitsValue? digits).map fun value => if negative then -(value : Int) else value
    else none

/-- The single-precision number nearest to a decimal. The powers of ten that matter are bounded,
so an exponent of any length is read in bounded work. -/
def nearest (digits : Nat) (exponent : Int) : Float32 :=
  let power := exponent + (Nat.toDigits 10 digits).length
  if digits = 0 ∨ power < -60 then Float32.ofBits 0
  else if 60 < power then Float32.ofBits 0x7F800000
  else Float32.ofScientific digits (decide (exponent < 0)) exponent.natAbs

def readMagnitude? (body : List Char) : Option Float32 :=
  let word := (String.ofList body).map Char.toLower
  if word = "inf" ∨ word = "infinity" then some (Float32.ofBits 0x7F800000)
  else if word = "nan" then some (Float32.ofBits 0x7FC00000)
  else
    let whole := body.takeWhile Char.isDigit
    let afterWhole := body.dropWhile Char.isDigit
    let (fraction, afterFraction) := match afterWhole with
      | '.' :: rest => (rest.takeWhile Char.isDigit, rest.dropWhile Char.isDigit)
      | rest => ([], rest)
    match digitsValue? (whole ++ fraction), readExponent? afterFraction with
    | some digits, some exponent => some (nearest digits (exponent - fraction.length))
    | _, _ => none

/-- Reads a single-precision number: an optional sign, then the words for infinity and for no
number in any case, or digits with at most one point among or beside them and an optional
exponent. Blanks and digit separators are refused. -/
def readFloat? (numeral : String) : Option Float32 :=
  let (negative, body) := splitSign numeral.toList
  (readMagnitude? body).map fun magnitude => if negative then -magnitude else magnitude

end PagePaint.Numeral
