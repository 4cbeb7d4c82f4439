set_option autoImplicit false

/-!
# Single-precision words

A finite single-precision number is a natural significand times a power of two. This module reads
a word as such a number and goes the two ways between single and double precision by integer
arithmetic on the words alone, so that every step can be evaluated inside a proof.
-/

namespace PagePaint.Binary32

/-- What a single-precision word stands for. A finite number is its significand times two to the
power of its exponent; the significand need not be odd and is zero for both zeroes. -/
inductive Reading where
  | nan
  | infinite (negative : Bool)
  | finite (negative : Bool) (significand : Nat) (exponent : Int)
deriving DecidableEq, Repr

/-- The leading bit of a normal significand, which the word leaves out. -/
def leadingBit : Nat := 0x800000

def wideLeadingBit : Nat := 0x10000000000000

/-- Reads a word. Subnormal numbers share the exponent of the smallest normal ones. -/
def read (number : Float32) : Reading :=
  let word := number.toBits.toNat
  let negative := decide (0x80000000 ≤ word)
  let field : Nat := word / leadingBit % 256
  let fraction := word % leadingBit
  if field = 255 then
    if fraction = 0 then .infinite negative else .nan
  else if field = 0 then .finite negative fraction (-149)
  else .finite negative (fraction + leadingBit) ((field : Int) - 150)

/-- The quotient by a power of two, rounded to the nearest integer; a half goes to the even one. -/
def halfEvenShift (value : Nat) (places : Nat) : Nat :=
  let divisor := 1 <<< places
  let quotient := value / divisor
  let rest := value % divisor
  if 2 * rest < divisor then quotient
  else if 2 * rest = divisor then quotient + quotient % 2
  else quotient + 1

/-- The word of the single-precision number nearest to a significand times a power of two.
A magnitude past the largest finite number becomes infinite. -/
def nearestWord (significand : Nat) (exponent : Int) : Nat :=
  if significand = 0 then 0
  else
    let unit : Int := max (Nat.log2 significand + exponent - 23) (-149)
    let scaled :=
      if unit ≤ exponent then significand <<< (exponent - unit).toNat
      else halfEvenShift significand (unit - exponent).toNat
    min ((unit + 149).toNat * leadingBit + scaled) (255 * leadingBit)

private def signWord (negative : Bool) (width : Nat) : Nat :=
  if negative then 1 <<< (width - 1) else 0

/-- The double-precision number of the same value. Nothing is rounded. -/
def widen (number : Float32) : Float :=
  match read number with
  | .nan => Float.ofBits 0x7FF8000000000000
  | .infinite negative => Float.ofBits (UInt64.ofNat (signWord negative 64 + 2047 * wideLeadingBit))
  | .finite negative significand exponent =>
    if significand = 0 then Float.ofBits (UInt64.ofNat (signWord negative 64))
    else
      let places := 52 - Nat.log2 significand
      let field := (exponent - places + 1075).toNat
      Float.ofBits (UInt64.ofNat
        (signWord negative 64 + field * wideLeadingBit + (significand <<< places - wideLeadingBit)))

/-- The single-precision number nearest to a double-precision one; a half goes to the even one. -/
def narrow (number : Float) : Float32 :=
  let word := number.toBits.toNat
  let sign := signWord (decide (0x8000000000000000 ≤ word)) 32
  let field : Nat := word / wideLeadingBit % 2048
  let fraction := word % wideLeadingBit
  if field = 2047 then
    if fraction = 0 then Float32.ofBits (UInt32.ofNat (sign + 255 * leadingBit))
    else Float32.ofBits 0x7FC00000
  else if field = 0 then Float32.ofBits (UInt32.ofNat (sign + nearestWord fraction (-1074)))
  else
    let significand := fraction + wideLeadingBit
    Float32.ofBits (UInt32.ofNat (sign + nearestWord significand ((field : Int) - 1075)))

/-- The whole part of a number, its fraction cut off, within 32 bits. A number that is no number
gives zero. -/
def truncate (number : Float32) : Int :=
  match read number with
  | .nan => 0
  | .infinite negative => if negative then -2147483648 else 2147483647
  | .finite negative significand exponent =>
    let magnitude : Int := (significand <<< exponent.toNat >>> (-exponent).toNat : Nat)
    if negative then max (-2147483648) (-magnitude) else min 2147483647 magnitude

/-- One of the two whole numbers next to a number with a fraction: the one nearer to zero or, for
some signs, the other one. Whole numbers are kept, and so is what is not finite. -/
private def nextWhole (outward : Bool → Bool) (number : Float32) : Float32 :=
  match read number with
  | .finite negative significand exponent =>
    let places := (-exponent).toNat
    let whole := significand >>> places
    if whole <<< places = significand then number
    else
      let moved := if outward negative then whole + 1 else whole
      Float32.ofBits (UInt32.ofNat (signWord negative 32 + nearestWord moved 0))
  | .infinite _ | .nan => number

/-- The largest whole number that is not above a number. -/
def floor (number : Float32) : Float32 := nextWhole (fun negative => negative) number

/-- The smallest whole number that is not below a number. -/
def ceil (number : Float32) : Float32 := nextWhole (fun negative => !negative) number

/-- How far a number lies above the largest whole number that is not above it. What is not finite
has no such distance and gives zero. -/
def fraction (number : Float32) : Float32 :=
  match read number with
  | .finite negative significand exponent =>
    let part := significand % (1 <<< (-exponent).toNat)
    let rest := Float32.ofBits (UInt32.ofNat (nearestWord part exponent))
    if negative && part != 0 then 1 - rest else rest
  | .infinite _ | .nan => 0

/-- What is left of a number when a length is taken away from it as often as it fits. Nothing is
rounded, and the sign is that of the number. -/
def remainder (number length : Float32) : Float32 :=
  match read number, read length with
  | .finite negative significand exponent, .finite _ divisor scale =>
    let unit := min exponent scale
    let rest := (significand <<< (exponent - unit).toNat) % (divisor <<< (scale - unit).toNat)
    Float32.ofBits (UInt32.ofNat (signWord negative 32 + nearestWord rest unit))
  | _, _ => Float32.ofBits 0x7FC00000

/-- The nearest natural number up to a bound; a half goes up. Negative numbers and numbers that
are no number give zero. -/
def nearestNat (number : Float32) (bound : Nat) : Nat :=
  match read number with
  | .nan => 0
  | .infinite negative => if negative then 0 else bound
  | .finite negative significand exponent =>
    if negative then 0
    else if 0 ≤ exponent then min (significand <<< exponent.toNat) bound
    else
      let half := 1 <<< ((-exponent).toNat - 1)
      min ((significand + half) / (2 * half)) bound

end PagePaint.Binary32
