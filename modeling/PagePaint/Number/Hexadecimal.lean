set_option autoImplicit false

/-!
# Hexadecimal numbers

Words and bytes are shown in hexadecimal digits, in lower case unless a listing asks otherwise, and
read from digits of either case.
-/

namespace PagePaint.Hexadecimal

def text (width value : Nat) : String :=
  let digits := Nat.toDigits 16 value
  String.ofList (List.replicate (width - digits.length) '0' ++ digits)

private def byteDigits (value : UInt8) : List Char :=
  [Nat.digitChar (value.toNat / 16), Nat.digitChar (value.toNat % 16)]

def ofBytes (bytes : List UInt8) : String := String.ofList (bytes.flatMap byteDigits)

def digit? (char : Char) : Option Nat :=
  if '0' ≤ char ∧ char ≤ '9' then some (char.toNat - '0'.toNat)
  else if 'a' ≤ char ∧ char ≤ 'f' then some (char.toNat - 'a'.toNat + 10)
  else if 'A' ≤ char ∧ char ≤ 'F' then some (char.toNat - 'A'.toNat + 10)
  else none

def read? : List Char → Option Nat
  | [] => none
  | digits =>
    digits.foldl
      (fun value digit => value.bind fun sum => (digit? digit).map (16 * sum + ·)) (some 0)

def bytes? : List Char → Option (List UInt8)
  | [] => some []
  | [_] => none
  | high :: low :: rest =>
    match read? [high, low], bytes? rest with
    | some value, some bytes => some (UInt8.ofNat value :: bytes)
    | _, _ => none

end PagePaint.Hexadecimal
