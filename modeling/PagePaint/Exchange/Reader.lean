import PagePaint.Exchange.Value
import PagePaint.Number.Hexadecimal

set_option autoImplicit false

/-!
# Values read from text

The reader takes the written form of a value with any blanks between its parts. A number is an
integer only if it has neither a point nor an exponent and is no negative zero; of fields with one
name the last counts.
-/

namespace PagePaint.Exchange

namespace Reader

/-- What was read, with the characters after it. -/
abbrev Taken (τ : Type) := Option (τ × List Char)

def skipBlanks (text : List Char) : List Char :=
  text.dropWhile fun char => char == ' ' || char == '\t' || char == '\r' || char == '\n'

/-- The character that a mark stands for behind a backslash. -/
def marked? : Char → Option Char
  | '"' => some '"'
  | '\\' => some '\\'
  | '/' => some '/'
  | 'b' => some '\x08'
  | 'f' => some '\x0c'
  | 'n' => some '\n'
  | 'r' => some '\r'
  | 't' => some '\t'
  | _ => none

def code? : List Char → Taken Nat
  | a :: b :: c :: d :: rest => (Hexadecimal.read? [a, b, c, d]).map fun code => (code, rest)
  | _ => none

/-- A character given by its code, or by the two halves that a code above four digits is split
into. A half alone is refused. -/
def coded? (text : List Char) : Option (Char × List Char) := do
  let (code, rest) ← code? text
  if 0xD800 ≤ code ∧ code < 0xDC00 then
    match rest with
    | '\\' :: 'u' :: others =>
      let (low, rest) ← code? others
      if 0xDC00 ≤ low ∧ low < 0xE000 then
        some (Char.ofNat (0x10000 + (code - 0xD800) * 0x400 + (low - 0xDC00)), rest)
      else none
    | _ => none
  else if 0xDC00 ≤ code ∧ code < 0xE000 then none
  else some (Char.ofNat code, rest)

/-- The text up to the closing quote, after characters already taken, the last of them first. -/
def quotedText? : Nat → List Char → List Char → Taken String
  | 0, _, _ => none
  | _, _, [] => none
  | fuel + 1, taken, char :: rest =>
    if char = '"' then some (String.ofList taken.reverse, rest)
    else if char = '\\' then
      match rest with
      | [] => none
      | mark :: others =>
        let decoded :=
          if mark = 'u' then coded? others else (marked? mark).map fun char => (char, others)
        match decoded with
        | none => none
        | some (char, others) => quotedText? fuel (char :: taken) others
    else quotedText? fuel (char :: taken) rest

private def digitsOf (digits : List Char) : Nat :=
  digits.foldl (fun value digit => 10 * value + (digit.toNat - '0'.toNat)) 0

def exponent? (text : List Char) : Option Int × List Char :=
  match text with
  | mark :: rest =>
    if mark = 'e' ∨ mark = 'E' then
      let (negative, body) := match rest with
        | '-' :: body => (true, body)
        | '+' :: body => (false, body)
        | body => (false, body)
      let size : Int := digitsOf (body.takeWhile Char.isDigit)
      (some (if negative then -size else size), body.dropWhile Char.isDigit)
    else (none, text)
  | [] => (none, text)

def number? (text : List Char) : Taken Value :=
  let (negative, body) := match text with
    | '-' :: body => (true, body)
    | body => (false, body)
  let whole := body.takeWhile Char.isDigit
  let afterWhole := body.dropWhile Char.isDigit
  let (fraction, afterFraction) := match afterWhole with
    | '.' :: rest => (some (rest.takeWhile Char.isDigit), rest.dropWhile Char.isDigit)
    | rest => (none, rest)
  let (exponent, rest) := exponent? afterFraction
  let places := fraction.getD []
  let digits := digitsOf (whole ++ places)
  if whole.isEmpty then none
  else if fraction.isSome || exponent.isSome || (negative && digits == 0) then
    some (.decimal negative digits (exponent.getD 0 - places.length), rest)
  else some (.integer (if negative then -(digits : Int) else digits), rest)

mutual

def value? : Nat → List Char → Taken Value
  | 0, _ => none
  | fuel + 1, text =>
    match skipBlanks text with
    | '"' :: rest => (quotedText? fuel [] rest).map fun taken => (.text taken.1, taken.2)
    | '[' :: rest =>
      match skipBlanks rest with
      | ']' :: others => some (.list [], others)
      | _ => items? fuel [] rest
    | '\x7b' :: rest =>
      match skipBlanks rest with
      | '\x7d' :: others => some (.record [], others)
      | _ => fields? fuel [] rest
    | 't' :: 'r' :: 'u' :: 'e' :: rest => some (.bool true, rest)
    | 'f' :: 'a' :: 'l' :: 's' :: 'e' :: rest => some (.bool false, rest)
    | 'n' :: 'u' :: 'l' :: 'l' :: rest => some (.null, rest)
    | rest => number? rest

def items? : Nat → List Value → List Char → Taken Value
  | 0, _, _ => none
  | fuel + 1, taken, text =>
    match value? fuel text with
    | none => none
    | some (item, rest) =>
      match skipBlanks rest with
      | ',' :: others => items? fuel (item :: taken) others
      | ']' :: others => some (.list (item :: taken).reverse, others)
      | _ => none

def fields? : Nat → List (String × Value) → List Char → Taken Value
  | 0, _, _ => none
  | fuel + 1, taken, text =>
    match skipBlanks text with
    | '"' :: opened =>
      match quotedText? fuel [] opened with
      | none => none
      | some (name, rest) =>
        match skipBlanks rest with
        | ':' :: body =>
          match value? fuel body with
          | none => none
          | some (value, rest) =>
            let fields := (name, value) :: taken.filter fun field => field.1 != name
            match skipBlanks rest with
            | ',' :: others => fields? fuel fields others
            | '\x7d' :: others => some (.record fields.reverse, others)
            | _ => none
        | _ => none
    | _ => none

end

end Reader

def Value.ofText? (text : String) : Option Value :=
  let chars := text.toList
  match Reader.value? (2 * chars.length + 1) chars with
  | some (value, rest) => if (Reader.skipBlanks rest).isEmpty then some value else none
  | none => none

end PagePaint.Exchange
