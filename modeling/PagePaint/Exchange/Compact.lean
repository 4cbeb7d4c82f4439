import PagePaint.Exchange.Value
import PagePaint.Number.Hexadecimal

set_option autoImplicit false

/-!
# Values on one line

The compact written form of a value: no blanks, fields in order, texts in quotes.
-/

namespace PagePaint.Exchange

/-- A character inside quotes. Quotes, backslashes and control characters are marked. -/
def quotedChar (char : Char) : String :=
  if char = '"' then "\\\""
  else if char = '\\' then "\\\\"
  else if char = '\n' then "\\n"
  else if char = '\r' then "\\r"
  else if char = '\t' then "\\t"
  else if char.toNat < 32 then "\\u" ++ Hexadecimal.text 4 char.toNat
  else String.singleton char

def quoted (text : String) : String := "\"" ++ String.join (text.toList.map quotedChar) ++ "\""

namespace Value

mutual

def compact : Value → String
  | null => "null"
  | bool value => if value then "true" else "false"
  | integer value => toString value
  | decimal negative digits exponent =>
    (if negative then "-" else "") ++ toString digits ++ "e" ++ toString exponent
  | text value => quoted value
  | list items => "[" ++ ",".intercalate (compactAll items) ++ "]"
  | record fields => "\x7b" ++ ",".intercalate (compactFields fields) ++ "\x7d"

def compactAll : List Value → List String
  | [] => []
  | item :: rest => compact item :: compactAll rest

def compactFields : List (String × Value) → List String
  | [] => []
  | (name, value) :: rest => (quoted name ++ ":" ++ compact value) :: compactFields rest

end

end Value

end PagePaint.Exchange
