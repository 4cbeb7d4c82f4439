set_option autoImplicit false

/-!
# Exchanged values

Settings and positions are handed to and taken from other programs as structured values: records
with named fields, lists, texts and numbers. A number written as an integer is kept apart from one
with a fraction or an exponent.
-/

namespace PagePaint.Exchange

/-- A structured value. A decimal is its digits, read as one natural number, times a power of
ten. -/
inductive Value where
  | null
  | bool (value : Bool)
  | integer (value : Int)
  | decimal (negative : Bool) (digits : Nat) (exponent : Int)
  | text (value : String)
  | list (items : List Value)
  | record (fields : List (String × Value))

namespace Value

def natural (value : Nat) : Value := integer value

/-- An integer between two bounds, both included. Numbers with a fraction or an exponent are
refused, even if their value is whole. -/
def integer? (low high : Int) : Value → Option Int
  | integer value => if low ≤ value ∧ value ≤ high then some value else none
  | _ => none

def below? (bound : Nat) (value : Value) : Option Nat :=
  (value.integer? 0 (bound - 1)).map Int.toNat

def bool? : Value → Option Bool
  | bool value => some value
  | _ => none

def field? (name : String) : Value → Option Value
  | record fields => fields.lookup name
  | _ => none

/-- The values of the named fields of a record, which may have others as well, or the items of a
list of exactly as many. -/
def fields? (names : List String) : Value → Option (List Value)
  | record fields => names.mapM fun name => fields.lookup name
  | list items => if items.length = names.length then some items else none
  | _ => none

/-- One of several named values: its name, or a record of nothing but its name with nothing in
it. -/
def named? {β : Type} (all : List β) (name : β → String) : Value → Option β
  | text given => all.find? fun candidate => name candidate == given
  | record [(given, null)] => all.find? fun candidate => name candidate == given
  | _ => none

end Value

end PagePaint.Exchange
