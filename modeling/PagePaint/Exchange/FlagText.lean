import PagePaint.Flags

set_option autoImplicit false

/-!
# Flag sets as text

A set of render options is written as the names of its bits with bars between them; a part may also
be a number in hexadecimal digits, whose bits are kept whether they have names or not.
-/

namespace PagePaint.FlagText

def isBlank (char : Char) : Bool :=
  let code := char.toNat
  (9 ≤ code && code ≤ 13) || code == 0x20 || code == 0x85 || code == 0xA0 || code == 0x1680 ||
    (0x2000 ≤ code && code ≤ 0x200A) || code == 0x2028 || code == 0x2029 || code == 0x202F ||
    code == 0x205F || code == 0x3000

def trim (text : List Char) : List Char :=
  ((text.dropWhile isBlank).reverse.dropWhile isBlank).reverse

/-- A nonempty run of hexadecimal digits, behind at most one plus sign, whose value fits a
word. -/
def hexWord? (digits : List Char) : Option UInt32 :=
  let bare := match digits with
    | '+' :: rest => rest
    | all => all
  ((Hexadecimal.read? bare).filter (· < UInt32.size)).map UInt32.ofNat

def part? (text : List Char) : Option RenderFlags :=
  match text with
  | '0' :: 'x' :: digits => (hexWord? digits).map RenderFlags.mk
  | name =>
    (RenderFlag.all.find? fun flag => flag.name.toList == name).map RenderFlags.single

/-- The pieces between bars. There is always at least one. -/
def split : List Char → List (List Char)
  | [] => [[]]
  | char :: rest =>
    if char = '|' then [] :: split rest
    else match split rest with
      | [] => [[char]]
      | piece :: pieces => (char :: piece) :: pieces

/-- Reads a set. Blanks alone are the empty set; an empty part beside others is refused. -/
def read? (text : String) : Option RenderFlags :=
  if (trim text.toList).isEmpty then some .empty
  else
    (split text.toList).foldl
      (fun flags piece => flags.bind fun united => (part? (trim piece)).map united.union)
      (some .empty)

end PagePaint.FlagText
