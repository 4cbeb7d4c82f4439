import PagePaint.Number.Hexadecimal

set_option autoImplicit false

/-!
# Flag sets

Render options and annotation options are sets of named flags, each a bit of one word. A set may be
read from any word; bits without a name are dropped, except where a set is exchanged as text, which
keeps them.
-/

namespace PagePaint

/-- A word as a set of named bits. The first list gives each name with its bit. -/
def listBits (names : List (String × Nat)) (word : UInt32) : List String :=
  let held := names.filter fun entry => word.toNat.testBit entry.2
  let rest := names.foldl (fun left entry => left &&& ~~~(1 <<< UInt32.ofNat entry.2)) word
  held.map Prod.fst ++ if rest = 0 then [] else ["0x" ++ Hexadecimal.text 1 rest.toNat]

inductive RenderFlag where
  | annotations
  | lcdText
  | noNativeText
  | grayscale
  | reverseByteOrder
  | fillToStroke
  | limitedImageCache
  | forceHalftone
  | printing
  | noSmoothText
  | noSmoothImage
  | noSmoothPath
deriving DecidableEq, Repr

namespace RenderFlag

/-- The bit of a flag. Bits six to eight have no meaning. -/
def bit : RenderFlag → Nat
  | annotations => 0
  | lcdText => 1
  | noNativeText => 2
  | grayscale => 3
  | reverseByteOrder => 4
  | fillToStroke => 5
  | limitedImageCache => 9
  | forceHalftone => 10
  | printing => 11
  | noSmoothText => 12
  | noSmoothImage => 13
  | noSmoothPath => 14

def name : RenderFlag → String
  | annotations => "ANNOT"
  | lcdText => "LCD_TEXT"
  | noNativeText => "NO_NATIVE_TEXT"
  | grayscale => "GRAYSCALE"
  | reverseByteOrder => "REVERSE_BYTE_ORDER"
  | fillToStroke => "CONVERT_FILL_TO_STROKE"
  | limitedImageCache => "LIMITED_IMAGE_CACHE"
  | forceHalftone => "FORCE_HALFTONE"
  | printing => "PRINTING"
  | noSmoothText => "NO_SMOOTH_TEXT"
  | noSmoothImage => "NO_SMOOTH_IMAGE"
  | noSmoothPath => "NO_SMOOTH_PATH"

def all : List RenderFlag :=
  [annotations, lcdText, noNativeText, grayscale, reverseByteOrder, fillToStroke,
    limitedImageCache, forceHalftone, printing, noSmoothText, noSmoothImage, noSmoothPath]

end RenderFlag

structure RenderFlags where
  bits : UInt32
deriving DecidableEq, Repr, Inhabited

namespace RenderFlags

def empty : RenderFlags := ⟨0⟩

def has (flags : RenderFlags) (flag : RenderFlag) : Bool := flags.bits.toNat.testBit flag.bit

def union (left right : RenderFlags) : RenderFlags := ⟨left.bits ||| right.bits⟩

def single (flag : RenderFlag) : RenderFlags := ⟨1 <<< UInt32.ofNat flag.bit⟩

def insert (flags : RenderFlags) (flag : RenderFlag) : RenderFlags := flags.union (single flag)

def known : RenderFlags := RenderFlag.all.foldl insert empty

def ofBits (word : UInt32) : RenderFlags := ⟨word &&& known.bits⟩

private def names : List (String × Nat) := RenderFlag.all.map fun flag => (flag.name, flag.bit)

/-- The names of a set by rising bit, then any bits without a name as one number. -/
def parts (flags : RenderFlags) : List String := listBits names flags.bits

/-- A set as text; the empty set is the empty text. -/
def text (flags : RenderFlags) : String := " | ".intercalate flags.parts

def listing (flags : RenderFlags) : String :=
  "RenderFlags(" ++ (if flags.bits = 0 then "0x0" else flags.text) ++ ")"

end RenderFlags

inductive AnnotFlag where
  | invisible
  | hidden
  | print
  | noZoom
  | noRotate
  | noView
  | readOnly
  | locked
  | toggleNoView
  | lockedContents
deriving DecidableEq, Repr

namespace AnnotFlag

def bit : AnnotFlag → Nat
  | invisible => 0
  | hidden => 1
  | print => 2
  | noZoom => 3
  | noRotate => 4
  | noView => 5
  | readOnly => 6
  | locked => 7
  | toggleNoView => 8
  | lockedContents => 9

def name : AnnotFlag → String
  | invisible => "INVISIBLE"
  | hidden => "HIDDEN"
  | print => "PRINT"
  | noZoom => "NO_ZOOM"
  | noRotate => "NO_ROTATE"
  | noView => "NO_VIEW"
  | readOnly => "READ_ONLY"
  | locked => "LOCKED"
  | toggleNoView => "TOGGLE_NO_VIEW"
  | lockedContents => "LOCKED_CONTENTS"

def all : List AnnotFlag :=
  [invisible, hidden, print, noZoom, noRotate, noView, readOnly, locked, toggleNoView,
    lockedContents]

end AnnotFlag

structure AnnotFlags where
  bits : UInt32
deriving DecidableEq, Repr, Inhabited

namespace AnnotFlags

def has (flags : AnnotFlags) (flag : AnnotFlag) : Bool :=
  flags.bits.toNat.testBit flag.bit

def single (flag : AnnotFlag) : AnnotFlags := ⟨1 <<< UInt32.ofNat flag.bit⟩

def known : AnnotFlags :=
  ⟨AnnotFlag.all.foldl (fun word flag => word ||| (single flag).bits) 0⟩

def ofBits (word : UInt32) : AnnotFlags := ⟨word &&& known.bits⟩

/-- What an annotation has unless it says otherwise. -/
def printable : AnnotFlags := single .print

/-- Whether an annotation is painted. A hidden one never is; printing asks for the print flag, and
the screen for the absence of the no-view flag. -/
def isVisible (flags : AnnotFlags) (printing : Bool) : Bool :=
  !flags.has .hidden && if printing then flags.has .print else !flags.has .noView

private def names : List (String × Nat) :=
  AnnotFlag.all.map fun flag => (flag.name, flag.bit)

def listing (flags : AnnotFlags) : String :=
  "AnnotationFlags(" ++
    (if flags.bits = 0 then "0x0" else " | ".intercalate (listBits names flags.bits)) ++ ")"

end AnnotFlags

end PagePaint
