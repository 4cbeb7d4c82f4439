import PagePaint.Geometry.Transform

set_option autoImplicit false

/-!
# Vectors

Arithmetic on points and displacements in single precision. A length whose square would leave the
range is taken in double precision.
-/

namespace PagePaint

namespace Point

instance : Add (Point Float32) := ⟨fun left right => ⟨left.x + right.x, left.y + right.y⟩⟩

instance : Sub (Point Float32) := ⟨fun left right => ⟨left.x - right.x, left.y - right.y⟩⟩

instance : Neg (Point Float32) := ⟨fun vector => ⟨-vector.x, -vector.y⟩⟩

def origin : Point Float32 := ⟨0, 0⟩

/-- Equal in both coordinates. The sign of a zero does not matter. -/
def same (left right : Point Float32) : Bool := left.x == right.x && left.y == right.y

def finite (point : Point Float32) : Bool := point.x.isFinite && point.y.isFinite

def scaled (vector : Point Float32) (factor : Float32) : Point Float32 :=
  ⟨vector.x * factor, vector.y * factor⟩

def dot (left right : Point Float32) : Float32 := left.x * right.x + left.y * right.y

def cross (left right : Point Float32) : Float32 := left.x * right.y - left.y * right.x

/-- A quarter turn against the clock, with y growing downwards. -/
def turnedBack (vector : Point Float32) : Point Float32 := ⟨vector.y, -vector.x⟩

/-- A quarter turn with the clock, with y growing downwards. -/
def turned (vector : Point Float32) : Point Float32 := ⟨-vector.y, vector.x⟩

def length (vector : Point Float32) : Float32 :=
  let square := vector.dot vector
  if square.isFinite then square.sqrt
  else
    let x := vector.x.toFloat
    let y := vector.y.toFloat
    (x * x + y * y).sqrt.toFloat32

def distance (left right : Point Float32) : Float32 := (left - right).length

def extent (vector : Point Float32) : Float32 :=
  let x := vector.x.abs
  let y := vector.y.abs
  if x < y then y else x

/-- The vector of a given length that points the same way. A vector without length or out of range
has none. -/
def withLength? (vector : Point Float32) (length : Float32) : Option (Point Float32) :=
  let x := vector.x.toFloat
  let y := vector.y.toFloat
  let result := vector.scaled (length.toFloat / (x * x + y * y).sqrt).toFloat32
  if result.finite && !result.same origin then some result else none

def toward (start finish : Point Float32) (share : Float32) : Point Float32 :=
  ⟨start.x + (finish.x - start.x) * share, start.y + (finish.y - start.y) * share⟩

end Point

namespace Raster

/-- Magnitudes up to this count as zero where shapes degenerate. -/
def tiny : Float32 := 1 / 4096

def isTiny (value : Float32) : Bool := decide (value.abs ≤ tiny)

def halfRoot : Float32 := 0.707106781

end Raster

/-- A straight piece from one point to another. -/
structure Line where
  start : Point Float32
  finish : Point Float32

end PagePaint
