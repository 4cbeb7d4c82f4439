import PagePaint.Number.Scalar

set_option autoImplicit false

/-!
# Affine transforms

A transform sends `(x, y)` to `(sx * x + kx * y + tx, ky * x + sy * y + ty)`. Composition takes a
shorter way where one side is the identity or neither side has skew; over exact scalars all ways
agree.
-/

namespace PagePaint

/-- A point, or a displacement. -/
structure Point (α : Type) where
  x : α
  y : α
deriving DecidableEq, Repr

structure Transform (α : Type) where
  sx : α
  ky : α
  kx : α
  sy : α
  tx : α
  ty : α
deriving DecidableEq, Repr

namespace Transform

variable {α : Type} [Scalar α]

def identity : Transform α :=
  ⟨Scalar.one, Scalar.zero, Scalar.zero, Scalar.one, Scalar.zero, Scalar.zero⟩

def shifting (x y : α) : Transform α :=
  ⟨Scalar.one, Scalar.zero, Scalar.zero, Scalar.one, x, y⟩

def scaling (x y : α) : Transform α :=
  ⟨x, Scalar.zero, Scalar.zero, y, Scalar.zero, Scalar.zero⟩

/-- Equal to the identity in every entry. The sign of a zero does not matter. -/
def isIdentity (transform : Transform α) : Bool :=
  Scalar.same transform.sx Scalar.one && Scalar.same transform.ky Scalar.zero &&
  Scalar.same transform.kx Scalar.zero && Scalar.same transform.sy Scalar.one &&
  Scalar.same transform.tx Scalar.zero && Scalar.same transform.ty Scalar.zero

/-- Skew entries count unless they are zero. -/
def hasSkew (transform : Transform α) : Bool :=
  !(Scalar.same transform.kx Scalar.zero && Scalar.same transform.ky Scalar.zero)

def finite (transform : Transform α) : Bool :=
  Scalar.finite transform.sx && Scalar.finite transform.ky && Scalar.finite transform.kx &&
  Scalar.finite transform.sy && Scalar.finite transform.tx && Scalar.finite transform.ty

/-- `outer.after inner` applies `inner` first. -/
def after (outer inner : Transform α) : Transform α :=
  if outer.isIdentity then inner
  else if inner.isIdentity then outer
  else if !outer.hasSkew && !inner.hasSkew then
    { sx := outer.sx * inner.sx
      ky := Scalar.zero
      kx := Scalar.zero
      sy := outer.sy * inner.sy
      tx := outer.sx * inner.tx + outer.tx
      ty := outer.sy * inner.ty + outer.ty }
  else
    { sx := Scalar.sumOfProducts outer.sx inner.sx outer.kx inner.ky
      ky := Scalar.sumOfProducts outer.ky inner.sx outer.sy inner.ky
      kx := Scalar.sumOfProducts outer.sx inner.kx outer.kx inner.sy
      sy := Scalar.sumOfProducts outer.ky inner.kx outer.sy inner.sy
      tx := Scalar.sumOfProducts outer.sx inner.tx outer.kx inner.ty + outer.tx
      ty := Scalar.sumOfProducts outer.ky inner.tx outer.sy inner.ty + outer.ty }

def apply (transform : Transform α) (point : Point α) : Point α :=
  { x := transform.sx * point.x + transform.kx * point.y + transform.tx
    y := transform.ky * point.x + transform.sy * point.y + transform.ty }

def listing (transform : Transform α) : String :=
  let number := Scalar.text Numeral.tagged
  "Transform \x7b sx: " ++ number transform.sx ++ ", kx: " ++ number transform.kx ++
    ", ky: " ++ number transform.ky ++ ", sy: " ++ number transform.sy ++
    ", tx: " ++ number transform.tx ++ ", ty: " ++ number transform.ty ++ " \x7d"

end Transform

end PagePaint
