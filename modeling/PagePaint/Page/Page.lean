import PagePaint.Error
import PagePaint.Page.Annot

set_option autoImplicit false

/-!
# Pages

A page is its size in points, its objects in document order and its annotations in page order,
widgets included.
-/

namespace PagePaint

variable {α : Type}

structure Page (α : Type) where
  width : α
  height : α
  objects : List (PageObject α)
  annots : List (Annot α)
deriving DecidableEq, Repr

namespace Page

def hasSize [Scalar α] (page : Page α) : Bool :=
  Scalar.finite page.width && Scalar.finite page.height &&
    Scalar.less Scalar.zero page.width && Scalar.less Scalar.zero page.height

def sizeFault? [Scalar α] (page : Page α) : Option ArgumentFault :=
  let side := Scalar.text Numeral.plain
  if page.hasSize then none else some (.pageSize (side page.width) (side page.height))

def widgets (page : Page α) : List (Annot α) := page.annots.filter Annot.isWidget

/-- Whether painting the page needs a target with an alpha channel. Annotations count whether they
are shown or not. -/
def needsAlpha (page : Page α) : Bool :=
  page.objects.any PageObject.needsAlpha ||
    page.annots.any fun annot =>
      annot.blend != .normal || annot.appearance.any PageObject.needsAlpha

end Page

end PagePaint
