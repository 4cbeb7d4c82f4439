import PagePaint.Page.Style
import PagePaint.Raster.Coverage
import PagePaint.Raster.Edge

set_option autoImplicit false

/-!
# Filling

The pixels inside an outline. Without smoothing a pixel is inside if its centre is. With smoothing
every pixel is cut into four rows of four, and its coverage says how many of the sixteen parts are
inside.
-/

namespace PagePaint

/-- Where an edge crosses a row, and which way it leads. -/
structure Crossing where
  position : Int
  winding : Int
deriving DecidableEq, Repr

namespace Crossing

def column (crossing : Crossing) : Int := (crossing.position + 32768) / 65536

/-- Crossings from left to right. Edges are followed in order, so that they seldom need sorting. -/
def sorted (crossings : Array Crossing) : List Crossing :=
  let inOrder := (crossings.foldl
    (fun state crossing =>
      (state.1 && decide (state.2 ≤ crossing.position), crossing.position))
    (true, (crossings[0]?.map position).getD 0)).1
  if inOrder then crossings.toList
  else crossings.toList.mergeSort fun left right => decide (left.position ≤ right.position)

end Crossing

/-- Columns from `first` up to and not including `last`. -/
structure Span where
  first : Nat
  last : Nat
deriving DecidableEq, Repr

namespace Span

def inside (rule : FillRule) (winding : Int) : Bool :=
  match rule with
  | .nonZero => winding != 0
  | .evenOdd => winding % 2 != 0

/-- The spans of a row, with the winding number so far and the column where the shape was entered
given. -/
def between (rule : FillRule) : Int → Int → List Crossing → List Span
  | _, _, [] => []
  | winding, entered, crossing :: rest =>
    let entered := if inside rule winding then entered else crossing.column
    let next := winding + crossing.winding
    if !inside rule next && decide (entered < crossing.column) then
      ⟨entered.toNat, crossing.column.toNat⟩ :: between rule next entered rest
    else between rule next entered rest

/-- The spans of a row between its crossings in any order. -/
def ofCrossings (rule : FillRule) (crossings : Array Crossing) : List Span :=
  between rule 0 0 (Crossing.sorted crossings)

end Span

namespace Edge

/-- Adds the crossings of an edge to those of the rows from `top` on. An edge that ended before
the first row goes on to the last. -/
def cross (top : Int) (rows : Array (Array Crossing)) (edge : Edge) : Array (Array Crossing) :=
  let first := max edge.first top
  let bottom := top + rows.size
  let next := if edge.last < top then bottom else min (edge.last + 1) bottom
  (next - first).toNat.fold
    (fun step _ rows =>
      rows.modify ((first - top).toNat + step)
        (·.push ⟨edge.position + edge.slope * step, edge.winding⟩))
    rows

end Edge

structure Sweep where
  top : Nat
  rows : Array (List Span)

namespace Sweep

/-- A row counted on a grid refined by a factor, within 32 bits. -/
private def refined (row : Int) (fineness : Nat) : Int := (Int32.ofInt (row * fineness)).toInt

/-- The spans of an outline inside a box of pixels, on a grid refined by a factor. A grid of a size
cuts the outline unless the box lies within it. -/
def ofOutline? (outline : Outline Float32) (rule : FillRule) (box : PixelBox) (fineness : Nat)
    (width height : Nat) : Option Sweep :=
  let contained := (PixelBox.ofSize width height).contains box
  let edges := outline.edges fineness
    (if contained then none else some (.ofSize width height))
  let top := refined box.top fineness
  let bottom := refined box.bottom fineness
  let top := if contained then top else max top 0
  let bottom := if contained then bottom else min bottom ((height : Int) * fineness)
  if edges.length < 2 ∨ top < 0 ∨ bottom < 0 then none
  else
    let count := max 1 (bottom - top).toNat
    let rows := edges.foldl (Edge.cross top) (Array.replicate count #[])
    some ⟨top.toNat, rows.map (Span.ofCrossings rule)⟩

end Sweep

namespace Run

def sharp (sweep : Sweep) : List Run :=
  (sweep.rows.foldl
    (fun state spans =>
      let runs := spans.foldl
        (fun runs span =>
          (⟨state.2, span.first, span.last - span.first, fullCoverage⟩ : Run) :: runs)
        state.1
      (runs, state.2 + 1))
    ([], sweep.top)).1.reverse

/-- Adds a share to the coverage of a pixel. The sum stays below 256. -/
def addShare (share : Nat) (cover : Array Nat) (index : Nat) : Array Nat :=
  cover.modify index fun coverage =>
    let sum := coverage + share
    sum - sum / 256

/-- Adds a span of one of the four rows of pixels to their coverage. A quarter of a row is worth 16,
a whole row 64; the last of four whole rows is worth 63, so that they make full coverage. -/
def addSpan (row : Nat) (cover : Array Nat) (span : Span) : Array Nat :=
  let first := span.first / 4
  let last := span.last / 4
  let early := span.first % 4
  let late := span.last % 4
  if first = last then addShare ((late - early) * 16) cover first
  else
    let cover := if early = 0 then cover else addShare ((4 - early) * 16) cover first
    let start := if early = 0 then first else first + 1
    let whole := if row % 4 = 3 then 63 else 64
    let cover := (last - start).fold (fun step _ cover => addShare whole cover (start + step)) cover
    if late = 0 then cover else addShare (late * 16) cover last

/-- The runs of spans on a grid of quarter pixels, for pixels from `left` on. -/
def smooth (sweep : Sweep) (left width : Nat) : List Run :=
  let moved (span : Span) : Span := ⟨span.first - 4 * left, span.last - 4 * left⟩
  let blank := Array.replicate width 0
  let first := sweep.top / 4
  let last := (sweep.top + sweep.rows.size + 3) / 4
  ((last - first).fold
    (fun step _ (runs : List Run) =>
      let row := first + step
      let cover := (4 : Nat).fold
        (fun quarter _ cover =>
          let fine := 4 * row + quarter
          if fine < sweep.top then cover
          else
            ((sweep.rows[fine - sweep.top]?).getD []).foldl
              (fun cover span => addSpan quarter cover (moved span)) cover)
        blank
      ofCoverage row left cover runs)
    []).reverse

end Run

namespace Outline

/-- The farthest distance from the origin at which an outline is filled. -/
def farthest : Float32 := Float32.ofBits 0x7F7FFFFF * 0.25

/-- Whether an outline in device space is wide, high and near enough to be filled. -/
def fillable (outline : Outline Float32) : Bool :=
  let bounds := outline.bounds
  !Raster.isTiny bounds.width && !Raster.isTiny bounds.height &&
    decide (-farthest ≤ bounds.left) && decide (-farthest ≤ bounds.top) &&
    decide (bounds.right ≤ farthest) && decide (bounds.bottom ≤ farthest)

/-- The pixels inside an outline, on a grid of a size. -/
def fillRuns (rule : FillRule) (smooth : Bool) (outline : Outline Float32) (width height : Nat) :
    List Run :=
  if smooth then
    let runs? := do
      let box ← PixelBox.around? outline.bounds.rounded
      let shared ← box.meet? (.ofSize width height)
      let sweep ← Sweep.ofOutline? outline rule box 4 width height
      return Run.smooth sweep shared.left.toNat (shared.right - shared.left).toNat
    runs?.getD []
  else
    let runs? := do
      let box ← PixelBox.centers? outline.bounds
      let sweep ← Sweep.ofOutline? outline rule box 1 width height
      return Run.sharp sweep
    runs?.getD []

end Outline

end PagePaint
