import PagePaint.Geometry.Rect

set_option autoImplicit false

/-!
# Outlines

An outline is a list of drawing segments in which every contour begins with a move. Drawing
commands may be given more loosely; `Outline.ofCommands?` inserts the moves they leave out.
-/

namespace PagePaint

/-- One step of an outline: a move to a new contour, a line, a curve with one or two control
points, or the closing of the contour. -/
inductive Segment (α : Type) where
  | move (target : Point α)
  | line (target : Point α)
  | quadratic (control target : Point α)
  | cubic (first second target : Point α)
  | close
deriving DecidableEq, Repr

namespace Segment

variable {α : Type}

/-- The points a segment names, control points included. -/
def points : Segment α → List (Point α)
  | .move target => [target]
  | .line target => [target]
  | .quadratic control target => [control, target]
  | .cubic first second target => [first, second, target]
  | .close => []

/-- Where a segment ends. Closing names no end of its own. -/
def target? : Segment α → Option (Point α)
  | .move target => some target
  | .line target => some target
  | .quadratic _ target => some target
  | .cubic _ _ target => some target
  | .close => none

def map {β : Type} (change : Point α → Point β) : Segment α → Segment β
  | .move target => .move (change target)
  | .line target => .line (change target)
  | .quadratic control target => .quadratic (change control) (change target)
  | .cubic first second target => .cubic (change first) (change second) (change target)
  | .close => .close

end Segment

structure Outline (α : Type) where
  segments : List (Segment α)
deriving DecidableEq, Repr

namespace Outline

variable {α : Type} [Scalar α]

def ofEdges (edges : Edges α) : Outline α :=
  ⟨[.move ⟨edges.left, edges.top⟩, .line ⟨edges.right, edges.top⟩,
    .line ⟨edges.right, edges.bottom⟩, .line ⟨edges.left, edges.bottom⟩, .close]⟩

/-- An outline under construction: its segments, last first; the start of the current contour; and
whether the next drawing segment has to begin a contour. -/
structure Draft (α : Type) where
  drawn : List (Segment α)
  start : Option (Point α)
  needsMove : Bool

namespace Draft

def empty : Draft α := ⟨[], none, true⟩

/-- A move directly after a move replaces it. -/
def moveTo (draft : Draft α) (target : Point α) : Draft α :=
  match draft.drawn with
  | .move _ :: rest => ⟨.move target :: rest, some target, draft.needsMove⟩
  | drawn => ⟨.move target :: drawn, some target, false⟩

/-- Begins a contour where the last one began, or at the origin, if none is open. -/
def ensureMove (draft : Draft α) : Draft α :=
  if draft.needsMove then draft.moveTo (draft.start.getD ⟨Scalar.zero, Scalar.zero⟩) else draft

/-- Closing twice, or closing before anything is drawn, adds nothing. -/
def close (draft : Draft α) : Draft α :=
  match draft.drawn with
  | [] => { draft with needsMove := true }
  | .close :: _ => { draft with needsMove := true }
  | drawn => { draft with drawn := .close :: drawn, needsMove := true }

def add (draft : Draft α) : Segment α → Draft α
  | .move target => draft.moveTo target
  | .close => draft.close
  | segment =>
    let opened := draft.ensureMove
    { opened with drawn := segment :: opened.drawn }

def reached? (draft : Draft α) : Option (Point α) := draft.drawn.findSome? Segment.target?

end Draft

/-- The segments that a list of drawing commands stands for. -/
def segmentsOf (commands : List (Segment α)) : List (Segment α) :=
  (commands.foldl Draft.add Draft.empty).drawn.reverse

@[specialize]
private def widened (edges : Option (Edges α)) (point : Point α) : Option (Edges α) :=
  match edges with
  | none => some ⟨point.x, point.y, point.x, point.y⟩
  | some edges =>
    some {
      left := if Scalar.less point.x edges.left then point.x else edges.left
      top := if Scalar.less point.y edges.top then point.y else edges.top
      right := if Scalar.less edges.right point.x then point.x else edges.right
      bottom := if Scalar.less edges.bottom point.y then point.y else edges.bottom }

/-- The smallest edges around every point of segments, if there are points. -/
@[specialize]
def extremes? (segments : List (Segment α)) : Option (Edges α) :=
  segments.foldl (fun edges segment => segment.points.foldl widened edges) none

/-- Every coordinate is finite, and so is the extent in both directions. -/
@[specialize]
def bounded (segments : List (Segment α)) : Bool :=
  segments.all (fun segment => segment.points.all fun point =>
    Scalar.finite point.x && Scalar.finite point.y) &&
  match extremes? segments with
  | some edges =>
    Scalar.extentFits edges.left edges.right && Scalar.extentFits edges.top edges.bottom
  | none => false

/-- The outline of segments. Refused are fewer than two segments, and segments that are not
bounded. -/
def ofSegments? (segments : List (Segment α)) : Option (Outline α) :=
  if segments.length < 2 || !bounded segments then none else some ⟨segments⟩

/-- The outline of a list of drawing commands, if it is not refused. -/
def ofCommands? (commands : List (Segment α)) : Option (Outline α) :=
  ofSegments? (segmentsOf commands)

end Outline

end PagePaint
