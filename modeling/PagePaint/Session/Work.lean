import PagePaint.Paint.Renderer

set_option autoImplicit false

/-!
# Work lists

The work of a base pass is the page's objects in document order, followed by the annotations it
shows in page order. A continuation tells how much of it is done.
-/

namespace PagePaint

variable {α : Type}

/-- One unit of work, with its position in the page. -/
inductive WorkUnit (α : Type) where
  | object (index : Nat) (item : PageObject α)
  | annot (index : Nat) (item : Annot α)
deriving DecidableEq, Repr

namespace WorkUnit

def listing : WorkUnit α → String
  | object index item => item.kind ++ " object " ++ toString index
  | annot index item => item.subtype.name ++ " annotation " ++ toString index

variable [Scalar α]

def body (renderer : Renderer α) : WorkUnit α → Script α
  | object _ item => renderer.objectScript item item.blend
  | annot _ item => renderer.annotScript item

/-- The script of the unit at a position of the work list. -/
def script (renderer : Renderer α) (position : Nat) (unit : WorkUnit α) : Script α :=
  .note (.trace ("work unit " ++ toString position ++ ": " ++ unit.listing)) ::
    unit.body renderer

end WorkUnit

/-- The annotations that take part in the base pass, with their positions. -/
def baseAnnots (page : Page α) (config : Config) : List (Nat × Annot α) :=
  if config.paintsAnnotations then
    (page.annots.zipIdx.map fun entry => (entry.2, entry.1)).filter fun entry =>
      entry.2.isBaseContent config.isPrinting
  else []

def workList (page : Page α) (config : Config) : List (WorkUnit α) :=
  page.objects.zipIdx.map (fun entry => .object entry.2 entry.1) ++
    (baseAnnots page config).map fun entry => .annot entry.1 entry.2

/-- A line for each annotation that the base pass would paint if it were visible. -/
def skippedNotes (page : Page α) (config : Config) : List LogLine :=
  if config.paintsAnnotations then
    page.annots.zipIdx.filterMap fun entry =>
      let annot := entry.1
      if annot.isWidget || annot.isVisible config.isPrinting then none
      else
        some (.warn ("skipping " ++ annot.subtype.name ++ " annotation " ++ toString entry.2 ++
          ": flags " ++ annot.flags.listing))
  else []

/-- How far a base pass has come. The cursor is the position of the next unit of the work list; the
background is no unit of it. -/
structure Continuation where
  backgroundDone : Bool
  cursor : Nat
  total : Nat
  batches : Nat
deriving DecidableEq, Repr, Inhabited

namespace Continuation

def start (total : Nat) : Continuation := ⟨false, 0, total, 0⟩

def isFinished (continuation : Continuation) : Bool :=
  continuation.backgroundDone && decide (continuation.total ≤ continuation.cursor)

/-- What is left to paint, the background included. -/
def remaining (continuation : Continuation) : Nat :=
  (continuation.total - continuation.cursor) + if continuation.backgroundDone then 0 else 1

end Continuation

end PagePaint
