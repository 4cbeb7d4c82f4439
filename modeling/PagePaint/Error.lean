set_option autoImplicit false

/-!
# Errors

An error says what went wrong; its wording is made only when it is shown. Arguments are refused
before any work is done, operations are refused by the phase of the session, and the backend reports
what it could not paint.
-/

namespace PagePaint

inductive Phase where
  | notStarted
  | inProgress
  | done
  | failed
  | closed
deriving DecidableEq, Repr, Inhabited

namespace Phase

def text : Phase → String
  | notStarted => "not started"
  | inProgress => "in progress"
  | done => "done"
  | failed => "failed"
  | closed => "closed"

def name : Phase → String
  | notStarted => "NotStarted"
  | inProgress => "InProgress"
  | done => "Done"
  | failed => "Failed"
  | closed => "Closed"

def all : List Phase := [notStarted, inProgress, done, failed, closed]

end Phase

inductive Operation where
  | start
  | render
  | resume
  | drawOverlay
  | drawOverlayAgain
  | close
deriving DecidableEq, Repr

namespace Operation

def text : Operation → String
  | start => "start"
  | render => "render"
  | resume => "continue"
  | drawOverlay => "draw the form overlay"
  | drawOverlayAgain => "draw the form overlay twice"
  | close => "close"

end Operation

/-- Why an argument is refused. The sides of a page are given as they are shown. -/
inductive ArgumentFault where
  | pageSize (width height : String)
  | emptyDevice (width height : UInt32)
  | sizeMismatch (targetWidth targetHeight deviceWidth deviceHeight : UInt32)
  | unallocatableTarget (width height : UInt32)
  | quarterTurns (turns : UInt8)
  | reported (message : String)
deriving DecidableEq, Repr

private def sizeText (width height : UInt32) : String := toString width ++ "x" ++ toString height

namespace ArgumentFault

def message : ArgumentFault → String
  | pageSize width height => "page size must be positive, got " ++ width ++ "x" ++ height
  | emptyDevice width height => "device rectangle " ++ sizeText width height ++ " is empty"
  | sizeMismatch targetWidth targetHeight deviceWidth deviceHeight =>
    "target is " ++ sizeText targetWidth targetHeight ++ ", page needs " ++
      sizeText deviceWidth deviceHeight
  | unallocatableTarget width height =>
    "cannot allocate a " ++ sizeText width height ++ " render target"
  | quarterTurns turns => "rotation must be 0..=3 quarter turns, got " ++ toString turns
  | reported message => message

end ArgumentFault

/-- Why a backend could not paint. A transform is given as it is shown. -/
inductive BackendFault where
  | nonFiniteTransform (listing : String)
  | nonFiniteImageTransform (id : UInt64)
  | noColorStops
  | imageSize (id : UInt64) (width height : UInt32) (carried : Nat) (expected : UInt64)
  | unallocatableImage (id : UInt64) (width height : UInt32)
  | reported (reason : String)
deriving DecidableEq, Repr

namespace BackendFault

def reason : BackendFault → String
  | nonFiniteTransform listing => "non-finite transform " ++ listing
  | nonFiniteImageTransform id => "non-finite image transform for image " ++ toString id
  | noColorStops => "shading has no colour stops"
  | imageSize id width height carried expected =>
    "image " ++ toString id ++ " is " ++ sizeText width height ++ " but carries " ++
      toString carried ++ " bytes, expected " ++ toString expected
  | unallocatableImage id width height =>
    "cannot allocate " ++ sizeText width height ++ " image " ++ toString id
  | reported reason => reason

end BackendFault

/-- What can go wrong while a session is driven. A backend failure names the work unit it happened
in, if it happened in one. -/
inductive Error where
  | invalidArgument (fault : ArgumentFault)
  | invalidState (operation : Operation) (phase : Phase)
  | backend (workUnit : Option Nat) (fault : BackendFault)
deriving DecidableEq, Repr

namespace Error

def message : Error → String
  | invalidArgument fault => "Invalid argument: " ++ fault.message
  | invalidState operation phase =>
    "Invalid state: cannot " ++ operation.text ++ " while session is " ++ phase.text
  | backend workUnit fault =>
    let place := match workUnit with
      | some index => " at work unit " ++ toString index
      | none => ""
    "Backend failure" ++ place ++ ": " ++ fault.reason

/-- Places a backend failure in a work unit. Other errors have no place. -/
def atWorkUnit (error : Error) (index : Nat) : Error :=
  match error with
  | backend _ fault => backend (some index) fault
  | other => other

def isInvalidState : Error → Bool
  | invalidState _ _ => true
  | _ => false

end Error

end PagePaint
