import PagePaint.Color
import PagePaint.Flags
import PagePaint.Geometry.Display

set_option autoImplicit false

/-!
# Render configurations

A configuration is chosen once, before a session starts, and stays as it is.
-/

namespace PagePaint

/-- How a page is painted. The step limit is the number of work units between two questions to the
pause controller. -/
structure Config where
  rect : DeviceRect
  rotation : Rotation
  flags : RenderFlags
  scheme : Option ColorScheme
  background : Option Argb
  stepLimit : Nat
  stepLimit_pos : 0 < stepLimit
deriving DecidableEq

namespace Config

def defaultStepLimit : Nat := 100

/-- Native colours, upright, no option set, and a background chosen by the target. -/
def ofRect (rect : DeviceRect) : Config :=
  { rect
    rotation := .upright
    flags := .empty
    scheme := none
    background := none
    stepLimit := defaultStepLimit
    stepLimit_pos := by decide }

def ofSize (width height : UInt32) : Config := ofRect (.ofSize width height)

instance : Inhabited Config := ⟨ofRect default⟩

def withRotation (config : Config) (rotation : Rotation) : Config := { config with rotation }

def withFlags (config : Config) (flags : RenderFlags) : Config := { config with flags }

def withScheme (config : Config) (scheme : ColorScheme) : Config :=
  { config with scheme := some scheme }

def withBackground (config : Config) (color : Argb) : Config :=
  { config with background := some color }

/-- A limit of zero counts as one. -/
def withStepLimit (config : Config) (limit : Nat) : Config :=
  { config with stepLimit := max limit 1, stepLimit_pos := by omega }

def paintsAnnotations (config : Config) : Bool := config.flags.has .annotations

def isPrinting (config : Config) : Bool := config.flags.has .printing

/-- Whether fills become strokes. Without a scheme the option has no effect. -/
def strokesFills (config : Config) : Bool :=
  config.scheme.isSome && config.flags.has .fillToStroke

end Config

end PagePaint
