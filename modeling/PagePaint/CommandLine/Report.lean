import PagePaint.CommandLine.Options
import PagePaint.CommandLine.Sample
import PagePaint.Exchange.Compact
import PagePaint.Exchange.Format
import PagePaint.Raster.Painter
import PagePaint.Session.Drive

set_option autoImplicit false

/-!
# What the program does

A run of the program as data: the lines it prints on the way and how it ends. Writing the file is
left to the outer layer.
-/

namespace PagePaint.CommandLine

open PagePaint

inductive Ending where
  | usage (error : UsageError)
  | noSample
  | failed (error : Error)
  | finished (target : Target) (resumes : Nat) (path : String)

structure Report where
  lines : List String
  ending : Ending

/-- The pixels of a side of the page under a scale. -/
def scaledSide (side scale : Float32) : UInt32 :=
  UInt32.ofNat (Binary32.nearestNat (side * scale) (UInt32.size - 1))

/-- Black for the inside of paths and white for everything else. -/
def sampleScheme : ColorScheme := ⟨.black, .white, .white, .white⟩

def sampleHighlight : Argb := (Argb.rgb 0xFF 0xE4 0xDD).withAlpha 0x80

def Options.config (options : Options) : Config :=
  let (width, height) :=
    if options.rotation.swapsAxes then (sampleHeight, sampleWidth)
    else (sampleWidth, sampleHeight)
  let size := Config.ofSize (scaledSide width options.scale) (scaledSide height options.scale)
  let plain :=
    ((size.withRotation options.rotation).withFlags options.flags).withStepLimit options.stepLimit
  if options.scheme then plain.withScheme sampleScheme else plain

private def pausedLine (continuation : Continuation) : String :=
  "paused: " ++ (Exchange.write continuation).compact

private def finish (options : Options) (session : Session Float32 ImageCache)
    (lines : List String) (resumes : Nat) : Report :=
  let response := session.close
  match response.result with
  | .ok target => ⟨lines, .finished target resumes options.output⟩
  | .error error => ⟨lines, .failed error⟩

def paintPage (options : Options) (page : Page Float32) (target : Target) : Report :=
  let pause := options.pauseEvery.map PauseController.ofInterval
  let session : Session Float32 ImageCache := .fresh .unlimited
  let started := session.start Backend.painter target page options.config pause
  match started.result with
  | .error failure => ⟨[], .failed failure.error⟩
  | .ok _ =>
    let driven := started.session.drive Backend.painter started.pause
    let lines := driven.pauses.map pausedLine
    match driven.failure with
    | some error => ⟨lines, .failed error⟩
    | none =>
      let resumes := driven.pauses.length
      if options.forms then
        let drawn := driven.session.drawOverlay Backend.painter (.ofPage (some sampleHighlight))
        match drawn.result with
        | .error error => ⟨lines, .failed error⟩
        | .ok _ => finish options drawn.session lines resumes
      else finish options driven.session lines resumes

def paintSample (options : Options) : Report :=
  match samplePage? with
  | none => ⟨[], .noSample⟩
  | some page =>
    let device := options.config.rect
    match Target.allocate? device.width device.height page.needsAlpha with
    | none =>
      ⟨[], .failed (.invalidArgument (.unallocatableTarget device.width device.height))⟩
    | some target => paintPage options page target

/-- The run for a command line, the program's name left out. -/
def report (arguments : List String) : Report :=
  match Options.ofArguments arguments with
  | .error error => ⟨[], .usage error⟩
  | .ok options => paintSample options

/-- The line on standard error for a run that did not finish, and its exit code. -/
def Ending.error? : Ending → Option (String × UInt32)
  | .usage error => some ("Error: " ++ error.message, 2)
  | .noSample => some ("Error: could not build the sample page", 1)
  | .failed error => some ("Error: " ++ error.message, 1)
  | .finished _ _ _ => none

/-- The last line of a finished run. The elapsed time and the checksum are given as they are to
stand in it. -/
def finishedLine (target : Target) (elapsed : String) (resumes : Nat) (path checksum : String) :
    String :=
  "rendered " ++ toString target.width ++ "x" ++ toString target.height ++ elapsed ++ " with " ++
    toString resumes ++ " resumes -> " ++ path ++ checksum

private def twoPlaces (value unit : Nat) : String :=
  let hundredths := (value * 100 + unit / 2) / unit
  let rest := hundredths % 100
  toString (hundredths / 100) ++ "." ++ (if rest < 10 then "0" else "") ++ toString rest

/-- A duration in nanoseconds, with two places in the largest unit that leaves a whole part. -/
def elapsedText (nanoseconds : Nat) : String :=
  if nanoseconds < 1000 then toString nanoseconds ++ ".00ns"
  else if nanoseconds < 1000000 then twoPlaces nanoseconds 1000 ++ "µs"
  else if nanoseconds < 1000000000 then twoPlaces nanoseconds 1000000 ++ "ms"
  else twoPlaces nanoseconds 1000000000 ++ "s"

end PagePaint.CommandLine
