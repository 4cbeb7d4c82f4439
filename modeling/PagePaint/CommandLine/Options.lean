import PagePaint.Config
import PagePaint.Error

set_option autoImplicit false

/-!
# Command-line options

A command line is read from the left in groups: a switch alone, or an option and the argument after
it, whatever that looks like. The first group that cannot be read decides the error.
-/

namespace PagePaint.CommandLine

open PagePaint

inductive Setting where
  | output (path : String)
  | pauseEvery (interval : Nat)
  | stepLimit (limit : Nat)
  | scale (factor : Float32)
  | rotate (rotation : Rotation)
  | flags (flags : RenderFlags)
  | scheme
  | forms
deriving DecidableEq, Repr

inductive UsageError where
  | unknownArgument (argument : String)
  | missingValue (option : String)
  | invalidValue (option value : String)
  | refusedValue (fault : ArgumentFault)
deriving DecidableEq, Repr

namespace UsageError

def message : UsageError → String
  | unknownArgument argument => "unknown argument: " ++ argument
  | missingValue option => "missing value after " ++ option
  | invalidValue option value => "invalid value for " ++ option ++ ": " ++ value
  | refusedValue fault => (Error.invalidArgument fault).message

end UsageError

def switch? (argument : String) : Option Setting :=
  if argument = "--annot" then some (.flags (.single .annotations))
  else if argument = "--fill-to-stroke" then some (.flags (.single .fillToStroke))
  else if argument = "--scheme" then some .scheme
  else if argument = "--forms" then some .forms
  else none

inductive ValuedOption where
  | output
  | pauseEvery
  | stepLimit
  | scale
  | rotate
  | flags
deriving DecidableEq, Repr

namespace ValuedOption

def ofArgument? (argument : String) : Option ValuedOption :=
  if argument = "--output" ∨ argument = "-o" then some output
  else if argument = "--pause-every" then some pauseEvery
  else if argument = "--step-limit" then some stepLimit
  else if argument = "--scale" then some scale
  else if argument = "--rotate" then some rotate
  else if argument = "--flags" then some flags
  else none

def readRotation (argument value : String) : Except UsageError Setting :=
  match Numeral.readNat? UInt8.size value with
  | none => .error (.invalidValue argument value)
  | some turns =>
    match Rotation.ofQuarterTurns? (UInt8.ofNat turns) with
    | none => .error (.refusedValue (.quarterTurns (UInt8.ofNat turns)))
    | some rotation => .ok (.rotate rotation)

/-- Reads the value of an option as it was spelled. Any text is a path; counts fit 64 bits. -/
def read (option : ValuedOption) (argument value : String) : Except UsageError Setting :=
  let required (setting : Option Setting) : Except UsageError Setting :=
    match setting with
    | some setting => .ok setting
    | none => .error (.invalidValue argument value)
  match option with
  | output => .ok (.output value)
  | pauseEvery => required ((Numeral.readNat? UInt64.size value).map .pauseEvery)
  | stepLimit => required ((Numeral.readNat? UInt64.size value).map .stepLimit)
  | scale => required ((Numeral.readFloat? value).map .scale)
  | rotate => readRotation argument value
  | flags =>
    required ((Numeral.readNat? UInt32.size value).map fun word =>
      .flags (.ofBits (UInt32.ofNat word)))

end ValuedOption

def settings : List String → Except UsageError (List Setting)
  | [] => .ok []
  | argument :: rest =>
    match switch? argument with
    | some setting => (settings rest).map (setting :: ·)
    | none =>
      match ValuedOption.ofArgument? argument with
      | none => .error (.unknownArgument argument)
      | some option =>
        match rest with
        | [] => .error (.missingValue argument)
        | value :: others =>
          match option.read argument value with
          | .error error => .error error
          | .ok setting => (settings others).map (setting :: ·)

structure Options where
  output : String
  pauseEvery : Option Nat
  stepLimit : Nat
  scale : Float32
  rotation : Rotation
  flags : RenderFlags
  scheme : Bool
  forms : Bool
deriving DecidableEq, Repr

namespace Options

def initial : Options :=
  { output := "render_progressive.png"
    pauseEvery := none
    stepLimit := 1
    scale := 2
    rotation := .upright
    flags := .empty
    scheme := false
    forms := false }

/-- Flags add up; of every other setting the last one counts. -/
def apply (options : Options) : Setting → Options
  | .output path => { options with output := path }
  | .pauseEvery interval => { options with pauseEvery := some interval }
  | .stepLimit limit => { options with stepLimit := limit }
  | .scale factor => { options with scale := factor }
  | .rotate rotation => { options with rotation := rotation }
  | .flags flags => { options with flags := options.flags.union flags }
  | .scheme => { options with scheme := true }
  | .forms => { options with forms := true }

/-- Reads a command line, the program's name left out. -/
def ofArguments (arguments : List String) : Except UsageError Options :=
  (settings arguments).map fun all => all.foldl apply initial

end Options

end PagePaint.CommandLine
