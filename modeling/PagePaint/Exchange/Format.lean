import PagePaint.Config
import PagePaint.Error
import PagePaint.Exchange.FlagText
import PagePaint.Exchange.Value
import PagePaint.Session.Job

set_option autoImplicit false

/-!
# The exchange format

How colours, schemes, options, device rectangles and session positions are written as values and
read from them. A colour is a bare number, a set of options a text, and everything with fields a
record, which may be read from a list of the fields in order as well. Errors are written, never
read.
-/

namespace PagePaint.Exchange

open PagePaint

class Exchangeable (τ : Type) where
  write : τ → Value
  read? : Value → Option τ

export Exchangeable (write read?)

instance : Exchangeable Argb where
  write color := .natural color.word.toNat
  read? value := (value.below? UInt32.size).map fun word => ⟨UInt32.ofNat word⟩

instance : Exchangeable ColorScheme where
  write scheme := .record
    [("path_fill", write scheme.pathFill), ("path_stroke", write scheme.pathStroke),
      ("text_fill", write scheme.textFill), ("text_stroke", write scheme.textStroke)]
  read? value := do
    match ← value.fields? ["path_fill", "path_stroke", "text_fill", "text_stroke"] with
    | [pathFill, pathStroke, textFill, textStroke] =>
      return ⟨← read? pathFill, ← read? pathStroke, ← read? textFill, ← read? textStroke⟩
    | _ => none

instance : Exchangeable RenderFlags where
  write flags := .text flags.text
  read? value := match value with
    | .text given => FlagText.read? given
    | _ => none

instance : Exchangeable DeviceRect where
  write rect := .record
    [("x", .integer rect.x.toInt), ("y", .integer rect.y.toInt),
      ("width", .natural rect.width.toNat), ("height", .natural rect.height.toNat)]
  read? value := do
    match ← value.fields? ["x", "y", "width", "height"] with
    | [x, y, width, height] =>
      let place (side : Value) := (side.integer? (-2147483648) 2147483647).map Int32.ofInt
      let extent (side : Value) := (side.below? UInt32.size).map UInt32.ofNat
      return ⟨← place x, ← place y, ← extent width, ← extent height⟩
    | _ => none

instance : Exchangeable Rotation where
  write rotation := .text rotation.name
  read? := Value.named? Rotation.all Rotation.name

instance : Exchangeable Phase where
  write phase := .text phase.name
  read? := Value.named? Phase.all Phase.name

instance : Exchangeable RenderStatus where
  write status := .text status.name
  read? := Value.named? RenderStatus.all RenderStatus.name

instance : Exchangeable Continuation where
  write continuation := .record
    [("background_done", .bool continuation.backgroundDone),
      ("cursor", .natural continuation.cursor), ("total", .natural continuation.total),
      ("batches", .natural continuation.batches)]
  read? value := do
    match ← value.fields? ["background_done", "cursor", "total", "batches"] with
    | [backgroundDone, cursor, total, batches] =>
      let count (side : Value) := side.below? (UInt64.size)
      return ⟨← backgroundDone.bool?, ← count cursor, ← count total, ← count batches⟩
    | _ => none

/-- The fields of an error: its kind, its wording and what its kind adds. -/
def errorFields (error : Error) : List (String × Value) :=
  let (kind, rest) := match error with
    | .invalidArgument _ => ("InvalidArgument", [])
    | .invalidState operation phase =>
      ("InvalidState",
        [("operation", Value.text operation.text), ("in_state", .text phase.text)])
    | .backend workUnit fault =>
      ("Backend",
        [("work_unit", (workUnit.map Value.natural).getD .null), ("reason", .text fault.reason)])
  [("error", .text kind), ("message", .text error.message)] ++ rest

def errorValue (error : Error) : Value := .record (errorFields error)

end PagePaint.Exchange
