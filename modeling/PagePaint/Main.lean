import PagePaint.CommandLine.Report

set_option autoImplicit false

/-!
# The program

Prints what a run reports, writes its file and ends with its exit code.
-/

open PagePaint PagePaint.CommandLine

private def writeFailure (error : IO.Error) : String :=
  match error with
  | .noFileOrDirectory _ _ _ => "No such file or directory (os error 2)"
  | .permissionDenied _ _ _ => "Permission denied (os error 13)"
  | .inappropriateType _ _ _ => "Is a directory (os error 21)"
  | other => toString other

def main (arguments : List String) : IO UInt32 := do
  let started ← IO.monoNanosNow
  let run := report arguments
  for line in run.lines do
    IO.println line
  match run.ending with
  | .finished target resumes path =>
    try
      IO.FS.writeBinFile path (Png.encode target.pixmap)
      let elapsed := elapsedText ((← IO.monoNanosNow) - started)
      IO.println (finishedLine target (" in " ++ elapsed) resumes path
        (" (md5 " ++ target.checksum ++ ")"))
      return 0
    catch error =>
      IO.eprintln ("Error: " ++ writeFailure error)
      return 1
  | ending =>
    match ending.error? with
    | some (line, code) =>
      IO.eprintln line
      return code
    | none => return 0
