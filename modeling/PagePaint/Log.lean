set_option autoImplicit false

/-!
# Log lines

Painting reports what it does as data. Nothing depends on whether anyone reads it.
-/

namespace PagePaint

inductive LogLevel where
  | warn
  | debug
  | trace
deriving DecidableEq, Repr

structure LogLine where
  level : LogLevel
  text : String
deriving DecidableEq, Repr

namespace LogLine

def warn (text : String) : LogLine := ⟨.warn, text⟩

def debug (text : String) : LogLine := ⟨.debug, text⟩

def trace (text : String) : LogLine := ⟨.trace, text⟩

def render (line : LogLine) : String :=
  let level := match line.level with
    | .warn => "WARN"
    | .debug => "DEBUG"
    | .trace => "TRACE"
  level ++ " " ++ line.text

end LogLine

end PagePaint
