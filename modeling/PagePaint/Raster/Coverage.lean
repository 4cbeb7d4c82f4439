import PagePaint.Target.Pixmap

set_option autoImplicit false

/-!
# Coverage

What a shape covers is a list of runs: pixels of one row, side by side and covered alike. A pixel
may be in several runs; it is then painted several times, in their order.
-/

namespace PagePaint

def fullCoverage : Nat := 255

/-- Pixels of one row, from `first` on, covered alike. -/
structure Run where
  row : Nat
  first : Nat
  count : Nat
  coverage : Nat
deriving DecidableEq, Repr

namespace Run

/-- The runs of one row whose pixels are covered as listed, from a column on, put after others,
last run first. Pixels without coverage are left out. -/
def ofCoverage (row left : Nat) (cover : Array Nat) (before : List Run) : List Run :=
  (cover.foldl
    (fun state coverage =>
      let column := state.2
      let runs :=
        if coverage = 0 then state.1
        else
          match state.1 with
          | run :: rest =>
            if run.row = row ∧ run.first + run.count = column ∧ run.coverage = coverage then
              { run with count := run.count + 1 } :: rest
            else ⟨row, column, 1, coverage⟩ :: state.1
          | [] => [⟨row, column, 1, coverage⟩]
      (runs, column + 1))
    (before, left)).1

end Run

/-- A part of a pixmap that is painted on its own, with positions counted from its corner. -/
structure Tile where
  left : Nat
  top : Nat
  width : Nat
  height : Nat
deriving DecidableEq, Repr

namespace Tile

/-- The longest side of a tile. Positions of a quarter of a pixel within it fit 15 bits. -/
def longest : Nat := 8191

private def parts (length : Nat) : Nat := (length + longest - 1) / longest

/-- The tiles of a grid, row by row. A grid without long sides is one tile. -/
def cover (width height : Nat) : List Tile :=
  (List.range (parts height)).flatMap fun down =>
    (List.range (parts width)).map fun across =>
      { left := across * longest
        top := down * longest
        width := min longest (width - across * longest)
        height := min longest (height - down * longest) }

end Tile

/-- How a pixel is painted: a function of its coverage, its column and row within the tile, and its
value. -/
abbrev Mix := Nat → Nat → Nat → Pixel → Pixel

namespace Pixmap

/-- Changes the pixel at a position in storage order, if there is one. -/
def modify (pixmap : Pixmap) (index : Nat) (change : Pixel → Pixel) : Pixmap :=
  { pixmap with
    pixels := pixmap.pixels.modify index change
    size_eq := by simpa using pixmap.size_eq }

def paintRun (pixmap : Pixmap) (tile : Tile) (mix : Mix) (run : Run) : Pixmap :=
  let start := (tile.top + run.row) * pixmap.width.toNat + tile.left + run.first
  run.count.fold
    (fun offset _ painted =>
      painted.modify (start + offset) (mix run.coverage (run.first + offset) run.row))
    pixmap

def paintRuns (pixmap : Pixmap) (tile : Tile) (mix : Mix) (runs : List Run) : Pixmap :=
  runs.foldl (fun painted run => painted.paintRun tile mix run) pixmap

end Pixmap

end PagePaint
