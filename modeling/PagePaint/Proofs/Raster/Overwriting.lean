import PagePaint.Proofs.Backend.Shape
import PagePaint.Proofs.Raster.Extents

set_option autoImplicit false

/-!
# Overwriting rectangles

A rectangle is overwritten as whole numbers say, clipped to the target, if it has pixels and in both
directions either does not start before the target or reaches its end. Other rectangles that meet
the target paint too much: one without pixels gets one, and one that starts before the target ends a
pixel late.
-/

namespace PagePaint

namespace Pixmap

variable (pixmap : Pixmap) {column row : Nat}

private theorem pixel?_outside
    (outside : ¬ (column < pixmap.width.toNat ∧ row < pixmap.height.toNat)) :
    pixmap.pixel? column row = none :=
  if_neg outside

theorem exists_pixel (inRow : column < pixmap.width.toNat) (inColumn : row < pixmap.height.toNat) :
    ∃ pixel, pixmap.pixel? column row = some pixel := by
  have index : row * pixmap.width.toNat + column < pixmap.pixels.size := by
    rw [pixmap.size_eq]
    calc row * pixmap.width.toNat + column < row * pixmap.width.toNat + pixmap.width.toNat := by
          omega
      _ = (row + 1) * pixmap.width.toNat := (Nat.succ_mul _ _).symm
      _ ≤ pixmap.height.toNat * pixmap.width.toNat := Nat.mul_le_mul_right _ inColumn
      _ = pixmap.width.toNat * pixmap.height.toNat := Nat.mul_comm _ _
  unfold pixel?
  rw [if_pos ⟨inRow, inColumn⟩, Array.getElem?_eq_getElem index]
  exact ⟨_, rfl⟩

private theorem pixel?_mapPixels (change : Nat → Nat → Pixel → Pixel) :
    (pixmap.mapPixels change).pixel? column row =
      (pixmap.pixel? column row).map (change column row) := by
  unfold pixel?
  change (if column < pixmap.width.toNat ∧ row < pixmap.height.toNat then _ else none) = _
  split
  · rename_i inside
    have column_eq : (row * pixmap.width.toNat + column) % pixmap.width.toNat = column := by
      rw [Nat.mul_add_mod', Nat.mod_eq_of_lt inside.1]
    have row_eq : (row * pixmap.width.toNat + column) / pixmap.width.toNat = row := by
      rw [Nat.add_comm, Nat.add_mul_div_right _ _ (by omega), Nat.div_eq_of_lt inside.1,
        Nat.zero_add]
    simp only [mapPixels, Array.getElem?_mapIdx, column_eq, row_eq]
  · rfl

theorem pixel?_filled {width height : UInt32} (pixel : Pixel) (inRow : column < width.toNat)
    (inColumn : row < height.toNat) :
    (filled width height pixel).pixel? column row = some pixel := by
  obtain ⟨found, lookup⟩ := (filled width height pixel).exists_pixel inRow inColumn
  have same : found = pixel := by
    unfold pixel? at lookup
    rw [if_pos ⟨inRow, inColumn⟩] at lookup
    exact (Array.eq_of_mem_replicate (Array.mem_of_getElem? lookup))
  rw [lookup, same]

end Pixmap

namespace Target

/-!
## Rectangles in whole numbers
-/

def Covers (first : Int) (length position : Nat) : Prop :=
  first ≤ position ∧ (position : Int) < first + length

instance (first : Int) (length position : Nat) : Decidable (Covers first length position) :=
  inferInstanceAs (Decidable (_ ∧ _))

def Misses (size : Nat) (first : Int) (length : Nat) : Prop :=
  size ≤ first ∨ first + max 1 (length : Int) < 0

/-- One dimension that is painted where it should be: its near edge is not moved, or the far edge
that moves along is not in the target. -/
structure Keeps (size : Nat) (first : Int) (length : Nat) : Prop where
  positive : 0 < length
  within : 0 ≤ first ∨ size ≤ first + length

section Dimensions

variable {size position : Nat} {first : Int} {length : Nat}

private theorem Covers.paints (covers : Covers first length position) :
    Paints first length position := by
  obtain ⟨low, high⟩ := covers
  unfold Paints moved
  split <;> omega

private theorem Misses.not_paints (misses : Misses size first length) (inside : position < size) :
    ¬ Paints first length position := by
  unfold Misses at misses
  unfold Paints moved
  split <;> omega

private theorem Keeps.covers (keeps : Keeps size first length) (inside : position < size)
    (paints : Paints first length position) : Covers first length position := by
  obtain ⟨positive, within⟩ := keeps
  unfold Paints moved at paints
  unfold Covers
  split at paints <;> omega

theorem exists_paints (meets : ¬ Misses size first length) (positive : 0 < size) :
    ∃ position < size, Paints first length position := by
  unfold Misses at meets
  unfold Paints moved
  refine ⟨first.toNat, by omega, ?_⟩
  split <;> omega

private theorem exists_paints_uncovered (meets : ¬ Misses size first length) (positive : 0 < size)
    (loses : ¬ Keeps size first length) :
    ∃ position < size, Paints first length position ∧ ¬ Covers first length position := by
  by_cases empty : length = 0
  · obtain ⟨position, inside, paints⟩ := exists_paints meets positive
    refine ⟨position, inside, paints, ?_⟩
    unfold Covers
    omega
  -- It starts before the target and ends in it, where the moved far edge adds a pixel.
  · have ends : first < 0 ∧ first + length < size := by
      by_contra keeps
      exact loses ⟨by omega, by omega⟩
    unfold Misses at meets
    unfold Paints Covers moved
    refine ⟨(first + length).toNat, by omega, ?_⟩
    rw [if_pos ends.1]
    omega

end Dimensions

/-!
## Painted pixels
-/

section Pixels

variable {left top : Int32} {width height : UInt32} {color : Argb} {column row : Nat}

theorem untiled_of_short {target : Target} (wide : target.width.toNat ≤ Tile.longest)
    (tall : target.height.toNat ≤ Tile.longest) : target.isTiled = false := by
  unfold isTiled
  rw [decide_eq_false (not_lt.mpr wide), decide_eq_false (not_lt.mpr tall)]
  rfl

private theorem fillExtents_pixel? (target : Target) (across down : PixelExtent) (pixel : Pixel) :
    (target.fillExtents across down pixel).pixmap.pixel? column row =
      (target.pixmap.pixel? column row).map fun old =>
        if held (some across) column && held (some down) row then pixel else old := by
  refine (target.pixmap.pixel?_mapPixels _).trans (congrArg (Option.map · _) (funext fun old => ?_))
  simp only [held, Option.any_some, Bool.and_eq_true, decide_eq_true_eq, and_assoc]

private theorem fillRect_pixel? {target : Target} (untiled : target.isTiled = false) :
    (target.fillRect left top width height color).pixmap.pixel? column row =
      (target.pixmap.pixel? column row).map fun old =>
        if held (pixelExtent? left width) column && held (pixelExtent? top height) row then
          target.storedPixel color
        else old := by
  unfold fillRect
  simp only [untiled, Bool.false_eq_true, if_false]
  cases pixelExtent? left width with
  | none => simp [held]
  | some across =>
      cases pixelExtent? top height with
      | none => simp [held]
      | some down => exact fillExtents_pixel? target across down _

private theorem fillRect_sameShape {target : Target} (untiled : target.isTiled = false) :
    (target.fillRect left top width height color).SameShape target := by
  unfold fillRect
  simp only [untiled, Bool.false_eq_true, if_false]
  split
  · exact ⟨rfl, rfl, rfl⟩
  · exact .refl _

/-- What overwriting a rectangle leaves: inside it the pixels that filling the target stores, and
outside it those that were there. -/
structure Overwritten (before after : Target) (left top : Int) (width height : Nat)
    (color : Argb) : Prop where
  shape : after.SameShape before
  pixels : ∀ column row, after.pixmap.pixel? column row =
    if Covers left width column ∧ Covers top height row then
      (before.fill color).pixmap.pixel? column row
    else before.pixmap.pixel? column row

/-- A target whose sides need no tiles, and a rectangle that is placed on it without visible
rounding. -/
structure Placed (columns rows : UInt32) (left top : Int32) (width height : UInt32) : Prop where
  wide : columns.toNat ≤ Tile.longest
  tall : rows.toNat ≤ Tile.longest
  across : Ordinary columns.toNat left.toInt width.toNat
  down : Ordinary rows.toNat top.toInt height.toNat

theorem Placed.fillRect_pixel? {target : Target}
    (placed : Placed target.width target.height left top width height)
    (inRow : column < target.width.toNat) (inColumn : row < target.height.toNat) :
    (target.fillRect left top width height color).pixmap.pixel? column row =
      if Paints left.toInt width.toNat column ∧ Paints top.toInt height.toNat row then
        (target.fill color).pixmap.pixel? column row
      else target.pixmap.pixel? column row := by
  obtain ⟨wide, tall, across, down⟩ := placed
  obtain ⟨old, lookup⟩ := target.pixmap.exists_pixel inRow inColumn
  have filled : (target.fill color).pixmap.pixel? column row = some (target.storedPixel color) :=
    Pixmap.pixel?_filled _ inRow inColumn
  rw [Target.fillRect_pixel? (untiled_of_short wide tall), lookup, filled, Option.map_some]
  simp only [Bool.and_eq_true, across.held_iff inRow wide, down.held_iff inColumn tall]
  split <;> rfl

private theorem Placed.overwritten {target : Target}
    (placed : Placed target.width target.height left top width height)
    (same : ∀ column < target.width.toNat, ∀ row < target.height.toNat,
      Paints left.toInt width.toNat column → Paints top.toInt height.toNat row →
        Covers left.toInt width.toNat column ∧ Covers top.toInt height.toNat row) :
    target.Overwritten (target.fillRect left top width height color) left.toInt top.toInt
      width.toNat height.toNat color := by
  have shape : (target.fillRect left top width height color).SameShape target :=
    fillRect_sameShape (untiled_of_short placed.wide placed.tall)
  refine ⟨shape, fun column row => ?_⟩
  by_cases inside : column < target.width.toNat ∧ row < target.height.toNat
  · obtain ⟨inRow, inColumn⟩ := inside
    rw [placed.fillRect_pixel? inRow inColumn]
    refine if_congr ⟨fun ⟨paints, paints'⟩ => ?_, fun ⟨covers, covers'⟩ => ?_⟩ rfl rfl
    · exact same column inRow row inColumn paints paints'
    · exact ⟨covers.paints, covers'.paints⟩
  · have filled : (target.fill color).pixmap.pixel? column row = none :=
      Pixmap.pixel?_outside _ inside
    rw [filled, Pixmap.pixel?_outside _ inside, ite_self]
    refine Pixmap.pixel?_outside _ ?_
    change ¬ (column < (Target.width _).toNat ∧ row < (Target.height _).toNat)
    rwa [shape.width, shape.height]

/-!
## Which rectangles are overwritten
-/

def blank (columns rows : UInt32) : Target := ⟨.filled columns rows .clear, true⟩

private theorem white_ne_clear (columns rows : UInt32) :
    (blank columns rows).storedPixel .white ≠ .clear := by
  change Pixel.ofColor .white ≠ .clear
  decide +kernel

variable {columns rows : UInt32}

private theorem Placed.not_overwritten (placed : Placed columns rows left top width height)
    (inRow : column < columns.toNat) (inColumn : row < rows.toNat)
    (paints : Paints left.toInt width.toNat column ∧ Paints top.toInt height.toNat row)
    (outside : ¬ (Covers left.toInt width.toNat column ∧ Covers top.toInt height.toNat row)) :
    ¬ (blank columns rows).Overwritten ((blank columns rows).fillRect left top width height .white)
      left.toInt top.toInt width.toNat height.toNat .white := by
  intro overwritten
  have pixels := overwritten.pixels column row
  replace placed : Placed (blank columns rows).width (blank columns rows).height left top width
    height := placed
  have filled : ((blank columns rows).fill .white).pixmap.pixel? column row =
      some ((blank columns rows).storedPixel .white) :=
    Pixmap.pixel?_filled _ inRow inColumn
  have cleared : (blank columns rows).pixmap.pixel? column row = some .clear :=
    Pixmap.pixel?_filled _ inRow inColumn
  rw [placed.fillRect_pixel? inRow inColumn, if_pos paints, if_neg outside, filled, cleared]
    at pixels
  exact white_ne_clear columns rows (Option.some.inj pixels)

/-- On targets of one size, overwriting a rectangle is exact for all pixels and colours if and only
if the rectangle is painted nowhere or, in both directions, where it should be. -/
theorem fillRect_overwrites_iff (someColumns : 0 < columns.toNat) (someRows : 0 < rows.toNat)
    (placed : Placed columns rows left top width height) :
    (∀ (target : Target) (color : Argb), target.width = columns → target.height = rows →
      target.Overwritten (target.fillRect left top width height color) left.toInt top.toInt
        width.toNat height.toNat color) ↔
      Misses columns.toNat left.toInt width.toNat ∨ Misses rows.toNat top.toInt height.toNat ∨
        Keeps columns.toNat left.toInt width.toNat ∧ Keeps rows.toNat top.toInt height.toNat := by
  constructor
  · intro overwrites
    have overwritten := overwrites (blank columns rows) .white rfl rfl
    by_contra fails
    simp only [not_or, not_and_or] at fails
    obtain ⟨meets, meets', loses⟩ := fails
    rcases loses with loses | loses
    · obtain ⟨column, inRow, paints, outside⟩ := exists_paints_uncovered meets someColumns loses
      obtain ⟨row, inColumn, paints'⟩ := exists_paints meets' someRows
      exact placed.not_overwritten inRow inColumn ⟨paints, paints'⟩
        (fun covers => outside covers.1) overwritten
    · obtain ⟨column, inRow, paints⟩ := exists_paints meets someColumns
      obtain ⟨row, inColumn, paints', outside⟩ := exists_paints_uncovered meets' someRows loses
      exact placed.not_overwritten inRow inColumn ⟨paints, paints'⟩
        (fun covers => outside covers.2) overwritten
  · rintro exact target color rfl rfl
    refine placed.overwritten fun column inRow row inColumn paints paints' => ?_
    rcases exact with misses | misses | ⟨keeps, keeps'⟩
    · exact absurd paints (misses.not_paints inRow)
    · exact absurd paints' (misses.not_paints inColumn)
    · exact ⟨keeps.covers inRow paints, keeps'.covers inColumn paints'⟩

theorem fillRect_overwrites_iff_corner :
    (0 < (4 : UInt32).toNat ∧ Placed 4 4 2 2 10 10) ∧
      (blank 4 4).Overwritten ((blank 4 4).fillRect 2 2 10 10 .white) 2 2 10 10 .white := by
  have some : 0 < (4 : UInt32).toNat := by decide
  have short : (4 : UInt32).toNat ≤ Tile.longest := by decide
  have ordinary : Ordinary (4 : UInt32).toNat (2 : Int32).toInt (10 : UInt32).toNat :=
    ⟨.inl (by decide), .inl (by decide)⟩
  have keeps : Keeps (4 : UInt32).toNat (2 : Int32).toInt (10 : UInt32).toNat :=
    ⟨by decide, .inl (by decide)⟩
  have placed : Placed 4 4 2 2 10 10 := ⟨short, short, ordinary, ordinary⟩
  exact ⟨⟨some, placed⟩, (fillRect_overwrites_iff some some placed).mpr
    (.inr (.inr ⟨keeps, keeps⟩)) (blank 4 4) .white rfl rfl⟩

/-- An empty rectangle paints a pixel, one that ends where the target begins paints its first
column, and one whose far edge is no coordinate paints nothing. -/
theorem fillRect_overwrites_otherwise :
    ¬ (blank 4 4).Overwritten ((blank 4 4).fillRect 1 1 0 0 .white) 1 1 0 0 .white ∧
      ¬ (blank 4 4).Overwritten ((blank 4 4).fillRect (-1) 0 1 4 .white) (-1) 0 1 4 .white ∧
      ¬ (blank 200 1).Overwritten ((blank 200 1).fillRect 128 0 4294967295 1 .white) 128 0
        4294967295 1 .white := by
  refine ⟨fun overwritten => ?_, fun overwritten => ?_, fun overwritten => ?_⟩
  · exact absurd (overwritten.pixels 1 1) (by decide +kernel)
  · exact absurd (overwritten.pixels 0 0) (by decide +kernel)
  · exact absurd (overwritten.pixels 128 0) (by decide +kernel)

end Pixels

end Target

end PagePaint
