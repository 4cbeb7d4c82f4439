import PagePaint.Raster.Painter

set_option autoImplicit false

/-!
# What painting preserves

Painting changes a pixmap one pixel at a time, each by a mix of its brush. Whatever a mix keeps is
kept by every shape and by every call that paints.
-/

namespace PagePaint

variable {kept : Pixmap → Prop}

def Mix.Keeps (kept : Pixmap → Prop) (mix : Mix) : Prop :=
  ∀ pixmap index coverage column row, kept pixmap →
    kept (pixmap.modify index (mix coverage column row))

/-- A property that every mix of every brush keeps. -/
def Brush.Keep (kept : Pixmap → Prop) : Prop :=
  ∀ (mode : BlendMode) (brush : Brush) (mix : Mix), brush.mix? mode = some mix → mix.Keeps kept

namespace Pixmap

/-!
## Shapes
-/

variable {pixmap : Pixmap}

private theorem paintRun_keeps {mix : Mix} (keeps : mix.Keeps kept) (start : kept pixmap)
    (tile : Tile) (run : Run) : kept (pixmap.paintRun tile mix run) := by
  simp only [paintRun]
  induction run.count with
  | zero => exact start
  | succ count ih =>
      rw [Nat.fold_succ]
      exact keeps _ _ _ _ _ ih

private theorem paintRuns_keeps {mix : Mix} (keeps : mix.Keeps kept) (start : kept pixmap)
    (tile : Tile) (runs : List Run) : kept (pixmap.paintRuns tile mix runs) := by
  induction runs generalizing pixmap with
  | nil => exact start
  | cons run rest ih => exact ih (paintRun_keeps keeps start tile run)

theorem paintTiles_keeps {mix? : Brush → Option Mix}
    (keeps : ∀ brush mix, mix? brush = some mix → mix.Keeps kept)
    (runs : Outline Float32 → Nat → Nat → List Run) (tiles : List Tile)
    (outline : Outline Float32) (brush : Brush) (start : kept pixmap) :
    kept (paintTiles mix? runs tiles outline brush pixmap) := by
  induction tiles generalizing outline brush pixmap with
  | nil => exact start
  | cons tile rest ih =>
      unfold paintTiles
      dsimp only
      split
      · exact start
      · -- The brush may give no way to paint, which leaves the tile as it is.
        split <;> split
        · exact paintRuns_keeps (keeps _ _ ‹_›) start tile _
        · exact start
        · exact ih _ _ (paintRuns_keeps (keeps _ _ ‹_›) start tile _)
        · exact ih _ _ start

theorem fillOutline_keeps {mix? : Brush → Option Mix}
    (keeps : ∀ brush mix, mix? brush = some mix → mix.Keeps kept) (start : kept pixmap)
    (outline : Outline Float32) (brush : Brush) (rule : FillRule) (smooth : Bool)
    (transform : Transform Float32) :
    kept (pixmap.fillOutline outline brush mix? rule smooth transform) := by
  unfold fillOutline
  split
  · exact start
  · split
    · exact paintTiles_keeps keeps _ _ _ _ start
    · exact start

private theorem drawHairline_keeps (keeps : Brush.Keep kept) (start : kept pixmap)
    (outline : Outline Float32) (pixel : Pixel) (mode : BlendMode) (cap : LineCap)
    (smooth : Bool) (transform : Transform Float32) :
    kept (pixmap.drawHairline outline pixel mode cap smooth transform) := by
  unfold drawHairline
  split
  · exact start
  · exact paintTiles_keeps (keeps mode) _ _ _ _ start

private theorem strokeOutline_keeps (keeps : Brush.Keep kept) (start : kept pixmap)
    (outline : Outline Float32) (color : Argb) (mode : BlendMode) (smooth : Bool)
    (style : StrokeStyle Float32) (transform : Transform Float32) :
    kept (pixmap.strokeOutline outline color mode smooth style transform) := by
  simp only [strokeOutline]
  split
  · exact start
  · split
    · exact start
    · split
      · exact drawHairline_keeps keeps start _ _ _ _ _ _
      · split
        · exact start
        · exact fillOutline_keeps (keeps mode) start _ _ _ _ _

end Pixmap

/-!
## Calls
-/

/-- A target of which a painting call has left what every mix keeps. -/
structure Target.PaintedOver (before after : Target) : Prop where
  hasAlpha : after.hasAlpha = before.hasAlpha
  keeps : ∀ kept : Pixmap → Prop, Brush.Keep kept → kept before.pixmap → kept after.pixmap

theorem Target.PaintedOver.refl (target : Target) : target.PaintedOver target :=
  ⟨rfl, fun _ _ start => start⟩

namespace Painter

variable {target : Target} {transform : Transform Float32}

theorem checked_paintedOver {painted : Painted} (covered : target.PaintedOver painted.target) :
    target.PaintedOver (checked target transform painted).target := by
  unfold checked
  split
  · exact .refl target
  · exact covered

private theorem shade_paintedOver {area : Outline Float32} {shading : Shading Float32}
    {blend : BlendMode} {antiAlias : Bool} :
    target.PaintedOver (shade target area shading blend antiAlias transform).target := by
  refine checked_paintedOver ?_
  split
  · exact .refl target
  · exact ⟨rfl, fun kept keep start => Pixmap.fillOutline_keeps (keep _) start _ _ _ _ _⟩

private theorem image_paintedOver {cache : ImageCache} {drawn : ImageObject Float32}
    {blend : BlendMode} {smooth : Bool} :
    target.PaintedOver (image cache target drawn blend smooth transform).target := by
  simp only [image]
  split
  · cases (cache.getOrDecode drawn).answer with
    | error fault => exact .refl target
    | ok pixmap =>
        exact ⟨rfl, fun kept keep start => Pixmap.fillOutline_keeps (keep _) start _ _ _ _ _⟩
  · exact .refl target

/-- A call overwrites the target or paints over it, if only with nothing. -/
theorem effect_target (cache : ImageCache) (target : Target) (call : PaintCall Float32) :
    (∃ color, call = .clear color ∧ (effect cache target call).target = target.fill color) ∨
      target.PaintedOver (effect cache target call).target := by
  cases call with
  | clear color => exact .inl ⟨color, rfl, rfl⟩
  | fill =>
      refine .inr (checked_paintedOver ⟨rfl, fun kept keep start => ?_⟩)
      exact Pixmap.fillOutline_keeps (keep _) start _ _ _ _ _
  | stroke =>
      refine .inr (checked_paintedOver ⟨rfl, fun kept keep start => ?_⟩)
      exact Pixmap.strokeOutline_keeps keep start _ _ _ _ _ _
  | shade => exact .inr shade_paintedOver
  | image => exact .inr image_paintedOver

end Painter

end PagePaint
