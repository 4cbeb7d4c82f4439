import PagePaint.Proofs.Paint.Recolor
import PagePaint.Target.Target

set_option autoImplicit false

/-!
# What the smoothing options do to the painting order

Every call but a clear says whether it is to be smooth. Three options decide that, each for calls
from sources of its own. They decide nothing else, and of the other options only three are read at
all: which annotations are painted, on which medium, and whether fills are converted.
-/

namespace PagePaint

variable {α : Type}

def PaintCall.withSmooth (smooth : Bool) : PaintCall α → PaintCall α
  | .clear color => .clear color
  | .fill outline paint rule transform =>
    .fill outline { paint with antiAlias := smooth } rule transform
  | .stroke outline paint style transform =>
    .stroke outline { paint with antiAlias := smooth } style transform
  | .shade area shading blend _ transform => .shade area shading blend smooth transform
  | .image item blend _ transform => .image item blend smooth transform

/-- Where a call of a session comes from. -/
inductive PaintSource (α : Type) where
  | background
  | object (item : PageObject α)
  | highlight

namespace PaintSource

/-- The option that calls from a source are smooth without. -/
def smoothing? : PaintSource α → Option RenderFlag
  | .background => none
  | .object (.path _) | .object (.shading _) | .highlight => some .noSmoothPath
  | .object (.text _) => some .noSmoothText
  | .object (.image _) => some .noSmoothImage

def smooth (source : PaintSource α) (config : Config) : Bool :=
  match source.smoothing? with
  | some option => !config.flags.has option
  | none => true

end PaintSource

/-- What a change of some options makes of a call: nothing, or the same call, smooth or not, if one
of them is the smoothing option of its source. -/
inductive Resmooths (options : List RenderFlag) (source : PaintSource α) (call : PaintCall α) :
    PaintCall α → Prop where
  | same : Resmooths options source call call
  | toggled {option : RenderFlag} (toggled : option ∈ options)
      (smoothing : source.smoothing? = some option) (smooth : Bool) :
      Resmooths options source call (call.withSmooth smooth)

/-- Options that at most say how a call is to be carried out: they decide neither which annotations
are painted nor what becomes of fills. -/
structure Cosmetic (options : List RenderFlag) : Prop where
  annotations : .annotations ∉ options
  printing : .printing ∉ options
  fillToStroke : .fillToStroke ∉ options

def RenderFlag.unread : List RenderFlag :=
  [.lcdText, .noNativeText, .grayscale, .reverseByteOrder, .forceHalftone, .limitedImageCache]

structure Config.SameOutside (options : List RenderFlag) (left right : Config) : Prop where
  rect : left.rect = right.rect
  rotation : left.rotation = right.rotation
  scheme : left.scheme = right.scheme
  background : left.background = right.background
  stepLimit : left.stepLimit = right.stepLimit
  flags : ∀ other, other ∉ options → left.flags.has other = right.flags.has other

theorem Config.SameOutside.showsLike {options : List RenderFlag} {left right : Config}
    (same : left.SameOutside options right) (cosmetic : Cosmetic options) :
    left.ShowsLike right where
  rect := same.rect
  rotation := same.rotation
  printing := same.flags _ cosmetic.printing
  annotations := same.flags _ cosmetic.annotations

private theorem PaintSource.smoothing?_read {source : PaintSource α} {option : RenderFlag}
    (smoothing : source.smoothing? = some option) : option ∉ RenderFlag.unread := by
  cases source with
  | background => cases smoothing
  | highlight =>
      cases smoothing
      decide
  | object item =>
      cases item with
      | path | text | image | shading =>
          cases smoothing
          decide

private theorem Resmooths.eq_of_unread {options : List RenderFlag} {source : PaintSource α}
    {call call' : PaintCall α} (changed : Resmooths options source call call')
    (unread : options ⊆ RenderFlag.unread) : call = call' := by
  cases changed with
  | same => rfl
  | toggled toggled smoothing => exact absurd (unread toggled) (PaintSource.smoothing?_read smoothing)

namespace PaintingOrder

variable [Scalar α] {base : Transform α} {config config' : Config} {options : List RenderFlag}

/-!
## The calls under another configuration

The smoothing of the second configuration is that of all calls from one source.
-/

private theorem path_eq_map (scheme : config.scheme = config'.scheme)
    (conversion : config.flags.has .fillToStroke = config'.flags.has .fillToStroke)
    (item : PathObject α) (blend : BlendMode) :
    path base config' item blend = (path base config item blend).map
      (.withSmooth ((PaintSource.object (.path item)).smooth config')) := by
  simp only [path, color, scheme, conversion]
  split
  · simp [Function.comp_def, PaintCall.withSmooth, PaintSource.smooth, PaintSource.smoothing?]
  · simp [Function.comp_def, PaintCall.withSmooth, PaintSource.smooth, PaintSource.smoothing?]

private theorem text_eq_map (scheme : config.scheme = config'.scheme) (item : TextObject α)
    (blend : BlendMode) :
    text base config' item blend = (text base config item blend).map
      (.withSmooth ((PaintSource.object (.text item)).smooth config')) := by
  simp only [text, color, scheme]
  split
  · rfl
  · rw [List.map_flatMap]
    congr 1
    funext glyph
    cases item.mode.fills <;> cases item.mode.strokes <;> rfl

private theorem image_eq_map (item : ImageObject α) (blend : BlendMode) :
    image base config' item blend = (image base config item blend).map
      (.withSmooth ((PaintSource.object (.image item)).smooth config')) := by
  simp only [image]
  split <;> rfl

private theorem shading_eq_map (scheme : config.scheme = config'.scheme) (item : ShadingObject α)
    (blend : BlendMode) :
    shading base config' item blend = (shading base config item blend).map
      (.withSmooth ((PaintSource.object (.shading item)).smooth config')) := by
  simp only [shading, scheme]
  cases config'.scheme <;> rfl

private theorem object_eq_map (scheme : config.scheme = config'.scheme)
    (conversion : config.flags.has .fillToStroke = config'.flags.has .fillToStroke)
    (item : PageObject α) (blend : BlendMode) :
    object base config' item blend = (object base config item blend).map
      (.withSmooth ((PaintSource.object item).smooth config')) := by
  cases item with
  | path item => exact path_eq_map scheme conversion item blend
  | text item => exact text_eq_map scheme item blend
  | image item => exact image_eq_map item blend
  | shading item => exact shading_eq_map scheme item blend

private theorem highlight_eq_map (rect : Rect α) (color? : Option Argb) :
    highlight base config' rect color? = (highlight base config rect color?).map
      (.withSmooth (PaintSource.highlight (α := α).smooth config')) := by
  simp only [highlight]
  cases color? with
  | none => rfl
  | some color => cases rect.edges? <;> rfl

/-!
## The calls under other options
-/

omit [Scalar α] in
theorem resmooths_of_map (same : config.SameOutside options config') {source : PaintSource α}
    {calls calls' : List (PaintCall α)} (own : calls = calls.map (.withSmooth (source.smooth config)))
    (other : calls' = calls.map (.withSmooth (source.smooth config'))) :
    List.Forall₂ (Resmooths options source) calls calls' := by
  by_cases toggled : ∃ option ∈ options, source.smoothing? = some option
  · obtain ⟨option, toggled, smoothing⟩ := toggled
    rw [other, List.forall₂_map_right_iff]
    exact List.forall₂_same.mpr fun call _ => .toggled toggled smoothing _
  · have smooth : source.smooth config = source.smooth config' := by
      cases smoothing : source.smoothing? with
      | none => simp only [PaintSource.smooth, smoothing]
      | some option =>
          have unchanged := same.flags option fun member => toggled ⟨option, member, smoothing⟩
          simp only [PaintSource.smooth, smoothing, unchanged]
    rw [other, ← smooth, ← own]
    exact List.forall₂_same.mpr fun call _ => .same

theorem object_resmooths (same : config.SameOutside options config')
    (cosmetic : Cosmetic options) (item : PageObject α) (blend : BlendMode) :
    List.Forall₂ (Resmooths options (.object item)) (object base config item blend)
      (object base config' item blend) :=
  resmooths_of_map same (object_eq_map rfl rfl item blend)
    (object_eq_map same.scheme (same.flags _ cosmetic.fillToStroke) item blend)

private theorem highlight_resmooths (same : config.SameOutside options config') (rect : Rect α)
    (color? : Option Argb) :
    List.Forall₂ (Resmooths options .highlight) (highlight base config rect color?)
      (highlight base config' rect color?) :=
  resmooths_of_map same (highlight_eq_map rect color?) (highlight_eq_map rect color?)

/-!
## Calls with their sources
-/

def sourcedAnnot (base : Transform α) (config : Config) (item : Annot α) :
    List (PaintSource α × PaintCall α) :=
  item.appearance.flatMap fun entry =>
    (object base config entry (item.effectiveBlend entry)).map (.mk (.object entry))

def sourcedWidget (base : Transform α) (config : Config) (color? : Option Argb) (item : Annot α) :
    List (PaintSource α × PaintCall α) :=
  (highlight base config item.rect color?).map (.mk .highlight) ++
    sourcedAnnot base config.withoutScheme item

def sourcedForm (layer : FormLayer α) (page : Page α) (config : Config) :
    List (PaintSource α × PaintCall α) :=
  let base := displayTransform page.width page.height config.rect config.rotation
  ((layer.widgets page).filter fun item => item.isVisible config.isPrinting).flatMap
    (sourcedWidget base config layer.highlight)

/-- The calls of a session that draws a form layer, or none: the background, the base pass and the
layer. -/
def sourcedCalls (target : Target) (page : Page α) (config : Config)
    (layer? : Option (FormLayer α)) : List (PaintSource α × PaintCall α) :=
  (.background, .clear (config.background.getD target.defaultBackground)) ::
    (sourced page config).map (fun entry => (.object entry.1, entry.2)) ++
    (layer?.map fun layer => sourcedForm layer page config).getD []

private theorem sourcedAnnot_calls (base : Transform α) (config : Config) (item : Annot α) :
    (sourcedAnnot base config item).map Prod.snd = annot base config item := by
  simp only [sourcedAnnot, List.map_flatMap, List.map_map, Function.comp_def, List.map_id']
  rfl

theorem sourcedForm_calls (layer : FormLayer α) (page : Page α) (config : Config) :
    (sourcedForm layer page config).map Prod.snd = overlay layer page config := by
  simp only [sourcedForm, sourcedWidget, List.map_flatMap, List.map_append, List.map_map,
    Function.comp_def, List.map_id', sourcedAnnot_calls]
  rfl

def Resmoothed (options : List RenderFlag) (entry entry' : PaintSource α × PaintCall α) : Prop :=
  entry.1 = entry'.1 ∧ Resmooths options entry.1 entry.2 entry'.2

omit [Scalar α] in
theorem eq_of_resmoothed {entries entries' : List (PaintSource α × PaintCall α)}
    (changed : List.Forall₂ (Resmoothed options) entries entries')
    (unread : options ⊆ RenderFlag.unread) : entries = entries' := by
  rw [← List.forall₂_eq_eq_eq]
  exact changed.imp fun _ _ ⟨source, call⟩ => Prod.ext source (call.eq_of_unread unread)

omit [Scalar α] in
theorem resmoothed_of_source {source : PaintSource α} {calls calls' : List (PaintCall α)}
    (resmooths : List.Forall₂ (Resmooths options source) calls calls') :
    List.Forall₂ (Resmoothed options) (calls.map (.mk source)) (calls'.map (.mk source)) := by
  rw [List.forall₂_map_left_iff, List.forall₂_map_right_iff]
  exact resmooths.imp fun _ _ changed => ⟨rfl, changed⟩

private theorem annot_resmoothed (same : config.SameOutside options config')
    (cosmetic : Cosmetic options) (item : Annot α) :
    List.Forall₂ (Resmoothed options) (sourcedAnnot base config item)
      (sourcedAnnot base config' item) :=
  forall₂_flatMap fun entry _ => resmoothed_of_source (object_resmooths same cosmetic entry _)

private theorem widget_resmoothed (same : config.SameOutside options config')
    (cosmetic : Cosmetic options) (color? : Option Argb) (item : Annot α) :
    List.Forall₂ (Resmoothed options) (sourcedWidget base config color? item)
      (sourcedWidget base config' color? item) := by
  have native : config.withoutScheme.SameOutside options config'.withoutScheme :=
    { same with scheme := rfl }
  exact List.rel_append (resmoothed_of_source (highlight_resmooths same item.rect color?))
    (annot_resmoothed native cosmetic item)

theorem form_resmoothed (same : config.SameOutside options config')
    (cosmetic : Cosmetic options) (layer : FormLayer α) (page : Page α) :
    List.Forall₂ (Resmoothed options) (sourcedForm layer page config)
      (sourcedForm layer page config') := by
  have printing : config.isPrinting = config'.isPrinting := same.flags _ cosmetic.printing
  simp only [sourcedForm, ← same.rect, ← same.rotation, ← printing]
  exact forall₂_flatMap fun item _ => widget_resmoothed same cosmetic layer.highlight item

/-- Under other options a session makes the same calls from the same sources, but for the smoothing
of those whose source reads one of the options. -/
theorem sourcedCalls_resmoothed (same : config.SameOutside options config')
    (cosmetic : Cosmetic options) (target : Target) (page : Page α)
    (layer? : Option (FormLayer α)) :
    List.Forall₂ (Resmoothed options) (sourcedCalls target page config layer?)
      (sourcedCalls target page config' layer?) := by
  refine .cons ⟨rfl, ?_⟩ (List.rel_append ?_ ?_)
  · rw [same.background]
    exact .same
  · rw [List.forall₂_map_left_iff, List.forall₂_map_right_iff]
    have pass := sourced_related (same.showsLike cosmetic)
      (fun _ item blend => object_resmooths same cosmetic item blend) page
    exact pass.imp fun _ _ ⟨source, changed⟩ => ⟨congrArg PaintSource.object source, changed⟩
  · cases layer? with
    | none => exact .nil
    | some layer => exact form_resmoothed same cosmetic layer page

theorem overlay_resmooths (same : config.SameOutside options config')
    (cosmetic : Cosmetic options) (layer : FormLayer α) (page : Page α) :
    List.Forall₂ (fun call call' => ∃ source, Resmooths options source call call')
      (overlay layer page config) (overlay layer page config') := by
  rw [← sourcedForm_calls, ← sourcedForm_calls, List.forall₂_map_left_iff,
    List.forall₂_map_right_iff]
  exact (form_resmoothed same cosmetic layer page).imp fun _ _ ⟨_, changed⟩ => ⟨_, changed⟩

end PaintingOrder

end PagePaint
