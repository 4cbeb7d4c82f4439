import PagePaint.Proofs.Image.Cache
import PagePaint.Proofs.Session.SamePass
import PagePaint.Raster.Painter

set_option autoImplicit false

/-!
# Sessions with and without a limit on the image cache

The limit decides which decoded images are kept, and nothing else. As long as the images that are
drawn agree on what an id stands for, a session with the limit and one without it place the same
pixmaps in the same order, and nobody can tell them apart.
-/

namespace PagePaint

variable {α : Type}

structure Config.SameButCacheLimit (left right : Config) : Prop where
  rect : left.rect = right.rect
  rotation : left.rotation = right.rotation
  scheme : left.scheme = right.scheme
  background : left.background = right.background
  stepLimit : left.stepLimit = right.stepLimit
  flags : ∀ flag, flag ≠ .limitedImageCache → left.flags.has flag = right.flags.has flag

/-!
## The images of a page
-/

def PageObject.image? : PageObject α → Option (ImageObject α)
  | .image drawn => some drawn
  | .path _ | .text _ | .shading _ => none

def PaintCall.image? : PaintCall α → Option (ImageObject α)
  | .image drawn _ _ _ => some drawn
  | .clear _ | .fill _ _ _ _ | .stroke _ _ _ _ | .shade _ _ _ _ _ => none

def PaintCall.Draws (family : ImageObject α → Prop) (call call' : PaintCall α) : Prop :=
  call = call' ∧ ∀ drawn, call.image? = some drawn → family drawn

def Annot.images (annot : Annot α) : List (ImageObject α) :=
  annot.appearance.filterMap PageObject.image?

/-- The images among the objects of a page and in the appearances of its annotations. -/
def Page.images (page : Page α) : List (ImageObject α) :=
  page.objects.filterMap PageObject.image? ++ page.annots.flatMap Annot.images

/-- The images that a script can draw: those of the page and those of the widgets of its form
layers. -/
def Drawn (page : Page α) (script : List (Request α)) (image : ImageObject α) : Prop :=
  image ∈ page.images ∨
    ∃ layer, .drawOverlay layer ∈ script ∧
      ∃ widget ∈ layer.widgets page, image ∈ widget.images

namespace PaintingOrder

variable [Scalar α] {base : Transform α} {config : Config} {blend : BlendMode}
  {call : PaintCall α}

theorem image?_of_mem_path {item : PathObject α} (made : call ∈ path base config item blend) :
    call.image? = none := by
  simp only [path] at made
  split at made
  · obtain ⟨own, -, rfl⟩ := List.mem_map.mp made
    rfl
  · rcases List.mem_append.mp made with filled | stroked
    · obtain ⟨own, -, rfl⟩ := List.mem_map.mp filled
      rfl
    · obtain ⟨own, -, rfl⟩ := List.mem_map.mp stroked
      rfl

theorem image?_of_mem_text {item : TextObject α} (made : call ∈ text base config item blend) :
    call.image? = none := by
  simp only [text] at made
  split at made
  · cases made
  · obtain ⟨glyph, -, made⟩ := List.mem_flatMap.mp made
    rcases List.mem_append.mp made with filled | stroked
    · split at filled
      · cases List.mem_singleton.mp filled
        rfl
      · cases filled
    · split at stroked
      · cases List.mem_singleton.mp stroked
        rfl
      · cases stroked

theorem image?_of_mem_shading {item : ShadingObject α}
    (made : call ∈ shading base config item blend) : call.image? = none := by
  simp only [shading] at made
  split at made
  · cases List.mem_singleton.mp made
    rfl
  · cases List.mem_singleton.mp made
    rfl

theorem image?_of_mem_image {item : ImageObject α}
    (made : call ∈ image base config item blend) : call.image? = some item := by
  simp only [image] at made
  split at made
  · cases made
  · cases List.mem_singleton.mp made
    rfl

theorem image?_of_mem_object {item : PageObject α} (made : call ∈ object base config item blend)
    {drawn : ImageObject α} (shown : call.image? = some drawn) : item.image? = some drawn := by
  cases item with
  | path item => cases (image?_of_mem_path made).symm.trans shown
  | text item => cases (image?_of_mem_text made).symm.trans shown
  | shading item => cases (image?_of_mem_shading made).symm.trans shown
  | image item => exact (image?_of_mem_image made).symm.trans shown

theorem mem_images_of_annot {item : Annot α} (made : call ∈ annot base config item)
    {drawn : ImageObject α} (shown : call.image? = some drawn) : drawn ∈ item.images := by
  obtain ⟨object, member, made⟩ := List.mem_flatMap.mp made
  exact List.mem_filterMap.mpr ⟨object, member, image?_of_mem_object made shown⟩

theorem image?_of_mem_highlight {rect : Rect α} {color? : Option Argb}
    (made : call ∈ highlight base config rect color?) : call.image? = none := by
  simp only [highlight] at made
  split at made
  · cases List.mem_singleton.mp made
    rfl
  · cases made

private theorem mem_images_of_widget {item : Annot α} {color? : Option Argb}
    (made : call ∈ widget base config color? item) {drawn : ImageObject α}
    (shown : call.image? = some drawn) : drawn ∈ item.images := by
  rcases List.mem_append.mp made with highlighted | made
  · cases (image?_of_mem_highlight highlighted).symm.trans shown
  · exact mem_images_of_annot made shown

private theorem mem_images_of_units {page : Page α} {unit : List (PaintCall α)}
    (listed : unit ∈ units page config) (made : call ∈ unit) {drawn : ImageObject α}
    (shown : call.image? = some drawn) : drawn ∈ page.images := by
  rcases List.mem_append.mp listed with objects | annots
  · obtain ⟨item, member, rfl⟩ := List.mem_map.mp objects
    refine List.mem_append_left _ (List.mem_filterMap.mpr ⟨item, member, ?_⟩)
    exact image?_of_mem_object made shown
  · obtain ⟨item, member, rfl⟩ := List.mem_map.mp annots
    split at member
    · refine List.mem_append_right _ (List.mem_flatMap.mpr ⟨item, ?_, ?_⟩)
      · exact (List.mem_filter.mp member).1
      · exact mem_images_of_annot made shown
    · cases member

private theorem mem_images_of_overlay {layer : FormLayer α} {page : Page α}
    (made : call ∈ overlay layer page config) {drawn : ImageObject α}
    (shown : call.image? = some drawn) : ∃ item ∈ layer.widgets page, drawn ∈ item.images := by
  obtain ⟨item, member, made⟩ := List.mem_flatMap.mp made
  exact ⟨item, (List.mem_filter.mp member).1, mem_images_of_widget made shown⟩

end PaintingOrder

/-!
## The limit changes no call
-/

namespace Config.SameButCacheLimit

variable {left right : Config}

theorem sameBut (same : left.SameButCacheLimit right) : left.SameBut .limitedImageCache right :=
  { same with }

variable [Scalar α]

theorem samePass (same : left.SameButCacheLimit right) (page : Page α) :
    SamePass page left page right :=
  same.sameBut.samePass
    (same.sameBut.passesLike (by decide) (same.sameBut.strokesFills_eq (by decide)) (by decide))
    page

/-- Both openings make the same calls, and draw images of one family only. -/
theorem agrees (same : left.SameButCacheLimit right) (target : Target) (page : Page α)
    {family : ImageObject α → Prop} {layers : FormLayer α → Prop}
    (images : ∀ drawn ∈ page.images, family drawn)
    (widgets : ∀ layer, layers layer → ∀ item ∈ layer.widgets page, ∀ drawn ∈ item.images,
      family drawn) :
    (Job.start target page left).Agrees (PaintCall.Draws family) layers
      (.start target page right) := by
  refine .of_order target same.stepLimit (fun target => ⟨?_, nofun⟩) ?_ fun layer allowed => ?_
  · rw [same.background]
  · rw [(same.samePass page).units]
    refine List.forall₂_same.mpr fun unit listed => List.forall₂_same.mpr fun call made => ?_
    exact ⟨rfl, fun drawn shown =>
      images drawn (PaintingOrder.mem_images_of_units listed made shown)⟩
  · rw [(same.sameBut.formsLike (by decide)).overlay_eq rfl rfl rfl]
    refine List.forall₂_same.mpr fun call made => ⟨rfl, fun drawn shown => ?_⟩
    obtain ⟨item, member, inside⟩ := PaintingOrder.mem_images_of_overlay made shown
    exact widgets layer allowed item member drawn inside

end Config.SameButCacheLimit

/-!
## What the painter places
-/

namespace Painter

def placed? (cache : ImageCache) : PaintCall Float32 → Option Pixmap
  | .image drawn _ _ transform =>
    if transform.finite then (cache.getOrDecode drawn).answer.toOption else none
  | .clear _ | .fill _ _ _ _ | .stroke _ _ _ _ | .shade _ _ _ _ _ => none

private theorem effect_of_placed {cache : ImageCache} {drawn : ImageObject Float32}
    {blend : BlendMode} {smooth : Bool} {transform : Transform Float32} {pixmap : Pixmap}
    (target : Target) (placed : placed? cache (.image drawn blend smooth transform) = some pixmap) :
    (effect cache target (.image drawn blend smooth transform)).toPainted =
      ⟨placePixmap target pixmap blend smooth drawn.opacity transform, none⟩ := by
  simp only [placed?] at placed
  simp only [effect, image]
  split at placed
  · rename_i finite
    rw [if_pos finite]
    cases answer : (cache.getOrDecode drawn).answer with
    | error fault =>
        rw [answer] at placed
        cases placed
    | ok found =>
        rw [answer] at placed
        cases placed
        rfl
  · cases placed

private theorem effect_of_not_placed {cache : ImageCache} {drawn : ImageObject Float32}
    {blend : BlendMode} {smooth : Bool} {transform : Transform Float32} (target : Target)
    (placed : placed? cache (.image drawn blend smooth transform) = none) :
    ∃ fault, (effect cache target (.image drawn blend smooth transform)).toPainted =
      ⟨target, some fault⟩ := by
  simp only [placed?] at placed
  simp only [effect, image]
  split at placed
  · rename_i finite
    rw [if_pos finite]
    cases answer : (cache.getOrDecode drawn).answer with
    | error fault => exact ⟨fault, rfl⟩
    | ok found =>
        rw [answer] at placed
        cases placed
  · rename_i infinite
    rw [if_neg infinite]
    exact ⟨_, rfl⟩

/-- What an image call paints is the pixmap that is noted for it, and one for which nothing is noted
fails. -/
def PaintsWhatIsPlaced : Prop :=
  ∀ (canvas : Canvas ImageCache) (drawn : ImageObject Float32) (blend : BlendMode) (smooth : Bool)
    (transform : Transform Float32),
    let call := PaintCall.image drawn blend smooth transform
    let painted := Backend.painter.paint call canvas
    match placed? canvas.state call with
    | some pixmap =>
      painted.failure = none ∧
        painted.canvas.target =
          placePixmap canvas.target pixmap blend smooth drawn.opacity transform
    | none => painted.failure ≠ none ∧ painted.canvas.target = canvas.target

private theorem paintsWhatIsPlaced : PaintsWhatIsPlaced := by
  intro canvas drawn blend smooth transform call painted
  split
  · rename_i pixmap placed
    have effect := effect_of_placed canvas.target placed
    exact ⟨congrArg (fun painted => painted.fault.map (Error.backend none)) effect,
      congrArg Painted.target effect⟩
  · rename_i missing
    obtain ⟨fault, effect⟩ := effect_of_not_placed canvas.target missing
    refine ⟨?_, congrArg Painted.target effect⟩
    have failed : painted.failure = some (.backend none fault) :=
      congrArg (fun painted => painted.fault.map (Error.backend none)) effect
    rw [failed]
    exact Option.some_ne_none _

section Caches

variable {family : ImageObject Float32 → Prop} {cache cache' : ImageCache}
  {call : PaintCall Float32}

/-- What a call paints does not depend on what a faithful cache holds. -/
theorem effect_painted_eq (faithful : cache.Faithful family) (faithful' : cache'.Faithful family)
    (shown : ∀ drawn, call.image? = some drawn → family drawn) (target : Target) :
    (effect cache target call).toPainted = (effect cache' target call).toPainted := by
  cases call with
  | clear | fill | stroke | shade => rfl
  | image drawn blend smooth transform =>
      have member := shown drawn rfl
      simp only [effect, image]
      split
      · rw [faithful.answer_eq member, faithful'.answer_eq member]
      · rfl

private theorem effect_faithful (agree : AgreeById family) (faithful : cache.Faithful family)
    (shown : ∀ drawn, call.image? = some drawn → family drawn) (target : Target) :
    (effect cache target call).cache.Faithful family := by
  cases call with
  | clear | fill | stroke | shade => exact faithful
  | image drawn blend smooth transform =>
      simp only [effect, image]
      split
      · exact faithful.getOrDecode agree (shown drawn rfl)
      · exact faithful

private theorem placed?_eq (faithful : cache.Faithful family) (faithful' : cache'.Faithful family)
    (shown : ∀ drawn, call.image? = some drawn → family drawn) :
    placed? cache call = placed? cache' call := by
  cases call with
  | clear | fill | stroke | shade => rfl
  | image drawn blend smooth transform =>
      have member := shown drawn rfl
      simp only [placed?, faithful.answer_eq member, faithful'.answer_eq member]

end Caches

end Painter

namespace Backend

/-- The painter with the pixmaps it has placed, first one first. -/
def placing : Backend Float32 (List Pixmap × ImageCache) where
  prepare config kept :=
    let (cache, log) := painter.prepare config kept.2
    ((kept.1, cache), log)
  paint made canvas :=
    let painted := painter.paint made ⟨canvas.state.2, canvas.target⟩
    { painted with
      canvas :=
        ⟨(canvas.state.1 ++ (Painter.placed? canvas.state.2 made).toList, painted.canvas.state),
          painted.canvas.target⟩ }

variable {family : ImageObject Float32 → Prop}

/-- Whatever two faithful caches hold, an image of the family is painted alike with both. -/
theorem painter_parallel (agree : AgreeById family) :
    painter.Parallel painter (PaintCall.Draws family)
      (fun cache cache' => cache.Faithful family ∧ cache'.Faithful family) where
  target := by
    rintro call _ cache cache' target ⟨rfl, shown⟩ ⟨faithful, faithful'⟩
    exact congrArg Painter.Painted.target
      (Painter.effect_painted_eq faithful faithful' shown target)
  failure := by
    rintro call _ cache cache' target ⟨rfl, shown⟩ ⟨faithful, faithful'⟩
    exact congrArg (fun painted => painted.fault.map (Error.backend none))
      (Painter.effect_painted_eq faithful faithful' shown target)
  state := by
    rintro call _ cache cache' target ⟨rfl, shown⟩ ⟨faithful, faithful'⟩
    exact ⟨Painter.effect_faithful agree faithful shown target,
      Painter.effect_faithful agree faithful' shown target⟩

private theorem placing_parallel (agree : AgreeById family) :
    placing.Parallel placing (PaintCall.Draws family)
      (fun kept kept' =>
        kept.1 = kept'.1 ∧ kept.2.Faithful family ∧ kept'.2.Faithful family) where
  target := by
    rintro call call' ⟨placed, cache⟩ ⟨placed', cache'⟩ target drawn ⟨-, faithful⟩
    exact (painter_parallel agree).target target drawn faithful
  failure := by
    rintro call call' ⟨placed, cache⟩ ⟨placed', cache'⟩ target drawn ⟨-, faithful⟩
    exact (painter_parallel agree).failure target drawn faithful
  state := by
    rintro call call' ⟨placed, cache⟩ ⟨placed', cache'⟩ target drawn ⟨same, faithful⟩
    refine ⟨?_, (painter_parallel agree).state target drawn faithful⟩
    obtain ⟨rfl, shown⟩ := drawn
    change placed ++ _ = placed' ++ _
    rw [show placed = placed' from same, Painter.placed?_eq faithful.1 faithful.2 shown]

end Backend

/-!
## Sessions
-/

namespace Session

section Limits

variable {σ : Type} {states : σ → σ → Prop} {backend : Backend Float32 σ} {left right : Config}
  {target : Target} {page : Page Float32} {request request' : Request Float32}
  {later : List (Request Float32)}

private theorem history_agree_of_limit (same : left.SameButCacheLimit right)
    (parallel : backend.Parallel backend (PaintCall.Draws (Drawn page later)) states)
    (opening : request.opening? = some (target, page, left))
    (opening' : request'.opening? = some (target, page, right))
    (pause : request.pause? = request'.pause?) (state : σ)
    (prepared : states (backend.prepare left state).1 (backend.prepare right state).1) :
    ((fresh state).history backend (request :: later)).map Event.view =
        ((fresh state).history backend (request' :: later)).map Event.view ∧
      ((fresh state).performAll backend (request :: later) =
          (fresh state).performAll backend (request' :: later) ∨
        ((fresh state).performAll backend (request :: later)).Lockstep states
          (.start target page left) (.start target page right)
          ((fresh state).performAll backend (request' :: later))) := by
  have agrees : (Job.start target page left).Agrees (PaintCall.Draws (Drawn page later))
      (fun layer => .drawOverlay layer ∈ later) (.start target page right) :=
    same.agrees target page (fun drawn inside => .inl inside)
      fun layer allowed item member drawn inside => .inr ⟨layer, allowed, item, member, inside⟩
  exact history_agree_of_opening parallel pause opening opening'
    ((same.samePass page).argumentFault?_eq target) agrees state prepared later fun _ member => member

/-- A cache that was empty at first answers every history of requests as decoding does, if the
images agree on what an id stands for. So a limit on the cache of a painting session is not seen:
the answers, the positions and the pixels are the same, and so are the pixmaps that are placed, in
their order. What is noted as placed is what is painted. -/
theorem cache_transparent (α : Type) :
    (∀ cache : ImageCache, cache = .unlimited ∨ (∃ limit, cache = .withLimit limit) →
      ∀ history : List (CacheRequest α),
        AgreeById (fun image => image ∈ history.filterMap CacheRequest.image?) →
        cache.answers history =
          (history.filterMap CacheRequest.image?).map ImageObject.decode) ∧
      (∀ left right : Config, left.SameButCacheLimit right →
        ∀ (page : Page Float32) (later : List (Request Float32)), AgreeById (Drawn page later) →
        ∀ (target : Target) (request request' : Request Float32),
          request.opening? = some (target, page, left) →
          request'.opening? = some (target, page, right) → request.pause? = request'.pause? →
          ((fresh .unlimited).history .painter (request :: later)).map Event.view =
              ((fresh .unlimited).history .painter (request' :: later)).map Event.view ∧
            ((fresh ([], .unlimited)).performAll .placing (request :: later)).backend.1 =
              ((fresh ([], .unlimited)).performAll .placing (request' :: later)).backend.1) ∧
      Painter.PaintsWhatIsPlaced := by
  refine ⟨?_, ?_, Painter.paintsWhatIsPlaced⟩
  · intro cache empty history agree
    have faithful : cache.Faithful fun image =>
        image ∈ history.filterMap CacheRequest.image? := by
      rcases empty with rfl | ⟨limit, rfl⟩
      · exact ImageCache.unlimited_faithful _
      · exact ImageCache.withLimit_faithful _ limit
    exact faithful.answers_eq agree fun _ member => member
  · intro left right same page later agree target request request' opening opening' pause
    have prepared (config : Config) :
        (ImageCache.unlimited.setLimit (Backend.cacheLimit config)).cache.Faithful
          (Drawn page later) :=
      (ImageCache.unlimited_faithful _).setLimit _
    have painted := history_agree_of_limit same (Backend.painter_parallel agree) opening opening'
      pause .unlimited ⟨prepared left, prepared right⟩
    have placed := history_agree_of_limit same (Backend.placing_parallel agree) opening opening'
      pause ([], .unlimited) ⟨rfl, prepared left, prepared right⟩
    refine ⟨painted.1, ?_⟩
    rcases placed.2 with equal | lockstep
    · rw [equal]
    · exact lockstep.backend.1

def smallImage (opacity : UInt8) : ImageObject Float32 :=
  { ImageObject.ofTransform 1 1 1 #[9, 8, 7, 255] .identity with opacity }

private theorem smallImage_agree {family : ImageObject Float32 → Prop}
    (small : ∀ image, family image → ∃ opacity, image = smallImage opacity) :
    AgreeById family := by
  intro left right first second _
  obtain ⟨opacity, rfl⟩ := small left first
  obtain ⟨opacity', rfl⟩ := small right second
  exact ⟨rfl, rfl, rfl⟩

theorem cache_transparent_small :
    let page : Page Float32 := ⟨2, 2, [.image (smallImage 255), .image (smallImage 100)], []⟩
    let free := (Config.ofSize 2 2).withStepLimit 1
    let limited := free.withFlags (.single .limitedImageCache)
    let history : List (CacheRequest Float32) :=
      [.get (smallImage 255), .setLimit (some 0), .get (smallImage 100), .clear]
    let later : List (Request Float32) := [.drawOverlay (.ofPage none), .resume none, .close]
    limited.SameButCacheLimit free ∧ AgreeById (Drawn page later) ∧
      (ImageCache.withLimit 3).answers history =
        [(smallImage 255).decode, (smallImage 100).decode] ∧
      ((fresh .unlimited).history .painter
          (.start smallTarget page limited (some .always) :: later)).map Event.view =
        ((fresh .unlimited).history .painter
          (.start smallTarget page free (some .always) :: later)).map Event.view := by
  intro page free limited history later
  have same : limited.SameButCacheLimit free := by
    refine ⟨rfl, rfl, rfl, rfl, rfl, fun flag other => ?_⟩
    cases flag with
    | limitedImageCache => exact absurd rfl other
    | _ => decide
  have agree : AgreeById (Drawn page later) := by
    refine smallImage_agree fun image drawn => ?_
    rcases drawn with onPage | ⟨layer, asked, widget, listed, -⟩
    · have listed : image ∈ [smallImage 255, smallImage 100] := onPage
      rcases List.mem_cons.mp listed with first | second
      · exact ⟨_, first⟩
      · exact ⟨_, List.mem_singleton.mp second⟩
    · obtain rfl : layer = .ofPage none := by simpa [later] using asked
      cases listed
  have asked : AgreeById fun image => image ∈ history.filterMap CacheRequest.image? := by
    refine smallImage_agree fun image member => ?_
    have listed : image ∈ [smallImage 255, smallImage 100] := member
    rcases List.mem_cons.mp listed with first | second
    · exact ⟨_, first⟩
    · exact ⟨_, List.mem_singleton.mp second⟩
  have answers := (cache_transparent Float32).1 (.withLimit 3) (.inr ⟨3, rfl⟩) history asked
  have painted := (cache_transparent Float32).2.1 limited free same page later agree smallTarget
    (.start smallTarget page limited (some .always)) (.start smallTarget page free (some .always))
    rfl rfl rfl
  exact ⟨same, agree, answers, painted.1⟩

end Limits

end Session

end PagePaint
