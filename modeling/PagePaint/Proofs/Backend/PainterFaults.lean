import PagePaint.Proofs.Backend.Passage
import PagePaint.Raster.Painter

set_option autoImplicit false

/-!
# What the painting backend refuses

A call is refused before a pixel is touched: for its transform, for a shading without stops, or for
an image that is not cached and cannot be decoded. Only the last one has asked the cache, and all it
leaves there is a miss.
-/

namespace PagePaint

variable {α : Type}

def Transform.entries (transform : Transform α) : List α :=
  [transform.sx, transform.ky, transform.kx, transform.sy, transform.tx, transform.ty]

/-- A transform with an entry that is infinite or no number at all. -/
def Transform.Broken (transform : Transform Float32) : Prop :=
  ∃ entry ∈ transform.entries, entry.isFinite = false

theorem Transform.broken_iff {transform : Transform Float32} :
    transform.Broken ↔ transform.finite = false := by
  simp [Broken, entries, finite, Scalar.finite, Bool.and_eq_false_iff, -Bool.and_eq_false_imp,
    or_assoc]

theorem Shading.shade?_eq_none_iff {shading : Shading Float32} :
    shading.shade? = none ↔ shading.stops = [] := by
  unfold shade?
  cases stops : shading.stops with
  | nil => simp
  | cons first rest =>
      cases rest with
      | nil => simp
      | cons second others =>
          rw [List.getLast?_cons_cons, List.getLast?_cons]
          cases shading.gradient? <;> simp

namespace Painter

/-- The calls that are refused over a cache, and why. -/
inductive Refuses (cache : ImageCache) : PaintCall Float32 → BackendFault → Prop where
  | fill {outline : Outline Float32} {paint : Paint} {rule : FillRule}
      {transform : Transform Float32} (broken : transform.Broken) :
      Refuses cache (.fill outline paint rule transform) (.nonFiniteTransform transform.listing)
  | stroke {outline : Outline Float32} {paint : Paint} {style : StrokeStyle Float32}
      {transform : Transform Float32} (broken : transform.Broken) :
      Refuses cache (.stroke outline paint style transform)
        (.nonFiniteTransform transform.listing)
  | shade {area : Outline Float32} {shading : Shading Float32} {blend : BlendMode}
      {antiAlias : Bool} {transform : Transform Float32} (broken : transform.Broken) :
      Refuses cache (.shade area shading blend antiAlias transform)
        (.nonFiniteTransform transform.listing)
  | noStops {area : Outline Float32} {shading : Shading Float32} {blend : BlendMode}
      {antiAlias : Bool} {transform : Transform Float32} (whole : ¬ transform.Broken)
      (empty : shading.stops = []) :
      Refuses cache (.shade area shading blend antiAlias transform) .noColorStops
  | image {image : ImageObject Float32} {blend : BlendMode} {smooth : Bool}
      {transform : Transform Float32} (broken : transform.Broken) :
      Refuses cache (.image image blend smooth transform) (.nonFiniteImageTransform image.id)
  | decoding {image : ImageObject Float32} {blend : BlendMode} {smooth : Bool}
      {transform : Transform Float32} {fault : BackendFault} (whole : ¬ transform.Broken)
      (missing : cache.contains image.id = false) (failure : image.decode = .error fault) :
      Refuses cache (.image image blend smooth transform) fault

def failedDecode : PaintCall Float32 → BackendFault → Bool
  | .image image _ _ _, fault =>
    match image.decode with
    | .error found => decide (found = fault)
    | .ok _ => false
  | .clear _, _ | .fill .., _ | .stroke .., _ | .shade .., _ => false

private theorem failedDecode_iff {image : ImageObject Float32} {blend : BlendMode} {smooth : Bool}
    {transform : Transform Float32} {fault : BackendFault} :
    failedDecode (.image image blend smooth transform) fault = true ↔
      image.decode = .error fault := by
  cases decoded : image.decode <;> simp [failedDecode, decoded]

private theorem transformFault?_of_broken {transform : Transform Float32}
    (broken : transform.Broken) :
    transformFault? transform = some (.nonFiniteTransform transform.listing) := by
  simp [transformFault?, Transform.broken_iff.mp broken]

private theorem transformFault?_of_whole {transform : Transform Float32}
    (whole : ¬ transform.Broken) :
    transformFault? transform = none := by
  rw [Transform.broken_iff, Bool.not_eq_false] at whole
  simp [transformFault?, whole]

theorem checked_of_broken {transform : Transform Float32} (broken : transform.Broken)
    (target : Target) (painted : Painted) :
    checked target transform painted =
      ⟨target, some (.nonFiniteTransform transform.listing)⟩ := by
  simp only [checked, transformFault?_of_broken broken]

theorem checked_of_whole {transform : Transform Float32} (whole : ¬ transform.Broken)
    (target : Target) (painted : Painted) : checked target transform painted = painted := by
  simp only [checked, transformFault?_of_whole whole]

theorem image_of_broken (cache : ImageCache) (target : Target) (image : ImageObject Float32)
    (blend : BlendMode) (smooth : Bool) {transform : Transform Float32}
    (broken : transform.Broken) :
    Painter.image cache target image blend smooth transform =
      ⟨⟨target, some (.nonFiniteImageTransform image.id)⟩, cache, []⟩ := by
  rw [Painter.image, Transform.broken_iff.mp broken]
  rfl

theorem image_of_whole (cache : ImageCache) (target : Target) (image : ImageObject Float32)
    (blend : BlendMode) (smooth : Bool) {transform : Transform Float32}
    (whole : ¬ transform.Broken) :
    Painter.image cache target image blend smooth transform =
      ⟨match (cache.getOrDecode image).answer with
        | .ok pixmap =>
          ⟨placePixmap target pixmap blend smooth image.opacity transform, none⟩
        | .error fault => ⟨target, some fault⟩,
        (cache.getOrDecode image).cache, (cache.getOrDecode image).log⟩ := by
  rw [Transform.broken_iff, Bool.not_eq_false] at whole
  unfold Painter.image
  exact if_pos whole

private theorem decode_ne_nonFinite (image : ImageObject Float32) (id : UInt64) :
    image.decode ≠ .error (.nonFiniteImageTransform id) := by
  unfold ImageObject.decode
  split
  · simp
  · split <;> simp

variable {cache : ImageCache} {target : Target} {call : PaintCall Float32} {fault : BackendFault}

/-- A refused call leaves the target and the cache alone, unless an image could not be decoded: that
is counted as a miss. -/
theorem Refuses.effect (refuses : Refuses cache call fault) (target : Target) :
    Painter.effect cache target call =
      ⟨⟨target, some fault⟩,
        { cache with misses := cache.misses + (failedDecode call fault).toNat }, []⟩ := by
  cases refuses with
  | fill broken | stroke broken | shade broken =>
      exact congrArg (Painted.keepCache · cache) (checked_of_broken broken target _)
  | noStops whole empty =>
      refine congrArg (Painted.keepCache · cache) ((checked_of_whole whole target _).trans ?_)
      rw [Shading.shade?_eq_none_iff.mpr empty]
  | @image image blend smooth transform broken =>
      have unrelated : failedDecode (.image image blend smooth transform)
          (.nonFiniteImageTransform image.id) = false := by
        rw [Bool.eq_false_iff, Ne, failedDecode_iff]
        exact decode_ne_nonFinite image image.id
      rw [unrelated]
      exact image_of_broken cache target image blend smooth broken
  | @decoding image blend smooth transform fault whole missing failure =>
      have absent : cache.find? image.id = none := by
        simpa [ImageCache.contains] using missing
      rw [failedDecode_iff.mpr failure]
      refine (image_of_whole cache target image blend smooth whole).trans ?_
      simp only [ImageCache.getOrDecode, absent, failure]
      rfl

private theorem checked_fault {transform : Transform Float32} {painted : Painted}
    (failed : (checked target transform painted).fault = some fault) :
    transform.Broken ∧ fault = .nonFiniteTransform transform.listing ∨
      ¬ transform.Broken ∧ painted.fault = some fault := by
  by_cases broken : transform.Broken
  · rw [checked_of_broken broken] at failed
    cases failed
    exact .inl ⟨broken, rfl⟩
  · rw [checked_of_whole broken] at failed
    exact .inr ⟨broken, failed⟩

private theorem refuses_of_effect (failed : (Painter.effect cache target call).fault = some fault) :
    Refuses cache call fault := by
  cases call with
  | clear color => cases failed
  | fill outline paint rule transform =>
      change (checked target transform _).fault = _ at failed
      obtain ⟨broken, rfl⟩ | ⟨-, failed⟩ := checked_fault failed
      · exact .fill broken
      · cases failed
  | stroke outline paint style transform =>
      change (checked target transform _).fault = _ at failed
      obtain ⟨broken, rfl⟩ | ⟨-, failed⟩ := checked_fault failed
      · exact .stroke broken
      · cases failed
  | shade area shading blend antiAlias transform =>
      change (checked target transform _).fault = _ at failed
      obtain ⟨broken, rfl⟩ | ⟨whole, failed⟩ := checked_fault failed
      · exact .shade broken
      · cases shaded : shading.shade? with
        | some shade =>
            rw [shaded] at failed
            cases failed
        | none =>
            rw [shaded] at failed
            cases failed
            exact .noStops whole (Shading.shade?_eq_none_iff.mp shaded)
  | image image blend smooth transform =>
      change (Painter.image cache target image blend smooth transform).fault = _ at failed
      by_cases broken : transform.Broken
      · rw [image_of_broken cache target image blend smooth broken] at failed
        cases failed
        exact .image broken
      · rw [image_of_whole cache target image blend smooth broken] at failed
        dsimp only [ImageCache.getOrDecode] at failed
        cases found : cache.find? image.id with
        | some pixmap =>
            rw [found] at failed
            cases failed
        | none =>
            rw [found] at failed
            have missing : cache.contains image.id = false := by
              simp [ImageCache.contains, found]
            cases decoded : image.decode with
            | ok pixmap =>
                rw [decoded] at failed
                cases failed
            | error fault =>
                rw [decoded] at failed
                cases failed
                exact .decoding broken missing decoded

end Painter

namespace Backend

variable {cache : ImageCache} {target : Target} {call : PaintCall Float32}

theorem painter_paint_of_refuses {fault : BackendFault}
    (refuses : Painter.Refuses cache call fault) (target : Target) :
    painter.paint call ⟨cache, target⟩ =
      ⟨⟨{ cache with misses := cache.misses + (Painter.failedDecode call fault).toNat }, target⟩,
        [], some (.backend none fault)⟩ := by
  simp only [painter, refuses.effect]
  rfl

theorem painter_failure_iff {error : Error} :
    (painter.paint call ⟨cache, target⟩).failure = some error ↔
      ∃ fault, error = .backend none fault ∧ Painter.Refuses cache call fault := by
  constructor
  · intro failed
    obtain ⟨fault, found, rfl⟩ := Option.map_eq_some_iff.mp failed
    exact ⟨fault, rfl, Painter.refuses_of_effect found⟩
  · rintro ⟨fault, rfl, refuses⟩
    rw [painter_paint_of_refuses refuses]

/-- Calls of which the painter refused one, and has painted what the calls before that one paint. -/
def StopsAtRefused (calls : List (PaintCall Float32)) (canvas : Canvas ImageCache)
    (error : Error) : Prop :=
  let passage := painter.carryOut calls canvas
  let before := painter.carryOut (calls.take passage.carried) canvas
  before.failure = none ∧ passage.canvas.target = before.canvas.target ∧
    ∃ call fault, calls[passage.carried]? = some call ∧
      Painter.Refuses before.canvas.state call fault ∧ error = .backend none fault

private theorem stopsAtRefused {calls : List (PaintCall Float32)} {canvas : Canvas ImageCache}
    {error : Error} (failed : (painter.carryOut calls canvas).failure = some error) :
    StopsAtRefused calls canvas error := by
  unfold StopsAtRefused
  induction calls generalizing canvas with
  | nil => cases failed
  | cons call rest ih =>
      cases painted : (painter.paint call canvas).failure with
      | some found =>
          rw [painter.carryOut_cons_failed rest painted] at failed ⊢
          cases failed
          obtain ⟨fault, rfl, refuses⟩ := painter_failure_iff.mp painted
          have untouched := painter_paint_of_refuses refuses canvas.target
          exact ⟨rfl, congrArg (fun outcome => outcome.canvas.target) untouched, call, fault, rfl,
            refuses, rfl⟩
      | none =>
          rw [painter.carryOut_cons_painted rest painted] at failed ⊢
          simp only [Passage.behind_carried, Passage.behind_canvas, Nat.add_comm 1,
            List.take_succ_cons, List.getElem?_cons_succ]
          rw [painter.carryOut_cons_painted _ painted]
          exact ih failed

/-- A call of the painting backend that fails paints nothing. The target is as it was, and so is the
cache, except that an image which could not be decoded is counted as a miss. A call fails exactly
when it is refused; an image that has nowhere to go is refused whatever is cached. So calls in a row
that fail have painted what the ones before the refused call paint. -/
theorem painter_failure_harmless (cache : ImageCache) (target : Target)
    (call : PaintCall Float32) :
    let painted := painter.paint call ⟨cache, target⟩
    (∀ error, painted.failure = some error ↔
      ∃ fault, error = .backend none fault ∧ Painter.Refuses cache call fault) ∧
      (∀ fault, painted.failure = some (.backend none fault) →
        painted.canvas.target = target ∧
          painted.canvas.state.entries = cache.entries ∧
          painted.canvas.state.bytes = cache.bytes ∧
          painted.canvas.state.limit = cache.limit ∧
          painted.canvas.state.hits = cache.hits ∧
          painted.canvas.state.misses =
            cache.misses + (if Painter.failedDecode call fault then 1 else 0)) ∧
      (∀ (image : ImageObject Float32) (blend : BlendMode) (smooth : Bool)
        (transform : Transform Float32), transform.Broken →
        painter.paint (.image image blend smooth transform) ⟨cache, target⟩ =
          ⟨⟨cache, target⟩, [], some (.backend none (.nonFiniteImageTransform image.id))⟩) ∧
      ∀ calls error, (painter.carryOut calls ⟨cache, target⟩).failure = some error →
        StopsAtRefused calls ⟨cache, target⟩ error := by
  intro painted
  refine ⟨fun error => painter_failure_iff, ?_, ?_, fun calls error => stopsAtRefused⟩
  · intro fault failed
    obtain ⟨_, ⟨rfl⟩, refuses⟩ := painter_failure_iff.mp failed
    obtain same : painted = _ := painter_paint_of_refuses refuses target
    rw [same]
    refine ⟨rfl, rfl, rfl, rfl, rfl, ?_⟩
    cases Painter.failedDecode call fault <;> rfl
  · intro image blend smooth transform broken
    have unpainted := Painter.image_of_broken cache target image blend smooth broken
    change Painter.effect cache target (.image image blend smooth transform) = _ at unpainted
    simp only [painter, unpainted]
    rfl

/-- An image of one pixel that brings three bytes only is missed and nothing else. -/
theorem painter_failure_harmless_short :
    let image : ImageObject Float32 := ⟨7, 1, 1, #[0, 0, 0], .identity, 255, .normal⟩
    let target : Target := ⟨.filled 2 2 .clear, true⟩
    let painted := painter.paint (.image image .normal true .identity) ⟨.unlimited, target⟩
    painted.failure = some (.backend none (.imageSize 7 1 1 3 4)) ∧
      painted.canvas.target = target ∧ painted.canvas.state.misses = 1 := by
  intro image target painted
  have failed : painted.failure = some (.backend none (.imageSize 7 1 1 3 4)) := by
    decide +kernel
  obtain ⟨-, harmless, -, -⟩ := painter_failure_harmless .unlimited target
    (.image image .normal true .identity)
  obtain ⟨untouched, -, -, -, -, missed⟩ := harmless _ failed
  exact ⟨failed, untouched, missed.trans (by decide +kernel)⟩

end Backend

end PagePaint
