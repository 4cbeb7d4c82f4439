import PagePaint.Image.Cache

set_option autoImplicit false

/-!
# The image cache answers like decoding

Every entry of a cache is what decoding gives for any image with its id, as long as the images that
are asked for agree on what an id stands for. Eviction, limits and clearing only drop entries, so no
history of requests makes the cache answer anything else.
-/

namespace PagePaint

variable {α : Type}

/-- Images that are decoded alike. Their transforms, opacities and blend modes may differ. -/
structure ImageObject.SamePixels (left right : ImageObject α) : Prop where
  width : left.width = right.width
  height : left.height = right.height
  bytes : left.bytes = right.bytes

/-- In a family of images, an id stands for one size and one row of bytes. -/
def AgreeById (family : ImageObject α → Prop) : Prop :=
  ∀ ⦃left right⦄, family left → family right → left.id = right.id → left.SamePixels right

private theorem ImageObject.SamePixels.decode_eq {left right : ImageObject α}
    (same : left.SamePixels right) (id : left.id = right.id) : left.decode = right.decode := by
  obtain ⟨width, height, bytes⟩ := same
  cases left
  cases right
  cases width
  cases height
  cases bytes
  cases id
  rfl

inductive CacheRequest (α : Type) where
  | get (image : ImageObject α)
  | setLimit (limit : Option Nat)
  | clear

def CacheRequest.image? : CacheRequest α → Option (ImageObject α)
  | .get image => some image
  | .setLimit _ | .clear => none

namespace ImageCache

/-- The answers of a cache to the images it is asked for in a history of requests. -/
def answers (cache : ImageCache) : List (CacheRequest α) → List (Except BackendFault Pixmap)
  | [] => []
  | .get image :: rest =>
    (cache.getOrDecode image).answer :: (cache.getOrDecode image).cache.answers rest
  | .setLimit limit :: rest => (cache.setLimit limit).cache.answers rest
  | .clear :: rest => cache.clear.answers rest

/-- Every entry holds what decoding an image of the family with its id gives. -/
def Faithful (family : ImageObject α → Prop) (cache : ImageCache) : Prop :=
  ∀ entry ∈ cache.entries, ∀ image, family image → image.id = entry.id →
    image.decode = .ok entry.pixmap

section Eviction

private theorem evict_sublist (limit incoming : Nat) (entries : List CacheEntry) (bytes : Nat) :
    (evict limit incoming entries bytes).entries.Sublist entries := by
  induction entries generalizing bytes with
  | nil => exact .slnil
  | cons entry rest ih =>
      simp only [evict]
      split
      · exact List.Sublist.refl _
      · exact (ih _).cons entry

theorem makeRoom_sublist (cache : ImageCache) (incoming : Nat) :
    (cache.makeRoom incoming).cache.entries.Sublist cache.entries := by
  simp only [makeRoom]
  split
  · exact List.Sublist.refl _
  · exact evict_sublist _ _ _ _

end Eviction

variable {family : ImageObject α → Prop} {cache : ImageCache} {image : ImageObject α}

theorem Faithful.of_sublist (faithful : cache.Faithful family) {other : ImageCache}
    (fewer : other.entries.Sublist cache.entries) : other.Faithful family :=
  fun entry member => faithful entry (fewer.subset member)

theorem Faithful.setLimit (faithful : cache.Faithful family) (limit : Option Nat) :
    (cache.setLimit limit).cache.Faithful family :=
  faithful.of_sublist (makeRoom_sublist { cache with limit } 0)

private theorem Faithful.clear (faithful : cache.Faithful family) : cache.clear.Faithful family :=
  faithful.of_sublist (List.nil_sublist _)

private theorem Faithful.keep (agree : AgreeById family) (faithful : cache.Faithful family)
    (member : family image) {pixmap : Pixmap} (decoded : image.decode = .ok pixmap) :
    (cache.keep image pixmap).cache.Faithful family := by
  simp only [ImageCache.keep]
  split
  · intro entry inside other belongs same
    -- The newest entry serves every image with its id, so the family has to agree on it.
    rcases List.mem_append.mp inside with older | newest
    · exact faithful entry ((cache.makeRoom_sublist _).subset older) other belongs same
    · cases List.mem_singleton.mp newest
      rw [(agree belongs member same).decode_eq same]
      exact decoded
  · exact faithful

private theorem Faithful.find? (faithful : cache.Faithful family) (member : family image)
    {pixmap : Pixmap} (found : cache.find? image.id = some pixmap) :
    image.decode = .ok pixmap := by
  obtain ⟨entry, first, rfl⟩ := Option.map_eq_some_iff.mp found
  have same : entry.id = image.id := by simpa using List.find?_some first
  exact faithful entry (List.mem_of_find?_eq_some first) image member same.symm

/-- Hit or miss, the answer is that of decoding. -/
theorem Faithful.answer_eq (faithful : cache.Faithful family) (member : family image) :
    (cache.getOrDecode image).answer = image.decode := by
  simp only [getOrDecode]
  cases found : cache.find? image.id with
  | some pixmap => exact (faithful.find? member found).symm
  | none =>
      cases decoded : image.decode with
      | error fault => rfl
      | ok pixmap => rfl

theorem Faithful.getOrDecode (agree : AgreeById family) (faithful : cache.Faithful family)
    (member : family image) : (cache.getOrDecode image).cache.Faithful family := by
  simp only [ImageCache.getOrDecode]
  cases cache.find? image.id with
  | some pixmap => exact faithful
  | none =>
      cases decoded : image.decode with
      | error fault => exact faithful
      | ok pixmap =>
          have missed : { cache with misses := cache.misses + 1 }.Faithful family := faithful
          exact missed.keep agree member decoded

theorem Faithful.answers_eq (agree : AgreeById family) (faithful : cache.Faithful family)
    {history : List (CacheRequest α)}
    (members : ∀ image ∈ history.filterMap CacheRequest.image?, family image) :
    cache.answers history =
      (history.filterMap CacheRequest.image?).map ImageObject.decode := by
  induction history generalizing cache with
  | nil => rfl
  | cons request rest ih =>
      cases request with
      | get image =>
          obtain ⟨member, members⟩ := List.forall_mem_cons.mp members
          have later := ih (faithful.getOrDecode agree member) members
          rw [answers, faithful.answer_eq member, later]
          rfl
      | setLimit limit => exact ih (faithful.setLimit limit) members
      | clear => exact ih faithful.clear members

theorem unlimited_faithful (family : ImageObject α → Prop) : unlimited.Faithful family :=
  List.forall_mem_nil _

theorem withLimit_faithful (family : ImageObject α → Prop) (limit : Nat) :
    (withLimit limit).Faithful family :=
  List.forall_mem_nil _

end ImageCache

end PagePaint
