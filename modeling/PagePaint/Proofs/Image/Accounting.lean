import PagePaint.Proofs.Image.Cache

set_option autoImplicit false

/-!
# The accounts of the image cache

A cache counts the bytes of an image by its size when the image comes in, and by its pixels when it
goes. The two counts are the same, so what is counted is always what is held. That is why eviction
ends: as long as something is over the limit there is an entry to drop, and no entry is larger than
the bytes counted.
-/

namespace PagePaint

variable {α : Type}

/-!
## Sizes
-/

theorem Pixmap.bytes_size (pixmap : Pixmap) : pixmap.bytes.size = pixmap.byteCount := by
  have pushed : ∀ (pixels : List Pixel) (collected : ByteArray),
      (pixels.foldl (fun collected pixel =>
        (((collected.push pixel.red).push pixel.green).push pixel.blue).push pixel.alpha)
        collected).size = collected.size + 4 * pixels.length := by
    intro pixels
    induction pixels with
    | nil => exact fun _ => rfl
    | cons pixel rest ih =>
        intro collected
        rw [List.foldl_cons, ih, List.length_cons]
        simp only [ByteArray.size_push]
        omega
  rw [bytes, ← Array.foldl_toList, pushed]
  simp [byteCount]

theorem Pixmap.allocatable_iff {width height : UInt32} :
    Pixmap.allocatable width height = true ↔
      0 < width.toNat ∧ 0 < height.toNat ∧ width.toNat * 4 ≤ 2147483647 := by
  simp only [allocatable, Bool.and_eq_true, bne_iff_ne, ne_eq, ← UInt32.toNat_inj,
    UInt32.toNat_zero, decide_eq_true_eq]
  omega

namespace ImageObject

def fullLength (image : ImageObject α) : Nat := 4 * (image.width.toNat * image.height.toNat)

private theorem byteLength_toNat (image : ImageObject α) :
    image.byteLength.toNat = image.fullLength % UInt64.size := by
  have four : UInt64.toNat 4 = 4 := rfl
  simp only [byteLength, fullLength, UInt64.toNat_mul, UInt32.toNat_toUInt64, four, UInt64.size]
  omega

theorem byteLength_eq_fullLength_iff {image : ImageObject α} :
    image.byteLength.toNat = image.fullLength ↔ image.fullLength < UInt64.size := by
  rw [byteLength_toNat]
  exact Nat.mod_eq_iff_lt (by decide)

/-- An image that can be allocated is small enough for its bytes to be counted without overflow. -/
theorem byteLength_of_countable {image : ImageObject α}
    (countable : image.width.toNat * 4 ≤ 2147483647) :
    image.byteLength.toNat = image.fullLength := by
  have area : image.width.toNat * image.height.toNat ≤ 2147483647 / 4 * 4294967296 :=
    Nat.mul_le_mul (by omega) (Nat.le_of_lt image.height.toNat_lt)
  rw [byteLength_eq_fullLength_iff, fullLength, UInt64.size]
  omega

private theorem byteCount_of_decode {image : ImageObject α} {pixmap : Pixmap}
    (decoded : image.decode = .ok pixmap) : pixmap.byteCount = image.byteLength.toNat := by
  simp only [decode] at decoded
  split at decoded
  · cases decoded
  · split at decoded
    next allocatable =>
      cases decoded
      rw [byteLength_of_countable (Pixmap.allocatable_iff.mp allocatable).2.2]
      simp only [Pixmap.byteCount, Array.size_ofFn, fullLength]
    next => cases decoded

end ImageObject

namespace CacheRequest

def isGet : CacheRequest α → Bool
  | .get _ => true
  | .setLimit _ | .clear => false

def limit? : CacheRequest α → Option (Option Nat)
  | .setLimit limit => some limit
  | .get _ | .clear => none

end CacheRequest

namespace ImageCache

def held : List CacheEntry → Nat
  | [] => 0
  | entry :: rest => entry.pixmap.bytes.size + held rest

theorem held_cons (entry : CacheEntry) (rest : List CacheEntry) :
    held (entry :: rest) = entry.pixmap.byteCount + held rest := by
  rw [held, Pixmap.bytes_size]

theorem held_append (entries newer : List CacheEntry) :
    held (entries ++ newer) = held entries + held newer := by
  induction entries with
  | nil => exact (Nat.zero_add _).symm
  | cons entry rest ih =>
      rw [List.cons_append, held, held, ih, Nat.add_assoc]

/-- Serves a request. Only a request for an image is answered. -/
def serve (cache : ImageCache) :
    CacheRequest α → CacheReply (Option (Except BackendFault Pixmap))
  | .get image =>
    let reply := cache.getOrDecode image
    { reply with answer := some reply.answer }
  | .setLimit limit =>
    let reply := cache.setLimit limit
    { reply with answer := none }
  | .clear => ⟨cache.clear, none, []⟩

def serveAll (cache : ImageCache) (history : List (CacheRequest α)) : ImageCache :=
  history.foldl (fun cache request => (cache.serve request).cache) cache

/-!
## What a request does
-/

/-- Eviction from the front. It ends because the rest fits, not because there is no rest, and every
entry that is dropped was counted. -/
inductive Evicts (limit incoming : Nat) : List CacheEntry → Nat → Eviction → Prop where
  | fits {entries : List CacheEntry} {bytes : Nat} (enough : bytes + incoming ≤ limit) :
      Evicts limit incoming entries bytes ⟨entries, bytes, []⟩
  | drops {entry : CacheEntry} {rest : List CacheEntry} {bytes : Nat} {left : Eviction}
      (exceeds : limit < bytes + incoming) (counted : entry.pixmap.byteCount ≤ bytes)
      (evicts : Evicts limit incoming rest (bytes - entry.pixmap.byteCount) left)
      (line : LogLine) :
      Evicts limit incoming (entry :: rest) bytes { left with log := line :: left.log }

inductive MakesRoom (cache : ImageCache) (incoming : Nat) : ImageCache → Prop where
  | unlimited (limit : cache.limit = none) : MakesRoom cache incoming cache
  | limited {limit : Nat} {left : Eviction} (limited : cache.limit = some limit)
      (evicts : Evicts limit incoming cache.entries cache.bytes left) :
      MakesRoom cache incoming { cache with entries := left.entries, bytes := left.bytes }

inductive Serves (cache : ImageCache) :
    CacheRequest α → Option (Except BackendFault Pixmap) → ImageCache → Prop where
  | hit {image : ImageObject α} {pixmap : Pixmap} (found : cache.find? image.id = some pixmap) :
      Serves cache (.get image) (some (.ok pixmap)) { cache with hits := cache.hits + 1 }
  | failed {image : ImageObject α} {fault : BackendFault} (missing : cache.find? image.id = none)
      (failure : image.decode = .error fault) :
      Serves cache (.get image) (some (.error fault)) { cache with misses := cache.misses + 1 }
  | oversized {image : ImageObject α} {pixmap : Pixmap} {limit : Nat}
      (missing : cache.find? image.id = none) (decoded : image.decode = .ok pixmap)
      (limited : cache.limit = some limit) (exceeds : limit < pixmap.byteCount) :
      Serves cache (.get image) (some (.ok pixmap)) { cache with misses := cache.misses + 1 }
  | kept {image : ImageObject α} {pixmap : Pixmap} {room : ImageCache}
      (missing : cache.find? image.id = none) (decoded : image.decode = .ok pixmap)
      (makesRoom : MakesRoom { cache with misses := cache.misses + 1 } pixmap.byteCount room) :
      Serves cache (.get image) (some (.ok pixmap))
        { room with
          entries := room.entries ++ [⟨image.id, pixmap⟩]
          bytes := room.bytes + pixmap.byteCount }
  | limited {limit : Option Nat} {room : ImageCache}
      (makesRoom : MakesRoom { cache with limit } 0 room) :
      Serves cache (.setLimit limit) none room
  | cleared : Serves cache .clear none cache.clear

structure Accounted (cache : ImageCache) : Prop where
  distinct : (cache.entries.map CacheEntry.id).Nodup
  exact : cache.bytes = held cache.entries
  bounded : ∀ limit, cache.limit = some limit → cache.bytes ≤ limit

/-- When the bytes counted are those held, eviction ends because the rest fits. -/
theorem evict_evicts {limit incoming : Nat} (alone : incoming ≤ limit)
    (entries : List CacheEntry) :
    Evicts limit incoming entries (held entries)
      (evict limit incoming entries (held entries)) := by
  induction entries with
  | nil => exact .fits (by simpa [held] using alone)
  | cons entry rest ih =>
      have split := held_cons entry rest
      simp only [evict]
      by_cases enough : held (entry :: rest) + incoming ≤ limit
      · rw [if_pos enough]
        exact .fits enough
      · have left : held (entry :: rest) - entry.pixmap.byteCount = held rest := by omega
        rw [if_neg enough]
        exact .drops (by omega) (by omega) (by rw [left]; exact ih) _

private theorem makeRoom_makesRoom {cache : ImageCache} (exact : cache.bytes = held cache.entries)
    {incoming : Nat} (alone : ∀ limit, cache.limit = some limit → incoming ≤ limit) :
    cache.MakesRoom incoming (cache.makeRoom incoming).cache := by
  obtain ⟨entries, bytes, limit, hits, misses⟩ := cache
  obtain rfl : bytes = held entries := exact
  cases limit with
  | none => exact .unlimited rfl
  | some limit => exact .limited rfl (evict_evicts (alone limit rfl) entries)

theorem admits_iff {cache : ImageCache} {bytes : Nat} :
    cache.admits bytes = true ↔ ∀ limit, cache.limit = some limit → bytes ≤ limit := by
  cases limited : cache.limit <;> simp [admits, limited]

theorem Accounted.serves {cache : ImageCache} (accounted : cache.Accounted)
    (request : CacheRequest α) :
    cache.Serves request (cache.serve request).answer (cache.serve request).cache := by
  cases request with
  | get image =>
      simp only [serve, getOrDecode]
      cases found : cache.find? image.id with
      | some pixmap => exact .hit found
      | none =>
          cases decoded : image.decode with
          | error fault => exact .failed found decoded
          | ok pixmap =>
              simp only [keep, ← ImageObject.byteCount_of_decode decoded]
              split
              next admitted =>
                have exact : ({ cache with misses := cache.misses + 1 } : ImageCache).bytes =
                    held cache.entries := accounted.exact
                exact .kept found decoded (makeRoom_makesRoom exact (admits_iff.mp admitted))
              next refused =>
                rw [admits_iff] at refused
                obtain ⟨limit, limited, exceeds⟩ : ∃ limit, cache.limit = some limit ∧
                    limit < pixmap.byteCount := by
                  simpa using refused
                exact .oversized found decoded limited exceeds
  | setLimit limit =>
      have exact : ({ cache with limit } : ImageCache).bytes = held cache.entries :=
        accounted.exact
      exact .limited (makeRoom_makesRoom exact fun _ _ => Nat.zero_le _)
  | clear => exact .cleared

/-!
## What every request keeps
-/

private theorem Evicts.outcome {limit incoming bytes : Nat} {entries : List CacheEntry}
    {left : Eviction} (evicts : Evicts limit incoming entries bytes left)
    (exact : bytes = held entries) :
    left.entries <:+ entries ∧ left.bytes = held left.entries ∧ left.bytes + incoming ≤ limit := by
  induction evicts with
  | fits enough => exact ⟨List.suffix_refl _, exact, enough⟩
  | @drops entry rest bytes left exceeds counted evicts line ih =>
      have split := held_cons entry rest
      obtain ⟨suffix, kept, enough⟩ := ih (by omega)
      exact ⟨suffix.trans (List.suffix_cons _ _), kept, enough⟩

/-- Making room only drops entries, the oldest first, and keeps the accounts in order. -/
theorem MakesRoom.outcome {cache room : ImageCache} {incoming : Nat}
    (makesRoom : cache.MakesRoom incoming room) (exact : cache.bytes = held cache.entries) :
    room.entries <:+ cache.entries ∧ room.bytes = held room.entries ∧
      (∀ limit, room.limit = some limit → room.bytes + incoming ≤ limit) ∧
      room.limit = cache.limit ∧ room.hits = cache.hits ∧ room.misses = cache.misses := by
  cases makesRoom with
  | unlimited limit => exact ⟨List.suffix_refl _, exact, by simp [limit], rfl, rfl, rfl⟩
  | limited limited evicts =>
      obtain ⟨suffix, kept, enough⟩ := evicts.outcome exact
      refine ⟨suffix, kept, ?_, rfl, rfl, rfl⟩
      intro limit same
      cases limited.symm.trans same
      exact enough

private theorem find?_eq_none_iff {cache : ImageCache} {id : UInt64} :
    cache.find? id = none ↔ id ∉ cache.entries.map CacheEntry.id := by
  simp [find?]

theorem Serves.accounted {cache after : ImageCache} {request : CacheRequest α}
    {answer : Option (Except BackendFault Pixmap)} (serves : cache.Serves request answer after)
    (accounted : cache.Accounted) : after.Accounted := by
  obtain ⟨distinct, exact, bounded⟩ := accounted
  cases serves with
  | hit | failed | oversized => exact ⟨distinct, exact, bounded⟩
  | @kept image pixmap room missing decoded makesRoom =>
      obtain ⟨suffix, held, enough, -⟩ := makesRoom.outcome exact
      have fewer : (room.entries.map CacheEntry.id).Sublist (cache.entries.map CacheEntry.id) :=
        suffix.sublist.map _
      constructor
      case distinct =>
        rw [List.map_append, List.nodup_append]
        refine ⟨distinct.sublist fewer, by simp, ?_⟩
        intro id older other newest same
        cases List.mem_singleton.mp newest
        subst same
        exact find?_eq_none_iff.mp missing (fewer.subset older)
      case exact =>
        rw [held_append, held_cons, ← held]
        rfl
      case bounded => exact enough
  | limited makesRoom =>
      obtain ⟨suffix, held, enough, -⟩ := makesRoom.outcome exact
      exact ⟨distinct.sublist (suffix.sublist.map _), held, enough⟩
  | cleared => exact ⟨List.nodup_nil, rfl, fun _ _ => Nat.zero_le _⟩

/-- Every request for an image is counted once, and only a request for a limit changes it. -/
theorem Serves.counted {cache after : ImageCache} {request : CacheRequest α}
    {answer : Option (Except BackendFault Pixmap)} (serves : cache.Serves request answer after)
    (exact : cache.bytes = held cache.entries) :
    after.hits + after.misses =
        cache.hits + cache.misses + (if request.isGet then 1 else 0) ∧
      after.limit = request.limit?.getD cache.limit := by
  cases serves with
  | hit => exact ⟨Nat.add_right_comm _ _ _, rfl⟩
  | failed | oversized => exact ⟨rfl, rfl⟩
  | kept missing decoded makesRoom =>
      obtain ⟨-, -, -, limit, hits, misses⟩ := makesRoom.outcome exact
      exact ⟨by rw [hits, misses]; rfl, limit⟩
  | limited makesRoom =>
      obtain ⟨-, -, -, limit, hits, misses⟩ := makesRoom.outcome exact
      exact ⟨by rw [hits, misses]; rfl, limit⟩
  | cleared => exact ⟨rfl, rfl⟩

private theorem Serves.eq_of_failed {cache after : ImageCache} {image : ImageObject α}
    {fault : BackendFault} (serves : cache.Serves (.get image) (some (.error fault)) after) :
    after = { cache with misses := cache.misses + 1 } := by
  cases serves with
  | failed => rfl

theorem Accounted.serveAll {cache : ImageCache} (accounted : cache.Accounted)
    (history : List (CacheRequest α)) :
    (cache.serveAll history).Accounted ∧
      (cache.serveAll history).hits + (cache.serveAll history).misses =
        cache.hits + cache.misses + history.countP CacheRequest.isGet ∧
      (cache.serveAll history).limit =
        (history.filterMap CacheRequest.limit?).getLastD cache.limit := by
  induction history generalizing cache with
  | nil => exact ⟨accounted, rfl, rfl⟩
  | cons request rest ih =>
      have serves := accounted.serves request
      obtain ⟨counted, limit⟩ := serves.counted accounted.exact
      obtain ⟨final, counts, last⟩ := ih (serves.accounted accounted)
      refine ⟨final, ?_, ?_⟩
      · rw [List.countP_cons]
        change ((cache.serve request).cache.serveAll rest).hits +
          ((cache.serve request).cache.serveAll rest).misses = _
        omega
      · rw [limit] at last
        rw [List.filterMap_cons]
        cases set : request.limit? with
        | none => rw [set] at last; exact last
        | some chosen =>
            rw [set] at last
            rw [List.getLastD_cons]
            exact last

theorem unlimited_accounted : unlimited.Accounted :=
  ⟨List.nodup_nil, rfl, nofun⟩

theorem withLimit_accounted (limit : Nat) : (withLimit limit).Accounted :=
  ⟨List.nodup_nil, rfl, fun _ _ => Nat.zero_le _⟩

/-- Whatever a cache was asked for, its accounts are in order. Its entries have different ids; the
bytes counted are those of the pixels held, and within the limit that was set last; every request
for an image was a hit or a miss. A request that fails only counts a miss, one that finds its image
only counts a hit, and whatever else the next request does, eviction ends because the rest fits: it
never runs out of entries, and never drops one that holds more than is counted. -/
theorem serveAll_accounts (limit? : Option Nat) (history : List (CacheRequest α)) :
    let cache := (limit?.elim unlimited withLimit).serveAll history
    (cache.entries.map CacheEntry.id).Nodup ∧
      cache.bytes = held cache.entries ∧
      (∀ limit, cache.limit = some limit → cache.bytes ≤ limit) ∧
      cache.limit = (history.filterMap CacheRequest.limit?).getLastD limit? ∧
      cache.hits + cache.misses = history.countP CacheRequest.isGet ∧
      (∀ (image : ImageObject α) (fault : BackendFault),
        (cache.getOrDecode image).answer = .error fault →
        (cache.getOrDecode image).cache = { cache with misses := cache.misses + 1 }) ∧
      (∀ image : ImageObject α, cache.contains image.id = true →
        (cache.getOrDecode image).cache = { cache with hits := cache.hits + 1 }) ∧
      ∀ request : CacheRequest α,
        cache.Serves request (cache.serve request).answer (cache.serve request).cache := by
  intro cache
  obtain ⟨start, none, set⟩ : (limit?.elim unlimited withLimit).Accounted ∧
      (limit?.elim unlimited withLimit).hits + (limit?.elim unlimited withLimit).misses = 0 ∧
        (limit?.elim unlimited withLimit).limit = limit? := by
    cases limit? with
    | none => exact ⟨unlimited_accounted, rfl, rfl⟩
    | some limit => exact ⟨withLimit_accounted limit, rfl, rfl⟩
  obtain ⟨accounted, counted, last⟩ := start.serveAll history
  rw [none, Nat.zero_add] at counted
  rw [set] at last
  refine ⟨accounted.distinct, accounted.exact, accounted.bounded, last, counted, ?_, ?_,
    accounted.serves⟩
  · intro image fault failed
    have answer : (cache.serve (.get image)).answer = some (.error fault) := congrArg some failed
    exact (answer ▸ accounted.serves (.get image)).eq_of_failed
  · intro image contained
    obtain ⟨pixmap, found⟩ := Option.isSome_iff_exists.mp contained
    simp only [getOrDecode, found]

end ImageCache

end PagePaint
