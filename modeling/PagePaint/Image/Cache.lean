import PagePaint.Image.Decode
import PagePaint.Log

set_option autoImplicit false

/-!
# The image cache

Decoded images are kept by their id in the order they came in. A limit bounds the bytes held; the
oldest entries go first. A hit does not make an entry younger.
-/

namespace PagePaint

variable {α : Type}

structure CacheEntry where
  id : UInt64
  pixmap : Pixmap
deriving DecidableEq

/-- Decoded images, oldest first, with the bytes they hold, the limit on them if there is one, and
how many requests found their image and how many did not. -/
structure ImageCache where
  entries : List CacheEntry
  bytes : Nat
  limit : Option Nat
  hits : Nat
  misses : Nat
deriving DecidableEq

/-- What a request to the cache did, what it answers, and the lines it wrote. -/
structure CacheReply (ρ : Type) where
  cache : ImageCache
  answer : ρ
  log : List LogLine

namespace ImageCache

/-- An empty cache that may hold any number of bytes. -/
def unlimited : ImageCache := ⟨[], 0, none, 0, 0⟩

def withLimit (limit : Nat) : ImageCache := { unlimited with limit := some limit }

/-- The limit of a session that asks for a limited cache. -/
def limitedBytes : Nat := 4 * 1024 * 1024

def size (cache : ImageCache) : Nat := cache.entries.length

def isEmpty (cache : ImageCache) : Bool := cache.entries.isEmpty

def find? (cache : ImageCache) (id : UInt64) : Option Pixmap :=
  (cache.entries.find? (·.id == id)).map CacheEntry.pixmap

def contains (cache : ImageCache) (id : UInt64) : Bool := (cache.find? id).isSome

/-- What eviction leaves: entries, the bytes counted for them, and a line for each entry dropped. -/
structure Eviction where
  entries : List CacheEntry
  bytes : Nat
  log : List LogLine

/-- Drops entries from the front until the bytes counted and the bytes to come fit a limit, or
nothing is left. -/
def evict (limit incoming : Nat) : List CacheEntry → Nat → Eviction
  | [], bytes => ⟨[], bytes, []⟩
  | entry :: rest, bytes =>
    if bytes + incoming ≤ limit then ⟨entry :: rest, bytes, []⟩
    else
      let freed := entry.pixmap.byteCount
      let left := evict limit incoming rest (bytes - freed)
      { left with
        log := .trace ("evicted image " ++ toString entry.id ++ " (" ++ toString freed ++
          " bytes)") :: left.log }

def makeRoom (cache : ImageCache) (incoming : Nat) : CacheReply Unit :=
  match cache.limit with
  | none => ⟨cache, (), []⟩
  | some limit =>
    let left := evict limit incoming cache.entries cache.bytes
    ⟨{ cache with entries := left.entries, bytes := left.bytes }, (), left.log⟩

def setLimit (cache : ImageCache) (limit : Option Nat) : CacheReply Unit :=
  { cache with limit }.makeRoom 0

def admits (cache : ImageCache) (bytes : Nat) : Bool :=
  match cache.limit with
  | none => true
  | some limit => decide (bytes ≤ limit)

/-- Adds a decoded image as the youngest entry, or leaves it out if it alone is over the limit. -/
def keep (cache : ImageCache) (image : ImageObject α) (pixmap : Pixmap) : CacheReply Unit :=
  let bytes := image.byteLength.toNat
  if cache.admits bytes then
    let room := cache.makeRoom bytes
    { room with
      cache :=
        { room.cache with
          entries := room.cache.entries ++ [⟨image.id, pixmap⟩]
          bytes := room.cache.bytes + bytes } }
  else
    ⟨cache, (), [.trace ("image " ++ toString image.id ++ " (" ++ toString bytes ++
      " bytes) exceeds cache limit, not cached")]⟩

/-- The pixmap of an image. One found by its id is used whatever the image's own fields say; any
other is decoded and kept. -/
def getOrDecode (cache : ImageCache) (image : ImageObject α) :
    CacheReply (Except BackendFault Pixmap) :=
  match cache.find? image.id with
  | some pixmap => ⟨{ cache with hits := cache.hits + 1 }, .ok pixmap, []⟩
  | none =>
    let missed := { cache with misses := cache.misses + 1 }
    match image.decode with
    | .error fault => ⟨missed, .error fault, []⟩
    | .ok pixmap =>
      let kept := missed.keep image pixmap
      ⟨kept.cache, .ok pixmap, kept.log⟩

/-- Drops every entry. The counts of requests stay. -/
def clear (cache : ImageCache) : ImageCache := { cache with entries := [], bytes := 0 }

end ImageCache

end PagePaint
