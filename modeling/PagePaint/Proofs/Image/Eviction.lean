import PagePaint.Proofs.Image.Accounting

set_option autoImplicit false

/-!
# Oldest first, and no more than needed

A cache holds as many of the youngest entries as fit its limit. One eviction keeps the longest
suffix that fits, and the longest suffix of a longest suffix is that of the whole, so under a limit
that stays the same the cache holds the longest suffix of everything that ever came in.
-/

namespace PagePaint

variable {α : Type}

/-- A request after which a limit is still the limit and nothing was cleared. -/
def CacheRequest.Leaves (limit? : Option Nat) : CacheRequest α → Prop
  | .get _ => True
  | .setLimit limit => limit = limit?
  | .clear => False

namespace ImageCache

def Fits (limit? : Option Nat) (entries : List CacheEntry) : Prop :=
  ∀ limit, limit? = some limit → held entries ≤ limit

/-- What is kept of a sequence of entries is its longest suffix that fits a limit. -/
structure Retains (limit? : Option Nat) (all kept : List CacheEntry) : Prop where
  suffix : kept <:+ all
  fits : Fits limit? kept
  longest : ∀ other, other <:+ all → Fits limit? other → other.length ≤ kept.length

/-- The entry that comes in with a request, if one does: the image is not there, is decoded, and is
not alone larger than the limit. -/
def inserted (cache : ImageCache) : CacheRequest α → List CacheEntry
  | .setLimit _ | .clear => []
  | .get image =>
    match cache.find? image.id, image.decode with
    | none, .ok pixmap => if cache.admits pixmap.byteCount then [⟨image.id, pixmap⟩] else []
    | none, .error _ | some _, _ => []

/-- The entries that come in during a history of requests, oldest first. An image that was evicted
comes in again. -/
def insertions (cache : ImageCache) : List (CacheRequest α) → List CacheEntry
  | [] => []
  | request :: rest => cache.inserted request ++ (cache.serve request).cache.insertions rest

/-!
## Longest suffixes
-/

section Longest

variable {limit? : Option Nat} {all kept left newest : List CacheEntry}

theorem Fits.unlimited : Fits none all := nofun

private theorem Fits.older (fits : Fits limit? (kept ++ newest)) : Fits limit? kept := by
  intro limit limited
  have both := fits limit limited
  rw [held_append] at both
  omega

theorem Retains.all_of_fits (fits : Fits limit? all) : Retains limit? all all :=
  ⟨List.suffix_refl all, fits, fun _ suffix _ => suffix.length_le⟩

private theorem Retains.suffix_of_fits (retains : Retains limit? all kept) {other : List CacheEntry}
    (suffix : other <:+ all) (fits : Fits limit? other) : other <:+ kept :=
  List.suffix_of_suffix_length_le suffix retains.suffix (retains.longest other suffix fits)

theorem Retains.eq_of_fits (retains : Retains limit? all kept) (fits : Fits limit? all) :
    kept = all :=
  retains.suffix.eq_of_length_le (retains.longest all (List.suffix_refl all) fits)

private theorem Retains.cons {entry : CacheEntry} (exceeds : ¬ Fits limit? (entry :: all))
    (retains : Retains limit? all kept) : Retains limit? (entry :: all) kept := by
  refine ⟨retains.suffix.trans (List.suffix_cons entry all), retains.fits, ?_⟩
  intro other suffix fits
  obtain rfl | suffix := List.suffix_cons_iff.mp suffix
  · exact absurd fits exceeds
  · exact retains.longest other suffix fits

/-- What is kept after new entries came in does not depend on what was dropped before. -/
theorem Retains.push (past : Retains limit? all kept)
    (next : Retains limit? (kept ++ newest) left) : Retains limit? (all ++ newest) left := by
  have inner : kept ++ newest <:+ all ++ newest := List.suffix_append_self_iff.mpr past.suffix
  refine ⟨next.suffix.trans inner, next.fits, ?_⟩
  intro other suffix fits
  obtain shorter | longer := Nat.le_total other.length (kept ++ newest).length
  · exact next.longest other (List.suffix_of_suffix_length_le suffix inner shorter) fits
  · -- A suffix that reaches back beyond the entries kept would already have been kept longer.
    obtain ⟨older, rfl⟩ := List.suffix_of_suffix_length_le inner suffix longer
    rw [← List.append_assoc] at suffix fits
    have reach := past.longest (older ++ kept) (List.suffix_append_self_iff.mp suffix) fits.older
    rw [List.length_append] at reach
    obtain rfl : older = [] := List.eq_nil_of_length_eq_zero (by omega)
    exact next.longest _ (List.suffix_refl _) fits

end Longest

/-!
## What requests keep
-/

/-- Eviction leaves the longest suffix that fits together with the bytes to come. -/
theorem Evicts.retains {limit bytes : Nat} {entries newest : List CacheEntry} {left : Eviction}
    (evicts : Evicts limit (held newest) entries bytes left) (exact : bytes = held entries) :
    Retains (some limit) (entries ++ newest) (left.entries ++ newest) := by
  generalize incoming : held newest = bytesToCome at evicts
  induction evicts with
  | fits enough =>
      refine .all_of_fits ?_
      rintro _ ⟨rfl⟩
      rw [held_append]
      omega
  | @drops entry rest bytes left exceeds counted evicts line ih =>
      have split := held_cons entry rest
      refine .cons ?_ (ih (by omega))
      intro fits
      have enough : held ((entry :: rest) ++ newest) ≤ limit := fits limit rfl
      rw [held_append] at enough
      omega

theorem MakesRoom.retains {cache room : ImageCache} (newest : List CacheEntry)
    (makesRoom : cache.MakesRoom (held newest) room) (exact : cache.bytes = held cache.entries) :
    Retains cache.limit (cache.entries ++ newest) (room.entries ++ newest) := by
  cases makesRoom with
  | unlimited limit =>
      rw [limit]
      exact .all_of_fits .unlimited
  | limited limited evicts =>
      rw [limited]
      exact evicts.retains exact

section Inserted

variable {cache : ImageCache} {image : ImageObject α} {pixmap : Pixmap}

theorem inserted_of_find? (found : cache.find? image.id = some pixmap) :
    cache.inserted (.get image) = [] := by
  simp only [inserted, found]

theorem inserted_of_error {fault : BackendFault} (failure : image.decode = .error fault) :
    cache.inserted (.get image) = [] := by
  cases found : cache.find? image.id <;> simp only [inserted, found, failure]

theorem inserted_of_exceeds {limit : Nat} (decoded : image.decode = .ok pixmap)
    (limited : cache.limit = some limit) (exceeds : limit < pixmap.byteCount) :
    cache.inserted (.get image) = [] := by
  have refused : ¬ cache.admits pixmap.byteCount = true :=
    fun admitted => Nat.not_le_of_lt exceeds (admits_iff.mp admitted limit limited)
  cases found : cache.find? image.id <;> simp only [inserted, found, decoded, if_neg refused]

theorem inserted_of_missing (missing : cache.find? image.id = none)
    (decoded : image.decode = .ok pixmap)
    (alone : ∀ limit, cache.limit = some limit → pixmap.byteCount ≤ limit) :
    cache.inserted (.get image) = [⟨image.id, pixmap⟩] := by
  simp only [inserted, missing, decoded, if_pos (admits_iff.mpr alone)]

end Inserted

theorem held_singleton (entry : CacheEntry) : held [entry] = entry.pixmap.byteCount := by
  rw [held_cons, held, Nat.add_zero]

private theorem fits_singleton_iff {limit? : Option Nat} {entry : CacheEntry} :
    Fits limit? [entry] ↔ ∀ limit, limit? = some limit → entry.pixmap.byteCount ≤ limit := by
  rw [Fits, held_singleton]

theorem Accounted.fits {cache : ImageCache} (accounted : cache.Accounted) :
    Fits cache.limit cache.entries := by
  rw [Fits, ← accounted.exact]
  exact accounted.bounded

/-- A request that leaves the limit keeps the longest suffix of the old entries and the one that
came in. -/
theorem Serves.retains {cache after : ImageCache} {request : CacheRequest α}
    {answer : Option (Except BackendFault Pixmap)} (serves : cache.Serves request answer after)
    (accounted : cache.Accounted) (leaves : request.Leaves cache.limit) :
    Retains cache.limit (cache.entries ++ cache.inserted request) after.entries := by
  have unchanged (nothing : cache.inserted request = []) :
      Retains cache.limit (cache.entries ++ cache.inserted request) cache.entries := by
    rw [nothing, List.append_nil]
    exact .all_of_fits accounted.fits
  cases serves with
  | hit found => exact unchanged (inserted_of_find? found)
  | failed missing failure => exact unchanged (inserted_of_error failure)
  | oversized missing decoded limited exceeds =>
      exact unchanged (inserted_of_exceeds decoded limited exceeds)
  | @kept image pixmap room missing decoded makesRoom =>
      have alone (limit : Nat) (limited : cache.limit = some limit) :
          pixmap.byteCount ≤ limit := by
        obtain ⟨-, -, enough, same, -⟩ := makesRoom.outcome accounted.exact
        have := enough limit (same.trans limited)
        omega
      rw [inserted_of_missing missing decoded alone]
      rw [← held_singleton ⟨image.id, pixmap⟩] at makesRoom
      exact makesRoom.retains _ accounted.exact
  | limited makesRoom =>
      obtain rfl := leaves
      have kept := MakesRoom.retains [] makesRoom accounted.exact
      simpa only [inserted, List.append_nil] using kept
  | cleared => exact leaves.elim

/-- Under a limit that stays the same, what is kept is the longest suffix of all that came in. -/
theorem Accounted.serveAll_retains {cache : ImageCache} (accounted : cache.Accounted)
    {history : List (CacheRequest α)} (leaves : ∀ request ∈ history, request.Leaves cache.limit)
    {past : List CacheEntry} (retains : Retains cache.limit past cache.entries) :
    Retains cache.limit (past ++ cache.insertions history) (cache.serveAll history).entries := by
  induction history generalizing cache past with
  | nil =>
      rw [insertions, List.append_nil]
      exact retains
  | cons request rest ih =>
      obtain ⟨first, later⟩ := List.forall_mem_cons.mp leaves
      have serves := accounted.serves request
      have same : (cache.serve request).cache.limit = cache.limit := by
        rw [(serves.counted accounted.exact).2]
        cases request with
        | get image => rfl
        | setLimit limit => exact first
        | clear => exact first.elim
      have next := retains.push (serves.retains accounted first)
      rw [← same] at later next
      rw [insertions, ← List.append_assoc, ← same]
      exact ih (serves.accounted accounted) later next

private theorem Accounted.setLimit_retains {cache : ImageCache} (accounted : cache.Accounted)
    (limit? : Option Nat) : Retains limit? cache.entries (cache.setLimit limit?).cache.entries := by
  have serves := accounted.serves (.setLimit limit? : CacheRequest Unit)
  generalize after_eq : (cache.serve (.setLimit limit? : CacheRequest Unit)).cache = after at serves
  obtain rfl : (cache.setLimit limit?).cache = after := after_eq
  cases serves with
  | limited makesRoom =>
      have kept := MakesRoom.retains [] makesRoom accounted.exact
      simpa only [List.append_nil] using kept

private theorem Accounted.getOrDecode_entries {cache : ImageCache} (accounted : cache.Accounted)
    {image : ImageObject α} (nothing : cache.inserted (.get image) = []) :
    (cache.getOrDecode image).cache.entries = cache.entries := by
  have kept := (accounted.serves (.get image)).retains accounted trivial
  rw [nothing, List.append_nil] at kept
  exact kept.eq_of_fits accounted.fits

/-- What any history leaves is evicted oldest first, and no more of it than needed. An image that is
not there, decodes, and is no larger than the limit becomes the youngest entry, and the entries are
the longest suffix of the old ones and it that fits. One that is found, fails, or is larger than the
limit changes nothing. A new limit keeps the longest suffix that fits it, so a larger one, or none,
drops nothing. As long as the limit stays and nothing is cleared, the entries are the longest
suffix that fits of those there were and everything that came in since; from the start, of
everything that ever came in. -/
theorem serveAll_retains_newest (limit? : Option Nat) (history : List (CacheRequest α)) :
    let start := limit?.elim unlimited withLimit
    let cache := start.serveAll history
    (∀ (image : ImageObject α) (pixmap : Pixmap), cache.contains image.id = false →
      image.decode = .ok pixmap →
      (∀ limit, cache.limit = some limit → pixmap.bytes.size ≤ limit) →
      Retains cache.limit (cache.entries ++ [⟨image.id, pixmap⟩])
          (cache.getOrDecode image).cache.entries ∧
        (cache.getOrDecode image).cache.entries.getLast? = some ⟨image.id, pixmap⟩) ∧
      (∀ image : ImageObject α, cache.contains image.id = true →
        (cache.getOrDecode image).cache.entries = cache.entries) ∧
      (∀ (image : ImageObject α) (fault : BackendFault), image.decode = .error fault →
        (cache.getOrDecode image).cache.entries = cache.entries) ∧
      (∀ (image : ImageObject α) (pixmap : Pixmap) (limit : Nat), image.decode = .ok pixmap →
        cache.limit = some limit → limit < pixmap.bytes.size →
        (cache.getOrDecode image).cache.entries = cache.entries) ∧
      (∀ limit, Retains (some limit) cache.entries (cache.setLimit (some limit)).cache.entries) ∧
      (∀ old limit, cache.limit = some old → old ≤ limit →
        (cache.setLimit (some limit)).cache.entries = cache.entries) ∧
      (cache.setLimit none).cache.entries = cache.entries ∧
      (∀ later : List (CacheRequest α), (∀ request ∈ later, request.Leaves cache.limit) →
        Retains cache.limit (cache.entries ++ cache.insertions later)
          (cache.serveAll later).entries) ∧
      ((∀ request ∈ history, request.Leaves limit?) →
        Retains limit? (start.insertions history) cache.entries) := by
  intro start cache
  obtain ⟨fresh, empty, set⟩ : start.Accounted ∧ start.entries = [] ∧ start.limit = limit? := by
    cases limit? with
    | none => exact ⟨unlimited_accounted, rfl, rfl⟩
    | some limit => exact ⟨withLimit_accounted limit, rfl, rfl⟩
  have accounted : cache.Accounted := (fresh.serveAll history).1
  refine ⟨?insert, ?hit, ?fail, ?oversized, fun limit => accounted.setLimit_retains (some limit),
    ?raised, ?removed, ?onward, ?closed⟩
  case insert =>
    intro image pixmap absent decoded alone
    have missing : cache.find? image.id = none := by
      simpa [contains] using absent
    rw [Pixmap.bytes_size] at alone
    have kept := (accounted.serves (.get image)).retains accounted trivial
    rw [inserted_of_missing missing decoded alone] at kept
    refine ⟨kept, ?_⟩
    obtain ⟨older, same⟩ :=
      kept.suffix_of_fits (List.suffix_append _ _) (fits_singleton_iff.mpr alone)
    change older ++ _ = (cache.getOrDecode image).cache.entries at same
    rw [← same, List.getLast?_concat]
  case hit =>
    intro image contained
    obtain ⟨pixmap, found⟩ := Option.isSome_iff_exists.mp contained
    exact accounted.getOrDecode_entries (inserted_of_find? found)
  case fail =>
    intro image fault failure
    exact accounted.getOrDecode_entries (inserted_of_error failure)
  case oversized =>
    intro image pixmap limit decoded limited exceeds
    rw [Pixmap.bytes_size] at exceeds
    exact accounted.getOrDecode_entries (inserted_of_exceeds decoded limited exceeds)
  case raised =>
    intro old limit limited larger
    refine (accounted.setLimit_retains (some limit)).eq_of_fits ?_
    rintro _ ⟨rfl⟩
    exact Nat.le_trans (accounted.fits old limited) larger
  case removed => exact (accounted.setLimit_retains none).eq_of_fits .unlimited
  case onward =>
    exact fun later leaves => accounted.serveAll_retains leaves (.all_of_fits accounted.fits)
  case closed =>
    intro leaves
    rw [← set] at leaves ⊢
    have nothing : Retains start.limit [] start.entries := by
      rw [empty]
      exact .all_of_fits fun _ _ => Nat.zero_le _
    exact fresh.serveAll_retains leaves nothing

/-- Under a limit of two pixels, an image asked for again is still the first to go, and the last to
come in once it is asked for after that. -/
theorem serveAll_retains_newest_dots :
    let dot (id : UInt64) : ImageObject Unit :=
      ⟨id, 1, 1, #[0, 0, 0, 255], ⟨(), (), (), (), (), ()⟩, 255, .normal⟩
    let history := [.get (dot 1), .get (dot 2), .get (dot 1), .get (dot 3), .get (dot 1)]
    Retains (some 8) ((withLimit 8).insertions history) ((withLimit 8).serveAll history).entries ∧
      ((withLimit 8).insertions history).map CacheEntry.id = [1, 2, 3, 1] ∧
      ((withLimit 8).serveAll history).entries.map CacheEntry.id = [3, 1] := by
  intro dot history
  obtain ⟨-, -, -, -, -, -, -, -, closed⟩ := serveAll_retains_newest (some 8) history
  have leaves : ∀ request ∈ history, request.Leaves (some 8) := by
    simp [history, CacheRequest.Leaves]
  exact ⟨closed leaves, by decide +kernel, by decide +kernel⟩

end ImageCache

end PagePaint
