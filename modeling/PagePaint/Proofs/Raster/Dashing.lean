import PagePaint.Proofs.Raster.DashPattern

set_option autoImplicit false

/-!
# Dashes along a contour

A pattern that repeats a dash array cuts a contour into stretches. The first one is what the pattern
leaves of its first entry, and then the entries of the array follow in turn, without end. The dashes
of a contour are its stretches in order up to its end, dashes and gaps alternating.
-/

namespace PagePaint

open Binary32

namespace DashPattern

def extent (pattern : DashPattern) (dashes : List Float32) : Nat → Float32
  | 0 => pattern.firstLength
  | stretch + 1 => (dashes[(pattern.firstEntry + (stretch + 1)) % dashes.length]?).getD 0

def reach (pattern : DashPattern) (dashes : List Float32) : Nat → Float32
  | 0 => 0
  | stretch + 1 => pattern.reach dashes stretch + pattern.extent dashes stretch

def entry (pattern : DashPattern) (stretch : Nat) : Nat :=
  (pattern.firstEntry + stretch) % pattern.lengths.size

variable {pattern : DashPattern} {dashes : List Float32} {phase : Float32}

theorem Repeats.inside (repeats : pattern.Repeats dashes phase) :
    pattern.firstEntry < pattern.lengths.size := by
  obtain ⟨entry, found, -⟩ := repeats.within
  exact (Array.getElem?_eq_some_iff.mp found).1

private theorem Repeats.entry_zero (repeats : pattern.Repeats dashes phase) :
    pattern.entry 0 = pattern.firstEntry :=
  Nat.mod_eq_of_lt repeats.inside

theorem Repeats.entry_lt (repeats : pattern.Repeats dashes phase) (stretch : Nat) :
    pattern.entry stretch < pattern.lengths.size :=
  Nat.mod_lt _ (Nat.zero_lt_of_lt repeats.inside)

private theorem Repeats.entry_succ (repeats : pattern.Repeats dashes phase) (stretch : Nat) :
    pattern.entry (stretch + 1) =
      if pattern.entry stretch + 1 = pattern.lengths.size then 0
      else pattern.entry stretch + 1 := by
  have less := repeats.entry_lt stretch
  have next : pattern.entry (stretch + 1) =
      (pattern.entry stretch + 1) % pattern.lengths.size := by
    rw [entry, entry, Nat.mod_add_mod, Nat.add_assoc]
  rw [next]
  by_cases last : pattern.entry stretch + 1 = pattern.lengths.size
  · rw [if_pos last, last, Nat.mod_self]
  · rw [if_neg last, Nat.mod_eq_of_lt (by omega)]

private theorem Repeats.isDash_entry (repeats : pattern.Repeats dashes phase) (stretch : Nat) :
    isDash (pattern.entry stretch) = decide (Even (pattern.firstEntry + stretch)) := by
  have same : pattern.entry stretch % 2 = (pattern.firstEntry + stretch) % 2 :=
    Nat.mod_mod_of_dvd _ repeats.paired.two_dvd
  rw [isDash, same, Bool.eq_iff_iff, beq_iff_eq, decide_eq_true_eq, Nat.even_iff]

/-- Whether the pattern has the array once or twice, its entries are those of the array in turn. -/
theorem Repeats.lengths_entry (repeats : pattern.Repeats dashes phase) (stretch : Nat) :
    pattern.lengths[pattern.entry stretch]? =
      dashes[(pattern.firstEntry + stretch) % dashes.length]? := by
  have size : pattern.lengths.size = pattern.lengths.toList.length :=
    Array.length_toList.symm
  have less := repeats.entry_lt stretch
  rw [← Array.getElem?_toList]
  obtain once | twice := repeats.lengths
  · rw [entry, size, once]
  · -- A position in both copies is the same modulo the length of one.
    have same : pattern.entry stretch % dashes.length =
        (pattern.firstEntry + stretch) % dashes.length := by
      refine Nat.mod_mod_of_dvd _ ⟨2, ?_⟩
      rw [size, twice, List.length_append, Nat.mul_two]
    rw [size, twice, List.length_append] at less
    rw [twice, List.getElem?_append, ← same]
    by_cases first : pattern.entry stretch < dashes.length
    · rw [if_pos first, Nat.mod_eq_of_lt first]
    · rw [if_neg first, Nat.mod_eq_sub_mod (not_lt.mp first), Nat.mod_eq_of_lt (by omega)]

end DashPattern

namespace Measured

variable {contour : Measured} {pattern : DashPattern} {dashes : List Float32} {phase : Float32}

def drawStretch (contour : Measured) (pattern : DashPattern) (dashes : List Float32)
    (dashing : Dashing) (stretch : Nat) : Dashing :=
  let draws := decide (Even (pattern.firstEntry + stretch)) && !dashing.skips
  { path :=
      if draws then
        contour.drawBetween dashing.path (pattern.reach dashes stretch)
          (pattern.reach dashes (stretch + 1)) true
      else dashing.path
    skips := false
    drew := draws }

theorem drawDashes_of_reached {distance : Float32} (reached : ¬ distance < contour.length)
    (fuel entry : Nat) (rest : Float32) (dashing : Dashing) :
    contour.drawDashes pattern fuel entry distance rest dashing = dashing := by
  cases fuel with
  | zero => rfl
  | succ fuel => rw [drawDashes, if_neg reached]

private theorem drawDashes_step (repeats : pattern.Repeats dashes phase) {stretch : Nat}
    (short : pattern.reach dashes stretch < contour.length) (fuel : Nat) (dashing : Dashing) :
    contour.drawDashes pattern (fuel + 1) (pattern.entry stretch) (pattern.reach dashes stretch)
        (pattern.extent dashes stretch) dashing =
      contour.drawDashes pattern fuel (pattern.entry (stretch + 1))
        (pattern.reach dashes (stretch + 1)) (pattern.extent dashes (stretch + 1))
        (contour.drawStretch pattern dashes dashing stretch) := by
  rw [drawDashes, if_pos short]
  simp only [← repeats.entry_succ, repeats.lengths_entry, repeats.isDash_entry]
  rfl

private theorem drawDashes_run (contour : Measured) (repeats : pattern.Repeats dashes phase)
    (fuel stretch : Nat) (dashing : Dashing) :
    ∃ count ≤ fuel,
      (∀ drawn < count, pattern.reach dashes (stretch + drawn) < contour.length) ∧
        (count = fuel ∨ ¬ pattern.reach dashes (stretch + count) < contour.length) ∧
          contour.drawDashes pattern fuel (pattern.entry stretch) (pattern.reach dashes stretch)
              (pattern.extent dashes stretch) dashing =
            (List.range' stretch count).foldl (contour.drawStretch pattern dashes) dashing := by
  -- Each stretch takes one off the fuel, and the next one has its entry, start and length.
  induction fuel generalizing stretch dashing with
  | zero => exact ⟨0, le_rfl, fun _ none => absurd none (Nat.not_lt_zero _), .inl rfl, rfl⟩
  | succ fuel ih =>
      by_cases short : pattern.reach dashes stretch < contour.length
      · obtain ⟨count, enough, before, ends, result⟩ :=
          ih (stretch + 1) (contour.drawStretch pattern dashes dashing stretch)
        refine ⟨count + 1, Nat.succ_le_succ enough, ?_, ?_, ?_⟩
        · intro drawn less
          cases drawn with
          | zero => exact short
          | succ drawn =>
              rw [Nat.add_comm drawn 1, ← Nat.add_assoc]
              exact before drawn (Nat.lt_of_succ_lt_succ less)
        · rw [Nat.add_comm count 1, ← Nat.add_assoc, Nat.add_comm 1 count]
          exact ends.imp_left (congrArg Nat.succ)
        · rw [drawDashes_step repeats short, result]
          rfl
      · refine ⟨0, Nat.zero_le _, fun _ none => absurd none (Nat.not_lt_zero _), .inr short, ?_⟩
        exact drawDashes_of_reached short _ _ _ _

/-- What is drawn along a contour, after a path, is the stretches of a dash array: one after the
other, until one does not start before the end of the contour. Only a contour with more stretches
than the bound is left unfinished. On a closed contour a dash at the start is left for the end. -/
def DrawnInStretches (contour : Measured) (pattern : DashPattern) (dashes : List Float32)
    (path drawn : Outline.Draft Float32) : Prop :=
  ∃ count, (∀ stretch < count, pattern.reach dashes stretch < contour.length) ∧
    (count = 4000000 * (pattern.lengths.size + 1) ∨
      ¬ pattern.reach dashes count < contour.length) ∧
      let dashing := (List.range count).foldl (contour.drawStretch pattern dashes)
        ⟨path, contour.closed, false⟩
      drawn =
        if contour.closed && DashPattern.isDash pattern.firstEntry then
          contour.drawBetween dashing.path 0 pattern.firstLength (!dashing.drew)
        else dashing.path

theorem dash_drawnInStretches (contour : Measured) (repeats : pattern.Repeats dashes phase)
    (path : Outline.Draft Float32) :
    contour.DrawnInStretches pattern dashes path (contour.dash pattern path) := by
  obtain ⟨count, -, before, ends, result⟩ := drawDashes_run contour repeats
    (4000000 * (pattern.lengths.size + 1)) 0 ⟨path, contour.closed, false⟩
  simp only [Nat.zero_add] at before ends
  rw [repeats.entry_zero, ← List.range_eq_range'] at result
  have nonneg : 0 ≤ pattern.firstLength :=
    (Stands.le_iff .zero repeats.left.stands).mpr repeats.left.nonneg
  refine ⟨count, before, ends, ?_⟩
  rw [← result]
  simp only [dash, decide_eq_true nonneg, Bool.and_true]
  rfl

private theorem dash_of_empty (opened : contour.closed = false) (empty : ¬ 0 < contour.length)
    (path : Outline.Draft Float32) : contour.dash pattern path = path := by
  rw [dash, drawDashes_of_reached empty, opened]
  rfl

end Measured

namespace Outline

theorem dashed?_of_empty {outline : Outline Float32} {scale : Float32}
    (empty : ∀ contour ∈ Measured.ofOutline outline scale,
      contour.closed = false ∧ ¬ 0 < contour.length) (pattern : DashPattern) :
    outline.dashed? pattern scale = none := by
  unfold dashed?
  extract_lets halves
  rw [← Array.foldlM_toList]
  refine Option.bind_eq_none_iff.mpr fun result found => ?_
  -- The count of dashes may be anything, but the path stays as it was at the start.
  have kept : result.1 = Draft.empty := by
    refine SatisfiesM_Option_eq.mp (List.satisfiesM_foldlM
      (motive := fun result : Draft Float32 × Float32 => result.1 = Draft.empty) rfl ?_) _ found
    rintro ⟨path, count⟩ rfl contour member
    obtain ⟨opened, without⟩ := empty contour (Array.mem_toList_iff.mp member)
    refine SatisfiesM_Option_eq.mpr fun next drawn => ?_
    dsimp only at drawn
    by_cases many : Measured.mostDashes < count + contour.length * halves / pattern.period
    · rw [if_pos many] at drawn
      cases drawn
    · rw [if_neg many, Measured.dash_of_empty opened without] at drawn
      cases drawn
      rfl
  obtain ⟨path, count⟩ := result
  cases kept
  rfl

end Outline

end PagePaint
