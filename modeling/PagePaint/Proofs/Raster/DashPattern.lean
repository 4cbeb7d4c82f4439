import PagePaint.Proofs.Number.Remainder
import PagePaint.Raster.Dash

set_option autoImplicit false

/-!
# Patterns from dash arrays

A dash array is usable if it can be repeated. Its pattern then has the entries of the array and
starts where the phase falls into their repetition, up to the roundings of the sums on the way
there. Any other array has no pattern.
-/

namespace PagePaint

open Binary32

structure IsLength (number : Float32) : Prop where
  finite : number.isFinite = true
  nonneg : 0 ≤ value number

theorem IsLength.stands {number : Float32} (length : IsLength number) :
    Stands number (value number) :=
  stands_value length.finite

namespace DashPattern

def total (dashes : List Float32) : Float32 := dashes.foldl (· + ·) 0

/-- A dash array that can be repeated from a phase: its entries are dashes and gaps in turn, none is
negative, and together they have a length. -/
structure Usable (dashes : List Float32) (phase : Float32) : Prop where
  paired : Even dashes.length
  nonneg : ∀ dash ∈ dashes, ¬ dash < 0
  positive : 0 < total dashes
  finite : (total dashes).isFinite = true
  phase : phase.isFinite = true

def start (pattern : DashPattern) : ℚ :=
  ((pattern.lengths.toList.take (pattern.firstEntry + 1)).map value).sum -
    value pattern.firstLength

/-- The most by which a pattern is off: a rounding for every entry that is added, one for every
entry that is taken away, and one for the phase. -/
def tolerance (pattern : DashPattern) : ℚ :=
  (2 * pattern.lengths.size + 1) * (roundoff * value pattern.period)

/-- A pattern that repeats a dash array from a phase. Its entries are those of the array, twice if
dashes and gaps do not take turns otherwise, and it starts as far into one repetition as the phase
is. -/
structure Repeats (pattern : DashPattern) (dashes : List Float32) (phase : Float32) : Prop where
  lengths : pattern.lengths.toList = dashes ∨ pattern.lengths.toList = dashes ++ dashes
  paired : Even pattern.lengths.size
  period : |value pattern.period - (pattern.lengths.toList.map value).sum| ≤ pattern.tolerance
  left : IsLength pattern.firstLength
  within : ∃ entry, pattern.lengths[pattern.firstEntry]? = some entry ∧
    value pattern.firstLength ≤ value entry
  start : ∃ turns : Int,
    |pattern.start - (value phase - turns * value pattern.period)| ≤ pattern.tolerance

/-!
## Sums
-/

section Sums

variable {dashes : List Float32} {number : Float32} {first : ℚ}

private theorem isLength_of_not_neg (finite : number.isFinite = true) (nonneg : ¬ number < 0) :
    IsLength number := by
  refine ⟨finite, ?_⟩
  rwa [(stands_value finite).lt_iff .zero, not_lt] at nonneg

private theorem isFinite_of_foldl (finite : (dashes.foldl (· + ·) number).isFinite = true) :
    number.isFinite = true := by
  induction dashes generalizing number with
  | nil => exact finite
  | cons dash rest ih => exact (isFinite_of_add (ih finite)).1

/-- What a sum in single precision says of what is added to a number: the sum is no less than the
number, than any entry, and off by no more than a rounding for each of them. -/
structure Totals (dashes : List Float32) (first sum : ℚ) : Prop where
  above : first ≤ sum
  lengths : ∀ dash ∈ dashes, IsLength dash
  entries : ∀ dash ∈ dashes, value dash ≤ sum
  close : |sum - (first + (dashes.map value).sum)| ≤ dashes.length * (roundoff * sum)

private theorem foldl_totals (stands : Stands number first) (above : 0 ≤ first)
    (nonneg : ∀ dash ∈ dashes, ¬ dash < 0)
    (finite : (dashes.foldl (· + ·) number).isFinite = true) :
    ∃ sum, Stands (dashes.foldl (· + ·) number) sum ∧ Totals dashes first sum := by
  induction dashes generalizing number first with
  | nil =>
      refine ⟨first, stands, le_rfl, by simp, by simp, ?_⟩
      simp
  | cons dash rest ih =>
      rw [List.forall_mem_cons] at nonneg
      obtain ⟨notNegative, nonneg⟩ := nonneg
      have added : (number + dash).isFinite = true := isFinite_of_foldl finite
      have length := isLength_of_not_neg (isFinite_of_add added).2 notNegative
      obtain ⟨next, nextStands, rounded⟩ :=
        stands.add_rounded length.stands (add_nonneg above length.nonneg) added
      have more : first ≤ next :=
        rounded.ge_of_ge (stands.held above) (le_add_of_nonneg_right length.nonneg)
      have atLeast : value dash ≤ next :=
        rounded.ge_of_ge (length.stands.held length.nonneg) (le_add_of_nonneg_left above)
      have error := rounded.error (add_nonneg above length.nonneg)
        (stands.stepped.add length.stands.stepped)
      obtain ⟨sum, sumStands, upward, lengths, entries, close⟩ :=
        ih nextStands (above.trans more) nonneg finite
      refine ⟨sum, sumStands, more.trans upward, List.forall_mem_cons.mpr ⟨length, lengths⟩,
        List.forall_mem_cons.mpr ⟨atLeast.trans upward, entries⟩, ?_⟩
      have larger : roundoff * next ≤ roundoff * sum :=
        mul_le_mul_of_nonneg_left upward roundoff_pos.le
      have detour := abs_sub_le sum (next + (rest.map value).sum)
        (first + ((dash :: rest).map value).sum)
      have step : next + (rest.map value).sum - (first + ((dash :: rest).map value).sum) =
          next - (first + value dash) := by
        rw [List.map_cons, List.sum_cons]
        ring
      rw [step] at detour
      rw [List.length_cons, Nat.cast_succ, add_mul, one_mul]
      linarith

private theorem Usable.totals {phase : Float32} (usable : Usable dashes phase) :
    Stands (total dashes) (value (total dashes)) ∧ 0 < value (total dashes) ∧
      Totals dashes 0 (value (total dashes)) := by
  obtain ⟨sum, stands, totals⟩ := foldl_totals .zero le_rfl usable.nonneg usable.finite
  rw [show value (total dashes) = sum from stands.value_eq]
  exact ⟨stands, (Stands.lt_iff .zero stands).mp usable.positive, totals⟩

end Sums

/-!
## Phases
-/

private theorem shortened_stands {length period : Float32} {first second : ℚ}
    (lengthStands : Stands length first) (periodStands : Stands period second) (above : 0 < first)
    (positive : 0 < second) :
    ∃ (turns : Nat) (rest : ℚ),
      Stands (if period < length then Binary32.remainder length period else length) rest ∧
        0 ≤ rest ∧ rest ≤ second ∧ first = turns * second + rest := by
  by_cases longer : period < length
  · rw [if_pos longer]
    obtain ⟨turns, rest, stands, nonneg, less, same⟩ :=
      lengthStands.remainder periodStands above positive
    exact ⟨turns, rest, stands, nonneg, less.le, same⟩
  · rw [if_neg longer]
    rw [periodStands.lt_iff lengthStands, not_lt] at longer
    exact ⟨0, first, lengthStands, above.le, longer, by simp⟩

/-- A wrapped phase lies within one repetition. It is off by one rounding, if it counts from the
end, and else by none. -/
theorem wrap_stands {phase period : Float32} {first second : ℚ} (phaseStands : Stands phase first)
    (periodStands : Stands period second) (positive : 0 < second) :
    ∃ (wrapped : ℚ) (turns : Int), Stands (wrap phase period) wrapped ∧ 0 ≤ wrapped ∧
      wrapped < second ∧ |wrapped - (first - turns * second)| ≤ roundoff * second := by
  have error : (0 : ℚ) < roundoff * second := mul_pos roundoff_pos positive
  unfold wrap
  by_cases negative : phase < 0
  · rw [if_pos negative]
    rw [phaseStands.lt_iff .zero] at negative
    extract_lets back rest
    have backStands : Stands back (-first) := phaseStands.neg
    obtain ⟨turns, gone, goneStands, nonneg, le, same⟩ :=
      shortened_stands backStands periodStands (by linarith) positive
    obtain ⟨left, leftStands, notNegative, below, close⟩ :=
      periodStands.sub_close goneStands nonneg le le_rfl
    replace leftStands : Stands rest left := leftStands
    -- A difference that is rounded to a whole repetition is none.
    by_cases whole : (rest == period) = true
    · rw [if_pos whole]
      rw [leftStands.beq_iff periodStands] at whole
      refine ⟨0, -turns, .zero, le_rfl, positive, ?_⟩
      rw [whole] at close
      have : 0 - (first - ((-turns : Int) : ℚ) * second) = second - (second - gone) := by
        push_cast
        linarith
      rwa [this]
    · rw [if_neg whole]
      rw [leftStands.beq_iff periodStands] at whole
      refine ⟨left, -(turns + 1), leftStands, notNegative, lt_of_le_of_ne below whole, ?_⟩
      have : left - (first - ((-(turns + 1) : Int) : ℚ) * second) = left - (second - gone) := by
        push_cast
        linarith
      rwa [this]
  · rw [if_neg negative]
    rw [phaseStands.lt_iff .zero, not_lt] at negative
    by_cases longer : period ≤ phase
    · rw [if_pos longer]
      rw [periodStands.le_iff phaseStands] at longer
      obtain ⟨turns, rest, stands, nonneg, less, same⟩ :=
        phaseStands.remainder periodStands (by linarith) positive
      refine ⟨rest, turns, stands, nonneg, less, ?_⟩
      rw [same, Int.cast_natCast, add_sub_cancel_left, sub_self, abs_zero]
      exact error.le
    · rw [if_neg longer]
      rw [periodStands.le_iff phaseStands, not_le] at longer
      refine ⟨first, 0, phaseStands, negative, longer, ?_⟩
      rw [Int.cast_zero, zero_mul, sub_zero, sub_self, abs_zero]
      exact error.le

/-!
## Where a pattern starts
-/

/-- Where a phase falls in entries: it ends in one of them and leaves a part of it, or it passes
them all. Each entry that is taken away costs a rounding. -/
inductive Falls (lengths : List Float32) (phase : ℚ) (error : ℚ) : Option (Nat × Float32) → Prop
  | within {entry : Nat} {length left : Float32} (found : lengths[entry]? = some length)
      (isLength : IsLength left) (less : value left ≤ value length)
      (close : |((lengths.take (entry + 1)).map value).sum - value left - phase| ≤
        (entry + 1) * error) : Falls lengths phase error (some (entry, left))
  | past (close : (lengths.map value).sum ≤ phase + lengths.length * error) :
      Falls lengths phase error none

private theorem Falls.cons {lengths : List Float32} {length : Float32} {phase next error : ℚ}
    {found : Option (Nat × Float32)} (falls : Falls lengths next error found)
    (close : |next - (phase - value length)| ≤ error) :
    Falls (length :: lengths) phase error
      (found.map fun found => (found.1 + 1, found.2)) := by
  cases falls with
  | @within entry _ left found isLength less close' =>
      refine .within found isLength less ?_
      rw [List.take_succ_cons, List.map_cons, List.sum_cons]
      have split : value length + ((lengths.take (entry + 1)).map value).sum - value left - phase =
          ((lengths.take (entry + 1)).map value).sum - value left - next +
            (next - (phase - value length)) := by ring
      rw [split]
      refine (abs_add_le _ _).trans ?_
      push_cast
      linarith
  | past close' =>
      refine .past ?_
      rw [List.map_cons, List.sum_cons, List.length_cons]
      have := (abs_le.mp close).2
      push_cast
      linarith

section Starts

variable {lengths : List Float32} {phase : Float32} {first bound : ℚ}

private theorem firstInterval_go_falls (entries : List Float32) (index : Nat)
    (stands : Stands phase first) (nonneg : 0 ≤ first) (below : first ≤ bound)
    (isLength : ∀ length ∈ lengths, IsLength length)
    (bounded : ∀ length ∈ lengths, value length ≤ bound) :
    ∃ found, Falls lengths first (roundoff * bound) found ∧
      firstInterval.go entries index phase lengths =
        match found with
        | some (entry, left) => (index + entry, left)
        | none => (0, entries.headD 0) := by
  induction lengths generalizing index phase first with
  | nil => exact ⟨none, .past (by simpa using nonneg), rfl⟩
  | cons length rest ih =>
      rw [List.forall_mem_cons] at isLength bounded
      obtain ⟨isLength, others⟩ := isLength
      obtain ⟨bounded, bounds⟩ := bounded
      rw [firstInterval.go]
      by_cases condition : (length < phase || (phase == length && length != 0)) = true
      · rw [if_pos condition]
        have le : value length ≤ first := by
          rw [Bool.or_eq_true, Bool.and_eq_true, decide_eq_true_eq, isLength.stands.lt_iff stands,
            stands.beq_iff isLength.stands] at condition
          obtain less | ⟨same, -⟩ := condition
          · exact less.le
          · exact same.ge
        obtain ⟨next, nextStands, notNegative, less, close⟩ :=
          stands.sub_close isLength.stands isLength.nonneg le below
        obtain ⟨found, falls, result⟩ :=
          ih (index + 1) nextStands notNegative (less.trans below) others bounds
        refine ⟨_, falls.cons close, result.trans ?_⟩
        cases found with
        | none => rfl
        | some found => exact congrArg (·, found.2) (by omega)
      · rw [if_neg condition]
        have le : first ≤ value length := by
          rw [Bool.or_eq_true, decide_eq_true_eq, not_or,
            isLength.stands.lt_iff stands] at condition
          exact not_lt.mp condition.1
        obtain ⟨left, leftStands, notNegative, less, close⟩ :=
          isLength.stands.sub_close stands nonneg le bounded
        have same := leftStands.value_eq
        refine ⟨some (0, length - phase), .within rfl ⟨leftStands.isFinite, ?_⟩ ?_ ?_, rfl⟩
        · rw [same]
          exact notNegative
        · rw [same]
          exact less
        · rw [same]
          simp only [List.take_succ_cons, List.take_zero, List.map_cons, List.map_nil,
            List.sum_cons, List.sum_nil, add_zero, Nat.cast_zero, zero_add, one_mul]
          have split : value length - left - first = -(left - (value length - first)) := by ring
          rwa [split, abs_neg]

private theorem firstInterval_falls (stands : Stands phase first) (nonneg : 0 ≤ first)
    (below : first ≤ bound) (isLength : ∀ length ∈ lengths, IsLength length)
    (bounded : ∀ length ∈ lengths, value length ≤ bound) :
    ∃ found, Falls lengths first (roundoff * bound) found ∧
      firstInterval lengths phase = found.getD (0, lengths.headD 0) := by
  obtain ⟨found, falls, result⟩ :=
    firstInterval_go_falls lengths 0 stands nonneg below isLength bounded
  refine ⟨found, falls, result.trans ?_⟩
  cases found with
  | none => rfl
  | some found => exact congrArg (·, found.2) (Nat.zero_add found.1)

end Starts

/-!
## Usable arrays have patterns
-/

section Patterns

variable {dashes : List Float32} {phase : Float32}

theorem usable_iff : usable dashes phase = true ↔ Usable dashes phase := by
  constructor
  · intro usable
    simp only [DashPattern.usable, Bool.and_eq_true, decide_eq_true_eq, beq_iff_eq,
      List.all_eq_true, Bool.not_eq_true', decide_eq_false_iff_not] at usable
    obtain ⟨⟨⟨⟨finitePhase, -⟩, paired⟩, nonneg⟩, finite, positive⟩ := usable
    exact ⟨Nat.even_iff.mpr paired, nonneg, positive, finite, finitePhase⟩
  · rintro ⟨paired, nonneg, positive, finite, finitePhase⟩
    -- The sum of no entries is not positive, so a pair of entries is there.
    have several : 2 ≤ dashes.length := by
      cases dashes with
      | nil => exact absurd positive (by decide)
      | cons dash rest =>
          rw [List.length_cons] at paired ⊢
          obtain ⟨half, same⟩ := paired
          omega
    simp only [DashPattern.usable, Bool.and_eq_true, decide_eq_true_eq, beq_iff_eq,
      List.all_eq_true, Bool.not_eq_true', decide_eq_false_iff_not]
    exact ⟨⟨⟨⟨finitePhase, several⟩, Nat.even_iff.mp paired⟩, nonneg⟩, finite, positive⟩

instance : Decidable (Usable dashes phase) :=
  decidable_of_iff (usable dashes phase = true) usable_iff

theorem of?_of_not_usable (refused : ¬ Usable dashes phase) : of? dashes phase = none :=
  if_neg fun usable => refused (usable_iff.mp usable)

theorem Usable.nonempty (usable : Usable dashes phase) : dashes ≠ [] := by
  rintro rfl
  exact absurd usable.positive (by decide)

/-- A phase that seems to pass all entries is off from a whole repetition by the roundings, and the
pattern starts over. -/
theorem Falls.starts {found : Option (Nat × Float32)} {wrapped period : ℚ}
    (falls : Falls dashes wrapped (roundoff * period) found) (totals : Totals dashes 0 period)
    (nonempty : dashes ≠ []) (less : wrapped < period) :
    let start := found.getD (0, dashes.headD 0)
    IsLength start.2 ∧
      (∃ length, dashes[start.1]? = some length ∧ value start.2 ≤ value length) ∧
      ∃ turn : Int, |((dashes.take (start.1 + 1)).map value).sum - value start.2 -
        (wrapped - turn * period)| ≤ 2 * dashes.length * (roundoff * period) := by
  have error : 0 ≤ roundoff * period := mul_nonneg roundoff_pos.le totals.above
  have sum := (abs_le.mp totals.close).2
  rw [zero_add] at sum
  cases falls with
  | @within entry length left found isLength le close =>
      refine ⟨isLength, ⟨length, found, le⟩, 0, ?_⟩
      rw [Int.cast_zero, zero_mul, sub_zero]
      refine close.trans (mul_le_mul_of_nonneg_right ?_ error)
      have entries : (entry : ℚ) + 1 ≤ dashes.length := by
        exact_mod_cast (List.getElem?_eq_some_iff.mp found).1
      linarith
  | past close =>
      obtain ⟨first, rest, rfl⟩ := List.exists_cons_of_ne_nil nonempty
      refine ⟨totals.lengths first List.mem_cons_self, ⟨first, rfl, le_rfl⟩, 1, ?_⟩
      simp only [Option.getD_none, List.headD_cons, List.take_succ_cons, List.take_zero,
        List.map_cons, List.map_nil, List.sum_cons, List.sum_nil, add_zero, sub_self, zero_sub,
        Int.cast_one, one_mul, neg_sub, zero_add]
      rw [abs_of_pos (sub_pos.mpr less)]
      rw [List.map_cons, List.sum_cons] at close sum
      linarith

private theorem Usable.of?_eq (usable : Usable dashes phase) :
    let start := firstInterval dashes (wrap phase (total dashes))
    of? dashes phase = some ⟨dashes.toArray, total dashes, start.1, start.2⟩ :=
  if_pos (usable_iff.mpr usable)

/-- The pattern of a usable array repeats it from the phase. -/
theorem Usable.repeats (usable : Usable dashes phase) :
    ∃ pattern, of? dashes phase = some pattern ∧ pattern.Repeats dashes phase := by
  obtain ⟨stands, positive, totals⟩ := usable.totals
  obtain ⟨wrapped, turns, wrappedStands, nonneg, less, close⟩ :=
    wrap_stands (stands_value usable.phase) stands positive
  obtain ⟨found, falls, result⟩ :=
    firstInterval_falls wrappedStands nonneg less.le totals.lengths totals.entries
  have starts := falls.starts totals usable.nonempty less
  rw [← result] at starts
  obtain ⟨isLength, ⟨length, held, le⟩, turn, starts⟩ := starts
  have error : 0 ≤ roundoff * value (total dashes) := (mul_pos roundoff_pos positive).le
  have entries : (0 : ℚ) ≤ dashes.length := Nat.cast_nonneg _
  refine ⟨_, usable.of?_eq, .inl rfl, usable.paired, ?_, isLength, ⟨length, ?_, le⟩,
    turns + turn, ?_⟩
  · have sum := totals.close
    rw [zero_add] at sum
    refine sum.trans (mul_le_mul_of_nonneg_right ?_ error)
    change (dashes.length : ℚ) ≤ 2 * dashes.length + 1
    linarith
  · rwa [List.getElem?_toArray]
  · set start := firstInterval dashes (wrap phase (total dashes))
    set reached := ((dashes.take (start.1 + 1)).map value).sum - value start.2
    change |reached - (value phase - (turns + turn : Int) * value (total dashes))| ≤
      (2 * dashes.length + 1) * (roundoff * value (total dashes))
    have detour := abs_sub_le reached (wrapped - turn * value (total dashes))
      (value phase - (turns + turn : Int) * value (total dashes))
    have step : wrapped - turn * value (total dashes) -
        (value phase - (turns + turn : Int) * value (total dashes)) =
          wrapped - (value phase - turns * value (total dashes)) := by
      push_cast
      ring
    rw [step] at detour
    linarith

end Patterns

end DashPattern

end PagePaint
