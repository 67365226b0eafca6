/-
  THE SAMPLE TIMELINE: `phono_clock_mapper_*` (`native/src/clock_estimator.c`) in exact arithmetic.

  A mapper is a line through an anchor, read at whole microseconds.  An update moves the anchor along
  the line to the sample position of the update, at its rounded time, and turns the line a little
  toward a fit.

  * `LongDouble.exact`  — the operations of the C type, exact, over any ordered field with a floor;
  * `timestamp_eq`, `update_eq` — what the two functions are there, in terms of that field;
  * `MapperRun`, `mapping` — any calls at sample positions that do not decrease;
  * `Timeline`          — the invariant: the slope is positive, what was returned increases, and
    nothing returned lies beyond the present position;
  * `timeline_continuous` — so in every run.
-/
import PhonoConsole.Engine
import PhonoConsole.Lib.Rounding

namespace PhonoConsole.Engine

open Rounding

/-! ## Exact arithmetic -/

/-- The operations of `long double` without their rounding. -/
@[reducible] def LongDouble.exact (K : Type) [Field K] [LinearOrder K] [FloorRing K] :
    LongDouble K where
  ofInt n := n
  llroundl := halfAway
  decidableLT := inferInstance
  decidableLE := inferInstance

attribute [local instance] LongDouble.exact

variable {K : Type} [Field K] [LinearOrder K] [FloorRing K]

/-- The line of a mapper, unrounded and without its constant. -/
def ClockMapper.elapsed (m : ClockMapper K) (samplePosition : UInt64) : K :=
  ((samplePosition.toNat : K) - m.anchorSample.toNat) * m.usPerSample

theorem timestamp_eq (m : ClockMapper K) (samplePosition : UInt64) :
    phonoClockMapperTimestamp m samplePosition =
      m.anchorTimeUs + halfAway (m.elapsed samplePosition) := by
  show m.anchorTimeUs + halfAway ((((samplePosition.toNat : ℤ) : K) -
    ((m.anchorSample.toNat : ℤ) : K)) * m.usPerSample) = _
  simp only [Int.cast_natCast, ClockMapper.elapsed]

/-- The change of slope that an update makes. -/
def clampedChange (slope wanted maxStepPpm : K) : K :=
  let limit := slope * maxStepPpm / 1000000
  max (-limit) (min limit (wanted - slope))

theorem ite_lt_eq_min (a b : K) [Decidable (a < b)] : (if a < b then a else b) = min a b := by
  split
  · rename_i h
    exact (min_eq_left h.le).symm
  · rename_i h
    exact (min_eq_right (not_lt.mp h)).symm

theorem ite_lt_eq_max (a b : K) [Decidable (b < a)] : (if b < a then a else b) = max a b := by
  split
  · rename_i h
    exact (max_eq_left h.le).symm
  · rename_i h
    exact (max_eq_right (not_lt.mp h)).symm

/-- An update with a fit that runs forwards. -/
theorem update_eq {m : ClockMapper K} (hinit : m.initialized = true) {fit : ClockFit K}
    (hfit : 0 < fit.usPerSample) (samplePosition : UInt64) (maxStepPpm : K) :
    phonoClockMapperUpdate m fit samplePosition maxStepPpm =
      { m with
        anchorSample := samplePosition
        anchorTimeUs := phonoClockMapperTimestamp m samplePosition
        usPerSample := m.usPerSample + clampedChange m.usPerSample fit.usPerSample maxStepPpm } := by
  have hgo : ¬ (¬ m.initialized = true ∨ fit.usPerSample ≤ LongDouble.ofInt 0) := by
    rintro (h | h)
    · exact h hinit
    · have hle : fit.usPerSample ≤ ((0 : ℤ) : K) := h
      rw [Int.cast_zero] at hle
      exact hle.not_gt hfit
  have hlimit : (LongDouble.ofInt 1000000 : K) = 1000000 := by
    show ((1000000 : ℤ) : K) = _
    norm_num
  unfold phonoClockMapperUpdate
  rw [if_neg hgo, hlimit]
  simp only [clampedChange, ite_lt_eq_min, ite_lt_eq_max]

/-- A mapper that is not initialized, or a fit that does not run forwards, changes nothing. -/
theorem update_skip {m : ClockMapper K} {fit : ClockFit K} (h : fit.usPerSample ≤ 0)
    (samplePosition : UInt64) (maxStepPpm : K) :
    phonoClockMapperUpdate m fit samplePosition maxStepPpm = m := by
  have hskip : fit.usPerSample ≤ (LongDouble.ofInt 0 : K) := by
    show fit.usPerSample ≤ ((0 : ℤ) : K)
    rwa [Int.cast_zero]
  unfold phonoClockMapperUpdate
  rw [if_pos (.inr hskip)]

/-! ## The runs -/

/-- A mapper, the sample position of the last call, and the timestamps returned so far. -/
structure MapperRun (K : Type) where
  mapper : ClockMapper K
  position : UInt64
  returned : List Int

/-- A call of the mapper by the capture loop. -/
inductive MapperCall (K : Type)
  | update (fit : ClockFit K) (samplePosition : UInt64)
  | timestamp (samplePosition : UInt64)

/-- A call at the position of the last one or beyond. -/
def MapperRun.next (s : MapperRun K) : MapperCall K → Option (MapperRun K)
  | .update fit samplePosition =>
      if s.position ≤ samplePosition then
        some { s with
          mapper := phonoClockMapperUpdate s.mapper fit samplePosition (LongDouble.ofInt 10)
          position := samplePosition }
      else none
  | .timestamp samplePosition =>
      if s.position ≤ samplePosition then
        some { s with
          position := samplePosition
          returned := s.returned ++ [phonoClockMapperTimestamp s.mapper samplePosition] }
      else none

/-- Any calls, from a mapper that was initialised with a positive rate. -/
def mapping (K : Type) [Field K] [LinearOrder K] [FloorRing K] :
    Machine (MapperRun K) (MapperCall K) where
  init s := ∃ samplePosition timestampUs nominalRateHz, 0 < nominalRateHz ∧
    s = ⟨phonoClockMapperInit samplePosition timestampUs nominalRateHz, samplePosition, []⟩
  next := MapperRun.next

/-! ## The timeline -/

variable [IsStrictOrderedRing K] {m : ClockMapper K} {s s' : MapperRun K} {fit : ClockFit K}
  {p q : UInt64}

/-- At an anchor a mapper shows the anchor's time. -/
theorem timestamp_anchor (m : ClockMapper K) :
    phonoClockMapperTimestamp m m.anchorSample = m.anchorTimeUs := by
  rw [timestamp_eq, ClockMapper.elapsed, sub_self, zero_mul, halfAway_zero, add_zero]

/-- Between two updates time follows the samples. -/
theorem timestamp_mono (hslope : 0 < m.usPerSample) (h : p ≤ q) :
    phonoClockMapperTimestamp m p ≤ phonoClockMapperTimestamp m q := by
  have hsamples : (p.toNat : K) ≤ q.toNat := by exact_mod_cast UInt64.le_iff_toNat_le.mp h
  have helapsed : m.elapsed p ≤ m.elapsed q :=
    mul_le_mul_of_nonneg_right (sub_le_sub_right hsamples _) hslope.le
  rw [timestamp_eq, timestamp_eq]
  exact add_le_add_right (halfAway_mono helapsed) _

/-- A slope changes by a bounded part of itself. -/
theorem abs_clampedChange_le {slope wanted ppm : K} (h : 0 ≤ slope * ppm / 1000000) :
    |clampedChange slope wanted ppm| ≤ slope * ppm / 1000000 :=
  abs_le.mpr ⟨le_max_left _ _, max_le (by linarith) (min_le_left _ _)⟩

/-- **An update**: the time at its own position stays, and the slope changes by 10 ppm at most. -/
theorem update_spec (hinit : m.initialized = true) (hslope : 0 < m.usPerSample) (fit : ClockFit K)
    (p : UInt64) {m' : ClockMapper K}
    (hm' : phonoClockMapperUpdate m fit p (LongDouble.ofInt 10) = m') :
    m'.initialized = true ∧
      phonoClockMapperTimestamp m' p = phonoClockMapperTimestamp m p ∧
      |m'.usPerSample - m.usPerSample| ≤ m.usPerSample * 10 / 1000000 := by
  have hten : (LongDouble.ofInt 10 : K) = 10 := by
    show ((10 : ℤ) : K) = _
    norm_num
  have hlimit : 0 ≤ m.usPerSample * 10 / 1000000 := by linarith
  rw [hten] at hm'
  rcases le_or_gt fit.usPerSample 0 with hback | hfit
  · rw [update_skip hback] at hm'
    subst hm'
    rw [sub_self, abs_zero]
    exact ⟨hinit, rfl, hlimit⟩
  · rw [update_eq hinit hfit] at hm'
    subst hm'
    refine ⟨hinit, timestamp_anchor _, ?_⟩
    rw [add_sub_cancel_left]
    exact abs_clampedChange_le hlimit

/-- The slope is positive, what was returned never decreases, and nothing returned lies beyond the
    time of the last call's position. -/
structure Timeline (s : MapperRun K) : Prop where
  initialized : s.mapper.initialized = true
  slope : 0 < s.mapper.usPerSample
  returned : s.returned.Pairwise (· ≤ ·)
  reached : ∀ t ∈ s.returned, t ≤ phonoClockMapperTimestamp s.mapper s.position

theorem Timeline.init (hs : (mapping K).init s) : Timeline s := by
  obtain ⟨samplePosition, timestampUs, nominalRateHz, hrate, rfl⟩ := hs
  refine ⟨rfl, ?_, .nil, fun t ht => nomatch ht⟩
  show 0 < ((1000000 : ℤ) : K) / ((nominalRateHz : ℤ) : K)
  rw [Int.cast_natCast]
  exact div_pos (by norm_num) (by exact_mod_cast hrate)

/-- Every call keeps the timeline. -/
theorem Timeline.next {call : MapperCall K} (h : Timeline s) (hnext : s.next call = some s') :
    Timeline s' := by
  cases call with
  | update fit p =>
    simp only [MapperRun.next] at hnext
    split at hnext
    · rename_i hp
      obtain rfl := Option.some.inj hnext
      obtain ⟨hinit, htime, hchange⟩ := update_spec h.initialized h.slope fit p rfl
      have hslope := h.slope
      -- ten millionths of a positive slope cannot make it vanish
      refine ⟨hinit, ?_, h.returned, fun t ht => ?_⟩
      · have hlow := (abs_le.mp hchange).1
        show 0 < (phonoClockMapperUpdate s.mapper fit p (LongDouble.ofInt 10)).usPerSample
        linarith
      · show t ≤ phonoClockMapperTimestamp (phonoClockMapperUpdate s.mapper fit p _) p
        rw [htime]
        exact (h.reached t ht).trans (timestamp_mono hslope hp)
    · cases hnext
  | timestamp p =>
    simp only [MapperRun.next] at hnext
    split at hnext
    · rename_i hp
      obtain rfl := Option.some.inj hnext
      have hbelow : ∀ t ∈ s.returned, t ≤ phonoClockMapperTimestamp s.mapper p := fun t ht =>
        (h.reached t ht).trans (timestamp_mono h.slope hp)
      refine ⟨h.initialized, h.slope, ?_, fun t ht => ?_⟩
      · refine List.pairwise_append.mpr ⟨h.returned, List.pairwise_singleton _ _, ?_⟩
        intro t ht t' ht'
        rw [List.mem_singleton.mp ht']
        exact hbelow t ht
      · rcases List.mem_append.mp ht with hold | hnew
        · exact hbelow t hold
        · rw [List.mem_singleton.mp hnew]
    · cases hnext

/-- **The timeline is continuous**: in every run of updates and queries at sample positions that do
    not decrease, the slope stays positive, no timestamp lies before an earlier one, and an update
    keeps the time at its own position and turns the slope by 10 ppm at most. -/
theorem timeline_continuous (h : (mapping K).Reach Machine.anyMove s) :
    0 < s.mapper.usPerSample ∧ s.returned.Pairwise (· ≤ ·) ∧
    ∀ fit p s', s.next (.update fit p) = some s' →
      phonoClockMapperTimestamp s'.mapper p = phonoClockMapperTimestamp s.mapper p ∧
      |s'.mapper.usPerSample - s.mapper.usPerSample| ≤ s.mapper.usPerSample * 10 / 1000000 := by
  have htimeline : Timeline s :=
    h.invariant (fun _ => Timeline.init) fun _ _ _ hs _ hnext => hs.next hnext
  refine ⟨htimeline.slope, htimeline.returned, fun fit p s' hnext => ?_⟩
  simp only [MapperRun.next] at hnext
  split at hnext
  · obtain rfl := Option.some.inj hnext
    exact (update_spec htimeline.initialized htimeline.slope fit p rfl).2
  · cases hnext

/-- A fit of 48010 Hz. -/
def fasterFit : ClockFit ℚ := ⟨1000000 / 48010, 0, 0, 0, 0⟩

/-- An update by a much faster fit, between queries. -/
theorem timeline_continuous_faster : ∃ s : MapperRun ℚ,
    s.returned = [1000000, 2000000, 2020000, 2999990] ∧ s.mapper.usPerSample < 1000000 / 48000 ∧
      s.returned.Pairwise (· ≤ ·) ∧ 0 < s.mapper.usPerSample := by
  obtain ⟨s, hs, hreturned, hslope⟩ := Machine.exists_reach (m := mapping ℚ)
    (l := [.timestamp 0, .timestamp 48000, .update fasterFit 48000, .timestamp 48960,
      .timestamp 96000])
    (fun s => s.returned = [1000000, 2000000, 2020000, 2999990] ∧
      s.mapper.usPerSample < 1000000 / 48000)
    (s := ⟨phonoClockMapperInit 0 1000000 48000, 0, []⟩)
    ⟨0, 1000000, 48000, by decide, rfl⟩ (by decide +kernel)
  obtain ⟨hpositive, hsorted, -⟩ := timeline_continuous hs
  exact ⟨s, hreturned, hslope, hsorted, hpositive⟩

end PhonoConsole.Engine
