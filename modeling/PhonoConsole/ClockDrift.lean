/-
  RE-ANCHORING: what the updates of a clock mapper do to its line when the fits agree with it.

  An update stores the time of its position as a whole number of microseconds and drops the fraction,
  so the next line starts off the old one by what the rounding made of the gap between the two anchors.
  Nothing takes these errors back: they add up.

  * `roundingError`  — what `llroundl` makes of the time between two sample positions;
  * `accumulated`    — the sum of these errors along the anchors;
  * `updates_error`  — by induction on the updates, exactly the distance of the timestamps from the
    first line;
  * `drift_iff`      — so when that distance stays within 1 µs.
-/
import PhonoConsole.ClockMapper

namespace PhonoConsole.Engine

open Rounding

attribute [local instance] LongDouble.exact

variable {K : Type} [Field K] [LinearOrder K] [FloorRing K]

/-- Updates one after another, each with its fit and its sample position. -/
def updates (maxStepPpm : K) : ClockMapper K → List (ClockFit K × UInt64) → ClockMapper K
  | m, [] => m
  | m, (fit, samplePosition) :: rest =>
      updates maxStepPpm (phonoClockMapperUpdate m fit samplePosition maxStepPpm) rest

/-- What rounding adds to the time from one sample position to another. -/
def roundingError (slope : K) (p q : UInt64) : K :=
  halfAway (((q.toNat : K) - p.toNat) * slope) - ((q.toNat : K) - p.toNat) * slope

/-- The rounding errors from one position to the next. -/
def accumulated (slope : K) : UInt64 → List UInt64 → K
  | _, [] => 0
  | p, q :: rest => roundingError slope p q + accumulated slope q rest

/-- The last of the positions, or the one they start from. -/
def lastPosition : UInt64 → List UInt64 → UInt64
  | p, [] => p
  | _, q :: rest => lastPosition q rest

variable [IsStrictOrderedRing K] {maxStepPpm : K} {m : ClockMapper K}

/-- A fit of the mapper's own slope only moves the anchor. -/
theorem update_steady (hinit : m.initialized = true) (hslope : 0 < m.usPerSample)
    (hstep : 0 ≤ maxStepPpm) {fit : ClockFit K} (hfit : fit.usPerSample = m.usPerSample)
    (p : UInt64) : phonoClockMapperUpdate m fit p maxStepPpm =
      { m with anchorSample := p, anchorTimeUs := phonoClockMapperTimestamp m p } := by
  have hlimit : 0 ≤ m.usPerSample * maxStepPpm / 1000000 :=
    div_nonneg (mul_nonneg hslope.le hstep) (by norm_num)
  have hchange : clampedChange m.usPerSample fit.usPerSample maxStepPpm = 0 := by
    unfold clampedChange
    dsimp only
    rw [hfit, sub_self, min_eq_right hlimit, max_eq_right (by linarith)]
  rw [update_eq hinit (hfit ▸ hslope), hchange, add_zero]

omit [IsStrictOrderedRing K] in
/-- What a new anchor adds to the line through it. -/
theorem reanchored (m : ClockMapper K) (p s : UInt64) :
    (phonoClockMapperTimestamp m p : K) + ((s.toNat : K) - p.toNat) * m.usPerSample =
      m.anchorTimeUs + m.elapsed s + roundingError m.usPerSample m.anchorSample p := by
  rw [timestamp_eq, roundingError, ClockMapper.elapsed, ClockMapper.elapsed]
  push_cast
  ring

/-- **The errors add up**: after any updates that agree with the mapper, a timestamp is off the first
    line by the errors along the anchors and its own. -/
theorem updates_error (hinit : m.initialized = true) (hslope : 0 < m.usPerSample)
    (hstep : 0 ≤ maxStepPpm) {calls : List (ClockFit K × UInt64)}
    (hfits : ∀ call ∈ calls, call.1.usPerSample = m.usPerSample) (s : UInt64) :
    (phonoClockMapperTimestamp (updates maxStepPpm m calls) s : K) -
        (m.anchorTimeUs + m.elapsed s) =
      accumulated m.usPerSample m.anchorSample (calls.map Prod.snd) +
        roundingError m.usPerSample (lastPosition m.anchorSample (calls.map Prod.snd)) s := by
  induction calls generalizing m with
  | nil =>
    rw [updates, timestamp_eq]
    simp only [List.map_nil, accumulated, lastPosition, roundingError, ClockMapper.elapsed]
    push_cast
    ring
  | cons call rest ih =>
    obtain ⟨fit, p⟩ := call
    have hfit : fit.usPerSample = m.usPerSample := hfits (fit, p) List.mem_cons_self
    have hmoved := update_steady hinit hslope hstep hfit p
    have hrest : ∀ call ∈ rest, call.1.usPerSample = m.usPerSample := fun call hcall =>
      hfits call (List.mem_cons_of_mem _ hcall)
    have hih := @ih { m with anchorSample := p, anchorTimeUs := phonoClockMapperTimestamp m p }
      hinit hslope hrest
    have hanchor := reanchored m p s
    rw [updates, hmoved, List.map_cons, accumulated, lastPosition]
    simp only [ClockMapper.elapsed] at hih hanchor ⊢
    linarith

theorem abs_roundingError_le (slope : K) (p q : UInt64) : |roundingError slope p q| ≤ 1 / 2 :=
  abs_halfAway_sub_le _

theorem roundingError_self (slope : K) (p : UInt64) : roundingError slope p p = 0 := by
  simp [roundingError]

/-- **When re-anchoring stays within 1 µs**: exactly when the errors of the gaps add up to a sum that
    the rounding at no later position takes beyond it, so always up to a half, and never beyond 1. -/
theorem drift_iff {slope maxStepPpm : K} (hslope : 0 < slope) (hstep : 0 ≤ maxStepPpm)
    (anchorSample : UInt64) (anchorTimeUs : ℤ) (calls : List (ClockFit K × UInt64))
    (hfits : ∀ call ∈ calls, call.1.usPerSample = slope) :
    let mapper := updates maxStepPpm ⟨anchorSample, anchorTimeUs, slope, true⟩ calls
    let positions := calls.map Prod.snd
    let last := lastPosition anchorSample positions
    let error := accumulated slope anchorSample positions
    let within := ∀ s, last ≤ s → |(phonoClockMapperTimestamp mapper s : K) -
      (anchorTimeUs + ((s.toNat : K) - anchorSample.toNat) * slope)| ≤ 1
    (within ↔ ∀ s, last ≤ s → |error + roundingError slope last s| ≤ 1) ∧
      (|error| ≤ 1 / 2 → within) ∧ (1 < |error| → ¬ within) := by
  intro mapper positions last error within
  have herror : ∀ s, (phonoClockMapperTimestamp mapper s : K) -
      (anchorTimeUs + ((s.toNat : K) - anchorSample.toNat) * slope) =
      error + roundingError slope last s :=
    @updates_error K _ _ _ _ maxStepPpm ⟨anchorSample, anchorTimeUs, slope, true⟩ rfl hslope hstep
      calls hfits
  have hwithin : within ↔ ∀ s, last ≤ s → |error + roundingError slope last s| ≤ 1 :=
    forall₂_congr fun s _ => by rw [herror s]
  refine ⟨hwithin, fun hhalf => hwithin.mpr fun s _ => ?_, fun hbeyond hno => ?_⟩
  · calc |error + roundingError slope last s|
        ≤ |error| + |roundingError slope last s| := abs_add_le _ _
      _ ≤ 1 / 2 + 1 / 2 := add_le_add hhalf (abs_roundingError_le _ _ _)
      _ = 1 := by norm_num
  · -- at the last anchor nothing is rounded
    have hlast := hwithin.mp hno last (UInt64.le_refl _)
    rw [roundingError_self, add_zero] at hlast
    exact hlast.not_gt hbeyond

/-- Fits of 44100 Hz, at the sample positions of the updates: one every 50 periods of 960 frames. -/
def steadyUpdates : List (ClockFit ℚ × UInt64) :=
  [47040, 95040, 143040, 191040, 239040].map fun p => (⟨10000 / 441, 0, 0, 0, 0⟩, p)

/-- Five updates of a capture at 44100 Hz take its timestamps more than 1 µs off the line. -/
theorem drift_reached : ¬ ∀ s : UInt64, 239040 ≤ s →
    |(phonoClockMapperTimestamp (updates 10 ⟨0, 0, 10000 / 441, true⟩ steadyUpdates) s : ℚ) -
      ((s.toNat : ℚ) * (10000 / 441))| ≤ 1 := by
  intro h
  exact absurd (h 239040 (by decide)) (by decide +kernel)

/-- Fits of 48000 Hz, a second apart. -/
def secondUpdates : List (ClockFit ℚ × UInt64) :=
  [48000, 96000, 144000].map fun p => (⟨125 / 6, 0, 0, 0, 0⟩, p)

/-- Where the line passes through whole microseconds nothing is dropped. -/
theorem drift_iff_seconds :
    accumulated (125 / 6 : ℚ) 0 (secondUpdates.map Prod.snd) = 0 ∧ ∀ s : UInt64, 144000 ≤ s →
      |(phonoClockMapperTimestamp (updates 10 ⟨0, 7, 125 / 6, true⟩ secondUpdates) s : ℚ) -
        ((7 : ℤ) + ((s.toNat : ℚ) - (0 : UInt64).toNat) * (125 / 6))| ≤ 1 := by
  have hexact : accumulated (125 / 6 : ℚ) 0 (secondUpdates.map Prod.snd) = 0 := by decide +kernel
  have hslope : (0 : ℚ) < 125 / 6 := by norm_num
  have hstep : (0 : ℚ) ≤ 10 := by norm_num
  obtain ⟨-, hwithin, -⟩ := drift_iff hslope hstep 0 7 secondUpdates (by decide +kernel)
  refine ⟨hexact, hwithin ?_⟩
  rw [hexact]
  norm_num

end PhonoConsole.Engine
