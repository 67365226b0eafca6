/-
  THE CLOCK FIT: `phono_clock_observe` and `phono_clock_fit` (`native/src/clock_estimator.c`) in full,
  in exact arithmetic.

  The estimator is a ring of observations; the fit sums over its slots, first for the means and then
  for the covariance, the variance and the residuals.

  * `phonoClockFitInto` — the whole function, with the structure it fills in; the engine's
    `phonoClockFit` is what the capture loop reads of it (`phonoClockFit_eq`);
  * `ClockEstimator.ring` — the estimator as a ring buffer of 2048 slots;
  * `fitInto_eq`        — over exact arithmetic the function is the least-squares formula of the
    items;
  * `fit_recent`        — so, after any observations, the best line through the last 2048 of them.
-/
import PhonoConsole.ClockMapper
import PhonoConsole.Lib.LeastSquares
import PhonoConsole.Lib.RingBuffer
import Mathlib.Analysis.Real.Sqrt
import Mathlib.Algebra.Order.Archimedean.Real.Basic

namespace PhonoConsole.Engine

open LeastSquares

/-! ## The function -/

section Function

variable {F : Type} [LongDouble F]

open LongDouble (ofInt)

/-- `struct phono_clock_fit`. -/
structure PhonoClockFit (F : Type) extends ClockFit F where
  rmsResidualUs : F

/-- The observations that the loops of the fit visit. -/
def ClockEstimator.items (estimator : ClockEstimator) : List ClockObservation :=
  (List.range estimator.count).map estimator.observations

/-- `phono_clock_fit`: what it returns, and `*fit` after it. -/
def phonoClockFitInto (sqrtl : F → F) (estimator : ClockEstimator) (fit : PhonoClockFit F) :
    Bool × PhonoClockFit F :=
  if estimator.count < 2 then (false, fit)
  else
    let items := estimator.items
    let count : F := ofInt estimator.count
    let sample (item : ClockObservation) : F := ofInt item.samplePosition.toNat
    let time (item : ClockObservation) : F := ofInt item.timestampUs
    let meanSample := items.foldl (fun sum item => sum + sample item) (ofInt 0) / count
    let meanTime := items.foldl (fun sum item => sum + time item) (ofInt 0) / count
    let first := items.foldl (fun first item => min item.samplePosition first) 0xffffffffffffffff
    let last := items.foldl (fun last item => max item.samplePosition last) 0
    let covariance := items.foldl (fun sum item =>
      sum + (sample item - meanSample) * (time item - meanTime)) (ofInt 0)
    let variance := items.foldl (fun sum item =>
      sum + (sample item - meanSample) * (sample item - meanSample)) (ofInt 0)
    if variance == ofInt 0 then (false, fit)
    else
      let usPerSample := covariance / variance
      let interceptUs := meanTime - usPerSample * meanSample
      let residualSquares := items.foldl (fun sum item =>
        let predicted := interceptUs + usPerSample * sample item
        let residual := time item - predicted
        sum + residual * residual) (ofInt 0)
      (decide (ofInt 0 < usPerSample),
        { usPerSample
          interceptUs
          firstSamplePosition := first
          lastSamplePosition := last
          observations := estimator.count
          rmsResidualUs := sqrtl (residualSquares / count) })

/-- What the capture loop sees of the fit. -/
theorem phonoClockFit_eq (sqrtl : F → F) (estimator : ClockEstimator) (fit : PhonoClockFit F) :
    phonoClockFit estimator = if (phonoClockFitInto sqrtl estimator fit).1
      then some (phonoClockFitInto sqrtl estimator fit).2.toClockFit else none := by
  unfold phonoClockFit phonoClockFitInto ClockEstimator.items
  split
  · rfl
  · dsimp only
    split
    · rfl
    · split
      · rename_i hpositive
        rw [if_pos (decide_eq_true hpositive)]
      · rename_i hpositive
        rw [if_neg (by simp [hpositive])]

end Function

/-! ## The ring -/

/-- The estimator as a ring buffer. -/
def ClockEstimator.ring (estimator : ClockEstimator) : RingBuffer ClockObservation :=
  ⟨estimator.observations, estimator.count, estimator.next⟩

/-- The estimator after some observations. -/
def observed (observations : List ClockObservation) : ClockEstimator :=
  observations.foldl (fun estimator o => phonoClockObserve estimator o.samplePosition o.timestampUs)
    phonoClockReset

theorem ring_observed (observations : List ClockObservation) :
    (observed observations).ring =
      observations.foldl (RingBuffer.push clockObservations) phonoClockReset.ring := by
  have hstep : ∀ (estimator : ClockEstimator) (o : ClockObservation),
      (phonoClockObserve estimator o.samplePosition o.timestampUs).ring =
        estimator.ring.push clockObservations o := fun _ _ => rfl
  unfold observed
  generalize phonoClockReset = estimator
  induction observations generalizing estimator with
  | nil => rfl
  | cons o rest ih =>
    rw [List.foldl_cons, List.foldl_cons, ih, hstep]

/-- The estimator holds the last 2048 observations. -/
theorem ring_holds (observations : List ClockObservation) :
    (observed observations).ring.Holds clockObservations observations := by
  rw [ring_observed]
  have hempty : phonoClockReset.ring.Holds clockObservations [] := RingBuffer.holds_nil
  exact hempty.foldl observations

/-! ## The formula -/

section Exact

attribute [local instance] LongDouble.exact

variable {K : Type} [Field K] [LinearOrder K] [FloorRing K]

/-- The observations as points. -/
def points (K : Type) [Field K] (items : List ClockObservation) : List (K × K) :=
  items.map fun item => ((item.samplePosition.toNat : K), (item.timestampUs : K))

theorem foldl_add {α : Type} (items : List α) (f : α → K) :
    items.foldl (fun sum item => sum + f item) (LongDouble.ofInt 0) = (items.map f).sum := by
  show items.foldl (fun sum item => sum + f item) ((0 : ℤ) : K) = _
  rw [Int.cast_zero, List.sum_eq_foldl, List.foldl_map]

@[simp] theorem length_items (estimator : ClockEstimator) :
    estimator.items.length = estimator.count := by simp [ClockEstimator.items]

variable [IsStrictOrderedRing K]

/-- **The fit is the least-squares formula** of the items, whatever their number: with fewer than two
    sample positions the variance vanishes. -/
theorem fitInto_eq (sqrtl : K → K) (estimator : ClockEstimator) (fit : PhonoClockFit K) :
    phonoClockFitInto sqrtl estimator fit =
      if variance (points K estimator.items) = 0 then (false, fit)
      else (decide (0 < slope (points K estimator.items)),
        { usPerSample := slope (points K estimator.items)
          interceptUs := intercept (points K estimator.items)
          firstSamplePosition := estimator.items.foldl
            (fun first item => min item.samplePosition first) 0xffffffffffffffff
          lastSamplePosition := estimator.items.foldl
            (fun last item => max item.samplePosition last) 0
          observations := estimator.count
          rmsResidualUs := sqrtl (squares (intercept (points K estimator.items))
            (slope (points K estimator.items)) (points K estimator.items) / estimator.count) }) := by
  have hcount : (LongDouble.ofInt estimator.count : K) = estimator.count := Int.cast_natCast _
  have hsample : ∀ item : ClockObservation,
      (LongDouble.ofInt item.samplePosition.toNat : K) = item.samplePosition.toNat := fun item =>
    Int.cast_natCast _
  have htime : ∀ item : ClockObservation,
      (LongDouble.ofInt item.timestampUs : K) = item.timestampUs := fun item => rfl
  have hzero : (LongDouble.ofInt 0 : K) = 0 := Int.cast_zero
  have hmeanX : (estimator.items.map fun item => (item.samplePosition.toNat : K)).sum /
      estimator.count = meanX (points K estimator.items) := by
    simp [meanX, mean, points, Function.comp_def]
  have hmeanY : (estimator.items.map fun item => (item.timestampUs : K)).sum / estimator.count =
      meanY (points K estimator.items) := by
    simp [meanY, mean, points, Function.comp_def]
  have hvariance : (estimator.items.map fun item =>
      ((item.samplePosition.toNat : K) - meanX (points K estimator.items)) *
        ((item.samplePosition.toNat : K) - meanX (points K estimator.items))).sum =
      variance (points K estimator.items) := by
    rw [variance, points, List.map_map]
    rfl
  have hcovariance : (estimator.items.map fun item =>
      ((item.samplePosition.toNat : K) - meanX (points K estimator.items)) *
        ((item.timestampUs : K) - meanY (points K estimator.items))).sum =
      covariance (points K estimator.items) := by
    rw [covariance, points, List.map_map]
    rfl
  have hsquares : ∀ a b : K, (estimator.items.map fun item =>
      ((item.timestampUs : K) - (a + b * item.samplePosition.toNat)) *
        ((item.timestampUs : K) - (a + b * item.samplePosition.toNat))).sum =
      squares a b (points K estimator.items) := fun a b => by
    rw [squares, points, List.map_map]
    rfl
  unfold phonoClockFitInto
  split
  · rename_i hfew
    have hnone : variance (points K estimator.items) = 0 := by
      refine variance_eq_zero_iff.mpr fun p hp q hq => ?_
      obtain ⟨x, hx⟩ : ∃ x, points K estimator.items = [x] := List.length_eq_one_iff.mp (by
        have hpositive := List.length_pos_of_mem hp
        rw [points, List.length_map, length_items] at hpositive ⊢
        omega)
      rw [hx] at hp hq
      rw [List.mem_singleton.mp hp, List.mem_singleton.mp hq]
    rw [if_pos hnone]
  · dsimp only
    simp only [foldl_add, hsample, htime, hcount]
    simp only [hmeanX, hmeanY]
    simp only [hvariance, hcovariance]
    show (if (variance (points K estimator.items) == LongDouble.ofInt 0) = true then _ else _) = _
    rw [hzero]
    by_cases hflat : variance (points K estimator.items) = 0
    · rw [if_pos hflat, if_pos (beq_iff_eq.mpr hflat)]
    · rw [if_neg hflat, if_neg (by rwa [beq_iff_eq])]
      simp only [hsquares]
      rfl

/-! ## The recent observations -/

/-- The observations that a fit is about, oldest first. -/
def recentObservations (observations : List ClockObservation) : List ClockObservation :=
  observations.drop (observations.length - clockObservations)

/-- Where the ring wraps, the items begin with newer observations. -/
theorem items_rotate (observations : List ClockObservation) :
    (observed observations).items.rotate (observed observations).next =
      recentObservations observations :=
  (ring_holds observations).contents_rotate

omit [LinearOrder K] [FloorRing K] [IsStrictOrderedRing K] in
/-- The points of the items are those of the recent observations, in another order. -/
theorem points_perm (observations : List ClockObservation) :
    (points K (observed observations).items).Perm (points K (recentObservations observations)) :=
  (ring_holds observations).contents_perm.map _

omit [FloorRing K] in
/-- Two sample positions make a variance. -/
theorem variance_points {items : List ClockObservation} :
    variance (points K items) = 0 ↔
      ∀ o ∈ items, ∀ o' ∈ items, o.samplePosition = o'.samplePosition := by
  rw [variance_eq_zero_iff, points, List.forall_mem_map]
  refine forall₂_congr fun o _ => ?_
  rw [List.forall_mem_map]
  refine forall₂_congr fun o' _ => ?_
  rw [Nat.cast_inj, UInt64.toNat_inj]

/-- Without two sample positions among the recent observations the fit leaves `*fit` as it was. -/
theorem fitInto_flat (sqrtl : K → K) (observations : List ClockObservation) (fit : PhonoClockFit K)
    (hsame : ∀ o ∈ recentObservations observations, ∀ o' ∈ recentObservations observations,
      o.samplePosition = o'.samplePosition) :
    phonoClockFitInto sqrtl (observed observations) fit = (false, fit) := by
  have hflat : variance (points K (observed observations).items) = 0 := by
    rw [(perm (points_perm observations)).1]
    exact variance_points.mpr hsame
  rw [fitInto_eq, if_pos hflat]

/-- With them it is the formula of the recent observations: what the sums visit in the ring's order
    does not depend on that order. -/
theorem fitInto_spread (sqrtl : K → K) (observations : List ClockObservation)
    (fit : PhonoClockFit K)
    (hspread : variance (points K (recentObservations observations)) ≠ 0) :
    let recent := recentObservations observations
    let line := (phonoClockFitInto sqrtl (observed observations) fit).2
    (phonoClockFitInto sqrtl (observed observations) fit).1 =
      decide (0 < slope (points K recent)) ∧
    line.usPerSample = slope (points K recent) ∧
    line.interceptUs = intercept (points K recent) ∧
    line.rmsResidualUs = sqrtl (squares (intercept (points K recent)) (slope (points K recent))
      (points K recent) / recent.length) := by
  obtain ⟨hvariance, hslope, hintercept, hsquares⟩ := perm (points_perm (K := K) observations)
  have hcount : (observed observations).count = (recentObservations observations).length := by
    rw [← length_items, ← items_rotate, List.length_rotate]
  have hfit := fitInto_eq sqrtl (observed observations) fit
  rw [hvariance, if_neg hspread, hslope, hintercept, hsquares, hcount] at hfit
  simp only [hfit, and_self]

/-- **The fit is the least-squares line of the recent observations**: after any observations the
    estimator holds the last 2048; without two sample positions among them the fit returns false;
    otherwise its line is their only minimiser, it returns whether the slope is positive, and
    observations on a line are fitted without residual. -/
theorem fit_recent (observations : List ClockObservation) (fit : PhonoClockFit ℝ) :
    let estimator := observed observations
    let recent := recentObservations observations
    let line := (phonoClockFitInto Real.sqrt estimator fit).2
    let returned := (phonoClockFitInto Real.sqrt estimator fit).1
    estimator.items.rotate estimator.next = recent ∧
    ((∀ o ∈ recent, ∀ o' ∈ recent, o.samplePosition = o'.samplePosition) → returned = false) ∧
    ((∃ o ∈ recent, ∃ o' ∈ recent, o.samplePosition ≠ o'.samplePosition) →
      (∀ a b, squares line.interceptUs line.usPerSample (points ℝ recent) ≤
        squares a b (points ℝ recent)) ∧
      (∀ a b, squares a b (points ℝ recent) ≤
        squares line.interceptUs line.usPerSample (points ℝ recent) →
          a = line.interceptUs ∧ b = line.usPerSample) ∧
      (returned = true ↔ 0 < line.usPerSample) ∧
      line.rmsResidualUs = Real.sqrt
        (squares line.interceptUs line.usPerSample (points ℝ recent) / recent.length) ∧
      ∀ a b : ℝ, (∀ o ∈ recent, (o.timestampUs : ℝ) = a + b * o.samplePosition.toNat) →
        line.interceptUs = a ∧ line.usPerSample = b ∧ line.rmsResidualUs = 0) := by
  intro estimator recent line returned
  refine ⟨items_rotate observations, fun hsame => ?_, fun htwo => ?_⟩
  · show (phonoClockFitInto Real.sqrt (observed observations) fit).1 = false
    rw [fitInto_flat Real.sqrt observations fit hsame]
  · have hspread : variance (points ℝ recent) ≠ 0 := by
      obtain ⟨o, ho, o', ho', hne⟩ := htwo
      exact fun hflat => hne (variance_points.mp hflat o ho o' ho')
    obtain ⟨hreturned, hslope, hintercept, hrms⟩ :
        returned = decide (0 < slope (points ℝ recent)) ∧
        line.usPerSample = slope (points ℝ recent) ∧
        line.interceptUs = intercept (points ℝ recent) ∧ _ :=
      fitInto_spread Real.sqrt observations fit hspread
    rw [hslope, hintercept]
    refine ⟨squares_le hspread, fun a b => eq_of_squares_le hspread, ?_, hrms, fun a b hline => ?_⟩
    · rw [hreturned, decide_eq_true_iff]
    · have honline : ∀ p ∈ points ℝ recent, p.2 = a + b * p.1 := by
        intro p hp
        obtain ⟨o, ho, rfl⟩ := List.mem_map.mp hp
        exact hline o ho
      obtain ⟨ha, hb, hnothing⟩ := collinear hspread honline
      refine ⟨ha, hb, ?_⟩
      rw [hrms, hnothing, zero_div, Real.sqrt_zero]

end Exact

end PhonoConsole.Engine
