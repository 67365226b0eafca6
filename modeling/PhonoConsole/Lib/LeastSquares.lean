/-
  LEAST SQUARES: the line that fits a list of points best, over any ordered field.

  The two-pass formula takes the means first and then the covariance and the variance about them.

  * `slope`, `intercept` — the line of that formula;
  * `squares`            — the sum of the squared residuals of any line;
  * `squares_eq`         — a line exceeds the fitted one by two squares, which measure how far apart
    the two lines are;
  * `squares_le`, `eq_of_squares_le` — so the fitted line is a minimiser, and the only one when two
    points differ in their abscissa (`variance_eq_zero_iff`);
  * `collinear`          — points on a line are fitted by it;
  * `perm`, `shift`      — the line depends neither on the order of the points nor, in its slope, on
    where the abscissas are counted from.
-/
import Mathlib.Algebra.Order.BigOperators.Group.List
import Mathlib.Algebra.BigOperators.Ring.List
import Mathlib.Algebra.Order.Field.Basic
import Mathlib.Tactic.FieldSimp
import Mathlib.Tactic.Linarith
import Mathlib.Tactic.LinearCombination
import Mathlib.Tactic.Positivity
import Mathlib.Tactic.Ring

namespace LeastSquares

variable {K : Type} [Field K]

/-- The mean of some numbers. -/
def mean (xs : List K) : K := xs.sum / xs.length

/-- The mean of the abscissas, and of the ordinates. -/
def meanX (points : List (K × K)) : K := mean (points.map Prod.fst)

/-- The mean of the second coordinates. -/
def meanY (points : List (K × K)) : K := mean (points.map Prod.snd)

/-- The covariance of the coordinates, times the number of points. -/
def covariance (points : List (K × K)) : K :=
  (points.map fun p => (p.1 - meanX points) * (p.2 - meanY points)).sum

/-- The variance of the first coordinates, times the number of points. -/
def variance (points : List (K × K)) : K :=
  (points.map fun p => (p.1 - meanX points) * (p.1 - meanX points)).sum

/-- The slope of the fitted line. -/
def slope (points : List (K × K)) : K := covariance points / variance points

/-- Its value at zero. -/
def intercept (points : List (K × K)) : K := meanY points - slope points * meanX points

/-- How far a point lies above the line `a + b * x`. -/
def residual (a b : K) (p : K × K) : K := p.2 - (a + b * p.1)

/-- The sum of the squared residuals. -/
def squares (a b : K) (points : List (K × K)) : K :=
  (points.map fun p => residual a b p * residual a b p).sum

/-! ## Sums -/

variable {points points' : List (K × K)} {a b : K}

/-- The deviations from the mean cancel out. -/
theorem sum_deviation [CharZero K] {α : Type} (l : List α) (f : α → K) :
    (l.map fun x => f x - mean (l.map f)).sum = 0 := by
  have hsum : ∀ c, (l.map fun x => f x - c).sum = (l.map f).sum - l.length * c := by
    intro c
    induction l with
    | nil => simp
    | cons x rest ih =>
      simp only [List.map_cons, List.sum_cons, List.length_cons, ih]
      push_cast
      ring
  rw [hsum, mean, List.length_map]
  rcases List.eq_nil_or_concat l with rfl | ⟨front, x, rfl⟩
  · simp
  · have hlength : ((front.concat x).length : K) ≠ 0 := by
      rw [List.length_concat]
      exact Nat.cast_ne_zero.mpr (Nat.succ_ne_zero _)
    rw [mul_div_cancel₀ _ hlength, sub_self]

theorem sum_combination {α : Type} (l : List α) (f g : α → K) (u v : K) :
    (l.map fun x => u * f x + v * g x).sum = u * (l.map f).sum + v * (l.map g).sum := by
  rw [List.sum_map_add, List.sum_map_mul_left, List.sum_map_mul_left]

/-! ## The normal equations -/

/-- The residual of the fitted line, by the deviations. -/
theorem residual_fit (points : List (K × K)) (p : K × K) :
    residual (intercept points) (slope points) p =
      1 * (p.2 - meanY points) + -slope points * (p.1 - meanX points) := by
  unfold residual intercept
  ring

/-- The residuals of the fitted line cancel out. -/
theorem sum_residual [CharZero K] (points : List (K × K)) :
    (points.map (residual (intercept points) (slope points))).sum = 0 := by
  have hx : (points.map fun p => p.1 - meanX points).sum = 0 := sum_deviation points Prod.fst
  have hy : (points.map fun p => p.2 - meanY points).sum = 0 := sum_deviation points Prod.snd
  rw [List.map_congr_left fun p _ => residual_fit points p, sum_combination, hx, hy]
  ring

/-- And so do they when weighted by the deviations of the abscissas. -/
theorem sum_residual_deviation (h : variance points ≠ 0) :
    (points.map fun p => residual (intercept points) (slope points) p *
      (p.1 - meanX points)).sum = 0 := by
  have hweigh : ∀ p ∈ points, residual (intercept points) (slope points) p * (p.1 - meanX points) =
      1 * ((p.1 - meanX points) * (p.2 - meanY points)) +
        -slope points * ((p.1 - meanX points) * (p.1 - meanX points)) := fun p _ => by
    rw [residual_fit]
    ring
  have hslope : slope points * variance points = covariance points := div_mul_cancel₀ _ h
  rw [List.map_congr_left hweigh, sum_combination]
  show 1 * covariance points + -slope points * variance points = 0
  rw [← hslope]
  ring

/-- **Any line against the fitted one**: apart at the mean abscissa, and in their slopes. -/
theorem squares_eq [CharZero K] (h : variance points ≠ 0) (a b : K) :
    squares a b points = squares (intercept points) (slope points) points +
      (points.length * (intercept points - a + (slope points - b) * meanX points) ^ 2 +
        (slope points - b) ^ 2 * variance points) := by
  obtain ⟨c, hc⟩ : ∃ c, c = intercept points - a + (slope points - b) * meanX points := ⟨_, rfl⟩
  obtain ⟨d, hd⟩ : ∃ d, d = slope points - b := ⟨_, rfl⟩
  have hx : (points.map fun p => p.1 - meanX points).sum = 0 := sum_deviation points Prod.fst
  have hline : ∀ p ∈ points, residual a b p * residual a b p =
      residual (intercept points) (slope points) p * residual (intercept points) (slope points) p +
        (2 * c * residual (intercept points) (slope points) p +
          2 * d * (residual (intercept points) (slope points) p * (p.1 - meanX points))) +
        (c ^ 2 * 1 + 2 * c * d * (p.1 - meanX points)) +
        d ^ 2 * ((p.1 - meanX points) * (p.1 - meanX points)) := fun p _ => by
    rw [hc, hd]
    unfold residual
    ring
  have hones : (points.map fun _ => (1 : K)).sum = points.length := by simp
  rw [← hc, ← hd]
  unfold squares
  rw [List.map_congr_left hline, List.sum_map_add, List.sum_map_add, List.sum_map_add,
    sum_combination, sum_combination, List.sum_map_mul_left, sum_residual, sum_residual_deviation h,
    hx, hones]
  show _ + d ^ 2 * variance points = _
  ring

/-! ## The minimum -/

variable [LinearOrder K] [IsStrictOrderedRing K]

theorem sum_mul_self_nonneg {α : Type} (l : List α) (f : α → K) :
    0 ≤ (l.map fun x => f x * f x).sum :=
  List.sum_nonneg fun y hy => by
    obtain ⟨x, -, rfl⟩ := List.mem_map.mp hy
    exact mul_self_nonneg _

theorem sum_mul_self_eq_zero {α : Type} {l : List α} {f : α → K} :
    (l.map fun x => f x * f x).sum = 0 ↔ ∀ x ∈ l, f x = 0 := by
  induction l with
  | nil => simp
  | cons x rest ih =>
    rw [List.map_cons, List.sum_cons, add_eq_zero_iff_of_nonneg (mul_self_nonneg _)
      (sum_mul_self_nonneg rest f), ih, mul_self_eq_zero, List.forall_mem_cons]

/-- The variance vanishes exactly when no two abscissas differ. -/
theorem variance_eq_zero_iff : variance points = 0 ↔ ∀ p ∈ points, ∀ q ∈ points, p.1 = q.1 := by
  unfold variance
  rw [sum_mul_self_eq_zero]
  constructor
  · intro h p hp q hq
    rw [sub_eq_zero.mp (h p hp), sub_eq_zero.mp (h q hq)]
  · intro h p hp
    have hmean : points.map Prod.fst = List.replicate points.length p.1 :=
      List.eq_replicate_iff.mpr ⟨List.length_map _, fun x hx => by
        obtain ⟨q, hq, rfl⟩ := List.mem_map.mp hx
        exact h q hq p hp⟩
    have hlength : (points.length : K) ≠ 0 := by
      simpa using List.ne_nil_of_mem hp
    rw [meanX, mean, hmean, List.sum_replicate, List.length_replicate, nsmul_eq_mul,
      mul_div_cancel_left₀ _ hlength, sub_self]

theorem squares_nonneg (a b : K) (points : List (K × K)) : 0 ≤ squares a b points :=
  sum_mul_self_nonneg points _

/-- **The fitted line is a minimiser.** -/
theorem squares_le (h : variance points ≠ 0) (a b : K) :
    squares (intercept points) (slope points) points ≤ squares a b points := by
  have hvariance : 0 ≤ variance points := sum_mul_self_nonneg points _
  rw [squares_eq h a b]
  exact le_add_of_nonneg_right (by positivity)

/-- **And the only one.** -/
theorem eq_of_squares_le (h : variance points ≠ 0)
    (hle : squares a b points ≤ squares (intercept points) (slope points) points) :
    a = intercept points ∧ b = slope points := by
  have hvariance : 0 < variance points := (sum_mul_self_nonneg points _).lt_of_ne' h
  have hlength : (0 : K) < points.length := by
    refine Nat.cast_pos.mpr (List.length_pos_iff.mpr ?_)
    rintro rfl
    exact h rfl
  rw [squares_eq h a b] at hle
  have hapart := mul_nonneg hlength.le
    (sq_nonneg (intercept points - a + (slope points - b) * meanX points))
  have hslopes := mul_nonneg (sq_nonneg (slope points - b)) hvariance.le
  have hb : (slope points - b) ^ 2 * variance points = 0 := by linarith
  have ha : points.length * (intercept points - a + (slope points - b) * meanX points) ^ 2 = 0 := by
    linarith
  have hb : slope points - b = 0 :=
    pow_eq_zero_iff two_ne_zero |>.mp ((mul_eq_zero.mp hb).resolve_right hvariance.ne')
  have ha := pow_eq_zero_iff two_ne_zero |>.mp ((mul_eq_zero.mp ha).resolve_left hlength.ne')
  rw [hb, zero_mul, add_zero] at ha
  exact ⟨(sub_eq_zero.mp ha).symm, (sub_eq_zero.mp hb).symm⟩

/-- Points on a line are fitted by it, and leave no residual. -/
theorem collinear (h : variance points ≠ 0) (hline : ∀ p ∈ points, p.2 = a + b * p.1) :
    intercept points = a ∧ slope points = b ∧
      squares (intercept points) (slope points) points = 0 := by
  have hzero : squares a b points = 0 := by
    unfold squares
    exact sum_mul_self_eq_zero.mpr fun p hp => sub_eq_zero.mpr (hline p hp)
  have hle : squares a b points ≤ squares (intercept points) (slope points) points :=
    hzero.symm ▸ squares_nonneg _ _ _
  obtain ⟨rfl, rfl⟩ := eq_of_squares_le h hle
  exact ⟨rfl, rfl, hzero⟩

/-! ## The order of the points -/

omit [LinearOrder K] [IsStrictOrderedRing K] in
theorem mean_perm {xs ys : List K} (h : xs.Perm ys) : mean xs = mean ys := by
  rw [mean, mean, h.sum_eq, h.length_eq]

omit [LinearOrder K] [IsStrictOrderedRing K] in
/-- The formula does not depend on the order of the points. -/
theorem perm (h : points.Perm points') :
    variance points = variance points' ∧ slope points = slope points' ∧
      intercept points = intercept points' ∧ ∀ a b, squares a b points = squares a b points' := by
  have hx : meanX points = meanX points' := mean_perm (h.map _)
  have hy : meanY points = meanY points' := mean_perm (h.map _)
  have hvariance : variance points = variance points' := by
    unfold variance
    rw [hx]
    exact (h.map _).sum_eq
  have hslope : slope points = slope points' := by
    unfold slope covariance
    rw [hx, hy, hvariance]
    exact congrArg (· / _) (h.map _).sum_eq
  exact ⟨hvariance, hslope, by rw [intercept, intercept, hx, hy, hslope],
    fun a b => (h.map _).sum_eq⟩

/-! ## A shift of the abscissas -/

omit [LinearOrder K] [IsStrictOrderedRing K] in
theorem meanX_shift [CharZero K] (hpoints : points ≠ []) (d : K) :
    meanX (points.map fun p => (p.1 + d, p.2)) = meanX points + d := by
  have hcount : (points.length : K) ≠ 0 :=
    Nat.cast_ne_zero.mpr (List.length_pos_of_ne_nil hpoints).ne'
  have hsum : ((points.map fun p => (p.1 + d, p.2)).map Prod.fst).sum =
      (points.map Prod.fst).sum + points.length * d := by
    rw [List.map_map]
    clear hpoints hcount
    induction points with
    | nil => simp
    | cons p rest ih =>
      simp only [List.map_cons, List.sum_cons, ih, Function.comp_apply, List.length_cons,
        Nat.cast_succ]
      ring
  rw [meanX, mean, hsum, List.length_map, List.length_map, meanX, mean, List.length_map, add_div,
    mul_div_cancel_left₀ _ hcount]

omit [LinearOrder K] [IsStrictOrderedRing K] in
/-- The slope does not depend on where the abscissas are counted from. -/
theorem shift [CharZero K] (points : List (K × K)) (d : K) :
    variance (points.map fun p => (p.1 + d, p.2)) = variance points ∧
      slope (points.map fun p => (p.1 + d, p.2)) = slope points := by
  rcases eq_or_ne points [] with rfl | hpoints
  · exact ⟨rfl, rfl⟩
  have hx := meanX_shift hpoints d
  have hy : meanY (points.map fun p => (p.1 + d, p.2)) = meanY points := by
    rw [meanY, List.map_map]
    rfl
  have hdeviation : ∀ p : K × K, p.1 + d - (meanX points + d) = p.1 - meanX points := fun p => by ring
  have hvariance : variance (points.map fun p => (p.1 + d, p.2)) = variance points := by
    rw [variance, hx, List.map_map, variance]
    exact congrArg List.sum (List.map_congr_left fun p _ => by
      show (p.1 + d - _) * (p.1 + d - _) = _
      rw [hdeviation])
  refine ⟨hvariance, ?_⟩
  rw [slope, hvariance, covariance, hx, hy, List.map_map, slope, covariance]
  refine congrArg (fun l => List.sum l / _) (List.map_congr_left fun p _ => ?_)
  show (p.1 + d - _) * _ = _
  rw [hdeviation]

end LeastSquares
