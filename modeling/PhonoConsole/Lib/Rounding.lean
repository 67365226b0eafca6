/-
  ROUNDING to the nearest integer over any ordered field with a floor, with the two rules for halves
  in use: to the even neighbour, and away from zero.

  * `halfEven`       — the nearest integer, and the even one of two;
  * `le_halfEven`, `halfEven_le` — rounding never leaves an interval between two integers;
  * `lt_halfEven_iff`, `halfEven_lt_iff` — exactly which numbers round above, or below, an integer:
    past the half next to it, or on that half when the integer is odd;
  * `halfAway`       — the nearest integer, and the one further from zero of two;
  * `halfAway_mono`, `abs_halfAway_sub_le` — it keeps the order, and is never off by more than a half.
-/
import Mathlib.Algebra.Order.Floor.Ring
import Mathlib.Tactic.Linarith
import Mathlib.Tactic.NormNum
import Mathlib.Tactic.Push

namespace Rounding

variable {K : Type} [Field K] [LinearOrder K] [FloorRing K]

/-- The nearest integer, and the even one of two. -/
def halfEven (x : K) : ℤ :=
  if x - ⌊x⌋ < 1 / 2 ∨ (x - ⌊x⌋ = 1 / 2 ∧ ⌊x⌋ % 2 = 0) then ⌊x⌋ else ⌊x⌋ + 1

variable [IsStrictOrderedRing K] {x : K} {c : ℤ}

/-- What rounds above `c`: everything beyond the half above it, and that half when `c` is odd. -/
theorem lt_halfEven_iff : c < halfEven x ↔ c + 1 / 2 < x ∨ (x = c + 1 / 2 ∧ c % 2 = 1) := by
  have hlow := Int.floor_le x
  have hhigh := Int.lt_floor_add_one x
  rcases lt_trichotomy ⌊x⌋ c with hbelow | hat | habove
  · -- the floor is below `c`: nothing rounds above it
    have hx : x < c := by
      have hcast : ((⌊x⌋ : K) + 1) ≤ c := by exact_mod_cast hbelow
      linarith
    have hround : ¬ c < halfEven x := by unfold halfEven; split <;> omega
    refine iff_of_false hround ?_
    rintro (h | ⟨h, -⟩) <;> linarith
  · unfold halfEven
    rw [hat]
    split
    · rename_i hdown
      refine iff_of_false (lt_irrefl c) ?_
      rintro (h | ⟨h, hodd⟩)
      · rcases hdown with hd | ⟨hd, -⟩ <;> linarith
      · rcases hdown with hd | ⟨-, heven⟩
        · linarith
        · omega
    · rename_i hup
      refine iff_of_true (by omega) ?_
      rw [not_or, not_lt, not_and] at hup
      rcases lt_or_eq_of_le hup.1 with h | h
      · exact .inl (by linarith)
      · have hodd := hup.2 h.symm
        exact .inr ⟨by linarith, by omega⟩
  · -- the floor is above `c`: everything rounds above it
    have hcast : (c : K) + 1 ≤ ⌊x⌋ := by exact_mod_cast habove
    have hround : c < halfEven x := by unfold halfEven; split <;> omega
    exact iff_of_true hround (.inl (by linarith))

/-- What rounds below `c`: everything short of the half below it, and that half when `c` is odd. -/
theorem halfEven_lt_iff : halfEven x < c ↔ x < c - 1 / 2 ∨ (x = c - 1 / 2 ∧ c % 2 = 1) := by
  have habove := lt_halfEven_iff (x := x) (c := c - 1)
  push_cast at habove
  rw [← not_le, ← Int.sub_one_lt_iff, habove]
  constructor
  · intro h
    rw [not_or, not_lt, not_and] at h
    rcases lt_or_eq_of_le h.1 with hlt | heq
    · exact .inl (by linarith)
    · have := h.2 (by linarith)
      exact .inr ⟨by linarith, by omega⟩
  · rintro (h | ⟨h, hodd⟩)
    · rw [not_or, not_lt, not_and]
      exact ⟨by linarith, fun heq => by linarith⟩
    · rw [not_or, not_lt, not_and]
      exact ⟨by linarith, fun _ => by omega⟩

theorem le_halfEven (h : (c : K) ≤ x) : c ≤ halfEven x := by
  rw [← not_lt, halfEven_lt_iff]
  rintro (hlt | ⟨heq, -⟩) <;> linarith

theorem halfEven_le (h : x ≤ c) : halfEven x ≤ c := by
  rw [← not_lt, lt_halfEven_iff]
  rintro (hlt | ⟨heq, -⟩) <;> linarith

/-- An integer is its own rounding. -/
@[simp] theorem halfEven_intCast : halfEven (c : K) = c :=
  le_antisymm (halfEven_le le_rfl) (le_halfEven le_rfl)

/-! ## Halves away from zero -/

omit [IsStrictOrderedRing K] in
/-- The nearest integer, and the one further from zero of two. -/
def halfAway (x : K) : ℤ := if x < 0 then -⌊-x + 1 / 2⌋ else ⌊x + 1 / 2⌋

@[simp] theorem halfAway_zero : halfAway (0 : K) = 0 := by
  rw [halfAway, if_neg (lt_irrefl _), Int.floor_eq_zero_iff]
  constructor <;> norm_num

theorem halfAway_nonneg (h : 0 ≤ x) : 0 ≤ halfAway x := by
  rw [halfAway, if_neg (not_lt.mpr h)]
  exact Int.floor_nonneg.mpr (by linarith)

theorem halfAway_nonpos (h : x ≤ 0) : halfAway x ≤ 0 := by
  rcases h.lt_or_eq with hlt | rfl
  · rw [halfAway, if_pos hlt]
    exact neg_nonpos.mpr (Int.floor_nonneg.mpr (by linarith))
  · exact halfAway_zero.le

/-- Rounding keeps the order. -/
theorem halfAway_mono {y : K} (h : x ≤ y) : halfAway x ≤ halfAway y := by
  rcases lt_or_ge y 0 with hy | hy
  · rw [halfAway, halfAway, if_pos (h.trans_lt hy), if_pos hy]
    exact neg_le_neg (Int.floor_le_floor (by linarith))
  · rcases lt_or_ge x 0 with hx | hx
    · exact (halfAway_nonpos hx.le).trans (halfAway_nonneg hy)
    · rw [halfAway, halfAway, if_neg (not_lt.mpr hx), if_neg (not_lt.mpr hy)]
      exact Int.floor_le_floor (by linarith)

theorem abs_halfAway_sub_le (x : K) : |(halfAway x : K) - x| ≤ 1 / 2 := by
  unfold halfAway
  split
  · have hlow := Int.floor_le (-x + 1 / 2)
    have hhigh := Int.lt_floor_add_one (-x + 1 / 2)
    push_cast
    exact abs_le.mpr ⟨by linarith, by linarith⟩
  · have hlow := Int.floor_le (x + 1 / 2)
    have hhigh := Int.lt_floor_add_one (x + 1 / 2)
    exact abs_le.mpr ⟨by linarith, by linarith⟩

end Rounding
