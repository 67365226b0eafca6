/-
  EXPONENTIAL BACKOFF: waits that double from failure to failure, up to a cap.

  A retrier does not count its failures.  It keeps the wait that the NEXT failure will ask for, and
  the time before which it does not try again; both are statements about the failures in a row.

  * `wait base cap n` — what is waited after `n + 1` failures in a row, twice the one before up to the
    cap;
  * `Streak`          — the failures in a row, and when the last of them was noted;
  * `Attempt.InTime`  — an attempt that comes after no failure, or when the wait is over;
  * `Gate`            — what the two numbers of a retrier say of its streak, kept by a failure
    (`Gate.failed`) and by a success (`Gate.reset`);
  * `Gate.inTime`     — so a retrier that has waited makes its attempt in time.
-/
import Mathlib.Algebra.Order.Field.Basic
import Mathlib.Algebra.Order.Group.MinMax
import Mathlib.Tactic.Linarith

namespace Backoff

variable {K : Type} [Field K] [LinearOrder K]

/-- The wait after `n + 1` failures in a row. -/
def wait (base cap : K) : Nat → K
  | 0 => base
  | n + 1 => min (wait base cap n + wait base cap n) cap

theorem wait_succ (base cap : K) (n : Nat) :
    wait base cap (n + 1) = min (wait base cap n * 2) cap := by
  rw [mul_two]
  rfl

/-- Failures in a row: one more than the number, and the time of the last. -/
abbrev Streak (K : Type) := Option (Nat × K)

/-- One failure more. -/
def Streak.fail (s : Streak K) (now : K) : Streak K :=
  match s with
  | none => some (0, now)
  | some (n, _) => some (n + 1, now)

/-- An attempt: when, and after which failures. -/
structure Attempt (K : Type) where
  time : K
  streak : Streak K
deriving DecidableEq

/-- The attempt comes after no failure, or when the wait since the last one is over. -/
def Attempt.InTime (base cap : K) (a : Attempt K) : Prop :=
  ∀ n t, a.streak = some (n, t) → t + wait base cap n ≤ a.time

/-- The wait that the next failure asks for. -/
def Streak.upcoming (base cap : K) : Streak K → K
  | none => base
  | some (n, _) => wait base cap (n + 1)

/-- What a retrier's two numbers say: the wait that the next failure asks for, and the time before
    which no attempt is made. -/
structure Gate (base cap delay opens : K) (s : Streak K) : Prop where
  delay : delay = s.upcoming base cap
  opens : ∀ n t, s = some (n, t) → opens = t + wait base cap n

variable {base cap delay opens now : K} {s : Streak K} {n : Nat}

theorem Streak.fail_eq (s : Streak K) (base cap now : K) : ∃ n, s.fail now = some (n, now) ∧
    s.upcoming base cap = wait base cap n := by
  cases s with
  | none => exact ⟨0, rfl, rfl⟩
  | some p => exact ⟨p.1 + 1, rfl, rfl⟩

/-- A failure: the gate is shut for the wait that was due, and the next one is twice as long. -/
theorem Gate.failed (h : delay = s.upcoming base cap) (now : K) :
    Gate base cap (min (delay * 2) cap) (now + delay) (s.fail now) := by
  obtain ⟨n, hfail, hwait⟩ := s.fail_eq base cap now
  have hdelay : delay = wait base cap n := h.trans hwait
  rw [hfail, hdelay, ← wait_succ]
  constructor
  · rfl
  · intro m t hm
    obtain ⟨rfl, rfl⟩ := Prod.mk.inj (Option.some.inj hm)
    rfl

/-- A success, after which nothing is waited for. -/
theorem Gate.reset (base cap opens : K) : Gate base cap base opens none :=
  ⟨rfl, nofun⟩

/-- An attempt made when the gate is open is in time. -/
theorem Gate.inTime (h : Gate base cap delay opens s) (hopen : opens ≤ now) :
    Attempt.InTime base cap ⟨now, s⟩ := by
  intro n t hs
  rw [← h.opens n t hs]
  exact hopen

/-! ## The waits -/

variable [IsStrictOrderedRing K]

/-- Nothing is tried again before the first wait is over. -/
theorem base_le_wait (hbase : 0 ≤ base) (hcap : base ≤ cap) : base ≤ wait base cap n := by
  induction n with
  | zero => exact le_refl base
  | succ n ih => exact le_min (by linarith) hcap

end Backoff
