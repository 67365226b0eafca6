/-
  A HOLD TIMER: since when a condition has held without a break.

  A debouncer does not remember its samples.  It keeps one time, set when the condition comes up
  and cleared when it fails, and compares it with the clock.  What it decides is a statement about
  the whole trace all the same: some series of samples, unbroken up to the present one, has lasted
  for the delay.

  Samples are numbered from 0.  The time `noted j` is what the timer would remember of a series
  that starts at `j`, and `read i` is what it is compared with at `i`; series that start before
  `first` do not count.

  * `Held`           — the statement about the trace;
  * `Timer`          — what the one time says, before a sample;
  * `Timer.held_iff` — at a sample that meets the condition the two agree, if the times noted never
    go back;
  * `Timer.restart`, `Timer.hold`, `Timer.broken` — the timer from sample to sample;
  * `Timer.congr`, `Held.congr` — neither depends on the samples to come.
-/
import Mathlib.Algebra.Order.Group.Defs
import Mathlib.Algebra.Order.Sub.Basic
import Mathlib.Order.Monotone.Defs

namespace HoldTimer

variable {T : Type} {c : Nat → Prop} {noted : Nat → T} {first n : Nat} {since : Option T}

/-- The condition holds at each of the samples from `j` up to, and without, `n`. -/
def Unbroken (c : Nat → Prop) (j n : Nat) : Prop := ∀ k, j ≤ k → k < n → c k

theorem Unbroken.succ {j : Nat} (h : Unbroken c j n) (hn : c n) : Unbroken c j (n + 1) := by
  intro k hjk hk
  rcases Nat.lt_succ_iff_lt_or_eq.mp hk with hlt | rfl
  · exact h k hjk hlt
  · exact hn

theorem Unbroken.init {j m : Nat} (h : Unbroken c j n) (hm : m ≤ n) : Unbroken c j m :=
  fun k hjk hk => h k hjk (Nat.lt_of_lt_of_le hk hm)

/-- Only the samples of the series matter. -/
theorem Unbroken.congr {c' : Nat → Prop} (hc : ∀ k < n, c k ↔ c' k) {j : Nat} :
    Unbroken c j n ↔ Unbroken c' j n :=
  forall_congr' fun k => forall_congr' fun _ => forall_congr' fun hk => hc k hk

/-- A series from `first` on, unbroken up to the sample `i`, that has lasted for `delay`. -/
def Held [Sub T] [LE T] (c : Nat → Prop) (noted read : Nat → T) (first : Nat) (delay : T)
    (i : Nat) : Prop :=
  ∃ j, first ≤ j ∧ j ≤ i ∧ Unbroken c j (i + 1) ∧ delay ≤ read i - noted j

/-- What comes after the sample does not matter. -/
theorem Held.congr [Sub T] [LE T] {c' : Nat → Prop} {noted' read read' : Nat → T} {delay : T}
    {i : Nat} (hc : ∀ k < i + 1, c k ↔ c' k) (hnoted : ∀ k < i + 1, noted k = noted' k)
    (hread : read i = read' i) : Held c noted read first delay i ↔ Held c' noted' read' first delay i := by
  unfold Held
  refine exists_congr fun j => and_congr_right fun _ => and_congr_right fun hj => ?_
  rw [Unbroken.congr hc, hnoted j (Nat.lt_succ_of_le hj), hread]

/-- The timer before the sample `n`: it shows when the longest series unbroken up to there began,
    and nothing if there is none. -/
structure Timer (c : Nat → Prop) (noted : Nat → T) (first n : Nat) (since : Option T) : Prop where
  idle : since = none → ∀ j, first ≤ j → j < n → ¬ Unbroken c j n
  running : ∀ t, since = some t → ∃ j, first ≤ j ∧ j < n ∧ noted j = t ∧ Unbroken c j n ∧
    ∀ j', first ≤ j' → Unbroken c j' n → j ≤ j'

/-- The timer does not depend on the samples to come. -/
theorem Timer.congr {c' : Nat → Prop} {noted' : Nat → T} (h : Timer c noted first n since)
    (hc : ∀ k < n, c k ↔ c' k) (hnoted : ∀ k < n, noted k = noted' k) :
    Timer c' noted' first n since where
  idle hnone j hj hjn hun := h.idle hnone j hj hjn ((Unbroken.congr hc).mpr hun)
  running t ht := by
    obtain ⟨j, hj, hjn, hat, hun, hleast⟩ := h.running t ht
    exact ⟨j, hj, hjn, (hnoted j hjn).symm.trans hat, (Unbroken.congr hc).mp hun,
      fun j' hj' hun' => hleast j' hj' ((Unbroken.congr hc).mpr hun')⟩

/-- Nothing counts yet. -/
theorem Timer.restart (c : Nat → Prop) (noted : Nat → T) (n : Nat) : Timer c noted n n none where
  idle _ _ hj hjn := absurd hjn (Nat.not_lt.mpr hj)
  running _ ht := nomatch ht

/-- A sample that meets the condition starts the timer, unless it runs. -/
theorem Timer.hold (h : Timer c noted first n since) (hfirst : first ≤ n) (hn : c n) :
    Timer c noted first (n + 1) (some (since.getD (noted n))) where
  idle hnone := nomatch hnone
  running t ht := by
    obtain rfl := Option.some.inj ht
    cases since with
    | none =>
      refine ⟨n, hfirst, Nat.lt_succ_self n, rfl, ?_, fun j' hj' hun => ?_⟩
      · intro k hnk hk
        exact Nat.le_antisymm hnk (Nat.le_of_lt_succ hk) ▸ hn
      · by_contra hlt
        exact h.idle rfl j' hj' (Nat.lt_of_not_le hlt) (hun.init (Nat.le_succ n))
    | some t =>
      obtain ⟨j, hj, hjn, hat, hun, hleast⟩ := h.running t rfl
      exact ⟨j, hj, Nat.lt_succ_of_lt hjn, hat, hun.succ hn,
        fun j' hj' hun' => hleast j' hj' (hun'.init (Nat.le_succ n))⟩

/-- A sample that fails the condition clears the timer. -/
theorem Timer.broken (hn : ¬ c n) : Timer c noted first (n + 1) none where
  idle _ _ _ hjn hun := hn (hun n (Nat.le_of_lt_succ hjn) (Nat.lt_succ_self n))
  running _ ht := nomatch ht

/-- The timer has run for the delay exactly when some series has. -/
theorem Timer.held_iff [AddCommGroup T] [PartialOrder T] [IsOrderedAddMonoid T]
    (h : Timer c noted first n since) (hfirst : first ≤ n) (hn : c n) (read : Nat → T) (delay : T)
    (hmono : ∀ j k, j ≤ k → k ≤ n → noted j ≤ noted k) :
    Held c noted read first delay n ↔ delay ≤ read n - since.getD (noted n) := by
  obtain ⟨j, hj, hjn, hat, hun, hleast⟩ := (h.hold hfirst hn).running _ rfl
  rw [← hat]
  constructor
  · rintro ⟨j', hj', hjn', hun', hle⟩
    have hbefore : noted j ≤ noted j' := hmono j j' (hleast j' hj' hun') hjn'
    exact hle.trans (sub_le_sub_left hbefore _)
  · exact fun hle => ⟨j, hj, Nat.le_of_lt_succ hjn, hun, hle⟩

end HoldTimer
