/-
  THE ACTIVITY DETECTOR ON A TRACE: when activity begins and ends, said of the samples.

  The detector keeps one candidate time.  It is the start of a series of samples that speak against
  the present state; which samples do depends on that state, by the hysteresis, and so does the
  delay the series has to last.  The time is a hold timer (`HoldTimer.Timer`) that starts afresh
  with every change of state.

  * `after`        — the detector after the first samples of a trace;
  * `Favours`      — the samples that speak for one of the two states;
  * `Turns`        — the samples at which the state changes;
  * `Tracked`      — the candidate time is the hold timer of the samples since the last change;
  * `turns_iff`    — the state changes exactly at the samples that end such a series;
  * `activity_iff` — the same for both directions, and the release from the last loud sample.
-/
import PhonoConsole.Detector
import PhonoConsole.Lib.HoldTimer
import Mathlib.Algebra.Order.Ring.Rat
import Mathlib.Tactic.Linarith

namespace PhonoConsole

open HoldTimer

/-- One call of `update`: a level and the time it is given. -/
structure Sample where
  levelDbfs : ℚ
  now : ℚ
deriving DecidableEq

namespace ActivityDetector

/-! ## One sample -/

/-- The level speaks against the present state. -/
def contrary (d : ActivityDetector) (level : ℚ) : Bool := decide (d.boundary ≤ level) != d.active

/-- How long it has to. -/
def delay (d : ActivityDetector) : ℚ := if d.active then d.releaseSeconds else d.attackSeconds

/-- The candidate time after a sample that speaks against the state. -/
def since (d : ActivityDetector) (now : ℚ) : ℚ := d.candidateSince.getD now

theorem update_contrary {d : ActivityDetector} {level now : ℚ} (h : d.contrary level = true) :
    d.update level now =
      if d.delay ≤ now - d.since now then { d with active := !d.active, candidateSince := none }
      else { d with candidateSince := some (d.since now) } := by
  have hne : decide (d.boundary ≤ level) = !d.active := by
    unfold contrary at h
    cases hactive : d.active <;> simpa [hactive] using h
  unfold update delay since
  simp only [hne]
  cases d.active <;> simp

theorem update_agreeing {d : ActivityDetector} {level now : ℚ} (h : d.contrary level = false) :
    d.update level now = { d with candidateSince := none } := by
  have heq : decide (d.boundary ≤ level) = d.active := by simpa [contrary] using h
  unfold update
  rw [heq, if_pos rfl]

/-- The sample ends a series against the present state that has lasted long enough. -/
def turnsAt (d : ActivityDetector) (level now : ℚ) : Bool :=
  d.contrary level && decide (d.delay ≤ now - d.since now)

/-- The state after a sample, from the detector before it. -/
theorem update_active (d : ActivityDetector) (level now : ℚ) :
    (d.update level now).active = (d.active != d.turnsAt level now) := by
  unfold turnsAt
  cases hc : d.contrary level with
  | false =>
    rw [update_agreeing hc]
    simp
  | true =>
    rw [update_contrary hc]
    by_cases hdelay : d.delay ≤ now - d.since now
    · simp [hdelay]
    · simp [hdelay]

/-- Below the release boundary activity is not begun, and held for the release only. -/
theorem update_active_of_quiet {d : ActivityDetector} {level : ℚ} (now : ℚ)
    (hhyst : 0 ≤ d.hysteresisDb) (hquiet : level < d.thresholdDbfs - d.hysteresisDb) :
    (d.update level now).active =
      (d.active && decide (now - d.since now < d.releaseSeconds)) := by
  have hbelow : ¬ d.boundary ≤ level := by
    unfold boundary
    split <;> linarith
  rw [update_active, turnsAt, contrary, decide_eq_false hbelow, delay]
  cases d.active with
  | false => simp
  | true => simp [← not_lt]

/-! ## A trace -/

/-- The detector after the first `n` samples. -/
def after (d : ActivityDetector) (samples : List Sample) (n : Nat) : ActivityDetector :=
  (samples.take n).foldl (fun d x => d.update x.levelDbfs x.now) d

/-- The time of a sample. -/
def timeOf (samples : List Sample) (k : Nat) : ℚ := (samples[k]?.map Sample.now).getD 0

/-- The sample `k` speaks for the state `b`: for activity at the threshold or above, and against it
    below the threshold by more than the hysteresis. -/
def Favours (d : ActivityDetector) (samples : List Sample) (b : Bool) (k : Nat) : Prop :=
  ∃ x, samples[k]? = some x ∧
    if b then d.thresholdDbfs ≤ x.levelDbfs else x.levelDbfs < d.thresholdDbfs - d.hysteresisDb

/-- The detector turns to the state `b` at the sample `k`. -/
def Turns (d : ActivityDetector) (samples : List Sample) (b : Bool) (k : Nat) : Prop :=
  (d.after samples k).active = !b ∧ (d.after samples (k + 1)).active = b

/-- The delay before the state `b`. -/
def delayOf (d : ActivityDetector) (b : Bool) : ℚ := if b then d.attackSeconds else d.releaseSeconds

variable {d : ActivityDetector} {samples : List Sample} {b : Bool} {i k n first : Nat} {x : Sample}

theorem after_succ (h : samples[n]? = some x) :
    d.after samples (n + 1) = (d.after samples n).update x.levelDbfs x.now := by
  obtain ⟨hn, rfl⟩ := List.getElem?_eq_some_iff.mp h
  unfold after
  rw [List.take_succ_eq_append_getElem hn, List.foldl_append]
  rfl

theorem timeOf_eq (h : samples[n]? = some x) : timeOf samples n = x.now := by
  rw [timeOf, h]
  rfl

/-- What the constructor was given. -/
structure SameSettings (d d' : ActivityDetector) : Prop where
  threshold : d'.thresholdDbfs = d.thresholdDbfs
  attack : d'.attackSeconds = d.attackSeconds
  release : d'.releaseSeconds = d.releaseSeconds
  hysteresis : d'.hysteresisDb = d.hysteresisDb

theorem SameSettings.refl (d : ActivityDetector) : SameSettings d d := ⟨rfl, rfl, rfl, rfl⟩

theorem SameSettings.trans {d d' d'' : ActivityDetector} (h : SameSettings d d')
    (h' : SameSettings d' d'') : SameSettings d d'' :=
  ⟨h'.threshold.trans h.threshold, h'.attack.trans h.attack, h'.release.trans h.release,
    h'.hysteresis.trans h.hysteresis⟩

theorem update_settings (d : ActivityDetector) (level now : ℚ) :
    SameSettings d (d.update level now) := by
  cases hc : d.contrary level with
  | false => rw [update_agreeing hc]; exact ⟨rfl, rfl, rfl, rfl⟩
  | true =>
    rw [update_contrary hc]
    split <;> exact ⟨rfl, rfl, rfl, rfl⟩

theorem after_settings (d : ActivityDetector) (samples : List Sample) (n : Nat) :
    SameSettings d (d.after samples n) := by
  unfold after
  generalize samples.take n = l
  induction l generalizing d with
  | nil => exact .refl d
  | cons x l ih => exact (update_settings d x.levelDbfs x.now).trans (ih _)

/-- The samples that speak against the present state. -/
theorem favours_iff (h : samples[n]? = some x) :
    d.Favours samples (!(d.after samples n).active) n ↔
      (d.after samples n).contrary x.levelDbfs = true := by
  obtain ⟨hthreshold, -, -, hhysteresis⟩ := after_settings d samples n
  unfold Favours contrary boundary
  rw [h, hthreshold, hhysteresis]
  cases (d.after samples n).active <;> simp [lt_sub_iff_add_lt]

theorem delay_eq (d : ActivityDetector) (samples : List Sample) (n : Nat) :
    (d.after samples n).delay = d.delayOf (!(d.after samples n).active) := by
  obtain ⟨-, hattack, hrelease, -⟩ := after_settings d samples n
  unfold delay delayOf
  rw [hattack, hrelease]
  cases (d.after samples n).active <;> rfl

/-! ## The candidate time -/

/-- Before the sample `n`, the last change of state being the one before `first`: the candidate time
    is the timer of the samples since then that speak for the other state. -/
structure Tracked (d : ActivityDetector) (samples : List Sample) (n first : Nat) : Prop where
  le : first ≤ n
  changes : ∀ b k, k < n → d.Turns samples b k → k < first
  last : first = 0 ∨ ∃ k, first = k + 1 ∧ d.Turns samples (d.after samples n).active k
  timer : Timer (d.Favours samples (!(d.after samples n).active)) (timeOf samples) first n
    (d.after samples n).candidateSince

theorem Tracked.init (hsince : d.candidateSince = none) :
    d.Tracked samples 0 0 where
  le := Nat.le_refl 0
  changes _ _ hk := nomatch hk
  last := .inl rfl
  timer := by
    show Timer _ _ 0 0 d.candidateSince
    rw [hsince]
    exact .restart ..

/-- The state stays: so does the last change. -/
theorem Tracked.stay (h : d.Tracked samples n first)
    (hsame : (d.after samples (n + 1)).active = (d.after samples n).active)
    (htimer : Timer (d.Favours samples (!(d.after samples n).active)) (timeOf samples) first (n + 1)
      (d.after samples (n + 1)).candidateSince) : d.Tracked samples (n + 1) first where
  le := Nat.le_succ_of_le h.le
  changes b k hk hturns := by
    rcases Nat.lt_succ_iff_lt_or_eq.mp hk with hlt | rfl
    · exact h.changes b k hlt hturns
    · have hno := hturns.1.symm.trans (hsame.symm.trans hturns.2)
      cases b <;> cases hno
  last := by rw [hsame]; exact h.last
  timer := by rw [hsame]; exact htimer

/-- The state changes: everything starts afresh. -/
theorem Tracked.turn
    (hother : (d.after samples (n + 1)).active = !(d.after samples n).active)
    (hnone : (d.after samples (n + 1)).candidateSince = none) :
    d.Tracked samples (n + 1) (n + 1) where
  le := Nat.le_refl _
  changes _ _ hk _ := hk
  last := .inr ⟨n, rfl, by rw [hother, Bool.not_not], rfl⟩
  timer := by
    rw [hnone]
    exact .restart ..

theorem Tracked.succ (h : d.Tracked samples n first) (hx : samples[n]? = some x) :
    ∃ first', d.Tracked samples (n + 1) first' := by
  have hafter := after_succ (d := d) hx
  cases hc : (d.after samples n).contrary x.levelDbfs with
  | false =>
    rw [update_agreeing hc] at hafter
    refine ⟨first, h.stay (by rw [hafter]) ?_⟩
    rw [hafter]
    exact .broken fun hfavours => nomatch hc.symm.trans ((favours_iff hx).mp hfavours)
  | true =>
    rw [update_contrary hc] at hafter
    split at hafter
    · exact ⟨n + 1, Tracked.turn (by rw [hafter]) (by rw [hafter])⟩
    · refine ⟨first, h.stay (by rw [hafter]) ?_⟩
      rw [hafter]
      have hhold := h.timer.hold h.le ((favours_iff hx).mpr hc)
      rw [timeOf_eq hx] at hhold
      exact hhold

theorem tracked (hsince : d.candidateSince = none) :
    ∀ n ≤ samples.length, ∃ first, d.Tracked samples n first
  | 0, _ => ⟨0, .init hsince⟩
  | n + 1, hn => by
    obtain ⟨first, h⟩ := tracked hsince n (Nat.le_of_succ_le hn)
    exact h.succ (List.getElem?_eq_getElem hn)

/-! ## The changes of state -/

/-- The detector turns exactly when its timer has run for the delay. -/
theorem turns_iff_timer (hx : samples[i]? = some x) : d.Turns samples b i ↔
    (d.after samples i).active = !b ∧ d.Favours samples b i ∧
      d.delayOf b ≤ x.now - (d.after samples i).since x.now := by
  have hafter := after_succ (d := d) hx
  constructor
  · rintro ⟨hbefore, hturned⟩
    have hother : b = !(d.after samples i).active := by rw [hbefore, Bool.not_not]
    rw [hafter] at hturned
    cases hc : (d.after samples i).contrary x.levelDbfs with
    | false =>
      -- a sample that agrees with the state leaves it as it is
      rw [update_agreeing hc] at hturned
      have hno : (!b) = b := hbefore.symm.trans hturned
      cases b <;> cases hno
    | true =>
      refine ⟨hbefore, ?_, ?_⟩
      · rw [hother]
        exact (favours_iff hx).mpr hc
      · rw [hother, ← delay_eq]
        by_contra hshort
        rw [update_contrary hc, if_neg hshort] at hturned
        have hno : (!b) = b := hbefore.symm.trans hturned
        cases b <;> cases hno
  · rintro ⟨hbefore, hfavours, hdelay⟩
    have hother : b = !(d.after samples i).active := by rw [hbefore, Bool.not_not]
    rw [hother] at hfavours hdelay
    rw [← delay_eq] at hdelay
    refine ⟨hbefore, ?_⟩
    rw [hafter, update_contrary ((favours_iff hx).mp hfavours), if_pos hdelay]
    exact hother.symm

/-- The times of the first samples never go back. -/
theorem timeOf_mono (hsorted : samples.Pairwise fun x y => x.now ≤ y.now) (hi : i < samples.length) :
    ∀ j k, j ≤ k → k ≤ i → timeOf samples j ≤ timeOf samples k := by
  intro j k hjk hk
  have hkl : k < samples.length := Nat.lt_of_le_of_lt hk hi
  rw [timeOf_eq (List.getElem?_eq_getElem hkl),
    timeOf_eq (List.getElem?_eq_getElem (Nat.lt_of_le_of_lt hjk hkl))]
  rcases Nat.lt_or_eq_of_le hjk with hlt | rfl
  · exact List.pairwise_iff_getElem.mp hsorted j k _ hkl hlt
  · exact le_refl _

/-- **A change of state**: the detector turns to `b` exactly at the end of a series of samples that
    favour `b`, all of them after it last turned away from `b`, that has lasted for the delay. -/
theorem turns_iff (hsince : d.candidateSince = none)
    (hsorted : samples.Pairwise fun x y => x.now ≤ y.now) (hi : i < samples.length) :
    d.Turns samples b i ↔ (d.after samples i).active = !b ∧
      ∃ j ≤ i, (∀ k < i, d.Turns samples (!b) k → k < j) ∧
        (∀ k, j ≤ k → k ≤ i → d.Favours samples b k) ∧
        d.delayOf b ≤ timeOf samples i - timeOf samples j := by
  obtain ⟨first, htracked⟩ := tracked hsince i hi.le
  have hx := List.getElem?_eq_getElem hi
  have htime := timeOf_eq hx
  have hmono := timeOf_mono hsorted hi
  rw [turns_iff_timer hx]
  refine and_congr_right fun hbefore => ?_
  have htimer := htracked.timer
  rw [hbefore, Bool.not_not] at htimer
  have hheld (hfavours : d.Favours samples b i) :=
    htimer.held_iff htracked.le hfavours (timeOf samples) (d.delayOf b) hmono
  rw [htime] at hheld
  constructor
  · rintro ⟨hfavours, hdelay⟩
    obtain ⟨j, hj, hji, hun, hle⟩ := (hheld hfavours).mpr hdelay
    exact ⟨j, hji, fun k hk hturns => Nat.lt_of_lt_of_le (htracked.changes _ k hk hturns) hj,
      fun k hjk hki => hun k hjk (Nat.lt_succ_of_le hki), hle⟩
  · rintro ⟨j, hji, hlast, hun, hle⟩
    have hfavours := hun i hji (Nat.le_refl i)
    refine ⟨hfavours, ?_⟩
    -- the series is not older than the timer, which the last change restarted
    have hfirst : first ≤ j := by
      rcases htracked.last with rfl | ⟨k, rfl, hturns⟩
      · exact Nat.zero_le j
      · rw [hbefore] at hturns
        exact hlast k (Nat.lt_of_succ_le htracked.le) hturns
    exact (hheld hfavours).mp
      ⟨j, hfirst, hji, fun k hjk hk => hun k hjk (Nat.le_of_lt_succ hk), hle⟩

/-- Activity ends after a series of quiet samples, which a louder sample would have broken. -/
theorem release_since_loud (hsince : d.candidateSince = none)
    (hsorted : samples.Pairwise fun x y => x.now ≤ y.now) (hi : i < samples.length)
    (hturns : d.Turns samples false i) (hk : k < i) (hloud : ¬ d.Favours samples false k) :
    d.releaseSeconds ≤ timeOf samples i - timeOf samples k := by
  obtain ⟨-, j, hji, -, hun, hle⟩ := (turns_iff hsince hsorted hi).mp hturns
  have hkj : k ≤ j := by
    by_contra hlt
    exact hloud (hun k (Nat.le_of_not_le hlt) hk.le)
  have htime : timeOf samples k ≤ timeOf samples j := timeOf_mono hsorted hi k j hkj hji
  calc d.releaseSeconds ≤ timeOf samples i - timeOf samples j := hle
    _ ≤ timeOf samples i - timeOf samples k := sub_le_sub_left htime _

/-- **The detector on a trace**: from the inactive state, activity begins at the sample `i` exactly
    when some series of samples up to it, after the last deactivation, is at the threshold or above
    and has lasted for the attack; it ends exactly when some series up to it, after the last
    activation, is below the threshold by more than the hysteresis and has lasted for the release;
    and so it never ends within the release of a sample that is not that low. -/
theorem activity_iff (hactive : d.active = false) (hsince : d.candidateSince = none)
    (hsorted : samples.Pairwise fun x y => x.now ≤ y.now) (hi : i < samples.length) :
    (d.after samples 0).active = false ∧
    (d.Turns samples true i ↔ (d.after samples i).active = false ∧
      ∃ j ≤ i, (∀ k < i, d.Turns samples false k → k < j) ∧
        (∀ k, j ≤ k → k ≤ i → d.Favours samples true k) ∧
        d.attackSeconds ≤ timeOf samples i - timeOf samples j) ∧
    (d.Turns samples false i ↔ (d.after samples i).active = true ∧
      ∃ j ≤ i, (∀ k < i, d.Turns samples true k → k < j) ∧
        (∀ k, j ≤ k → k ≤ i → d.Favours samples false k) ∧
        d.releaseSeconds ≤ timeOf samples i - timeOf samples j) ∧
    (d.Turns samples false i → ∀ k < i, ¬ d.Favours samples false k →
      d.releaseSeconds ≤ timeOf samples i - timeOf samples k) :=
  ⟨hactive, turns_iff hsince hsorted hi, turns_iff hsince hsorted hi,
    fun hturns _ hk hloud => release_since_loud hsince hsorted hi hturns hk hloud⟩

/-- A detector at -45 dBFS, with an attack of a second, a release of two and 3 dB of hysteresis. -/
def needleDrop : ActivityDetector where
  thresholdDbfs := -45
  attackSeconds := 1
  releaseSeconds := 2
  hysteresisDb := 3

/-- A record begins, dips into the hysteresis, and ends. -/
def oneSide : List Sample := [⟨-60, 0⟩, ⟨-40, 1⟩, ⟨-40, 2⟩, ⟨-47, 3⟩, ⟨-60, 4⟩, ⟨-60, 5⟩, ⟨-60, 6⟩]

/-- Activity begins with the second loud sample; it ends two seconds after the first quiet one. -/
theorem activity_iff_oneSide : needleDrop.Turns oneSide true 2 ∧ needleDrop.Turns oneSide false 6 ∧
    (∃ j ≤ 6, (∀ k < 6, needleDrop.Turns oneSide true k → k < j) ∧
      (∀ k, j ≤ k → k ≤ 6 → needleDrop.Favours oneSide false k) ∧
      needleDrop.releaseSeconds ≤ timeOf oneSide 6 - timeOf oneSide j) ∧
    ∀ k < 6, ¬ needleDrop.Favours oneSide false k →
      needleDrop.releaseSeconds ≤ timeOf oneSide 6 - timeOf oneSide k := by
  have hsorted : oneSide.Pairwise fun x y => x.now ≤ y.now := by decide +kernel
  have hbegins : needleDrop.Turns oneSide true 2 := by unfold Turns; decide +kernel
  have hends : needleDrop.Turns oneSide false 6 := by unfold Turns; decide +kernel
  obtain ⟨-, -, hend, hrelease⟩ := activity_iff (d := needleDrop) (i := 6) rfl rfl hsorted (by decide)
  exact ⟨hbegins, hends, (hend.mp hends).2, hrelease hends⟩

end ActivityDetector

end PhonoConsole
