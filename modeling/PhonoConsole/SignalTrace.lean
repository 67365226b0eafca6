/-
  LINE SENSE OVER A WHOLE RUN: what the iterations on record have sent.

  The watcher remembers its last signal and since when it has not detected the selected source.
  The time is a hold timer (`HoldTimer.Timer`) that starts with the iteration after a `PRESENT`, and
  the last signal tells whether a `PRESENT` is still to be followed by an `ABSENT`.

  * `Sends`, `Released` — the iterations that send a signal, and those at which the source has not
    been detected for the release;
  * `Awaiting`          — a `PRESENT` after which nothing was sent yet;
  * `Debounced`         — what the record says about every `PRESENT` and the `ABSENT` after it;
  * `Tracked`           — the watcher's locals against the record;
  * `signal_debounced`  — the record of every run is debounced, and in a run of settled changes to
    phono every `PRESENT` comes from the selected source.
-/
import PhonoConsole.SignalWatch
import PhonoConsole.Lib.HoldTimer

namespace PhonoConsole

open HoldTimer

namespace SignalWatch

/-! ## The record -/

section Record

variable (iterations : List Iteration)

/-- The iteration `k` sends the signal `b`. -/
def Sends (b : Bool) (k : Nat) : Prop := ∃ i, iterations[k]? = some i ∧ i.sent = some b

/-- The iteration `k` does not detect the selected source. -/
def Undetected (k : Nat) : Prop := ∃ i, iterations[k]? = some i ∧ i.detected = false

/-- The time that the iteration `k` notes, and the one that it compares. -/
def notedAt (k : Nat) : ℚ := (iterations[k]?.map Iteration.noted).getD 0

/-- The time that the iteration `k` compares with. -/
def comparedAt (k : Nat) : ℚ := (iterations[k]?.map Iteration.compared).getD 0

/-- Some iteration up to `i` starts an unbroken series of iterations that do not detect the source,
    and it has lasted for the release. -/
def Released (release : ℚ) (i : Nat) : Prop :=
  Held (Undetected iterations) (notedAt iterations) (comparedAt iterations) 0 release i

/-- The iteration `p` sent `PRESENT`, and none after it and before `n` has sent anything. -/
def Awaiting (p n : Nat) : Prop :=
  Sends iterations true p ∧ p < n ∧ ∀ k, p < k → k < n → ∀ b, ¬ Sends iterations b k

/-- `PRESENT` is sent only by an iteration that detects the source, and after a `PRESENT` the first
    `ABSENT` is sent by the first iteration at which the source is released. -/
structure Debounced (release : ℚ) : Prop where
  present : ∀ i ∈ iterations, i.sent = some true → i.detected = true
  absent : ∀ p i, Sends iterations true p → p < i → i < iterations.length →
    ((Sends iterations false i ∧ ∀ k, p < k → k < i → ¬ Sends iterations false k) ↔
      (Released iterations release i ∧ ∀ k, p < k → k < i → ¬ Released iterations release k))

end Record

variable {iterations : List Iteration} {i : Iteration} {release : ℚ} {n k p : Nat} {b : Bool}

/-! ## One more iteration -/

theorem sends_append (hk : k < iterations.length) :
    Sends (iterations ++ [i]) b k ↔ Sends iterations b k := by
  unfold Sends
  rw [List.getElem?_append_left hk]

theorem sends_last : Sends (iterations ++ [i]) b iterations.length ↔ i.sent = some b := by
  simp [Sends]

theorem undetected_append (hk : k < iterations.length) :
    Undetected iterations k ↔ Undetected (iterations ++ [i]) k := by
  unfold Undetected
  rw [List.getElem?_append_left hk]

theorem undetected_last :
    Undetected (iterations ++ [i]) iterations.length ↔ i.detected = false := by
  simp [Undetected]

theorem notedAt_append (hk : k < iterations.length) :
    notedAt iterations k = notedAt (iterations ++ [i]) k := by
  unfold notedAt
  rw [List.getElem?_append_left hk]

theorem notedAt_last : notedAt (iterations ++ [i]) iterations.length = i.noted := by simp [notedAt]

theorem comparedAt_append (hk : k < iterations.length) :
    comparedAt iterations k = comparedAt (iterations ++ [i]) k := by
  unfold comparedAt
  rw [List.getElem?_append_left hk]

theorem comparedAt_last : comparedAt (iterations ++ [i]) iterations.length = i.compared := by
  simp [comparedAt]

/-- The timer before an iteration does not depend on it. -/
theorem timer_append {first : Nat} {since : Option ℚ}
    (h : Timer (Undetected iterations) (notedAt iterations) first iterations.length since) :
    Timer (Undetected (iterations ++ [i])) (notedAt (iterations ++ [i])) first iterations.length
      since :=
  h.congr (fun _ hk => undetected_append hk) fun _ hk => notedAt_append hk

theorem released_append (hk : k < iterations.length) :
    Released iterations release k ↔ Released (iterations ++ [i]) release k :=
  Held.congr (fun _ hj => undetected_append (Nat.lt_of_lt_of_le hj hk))
    (fun _ hj => notedAt_append (Nat.lt_of_lt_of_le hj hk)) (comparedAt_append hk)

theorem awaiting_append (hn : n ≤ iterations.length) :
    Awaiting (iterations ++ [i]) p n ↔ Awaiting iterations p n := by
  unfold Awaiting
  constructor
  · rintro ⟨hp, hpn, hquiet⟩
    refine ⟨(sends_append (Nat.lt_of_lt_of_le hpn hn)).mp hp, hpn, fun k hpk hkn b hsends => ?_⟩
    exact hquiet k hpk hkn b ((sends_append (Nat.lt_of_lt_of_le hkn hn)).mpr hsends)
  · rintro ⟨hp, hpn, hquiet⟩
    refine ⟨(sends_append (Nat.lt_of_lt_of_le hpn hn)).mpr hp, hpn, fun k hpk hkn b hsends => ?_⟩
    exact hquiet k hpk hkn b ((sends_append (Nat.lt_of_lt_of_le hkn hn)).mp hsends)

/-- Nothing was sent since at most one `PRESENT`. -/
theorem Awaiting.unique {p' : Nat} (h : Awaiting iterations p n) (h' : Awaiting iterations p' n) :
    p = p' := by
  rcases lt_trichotomy p p' with hlt | rfl | hgt
  · exact absurd h'.1 (h.2.2 p' hlt h'.2.1 true)
  · rfl
  · exact absurd h.1 (h'.2.2 p hgt h.2.1 true)

/-- The iteration that sends `PRESENT` detects the source, so no series reaches back behind it. -/
theorem released_iff (hp : ¬ Undetected iterations p) (hpk : p < k) :
    Released iterations release k ↔ Held (Undetected iterations) (notedAt iterations)
      (comparedAt iterations) (p + 1) release k := by
  constructor
  · rintro ⟨j, -, hjk, hun, hle⟩
    refine ⟨j, ?_, hjk, hun, hle⟩
    by_contra hjp
    exact hp (hun p (by omega) (by omega))
  · rintro ⟨j, -, hjk, hun, hle⟩
    exact ⟨j, Nat.zero_le j, hjk, hun, hle⟩

/-- What one iteration does, when a `PRESENT` is awaiting its `ABSENT` and in general. -/
structure Fits (iterations : List Iteration) (release : ℚ) (k : Nat) : Prop where
  present : Sends iterations true k → ¬ Undetected iterations k
  absent : ∀ p, Awaiting iterations p k → ¬ Sends iterations true k ∧
    (Sends iterations false k ↔ Released iterations release k)

theorem Fits.append (h : Fits iterations release k) (hk : k < iterations.length) :
    Fits (iterations ++ [i]) release k where
  present hsends := by
    rw [← undetected_append hk]
    exact h.present ((sends_append hk).mp hsends)
  absent p hp := by
    rw [sends_append hk, sends_append hk, ← released_append hk]
    exact h.absent p ((awaiting_append (Nat.le_of_lt hk)).mp hp)

/-- The watcher's locals against the record. -/
structure Tracked (release : ℚ) (w : SignalWatch) : Prop where
  fits : ∀ k < w.iterations.length, Fits w.iterations release k
  sorted : ∀ j k, j ≤ k → k < w.iterations.length →
    notedAt w.iterations j ≤ notedAt w.iterations k
  clock : ∀ k < w.iterations.length, notedAt w.iterations k ≤ w.clock
  silent : ∀ p, Awaiting w.iterations p w.iterations.length → w.last = some true
  timer : w.last = some true → ∃ p, Awaiting w.iterations p w.iterations.length ∧
    Timer (Undetected w.iterations) (notedAt w.iterations) (p + 1) w.iterations.length w.absentSince

/-- An empty record. -/
theorem Tracked.blank {w : SignalWatch} (hrecord : w.iterations = []) (hlast : w.last ≠ some true) :
    Tracked release w := by
  refine ⟨?_, ?_, ?_, ?_, fun h => absurd h hlast⟩ <;> rw [hrecord]
  · exact fun _ hk => by cases hk
  · exact fun _ _ _ hk => by cases hk
  · exact fun _ hk => by cases hk
  · exact fun _ hp => by cases hp.2.1

/-- The watcher and its record stay as they are, whatever the publisher does. -/
structure SameWatch (w w' : SignalWatch) : Prop where
  iterations : w'.iterations = w.iterations
  last : w'.last = w.last
  absentSince : w'.absentSince = w.absentSince
  clock : w.clock ≤ w'.clock

theorem sameWatch_moved {w : SignalWatch} (p : Publisher) : SameWatch w (w.moved p) := by
  unfold SignalWatch.moved
  split <;> exact ⟨rfl, rfl, rfl, le_rfl⟩

theorem sameWatch_observe {w : SignalWatch} (block : Block) (now : ℚ) :
    SameWatch w (w.observeStreamActivity block now).1 := by
  unfold observeStreamActivity
  split
  · split <;> exact ⟨rfl, rfl, rfl, le_rfl⟩
  · exact ⟨rfl, rfl, rfl, le_rfl⟩

theorem Tracked.congr {w w' : SignalWatch} (h : Tracked release w) (hsame : SameWatch w w') :
    Tracked release w' := by
  obtain ⟨hrecord, hlast, hsince, hclock⟩ := hsame
  refine ⟨?_, ?_, fun k hk => ?_, ?_, ?_⟩
  · rw [hrecord]
    exact h.fits
  · rw [hrecord]
    exact h.sorted
  · rw [hrecord] at hk ⊢
    exact (h.clock k hk).trans hclock
  · rw [hrecord, hlast]
    exact h.silent
  · rw [hrecord, hlast, hsince]
    exact h.timer

/-! ## One iteration -/

section Iterate

variable {w : SignalWatch} {status : Option Status} {now compared : ℚ}

/-- The three ways through an iteration that finds the distribution enabled. -/
theorem sense_cases (henabled : w.watcher.enabled = true) :
    (w.iteration release status now compared).detected = true ∧
        w.sense release status now compared = (true, none) ∨
      (w.iteration release status now compared).detected = false ∧ w.last = some true ∧
        w.sense release status now compared =
          (decide (compared - w.absentSince.getD now < release), some (w.absentSince.getD now)) ∨
      (w.iteration release status now compared).detected = false ∧ w.last ≠ some true ∧
        w.sense release status now compared = (false, w.absentSince) := by
  have hdetected : (w.iteration release status now compared).detected =
      w.watcher.sensed (w.poll status now compared) := rfl
  unfold SignalWatch.sense LineSense.sense
  rw [hdetected, henabled]
  cases w.watcher.sensed (w.poll status now compared) with
  | true => exact .inl ⟨rfl, rfl⟩
  | false =>
    by_cases hlast : w.last = some true
    · exact .inr (.inl ⟨rfl, hlast, by simp [watcher, poll, hlast]⟩)
    · exact .inr (.inr ⟨rfl, hlast, by simp [watcher, hlast]⟩)

/-- `PRESENT` is sent only by an iteration that detects the source. -/
theorem detected_of_present (henabled : w.watcher.enabled = true)
    (hsent : (w.iteration release status now compared).sent = some true) :
    (w.iteration release status now compared).detected = true := by
  have hactive : (w.sense release status now compared).1 = true ∧ w.last ≠ some true := by
    simp only [SignalWatch.iteration] at hsent
    split at hsent
    · cases hsent
    · rename_i hlast
      have hactive := Option.some.inj hsent
      exact ⟨hactive, hactive ▸ hlast⟩
  rcases @sense_cases release w status now compared henabled with
    ⟨hdetected, -⟩ | ⟨-, hlast, -⟩ | ⟨-, -, hsense⟩
  · exact hdetected
  · exact absurd hlast hactive.2
  · rw [hsense] at hactive
    cases hactive.1

/-- The times noted never go back. -/
theorem Tracked.mono (h : Tracked release w) (hnow : w.clock ≤ now) {i : Iteration}
    (hi : i.noted = now) (j k : Nat) (hjk : j ≤ k) (hk : k ≤ w.iterations.length) :
    notedAt (w.iterations ++ [i]) j ≤ notedAt (w.iterations ++ [i]) k := by
  have hlast : notedAt (w.iterations ++ [i]) w.iterations.length = now := notedAt_last.trans hi
  rcases Nat.lt_or_eq_of_le hk with hlt | rfl
  · rw [← notedAt_append hlt, ← notedAt_append (Nat.lt_of_le_of_lt hjk hlt)]
    exact h.sorted j k hjk hlt
  · rcases Nat.lt_or_eq_of_le hjk with hlt | rfl
    · rw [hlast, ← notedAt_append hlt]
      exact (h.clock j hlt).trans hnow
    · exact le_rfl

/-- A `PRESENT` that is awaiting its `ABSENT` when an iteration does not detect the source: the
    release is over exactly when the timer has run for it. -/
theorem Tracked.released_last (h : Tracked release w) (hnow : w.clock ≤ now) {i : Iteration}
    (hnoted : i.noted = now) (hcompared : i.compared = compared) (hundetected : i.detected = false)
    {p : Nat} (hp : Awaiting w.iterations p w.iterations.length) :
    Released (w.iterations ++ [i]) release w.iterations.length ↔
      release ≤ compared - w.absentSince.getD now := by
  have hpn := hp.2.1
  have hdetects : ¬ Undetected (w.iterations ++ [i]) p := by
    rw [← undetected_append hpn]
    exact (h.fits p hpn).present hp.1
  obtain ⟨p', hp', htimer⟩ := h.timer (h.silent p hp)
  obtain rfl := hp.unique hp'
  have hheld := (timer_append htimer).held_iff hpn (undetected_last.mpr hundetected)
    (comparedAt (w.iterations ++ [i])) release (h.mono hnow hnoted)
  rw [released_iff hdetects hpn, hheld, comparedAt_last, notedAt_last, hcompared, hnoted]

theorem Tracked.fits_last (h : Tracked release w) (henabled : w.watcher.enabled = true)
    (hnow : w.clock ≤ now) :
    Fits (w.iterations ++ [w.iteration release status now compared]) release
      w.iterations.length where
  present hsends := by
    rw [undetected_last]
    intro hno
    rw [detected_of_present henabled (sends_last.mp hsends)] at hno
    cases hno
  absent p hp := by
    have hp := (awaiting_append (Nat.le_refl _)).mp hp
    have hlast := h.silent p hp
    rw [sends_last, sends_last]
    have hsent : (w.iteration release status now compared).sent =
        if w.last = some (w.sense release status now compared).1 then none
        else some (w.sense release status now compared).1 := rfl
    rcases @sense_cases release w status now compared henabled with
      ⟨hdetected, hsense⟩ | ⟨hdetected, -, hsense⟩ | ⟨-, hno, -⟩
    · -- nothing is sent, and the series is broken
      rw [hsent, hsense, hlast, if_pos rfl]
      refine ⟨nofun, nofun, fun hreleased => ?_⟩
      obtain ⟨j, -, hj, hun, -⟩ := hreleased
      have hundetected := undetected_last.mp (hun _ hj (Nat.lt_succ_self _))
      rw [hdetected] at hundetected
      cases hundetected
    · have hreleased : Released (w.iterations ++ [w.iteration release status now compared]) release
          w.iterations.length ↔ release ≤ compared - w.absentSince.getD now :=
        h.released_last hnow rfl rfl hdetected hp
      rw [hreleased, hsent, hsense, hlast]
      by_cases hheld : compared - w.absentSince.getD now < release
      · simp [hheld, hheld.not_ge]
      · simp [hheld, not_lt.mp hheld]
    · exact absurd hlast hno

/-- A `PRESENT` that is still awaiting its `ABSENT` is remembered. -/
theorem Tracked.silent_last (h : Tracked release w) {i : Iteration} {active : Bool}
    (hsent : i.sent = if w.last = some active then none else some active) {p : Nat}
    (hp : Awaiting (w.iterations ++ [i]) p (w.iterations.length + 1)) : active = true := by
  obtain ⟨hpresent, hpn, hquiet⟩ := hp
  rcases Nat.lt_succ_iff_lt_or_eq.mp hpn with hlt | rfl
  · -- an earlier one: nothing was sent now
    have hbefore : Awaiting w.iterations p w.iterations.length := by
      refine (awaiting_append (Nat.le_refl _)).mp ⟨hpresent, hlt, fun k hpk hkn => ?_⟩
      exact hquiet k hpk (Nat.lt_succ_of_lt hkn)
    have hlast := h.silent p hbefore
    by_contra hinactive
    refine hquiet w.iterations.length hlt (Nat.lt_succ_self _) active (sends_last.mpr ?_)
    rw [hsent, hlast, if_neg fun heq => hinactive (Option.some.inj heq).symm]
  · have hnow := sends_last.mp hpresent
    rw [hsent] at hnow
    split at hnow
    · cases hnow
    · exact Option.some.inj hnow

/-- The timer goes on with the iteration, or starts with a new `PRESENT`. -/
theorem Tracked.timer_last (h : Tracked release w) (henabled : w.watcher.enabled = true)
    (hactive : (w.sense release status now compared).1 = true) :
    ∃ p, Awaiting (w.iterations ++ [w.iteration release status now compared]) p
        (w.iterations.length + 1) ∧
      Timer (Undetected (w.iterations ++ [w.iteration release status now compared]))
        (notedAt (w.iterations ++ [w.iteration release status now compared])) (p + 1)
        (w.iterations.length + 1) (w.sense release status now compared).2 := by
  have hsent : (w.iteration release status now compared).sent =
      if w.last = some true then none else some true := by
    rw [← hactive]
    rfl
  have hcases := @sense_cases release w status now compared henabled
  by_cases hlast : w.last = some true
  · obtain ⟨p, hp, htimer⟩ := h.timer hlast
    refine ⟨p, ⟨(sends_append hp.2.1).mpr hp.1, Nat.lt_succ_of_lt hp.2.1, ?_⟩, ?_⟩
    · -- `PRESENT` stands, so this iteration sends nothing
      intro k hpk hkn b hsends
      rcases Nat.lt_succ_iff_lt_or_eq.mp hkn with hlt | rfl
      · exact hp.2.2 k hpk hlt b ((sends_append hlt).mp hsends)
      · rw [sends_last, hsent, if_pos hlast] at hsends
        cases hsends
    · rcases hcases with ⟨hdetected, hsense⟩ | ⟨hdetected, -, hsense⟩ | ⟨-, hno, -⟩
      · rw [hsense]
        refine .broken fun hundetected => ?_
        rw [undetected_last, hdetected] at hundetected
        cases hundetected
      · have hhold := (timer_append htimer).hold hp.2.1 (undetected_last.mpr hdetected)
        rw [notedAt_last] at hhold
        rw [hsense]
        exact hhold
      · exact absurd hlast hno
  · rcases hcases with ⟨-, hsense⟩ | ⟨-, hyes, -⟩ | ⟨-, -, hsense⟩
    · -- this iteration sends the `PRESENT`
      refine ⟨w.iterations.length, ⟨sends_last.mpr ?_, Nat.lt_succ_self _, fun k hpk hkn => ?_⟩, ?_⟩
      · rw [hsent, if_neg hlast]
      · exact absurd hpk (Nat.not_lt.mpr (Nat.le_of_lt_succ hkn))
      · rw [hsense]
        exact .restart ..
    · exact absurd hyes hlast
    · rw [hsense] at hactive
      cases hactive

theorem Tracked.iterate (h : Tracked release w) (hnow : w.clock ≤ now) (hcompared : now ≤ compared) :
    Tracked release (w.iterate release status now compared) := by
  by_cases hrecord : (w.publisher.connected && w.watcher.enabled) = true
  · obtain ⟨hconnected, henabled⟩ := (Bool.and_eq_true _ _).mp hrecord
    have hiterations : (w.iterate release status now compared).iterations =
        w.iterations ++ [w.iteration release status now compared] := if_pos hrecord
    have hlast : (w.iterate release status now compared).last =
        some (w.sense release status now compared).1 := if_pos hconnected
    have hlength : (w.iterations ++ [w.iteration release status now compared]).length =
        w.iterations.length + 1 := by simp
    have hmono := h.mono hnow (i := w.iteration release status now compared) rfl
    refine ⟨?_, ?_, ?_, ?_, ?_⟩ <;> rw [hiterations, hlength]
    · intro k hk
      rcases Nat.lt_succ_iff_lt_or_eq.mp hk with hlt | rfl
      · exact (h.fits k hlt).append hlt
      · exact h.fits_last henabled hnow
    · exact fun j k hjk hk => hmono j k hjk (Nat.le_of_lt_succ hk)
    · intro k hk
      calc notedAt (w.iterations ++ [w.iteration release status now compared]) k
        _ ≤ notedAt (w.iterations ++ [w.iteration release status now compared])
            w.iterations.length := hmono k _ (Nat.le_of_lt_succ hk) (Nat.le_refl _)
        _ = now := notedAt_last
        _ ≤ compared := hcompared
    · intro p hp
      rw [hlast, h.silent_last rfl hp]
    · intro hpresent
      exact h.timer_last henabled (Option.some.inj (hlast.symm.trans hpresent))
  · -- disconnected or disabled: the record is empty, and nothing or `ABSENT` was sent last
    refine .blank (if_neg hrecord) ?_
    show (if w.publisher.connected then some (w.sense release status now compared).1 else none) ≠ _
    split
    · rename_i hconnected
      have hdisabled : w.watcher.enabled = false := by simpa [hconnected] using hrecord
      have hsense : w.sense release status now compared = (false, none) := by
        simp [SignalWatch.sense, LineSense.sense, hdisabled]
      rw [hsense]
      exact nofun
    · exact nofun

end Iterate

/-! ## Whole runs -/

section Runs

variable {settings : SignalSettings} {w w' : SignalWatch}

/-- In any run. -/
theorem tracked {ok : SignalWatch → SignalMove → Prop} (h : (signalWatch settings).Reach ok w) :
    Tracked settings.signalReleaseSeconds w := by
  refine h.invariant (I := Tracked settings.signalReleaseSeconds) ?_ fun w move w' hw _ hnext => ?_
  · rintro w ⟨p, clock, -, rfl⟩
    exact .blank rfl nofun
  · cases next_moved hnext with
    | publisher => exact hw.congr (sameWatch_moved _)
    | @fed n source level now p hpc hnow =>
      have hsame := sameWatch_observe (w := w) ⟨source, level⟩ now
      exact hw.congr ⟨hsame.iterations, hsame.last, hsame.absentSince, hnow⟩
    | iterate hidle hnow hcompared => exact hw.iterate hnow hcompared

/-- Between a `PRESENT` and the next `ABSENT` nothing is sent. -/
theorem Tracked.awaiting {w : SignalWatch} (h : Tracked release w) (hp : Sends w.iterations true p)
    (hpn : p < n) (hn : n ≤ w.iterations.length)
    (hquiet : ∀ k, p < k → k < n → ¬ Sends w.iterations false k) : Awaiting w.iterations p n := by
  induction n with
  | zero => cases hpn
  | succ n ih =>
    refine ⟨hp, hpn, fun k hpk hkn b hsends => ?_⟩
    have hkl : k < w.iterations.length := Nat.lt_of_lt_of_le hkn hn
    rcases Nat.lt_succ_iff_lt_or_eq.mp hkn with hlt | rfl
    · exact (ih (Nat.lt_trans hpk hlt) (Nat.le_of_succ_le hn)
        fun j hpj hjn => hquiet j hpj (Nat.lt_succ_of_lt hjn)).2.2 k hpk hlt b hsends
    · have hawaiting := ih hpk (Nat.le_of_succ_le hn) fun j hpj hjk =>
        hquiet j hpj (Nat.lt_succ_of_lt hjk)
      cases b with
      | true => exact ((h.fits k hkl).absent p hawaiting).1 hsends
      | false => exact hquiet k hpk hkn hsends

/-- The record is debounced. -/
theorem Tracked.debounced {w : SignalWatch} (h : Tracked release w) :
    Debounced w.iterations release where
  present i hi hsent := by
    obtain ⟨k, hk⟩ := List.mem_iff_getElem?.mp hi
    have hkl := (List.getElem?_eq_some_iff.mp hk).1
    by_contra hundetected
    exact (h.fits k hkl).present ⟨i, hk, hsent⟩ ⟨i, hk, by simpa using hundetected⟩
  absent p i hp hpi hi := by
    -- as long as no `ABSENT` was sent the source was not released, and the other way round
    have hquiet : (∀ k, p < k → k < i → ¬ Sends w.iterations false k) ↔
        ∀ k, p < k → k < i → ¬ Released w.iterations release k := by
      constructor
      · intro hno k hpk hki hreleased
        have hawaiting := h.awaiting hp hpk (Nat.le_of_lt (Nat.lt_trans hki hi))
          fun j hpj hjk => hno j hpj (Nat.lt_trans hjk hki)
        exact hno k hpk hki (((h.fits k (Nat.lt_trans hki hi)).absent p hawaiting).2.mpr hreleased)
      · intro hno k
        induction k using Nat.strong_induction_on with
        | _ k ih =>
          intro hpk hki hsends
          have hawaiting := h.awaiting hp hpk (Nat.le_of_lt (Nat.lt_trans hki hi))
            fun j hpj hjk => ih j hjk hpj (Nat.lt_trans hjk hki)
          exact hno k hpk hki
            (((h.fits k (Nat.lt_trans hki hi)).absent p hawaiting).2.mp hsends)
    rw [← hquiet]
    refine and_congr_left fun hno => ?_
    exact ((h.fits i hi).absent p (h.awaiting hp hpi (Nat.le_of_lt hi) hno)).2

/-- Every iteration on record that detects the source hears it. -/
theorem all_hear (h : (signalWatch settings).Reach PhonoChanges w) :
    ∀ i ∈ w.iterations, i.detected = true → i.Hears settings := by
  induction h with
  | init hw =>
    obtain ⟨p, clock, -, rfl⟩ := hw
    exact fun _ hi => by cases hi
  | @move w w' move hr _ hnext ih =>
    cases next_moved hnext with
    | publisher =>
      rw [(sameWatch_moved _).iterations]
      exact ih
    | fed =>
      show ∀ i ∈ (w.observeStreamActivity _ _).1.iterations, _
      rw [(sameWatch_observe _ _).iterations]
      exact ih
    | @iterate status now compared =>
      show ∀ i ∈ if w.publisher.connected && w.watcher.enabled then _ else [], _
      split
      · intro i hi hdetected
        rcases List.mem_append.mp hi with hold | hnew
        · exact ih i hold hdetected
        · obtain rfl := List.mem_singleton.mp hnew
          exact hears_of_detected hr hdetected
      · exact fun _ hi => by cases hi

/-- **Line sense is debounced**, and in every run whose changes to phono are settled a `PRESENT` is
    only ever sent for the source that is selected. -/
theorem signal_debounced (h : (signalWatch settings).Reach PhonoChanges w) :
    Debounced w.iterations settings.signalReleaseSeconds ∧
      ∀ i ∈ w.iterations, i.sent = some true → i.Hears settings := by
  have hdebounced := (tracked h).debounced
  exact ⟨hdebounced, fun i hi hsent => all_hear h i hi (hdebounced.present i hi hsent)⟩

end Runs

/-! ## Two runs -/

instance decidablePhonoChanges : ∀ (w : SignalWatch) (move : SignalMove),
    Decidable (PhonoChanges w move)
  | w, .publisher m => inferInstanceAs (Decidable (w.publisher.PhonoSettled m))
  | _, .fed _ _ _ | _, .iterate _ _ _ => isTrue trivial

/-- A release of 1.5 s for the signal and of 2 s for the phono, from -45 dBFS on. -/
def settings : SignalSettings := ⟨3 / 2, some (-45), 2, 3⟩

/-- Both sources, without a media player. -/
def console : SignalWatch where
  publisher := .initial true (fun source => source == .phono || source == .bluetooth) false
  streamActivityDetector := settings.detector

theorem console_init : (signalWatch settings).init console := ⟨_, 0, ⟨_, _, _, rfl⟩, rfl⟩

/-- The publisher's moves. -/
def publishing (moves : List Publisher.Move) : List SignalMove := moves.map .publisher

/-- The server starts the stream; the pump `n + 1` opens the selected source. -/
def streamStarts (n : Nat) : List Publisher.Move :=
  List.flatten [Publisher.startCommand n,
    [.resume (.op n) .ok, .step, .step, .resume (.pump (n + 1)) .ok, .step]]

/-- A record is heard by the pump and falls silent. -/
theorem signal_debounced_record : ∃ w : SignalWatch,
    w.iterations.map Iteration.sent = [some false, some true, none, some false] ∧
    Debounced w.iterations settings.signalReleaseSeconds ∧
    ∀ i ∈ w.iterations, i.sent = some true → i.Hears settings := by
  obtain ⟨w, hw, hsent⟩ := Machine.exists_reach (m := (signalWatch settings).guarded PhonoChanges)
    (l := List.flatten [publishing Publisher.connecting, [.iterate none 0 0],
      publishing (streamStarts 0),
      [.fed 1 (-20) 1, .publisher .step, .iterate none 1 1, .fed 1 (-70) 2, .publisher .step,
        .fed 1 (-70) 5, .publisher .step, .iterate none 5 5, .iterate none 7 7]])
    (fun w => w.iterations.map Iteration.sent = [some false, some true, none, some false])
    console_init (by decide +kernel)
  exact ⟨w, hsent, signal_debounced hw.of_guarded⟩

/-- Phono is selected while Bluetooth is being streamed, and a start command comes while the old
    pump closes: the new one reads Bluetooth, and what it reads is signalled as the phono. -/
theorem signal_of_other : ¬ ∀ (settings : SignalSettings) (w : SignalWatch),
    (signalWatch settings).Reach Machine.anyMove w →
    Debounced w.iterations settings.signalReleaseSeconds ∧
      ∀ i ∈ w.iterations, i.sent = some true → i.Hears settings := by
  intro hall
  obtain ⟨w, hw, hrecord⟩ := Machine.exists_reach (m := signalWatch settings)
    (l := List.flatten [publishing (List.flatten [Publisher.connecting,
        [.selectSource .bluetooth, .step, .step, .step, .step, .step, .step, .step],
        streamStarts 1, [.selectSource .phono, .step, .step, .step, .step], streamStarts 4,
        [.resume (.pump 2) .cancelled, .step, .resume (.pump 2) .ok, .step,
          .resume (.op 3) .ok, .step, .step, .step, .step, .step, .step]]),
      [.fed 5 (-20) 1, .publisher .step, .iterate none 1 1]])
    (fun w => w.iterations =
      [⟨.phono, false, [⟨.bluetooth, -20⟩], true, 1, 1, some true⟩])
    console_init (by decide +kernel)
  have hmem : (⟨.phono, false, [⟨.bluetooth, -20⟩], true, 1, 1, some true⟩ : Iteration) ∈
      w.iterations := by
    rw [hrecord]
    exact List.mem_cons_self
  rcases (hall settings w hw).2 _ hmem rfl with hreported | ⟨-, hblocks, -⟩
  · cases hreported
  · cases hblocks _ List.mem_cons_self

end SignalWatch

end PhonoConsole
