/-
  LINE SENSE: what the server last heard of the source, and what the watcher believes it heard
  (`_watch_signal` of `phono_console/sendspin_source.py`).

  The watcher polls, computes whether the source is active, and sends only when that differs from
  the last signal IT sent.  Two other writers send `ABSENT` behind its back: the enable setters
  and a start command that is ignored.  When the source is disabled and enabled again between two
  polls, the server has heard `ABSENT` and the watcher still remembers `PRESENT`.

  * `Poll`, `LineSense.sense` — what one iteration reads, and what it computes from it;
  * `LineSense`, `lineSense`  — the watcher, the setters, the start command and the signals on
    their way, with `overridden`: another task's `ABSENT` was delivered over the watcher's signal;
  * `signal_delivered`        — in every reachable state, what was delivered last is the watcher's
    last signal, unless it was overridden;
  * `Heeded`                  — the condition on a move: a poll after an `ABSENT` over the watcher's
    `PRESENT` finds the source disabled, and none arrives within the watcher's own send;
  * `line_sense_follows`      — under the condition every completed iteration leaves the server with
    its result; `line_sense_iff` is the criterion for one iteration, in any run.

  The connection stays up and every send succeeds.  A stop command sends nothing.
-/
import PhonoConsole.Lib.Machine
import PhonoConsole.Controller

namespace PhonoConsole

/-- `playback_status` of the Bluetooth media player. -/
inductive MediaStatus
  | playing
  | paused
  | stopped
  | other
deriving DecidableEq, Repr

/-- What one iteration reads from outside: the published status, the PCM pump's activity
    (`none` without a detector), the media player, and the clock, twice. -/
structure Poll where
  status : Option Status := none
  streaming : Bool := false
  streamRequested : Bool := false
  streamActivity : Option Bool := none
  streamActivitySeenPresent : Bool := false
  media : Option MediaStatus := none
  now : ℚ := 0
  compared : ℚ := 0

/-- Where the watcher is. -/
inductive WatchPhase
  /-- between two iterations -/
  | waiting
  /-- in `_send_signal(active)`, the signal on its way -/
  | sending (active : Bool)
  /-- in `_send_signal(active)`, the signal delivered -/
  | sent (active : Bool)
deriving DecidableEq

/-- The fields and the watcher's locals; the `ABSENT`s of other tasks on their way, the last
    signal delivered, whether another task's was the last one delivered over the watcher's, and
    the result of the iteration that the last move completed. -/
structure LineSense where
  selectedSource : Source := .phono
  distributionEnabled : Bool := true
  sourceDistributionEnabled : Source → Option Bool
  bluetoothPauseLatched : Bool := false
  bluetoothPauseObserved : Bool := false
  last : Option Bool := none
  absentSince : Option ℚ := none
  phase : WatchPhase := .waiting
  absents : Nat := 0
  delivered : Option Bool := none
  overridden : Bool := false
  completed : Option Bool := none

namespace LineSense

/-! ## One iteration -/

/-- The publisher and the selected source are enabled. -/
def enabled (s : LineSense) : Bool :=
  s.distributionEnabled && (s.sourceDistributionEnabled s.selectedSource).getD true

/-- `detected`, up to the pause latch: the PCM pump is authoritative once it has observed real
    phono activity. -/
def detected (s : LineSense) (i : Poll) : Bool :=
  let reported := i.status.any fun status =>
    s.selectedSource == .phono && status.phonoActive
      || s.selectedSource == .bluetooth && status.bluetoothActive
  match i.streamActivity with
  | some active =>
    if s.selectedSource == .phono && i.streaming && i.streamRequested
        && i.streamActivitySeenPresent then active
    else reported
  | none => reported

/-- `selected is Source.BLUETOOTH`, in the published status. -/
def bluetoothReported (i : Poll) : Bool :=
  i.status.any fun status => !status.phonoActive && status.bluetoothActive

/-- The pause latches `(latched, observed)` after the iteration's look at the media player. -/
def pauseLatches (s : LineSense) (i : Poll) : Bool × Bool :=
  if s.bluetoothPauseLatched && bluetoothReported i then
    match i.media with
    | some .paused | some .stopped => (true, true)
    | some .playing => if s.bluetoothPauseObserved then (false, false) else (true, false)
    | _ => (true, s.bluetoothPauseObserved)
  else (s.bluetoothPauseLatched, s.bluetoothPauseObserved)

/-- `detected` after the pause latch. -/
def sensed (s : LineSense) (i : Poll) : Bool :=
  s.detected i && !((s.pauseLatches i).1 && bluetoothReported i)

/-- The release of a signal that is no longer sensed is still running. -/
def holding (s : LineSense) (release : ℚ) (i : Poll) : Bool :=
  s.last == some true && decide (i.compared - s.absentSince.getD i.now < release)

/-- `active` and `absent_since` of the iteration. -/
def sense (s : LineSense) (release : ℚ) (i : Poll) : Bool × Option ℚ :=
  if !s.enabled then (false, none)
  else if s.sensed i then (true, none)
  else if s.last = some true then
    (decide (i.compared - s.absentSince.getD i.now < release), some (s.absentSince.getD i.now))
  else (false, s.absentSince)

/-- The iteration computes `active` exactly when the source is enabled, and sensed or held. -/
theorem sense_active (s : LineSense) (release : ℚ) (i : Poll) :
    (s.sense release i).1 = (s.enabled && (s.sensed i || s.holding release i)) := by
  unfold sense holding
  cases s.enabled
  · rfl
  · cases s.sensed i
    · by_cases hl : s.last = some true
      · simp [hl]
      · simp [hl]
    · rfl

/-! ## The moves -/

/-- What the watcher, the setters and the server do next. -/
inductive Move
  /-- the watcher wakes up and runs its iteration, up to a send -/
  | iterate (i : Poll)
  | watcherDelivered
  /-- the watcher's send returns, and the iteration is complete -/
  | watcherReturns
  | setDistributionEnabled (enabled : Bool)
  | setSourceDistributionEnabled (source : Source) (enabled : Bool)
  /-- a start command gets the command lock -/
  | serverStart
  | selectSource (source : Source)
  /-- the server receives another task's `ABSENT` -/
  | absentDelivered

section Moves

variable (release : ℚ) (hasMedia : Bool)

/-- The watcher after a move. -/
def next (s : LineSense) : Move → Option LineSense
  | .iterate i =>
    if s.phase = .waiting then
      let (latched, observed) := s.pauseLatches i
      let (active, absentSince) := s.sense release i
      let s := { s with
        bluetoothPauseLatched := latched, bluetoothPauseObserved := observed, absentSince }
      if s.last = some active then some { s with completed := some active }
      else some { s with phase := .sending active, completed := none }
    else none
  | .watcherDelivered =>
    match s.phase with
    | .sending active =>
      some { s with
        phase := .sent active, delivered := some active, overridden := false, completed := none }
    | _ => none
  | .watcherReturns =>
    match s.phase with
    | .sent active =>
      some { s with phase := .waiting, last := some active, completed := some active }
    | _ => none
  | .setDistributionEnabled enabled =>
    some { s with
      distributionEnabled := enabled
      absents := if enabled then s.absents else s.absents + 1
      completed := none }
  | .setSourceDistributionEnabled source enabled =>
    some { s with
      sourceDistributionEnabled := Function.update s.sourceDistributionEnabled source (some enabled)
      absents := if source = s.selectedSource ∧ enabled = false then s.absents + 1 else s.absents
      completed := none }
  | .serverStart =>
    if s.distributionEnabled && (s.sourceDistributionEnabled s.selectedSource).getD false then
      if s.selectedSource == .bluetooth && hasMedia then
        some { s with
          bluetoothPauseLatched := false, bluetoothPauseObserved := false, completed := none }
      else some { s with completed := none }
    else some { s with absents := s.absents + 1, completed := none }
  | .selectSource source => some { s with selectedSource := source, completed := none }
  | .absentDelivered =>
    match s.absents with
    | absents + 1 =>
      some { s with absents, delivered := some false, overridden := true, completed := none }
    | 0 => none

end Moves

/-- The publisher as constructed with its sources. -/
def create (sources : List Source) : LineSense where
  sourceDistributionEnabled source := if source ∈ sources then some true else none

end LineSense

/-- Every interleaving of the watcher with the setters and the server's start commands. -/
def lineSense (sources : List Source) (release : ℚ) (hasMedia : Bool) :
    Machine LineSense LineSense.Move where
  init s := s = .create sources
  next := LineSense.next release hasMedia

namespace LineSense

variable {sources : List Source} {release : ℚ} {hasMedia : Bool} {s s' : LineSense} {a : Move}

/-! ## What the server has heard -/

/-- The watcher's last signal that was delivered: `last`, until its send returns. -/
def signal (s : LineSense) : Option Bool :=
  match s.phase with
  | .sent active => some active
  | _ => s.last

/-- What was delivered last is the watcher's last signal, or an `ABSENT` over it. -/
def Heard (s : LineSense) : Prop :=
  ∀ b, s.signal = some b → s.delivered = some (b && !s.overridden)

/-- A move that sends nothing and delivers nothing. -/
theorem Heard.congr (h : s.Heard) (hsignal : s'.signal = s.signal)
    (hdelivered : s'.delivered = s.delivered) (hover : s'.overridden = s.overridden) : s'.Heard := by
  unfold Heard
  rw [hsignal, hdelivered, hover]
  exact h

theorem Heard.next (h : s.Heard) (hnext : LineSense.next release hasMedia s a = some s') :
    s'.Heard := by
  cases a with
  | iterate i =>
    simp only [LineSense.next] at hnext
    split at hnext
    · rename_i hwaiting
      split at hnext
      · obtain rfl := Option.some.inj hnext
        exact h.congr rfl rfl rfl
      · obtain rfl := Option.some.inj hnext
        refine h.congr ?_ rfl rfl
        unfold signal
        rw [hwaiting]
    · exact nomatch hnext
  | watcherDelivered =>
    simp only [LineSense.next] at hnext
    split at hnext
    · obtain rfl := Option.some.inj hnext
      intro b hb
      obtain rfl := Option.some.inj hb
      exact congrArg some (Bool.and_true _).symm
    · exact nomatch hnext
  | watcherReturns =>
    simp only [LineSense.next] at hnext
    split at hnext
    · rename_i active hsent
      obtain rfl := Option.some.inj hnext
      refine h.congr ?_ rfl rfl
      unfold signal
      rw [hsent]
    · exact nomatch hnext
  | setDistributionEnabled enabled | setSourceDistributionEnabled source enabled
  | selectSource source =>
    obtain rfl := Option.some.inj hnext
    exact h.congr rfl rfl rfl
  | serverStart =>
    simp only [LineSense.next] at hnext
    split at hnext
    · split at hnext
      · obtain rfl := Option.some.inj hnext
        exact h.congr rfl rfl rfl
      · obtain rfl := Option.some.inj hnext
        exact h.congr rfl rfl rfl
    · obtain rfl := Option.some.inj hnext
      exact h.congr rfl rfl rfl
  | absentDelivered =>
    simp only [LineSense.next] at hnext
    split at hnext
    · obtain rfl := Option.some.inj hnext
      intro b _
      exact congrArg some (Bool.and_false b).symm
    · exact nomatch hnext

theorem signal_delivered (h : (lineSense sources release hasMedia).Reach Machine.anyMove s) :
    s.Heard := by
  refine h.invariant (I := Heard) (fun s hs => ?_) fun s a s' hs _ hnext => hs.next hnext
  rw [show s = _ from hs]
  exact fun _ hb => nomatch hb

/-! ## A completed iteration -/

/-- The watcher's `PRESENT` has been followed by another task's `ABSENT`. -/
def Stale (s : LineSense) : Prop := s.overridden = true ∧ s.signal = some true

/-- A move that completes an iteration: its result is the watcher's last signal, and the source is
    not active while it is disabled. -/
theorem completes (hnext : LineSense.next release hasMedia s a = some s') {active : Bool}
    (hdone : s'.completed = some active) :
    s'.delivered = s.delivered ∧ s.signal = some active ∧
      ((∃ i, a = .iterate i) ∧ s.phase = .waiting ∧ (s.enabled = false → active = false) ∨
        a = .watcherReturns ∧ s.phase = .sent active) := by
  cases a with
  | iterate i =>
    simp only [LineSense.next] at hnext
    split at hnext
    · rename_i hwaiting
      split at hnext
      · rename_i hlast
        obtain rfl := Option.some.inj hnext
        obtain rfl := Option.some.inj hdone
        refine ⟨rfl, ?_, .inl ⟨⟨i, rfl⟩, hwaiting, fun hdisabled => ?_⟩⟩
        · unfold signal
          rw [hwaiting]
          exact hlast
        · rw [sense_active, hdisabled, Bool.false_and]
      · obtain rfl := Option.some.inj hnext
        cases hdone
    · cases hnext
  | watcherReturns =>
    simp only [LineSense.next] at hnext
    split at hnext
    · rename_i b hsent
      obtain rfl := Option.some.inj hnext
      obtain rfl := Option.some.inj hdone
      refine ⟨rfl, ?_, .inr ⟨rfl, hsent⟩⟩
      unfold signal
      rw [hsent]
    · cases hnext
  | watcherDelivered =>
    simp only [LineSense.next] at hnext
    split at hnext
    · obtain rfl := Option.some.inj hnext
      cases hdone
    · cases hnext
  | setDistributionEnabled enabled | setSourceDistributionEnabled source enabled
  | selectSource source =>
    obtain rfl := Option.some.inj hnext
    cases hdone
  | serverStart =>
    simp only [LineSense.next] at hnext
    split at hnext
    · split at hnext
      · obtain rfl := Option.some.inj hnext
        cases hdone
      · obtain rfl := Option.some.inj hnext
        cases hdone
    · obtain rfl := Option.some.inj hnext
      cases hdone
  | absentDelivered =>
    simp only [LineSense.next] at hnext
    split at hnext
    · obtain rfl := Option.some.inj hnext
      cases hdone
    · cases hnext

/-- The criterion: in every reachable state, a move that completes an iteration leaves `PRESENT` as
    the last signal delivered exactly when the iteration computed `active`, unless the watcher's
    `PRESENT` was stale. -/
theorem line_sense_iff (h : (lineSense sources release hasMedia).Reach Machine.anyMove s)
    (hnext : (lineSense sources release hasMedia).next s a = some s') {active : Bool}
    (hdone : s'.completed = some active) :
    (s'.delivered = some true ↔ active = true) ↔ ¬ s.Stale := by
  obtain ⟨hdelivered, hsignal, -⟩ := completes hnext hdone
  unfold Stale
  rw [hdelivered, signal_delivered h active hsignal, hsignal]
  cases active <;> cases s.overridden <;> decide

/-! ## The condition on a run -/

/-- The condition on a move: once another task's `ABSENT` was delivered over the watcher's `PRESENT`,
    the next poll finds the source disabled; and none is delivered between the delivery of the
    watcher's own `PRESENT` and the return of its send. -/
def Heeded (s : LineSense) : Move → Prop
  | .iterate _ => s.overridden = true → s.last = some true → s.enabled = false
  | .absentDelivered => s.phase ≠ .sent true
  | _ => True

instance (s : LineSense) (a : Move) : Decidable (s.Heeded a) := by
  cases a <;> unfold Heeded <;> exact inferInstance

/-- While the watcher's own `PRESENT` returns, nothing has been delivered over it. -/
def Undisturbed (s : LineSense) : Prop := s.phase = .sent true → s.overridden = false

theorem Undisturbed.next (h : s.Undisturbed) (hm : s.Heeded a)
    (hnext : LineSense.next release hasMedia s a = some s') : s'.Undisturbed := by
  cases a with
  | iterate i =>
    simp only [LineSense.next] at hnext
    split at hnext
    · rename_i hwaiting
      split at hnext
      · obtain rfl := Option.some.inj hnext
        exact h
      · obtain rfl := Option.some.inj hnext
        intro hsent
        cases hsent
    · cases hnext
  | watcherDelivered =>
    simp only [LineSense.next] at hnext
    split at hnext
    · obtain rfl := Option.some.inj hnext
      exact fun _ => rfl
    · cases hnext
  | watcherReturns =>
    simp only [LineSense.next] at hnext
    split at hnext
    · obtain rfl := Option.some.inj hnext
      intro hsent
      cases hsent
    · cases hnext
  | setDistributionEnabled enabled | setSourceDistributionEnabled source enabled
  | selectSource source =>
    obtain rfl := Option.some.inj hnext
    exact h
  | serverStart =>
    simp only [LineSense.next] at hnext
    split at hnext
    · split at hnext
      · obtain rfl := Option.some.inj hnext
        exact h
      · obtain rfl := Option.some.inj hnext
        exact h
    · obtain rfl := Option.some.inj hnext
      exact h
  | absentDelivered =>
    simp only [LineSense.next] at hnext
    split at hnext
    · obtain rfl := Option.some.inj hnext
      exact fun hsent => absurd hsent hm
    · cases hnext

/-- **The server's view follows the watcher**: in every run whose moves meet the condition, after a
    completed iteration the last signal delivered is `PRESENT` exactly when it computed `active`. -/
theorem line_sense_follows (h : (lineSense sources release hasMedia).Reach Heeded s) {active : Bool}
    (hdone : s.completed = some active) : s.delivered = some true ↔ active = true := by
  cases h with
  | init hs =>
    rw [show s = _ from hs] at hdone
    cases hdone
  | @move s₀ _ a hreach hm hnext =>
    refine (line_sense_iff hreach.forget hnext hdone).mpr fun ⟨hover, hpresent⟩ => ?_
    obtain ⟨-, hsignal, ⟨⟨i, rfl⟩, hwaiting, hdisabled⟩ | ⟨rfl, hsent⟩⟩ := completes hnext hdone
    · -- a poll with nothing to send: over a stale signal it would find the source disabled
      have hlast : s₀.last = some true := by
        rw [signal, hwaiting] at hpresent
        exact hpresent
      obtain rfl := hdisabled (hm hover hlast)
      rw [hsignal] at hpresent
      cases hpresent
    · -- the watcher's own signal was the last one delivered, until it returned
      rw [hsignal] at hpresent
      obtain rfl := Option.some.inj hpresent
      have hquiet : s₀.Undisturbed := by
        refine hreach.invariant (fun s hs => ?_) fun _ _ _ hs hm hn => hs.next hm hn
        rw [show s = _ from hs]
        intro hsent
        cases hsent
      exact absurd (hover.symm.trans (hquiet hsent)) Bool.false_ne_true.symm

/-- A record plays. -/
def recordHeard : Poll where
  status := some
    { route := .localPhono, phonoActive := true, maPlaying := false, wholeHouseRequested := false
      levelDbfs := -20 }

/-- The watcher's first `PRESENT`. -/
def presentSent : List Move := [.iterate recordHeard, .watcherDelivered, .watcherReturns]

/-- Disabled from the dashboard, and polled while disabled: the next `PRESENT` is sent again. -/
theorem line_sense_resent : ∃ s : LineSense,
    s.completed = some true ∧ (s.delivered = some true ↔ true = true) := by
  obtain ⟨s, hs, hdone⟩ := Machine.exists_reach
    (m := (lineSense [.phono, .bluetooth] 5 true).guarded Heeded)
    (l := List.flatten [presentSent, [.setDistributionEnabled false, .absentDelivered,
      .iterate recordHeard, .watcherDelivered, .watcherReturns, .setDistributionEnabled true],
      presentSent])
    (fun s => s.completed = some true)
    (show _ = LineSense.create _ from rfl) (by decide +kernel)
  exact ⟨s, hdone, line_sense_follows (.of_guarded hs) hdone⟩

/-- Disabled and enabled again between two polls: the server has heard `ABSENT`, and the watcher
    has nothing to send. -/
theorem line_sense_lost :
    ¬ ∀ (s s' : LineSense) (a : Move) (active : Bool),
      (lineSense [.phono, .bluetooth] 5 true).Reach Machine.anyMove s →
      (lineSense [.phono, .bluetooth] 5 true).next s a = some s' → s'.completed = some active →
      (s'.delivered = some true ↔ active = true) := by
  intro hall
  obtain ⟨s, hs, hbad⟩ := Machine.exists_reach (m := lineSense [.phono, .bluetooth] 5 true)
    (l := List.flatten [presentSent, [.setDistributionEnabled false, .absentDelivered,
      .setDistributionEnabled true]])
    (fun s => (next 5 true s (.iterate recordHeard)).any (fun s' =>
      s'.completed == some true && s'.delivered == some false) = true)
    (show _ = LineSense.create _ from rfl) (by decide +kernel)
  obtain ⟨s', hnext, hP⟩ := (Option.any_eq_true _ _).mp hbad
  simp only [Bool.and_eq_true, beq_iff_eq] at hP
  obtain ⟨hdone, hdelivered⟩ := hP
  have hheard := (hall s s' (.iterate recordHeard) true hs hnext hdone).mpr rfl
  rw [hdelivered] at hheard
  cases hheard

end LineSense

end PhonoConsole
