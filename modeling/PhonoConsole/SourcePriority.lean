/-
  SOURCE PRIORITY over whole runs: active phono before streaming Bluetooth before Music Assistant.

  The final route of a tick passes through many hands: detector forcing, pre-activation, the
  reducer, two latches, the release rewrite, the fallback chooser and the router's error path.
  All of them meet in `desired_cases`, so the priority is read off there:

  * `source_priority`  — in every run, every tick that returns respects the priority, up to a
    router failure, which leaves the console idle;
  * `Sensed.transient` — a peak has the record player: it wakes an idle console now, or has woken
    one within the release, told from the answers and the state before;
  * `transient_beaten` — in runs whose phono level stays quiet, and in which no peak meets a playing
    Music Assistant so, no tick of a playing source ends with a phono route;
  * `transient_taken`  — and a peak that does has the route, unless the router fails.
-/
import Mathlib.Tactic.Linarith
import PhonoConsole.DetectorTrace
import PhonoConsole.Release

namespace PhonoConsole

open Coro Controller

namespace Sensed

variable (cfg : Config) (cb : Callbacks) (now : ℚ) (o : Oracle) (c : Controller)

/-- The peak of this tick wakes the console: nothing is active, and there is no route. -/
def wakes : Bool :=
  !c.detector.active && (c.route == none || c.route == some .idle)
    && decide (cfg.needleDropPeakDbfs ≤ peakLevel o)

/-- An earlier peak has latched the detector, and its release is not over. -/
def latched : Bool :=
  c.detector.active && decide (now - c.detector.since now < c.detector.releaseSeconds)

/-- The Bluetooth monitor hears something, or has within its release. -/
def bluetoothHeard : Bool :=
  cb.bluetoothMonitor &&
    match o .bluetoothLevelDbfs with
    | .ok level => c.bluetoothDetector.active != c.bluetoothDetector.turnsAt level now
    | .error _ => false

/-- A peak has the record player: it wakes the console, or holds it while Bluetooth is idle. -/
def transient : Bool :=
  captureOk o && !transportPlaying cb o
    && (wakes cfg o c || latched now c && !bluetoothHeard cb now o c)

/-- The route a selected phono is given: Downstairs when that is confirmed and prepared. -/
def phonoRoute : Route :=
  if distributes cfg cb now o c == some .distributedPhono
      && !unprepared cfg cb now o c .distributedPhono then .distributedPhono
  else .localPhono

end Sensed

namespace Controller

variable {cfg : Config} {cb : Callbacks} {now : ℚ} {o : Oracle} {c c' : Controller}
  {l : List CtlReq}

/-- A tick that returns ends with its desired route, or idle because the router failed. -/
theorem tick_route {st : Status} (h : eval o (tick cfg cb now) c = (.ok st, c', l)) :
    st.route = Sensed.desired cfg cb now o c ∨ st.route = .idle ∧ RouterFailed o l := by
  obtain ⟨hst, -, hfail, -⟩ := tick_ok h
  rw [hst, Sensed.route]
  cases hacc : Sensed.accepted cfg cb now o c
  · exact .inr ⟨rfl, hfail hacc⟩
  · exact .inl rfl

theorem signalPresent_eq : Sensed.signalPresent cfg cb now o c =
    (Sensed.captureOk o && (Sensed.needleDrop cfg cb o c ||
      decide (cfg.phonoThresholdDbfs -
        (if (Sensed.detector cfg cb now o c).active then cfg.phonoHysteresisDb else 0) ≤
          Sensed.level o))) := rfl

/-! ## From the observations to the selection -/

/-- A failed capture selects no phono. -/
theorem selected_of_failed (hok : Sensed.captureOk o = false) :
    Sensed.selected cfg cb now o c ≠ .phono := by
  have hact : Sensed.phonoActive cfg cb now o c = false := by rw [Sensed.phonoActive, hok]; rfl
  have hsig : Sensed.signalPresent cfg cb now o c = false := by rw [signalPresent_eq, hok]; rfl
  rw [Sensed.selected, hact, hsig]
  cases Sensed.bluetoothActive cfg cb now o c <;> simp [selectedSource]

/-- An active detector at its release boundary is an active phono with a signal. -/
theorem phono_of_boundary (hact : (Sensed.detector cfg cb now o c).active = true)
    (hlevel : cfg.phonoThresholdDbfs - cfg.phonoHysteresisDb ≤ Sensed.level o) :
    Sensed.selected cfg cb now o c = .phono ∧ Sensed.phonoActive cfg cb now o c = true := by
  have hok : Sensed.captureOk o = true := by
    by_contra hno
    rw [Sensed.detector, if_neg hno] at hact
    exact nomatch hact
  have hsig : Sensed.signalPresent cfg cb now o c = true := by
    rw [signalPresent_eq, hok, hact, if_pos rfl, decide_eq_true hlevel, Bool.or_true]
    rfl
  refine ⟨?_, ?_⟩
  · rw [Sensed.selected, hsig]
    rfl
  · rw [Sensed.phonoActive, hok, hact]
    rfl

/-- A playing transport is active Bluetooth, whatever the monitor samples. -/
theorem bluetoothActive_of_transport (h : Sensed.transportPlaying cb o = true) :
    Sensed.bluetoothActive cfg cb now o c = true := by
  unfold Sensed.bluetoothActive
  split <;> simp [h]

theorem selected_of_transport (h : Sensed.transportPlaying cb o = true)
    (hs : Sensed.signalPresent cfg cb now o c = false) :
    Sensed.selected cfg cb now o c = .bluetooth := by
  rw [Sensed.selected, hs, bluetoothActive_of_transport h]
  rfl

/-! ## From the selection to the desired route -/

theorem desired_of_not_phono (hs : Sensed.selected cfg cb now o c ≠ .phono) :
    routeSource (Sensed.desired cfg cb now o c) ≠ .phono := by
  intro hphono
  rcases sensed_cases cfg cb now o c with ⟨hs', -⟩ | ⟨-, hd⟩ | ⟨-, hd | ⟨hd, -⟩⟩
  · exact hs hs'
  all_goals
    rw [hd] at hphono
    exact nomatch hphono

theorem desired_bluetooth (hs : Sensed.selected cfg cb now o c = .bluetooth) :
    routeSource (Sensed.desired cfg cb now o c) = .bluetooth := by
  rcases sensed_cases cfg cb now o c with ⟨hs', -⟩ | ⟨-, hd⟩ | ⟨hs', -⟩
  · rw [hs] at hs'
    exact nomatch hs'
  · exact hd
  · rw [hs] at hs'
    exact nomatch hs'

theorem desired_maPlayback (hd : Sensed.desired cfg cb now o c = .maPlayback) :
    Sensed.selected cfg cb now o c = .none ∧ Sensed.maPlaying o = true := by
  rcases sensed_cases cfg cb now o c with
    ⟨-, hp | ⟨-, -, -, hp⟩⟩ | ⟨-, hb⟩ | ⟨hs, hi | ⟨-, hplays⟩⟩
  · rw [hd] at hp
    exact nomatch hp
  · rw [hd] at hp
    exact nomatch hp
  · rw [hd] at hb
    exact nomatch hb
  · rw [hd] at hi
    exact nomatch hi
  · exact ⟨hs, hplays⟩

/-- What a selected phono that is not overruled by the Bluetooth latch leads to. -/
theorem desired_phono (hsel : Sensed.selected cfg cb now o c = .phono)
    (hlatch : c.route ≠ some .distributedBluetooth ∨ Sensed.phonoActive cfg cb now o c = true) :
    Sensed.desired cfg cb now o c = Sensed.phonoRoute cfg cb now o c := by
  have hs : (Sensed.observed cfg cb now o c).selected = .phono := hsel
  unfold Sensed.phonoRoute
  rw [distributes_eq]
  have hopen : (c.route == some .distributedBluetooth && Sensed.bluetoothActive cfg cb now o c
      && !Sensed.phonoActive cfg cb now o c && Sensed.capable cfg cb now o c
      && Sensed.streamHealthy cb o) = false := by
    rcases hlatch with h | h <;> simp [h]
  have hd : Sensed.decided cfg cb now o c = .distributedPhono ∨
      Sensed.decided cfg cb now o c = .localPhono := by
    rw [Sensed.decided, decided_eq, Sensed.observed_bluetoothActive, Sensed.observed_phonoActive,
      hopen, if_neg Bool.false_ne_true, hs]
    split
    · exact .inl rfl
    · split
      · exact .inl rfl
      · exact .inr rfl
  unfold Sensed.desired
  rcases hd with hd | hd
  · rw [hd, handedOver_distributed rfl, enteredRoute]
    have hprep : (preparesEntry cb c.route (Sensed.observed cfg cb now o c) .distributedPhono
        && !Sensed.truth (o (.prepareDistribution .enter (routeSource .distributedPhono)))) =
          Sensed.unprepared cfg cb now o c .distributedPhono := by
      rw [preparesEntry, show Route.distributedPhono.distributed = true from rfl, Bool.true_and]
      rfl
    rw [hprep]
    cases Sensed.unprepared cfg cb now o c .distributedPhono
    · rfl
    · rw [if_pos rfl, fallbackRoute, hs]
      rfl
  · have hkeep : preparesEntry cb c.route (Sensed.observed cfg cb now o c) .localPhono = false :=
      rfl
    rw [hd, enteredRoute, preparesEntry_handedOver, hkeep]
    simp [handedOver, Route.distributed]

theorem phonoRoute_source : routeSource (Sensed.phonoRoute cfg cb now o c) = .phono := by
  unfold Sensed.phonoRoute
  split <;> rfl

end Controller

namespace Ran

variable {cfg : Config} {cb : Callbacks} {s : Ran} {t : LastTick} {st : Status}

/-! ## The priority -/

/-- **Source priority**: in every run, for every tick that returns — a failed capture is no phono
    route; an active phono at its release boundary is one, unless the router failed; a playing
    Bluetooth transport without a phono signal is a Bluetooth route, unless the router failed;
    and Music Assistant is only left for an unselected, playing (or unknown) console. -/
theorem source_priority (h : (tickRuns cfg cb).Reach Machine.anyMove s) (ht : s.last = some t)
    (hret : t.outcome = .ok st) :
    (Sensed.captureOk t.answers = false → routeSource st.route ≠ .phono) ∧
    ((Sensed.detector cfg cb t.now t.answers t.before).active = true →
      cfg.phonoThresholdDbfs - cfg.phonoHysteresisDb ≤ Sensed.level t.answers →
      routeSource st.route = .phono ∨ st.route = .idle ∧ RouterFailed t.answers t.requests) ∧
    (Sensed.transportPlaying cb t.answers = true →
      Sensed.signalPresent cfg cb t.now t.answers t.before = false →
      routeSource st.route = .bluetooth ∨ st.route = .idle ∧ RouterFailed t.answers t.requests) ∧
    (st.route = .maPlayback →
      Sensed.selected cfg cb t.now t.answers t.before = .none ∧
        (t.answers .consoleIsPlaying = .ok true ∨
          ∃ e, t.answers .consoleIsPlaying = .error e)) := by
  obtain ⟨heval, -⟩ := last_eval h ht
  rw [hret] at heval
  have hroute := tick_route heval
  refine ⟨?_, ?_, ?_, ?_⟩
  · -- a failed capture
    intro hfail hphono
    rcases hroute with hr | ⟨hr, -⟩
    · rw [hr] at hphono
      exact desired_of_not_phono (selected_of_failed hfail) hphono
    · rw [hr] at hphono
      exact nomatch hphono
  · -- an active phono
    intro hact hlevel
    obtain ⟨hsel, hphono⟩ := phono_of_boundary hact hlevel
    refine hroute.imp (fun hr => ?_) id
    rw [hr, desired_phono hsel (.inr hphono)]
    exact phonoRoute_source
  · -- a playing transport
    intro hplay hsig
    refine hroute.imp (fun hr => ?_) id
    rw [hr]
    exact desired_bluetooth (selected_of_transport hplay hsig)
  · -- Music Assistant
    intro hma
    rcases hroute with hr | ⟨hr, -⟩
    · obtain ⟨hsel, hplays⟩ := desired_maPlayback (hr ▸ hma)
      refine ⟨hsel, ?_⟩
      unfold Sensed.maPlaying at hplays
      cases hans : t.answers .consoleIsPlaying with
      | ok b =>
        rw [hans] at hplays
        exact .inl (by rw [show b = true from hplays])
      | error e => exact .inr ⟨e, rfl⟩
    · rw [hma] at hr
      exact nomatch hr

/-- A record plays: the second clause. -/
theorem source_priority_phono : ∃ (s : Ran) (t : LastTick) (st : Status),
    s.last = some t ∧ t.outcome = .ok st ∧ Sensed.level t.answers = -30 ∧
      (routeSource st.route = .phono ∨ st.route = .idle ∧ RouterFailed t.answers t.requests) := by
  obtain ⟨s, hs, hlast⟩ := Machine.exists_reach (m := tickRuns plainConfig {})
    (l := [(0, Answers.oracle { level := -30 }), (1, Answers.oracle { level := -30 })])
    (fun s => s.last.any (fun t => t.outcome.isOk &&
      (Sensed.detector plainConfig {} t.now t.answers t.before).active &&
      decide (Sensed.level t.answers = -30)) = true)
    (show _ = ({ controller := Controller.create plainConfig } : Ran) from rfl) (by decide +kernel)
  cases ht : s.last with
  | none => simp [ht] at hlast
  | some t =>
    simp only [ht, Option.any_some, Bool.and_eq_true, decide_eq_true_eq] at hlast
    cases hout : t.outcome with
    | error e => simp [hout, Except.isOk, Except.toBool] at hlast
    | ok st =>
      refine ⟨s, t, st, ht, hout, hlast.2, (source_priority hs ht hout).2.1 hlast.1.2 ?_⟩
      rw [hlast.2]
      decide +kernel

/-! ## The settings of the phono detector -/

/-- The phono detector has the configured settings. -/
def Tuned (cfg : Config) (c : Controller) : Prop :=
  (Controller.create cfg).detector.SameSettings c.detector

theorem sameSettings_sensing (now : ℚ) :
    AllowsSensing now fun c c' => c.detector.SameSettings c'.detector where
  reset _ := ⟨rfl, rfl, rfl, rfl⟩
  force _ := ⟨rfl, rfl, rfl, rfl⟩
  update c level := ActivityDetector.update_settings c.detector level now
  sticky _ _ _ := .refl _
  bluetooth _ _ := .refl _

/-- Whatever a tick does to the detector, its settings stay. -/
theorem tick_settings (cfg : Config) (cb : Callbacks) (now : ℚ) :
    (tick cfg cb now).Frame (fun c c' => c.detector.SameSettings c'.detector) fun _ => True := by
  refine Frame.bind ((observe_frame (sameSettings_sensing now)).weaken fun _ _ => trivial) fun x => ?_
  refine Frame.bind (frame_given (frame_callback trivial)) fun capable => ?_
  refine Frame.bind (frame_given (frame_callback trivial)) fun healthy => ?_
  refine Frame.bind (startDistribution_frame (fun _ _ _ => .refl _) (fun _ _ _ => trivial)
    (fun _ => trivial) capable) fun _ => ?_
  refine Frame.bind (decideRoute_frame (fun _ => .refl _) trivial capable healthy) fun decided => ?_
  refine Frame.bind (releaseIfLeaving_frame (fun _ => .refl _) trivial decided) fun left => ?_
  refine Frame.bind (enterDistribution_frame (fun _ => .refl _) (fun _ => trivial) left)
    fun desired => ?_
  refine Frame.bind (applyRoute_frame (fun _ => .refl _) trivial trivial trivial trivial trivial)
    fun route => ?_
  exact publishStatus_frame (fun _ _ => .refl _) (fun _ => trivial) (fun _ => trivial) route

theorem tuned_reach {ok : Ran → ℚ × Oracle → Prop} (h : (tickRuns cfg cb).Reach ok s) :
    Tuned cfg s.controller := by
  induction h with
  | init hs =>
    rw [show _ = _ from hs]
    exact .refl _
  | move hreach _ hnext ih =>
    rename_i s₀ _ a _
    have hsettings := (Frame.eval (o := a.2) (fun _ => .refl _) (fun h h' => h.trans h')
      (tick_settings cfg cb a.1) s₀.controller).1
    simp only [tickRuns] at hnext
    split at hnext
    · cases hnext
    · rename_i heval
      obtain rfl := Option.some.inj hnext
      rw [heval] at hsettings
      exact ih.trans hsettings

/-! ## Transients -/

/-- The phono level of the tick, if there is one, is below the release boundary. -/
def quietLevel (cfg : Config) (o : Oracle) : Bool :=
  match o .levelDbfs with
  | .ok level => decide (level < cfg.phonoThresholdDbfs - cfg.phonoHysteresisDb)
  | .error _ => true

/-- Ticks whose phono level is below the release boundary. -/
def Quiet (cfg : Config) (_ : Ran) (a : ℚ × Oracle) : Prop := quietLevel cfg a.2 = true

instance (s : Ran) (a : ℚ × Oracle) : Decidable (Quiet cfg s a) :=
  inferInstanceAs (Decidable (_ = _))

section QuietTick

variable {now : ℚ} {o : Oracle} {c : Controller}

theorem level_of_quiet (hquiet : quietLevel cfg o = true) (hok : Sensed.captureOk o = true) :
    Sensed.level o < cfg.phonoThresholdDbfs - cfg.phonoHysteresisDb := by
  unfold quietLevel at hquiet
  cases hans : o .levelDbfs with
  | ok level =>
    rw [hans] at hquiet
    rw [Sensed.level, hans]
    exact of_decide_eq_true hquiet
  | error e =>
    rw [Sensed.captureOk, hans] at hok
    cases hok

/-- At a quiet level, the only phono signal is a needle drop. -/
theorem signal_of_quiet (hhyst : 0 ≤ cfg.phonoHysteresisDb) (hquiet : quietLevel cfg o = true) :
    Sensed.signalPresent cfg cb now o c = Sensed.needleDrop cfg cb o c := by
  rw [signalPresent_eq]
  cases hok : Sensed.captureOk o with
  | true =>
    have hlevel := level_of_quiet hquiet hok
    have hbelow : ¬ cfg.phonoThresholdDbfs - (if (Sensed.detector cfg cb now o c).active
        then cfg.phonoHysteresisDb else 0) ≤ Sensed.level o := by
      split <;> linarith
    rw [decide_eq_false hbelow, Bool.or_false, Bool.true_and]
  | false => simp [Sensed.needleDrop, needleDropDetected, hok]

/-- Without a needle drop, a quiet phono is active as long as an earlier one is held. -/
theorem phonoActive_of_quiet (htuned : Tuned cfg c) (hhyst : 0 ≤ cfg.phonoHysteresisDb)
    (hquiet : quietLevel cfg o = true) (hnone : Sensed.needleDrop cfg cb o c = false) :
    Sensed.phonoActive cfg cb now o c = (Sensed.captureOk o && Sensed.latched now c) := by
  unfold Sensed.phonoActive Sensed.detector Sensed.latched
  rw [hnone]
  cases hok : Sensed.captureOk o with
  | true =>
    have hlevel := level_of_quiet hquiet hok
    have hhyst' : 0 ≤ c.detector.hysteresisDb := htuned.hysteresis ▸ hhyst
    have hbelow : Sensed.level o < c.detector.thresholdDbfs - c.detector.hysteresisDb := by
      rw [htuned.threshold, htuned.hysteresis]
      exact hlevel
    exact congrArg (true && ·) (ActivityDetector.update_active_of_quiet now hhyst' hbelow)
  | false => rfl

/-- Without a phono signal, the monitor is listened to. -/
theorem bluetoothActive_of_silent (hsignal : Sensed.signalPresent cfg cb now o c = false) :
    Sensed.bluetoothActive cfg cb now o c =
      (Sensed.transportPlaying cb o || Sensed.bluetoothHeard cb now o c) := by
  unfold Sensed.bluetoothActive Sensed.bluetoothSample Sensed.bluetoothHeard
  rw [hsignal]
  cases cb.bluetoothMonitor with
  | false => simp
  | true => cases o .bluetoothLevelDbfs <;> simp [ActivityDetector.update_active]

/-- In a quiet tick, phono is selected exactly when a transient has the record player. -/
theorem selected_of_quiet (htuned : Tuned cfg c) (hhyst : 0 ≤ cfg.phonoHysteresisDb)
    (hquiet : quietLevel cfg o = true) :
    Sensed.selected cfg cb now o c = .phono ↔ Sensed.transient cfg cb now o c = true := by
  have hsignal : Sensed.signalPresent cfg cb now o c = _ := signal_of_quiet hhyst hquiet
  have hdrop : Sensed.needleDrop cfg cb o c =
      (Sensed.captureOk o && !Sensed.transportPlaying cb o && Sensed.wakes cfg o c) := by
    unfold Sensed.needleDrop needleDropDetected Sensed.wakes
    cases Sensed.captureOk o <;> cases Sensed.transportPlaying cb o <;> simp
  rw [Sensed.selected, hsignal, Sensed.transient]
  cases hn : Sensed.needleDrop cfg cb o c with
  | true =>
    -- woken in this tick
    rw [hdrop, Bool.and_eq_true] at hn
    simp [hn.1, hn.2, selectedSource]
  | false =>
    -- held from an earlier one
    rw [bluetoothActive_of_silent (hsignal.trans hn), phonoActive_of_quiet htuned hhyst hquiet hn]
    rw [hdrop] at hn
    cases hok : Sensed.captureOk o <;> cases htransport : Sensed.transportPlaying cb o <;>
      cases hheard : Sensed.bluetoothHeard cb now o c <;>
      cases hlatched : Sensed.latched now c <;> simp_all [selectedSource]

/-- A transient that has the record player is not overruled by the Bluetooth latch. -/
theorem transient_latch (htuned : Tuned cfg c) (hhyst : 0 ≤ cfg.phonoHysteresisDb)
    (hquiet : quietLevel cfg o = true) (htransient : Sensed.transient cfg cb now o c = true) :
    c.route ≠ some .distributedBluetooth ∨ Sensed.phonoActive cfg cb now o c = true := by
  unfold Sensed.transient at htransient
  simp only [Bool.and_eq_true, Bool.or_eq_true, Bool.not_eq_true'] at htransient
  obtain ⟨⟨hok, -⟩, hwakes | ⟨hlatched, -⟩⟩ := htransient
  · refine .inl fun hr => ?_
    simp [Sensed.wakes, hr] at hwakes
  · refine .inr ?_
    have hnone : Sensed.needleDrop cfg cb o c = false := by
      unfold Sensed.latched at hlatched
      rw [Bool.and_eq_true] at hlatched
      simp [Sensed.needleDrop, needleDropDetected, hlatched.1]
    rw [phonoActive_of_quiet htuned hhyst hquiet hnone, hok, hlatched]
    rfl

end QuietTick

/-- Another source plays, as the tick is told. -/
def OtherPlays (cb : Callbacks) (o : Oracle) : Prop :=
  o .consoleIsPlaying = .ok true ∨ Sensed.transportPlaying cb o = true

/-- Quiet ticks in which no transient meets a playing Music Assistant. -/
structure Undisturbed (cfg : Config) (cb : Callbacks) (s : Ran) (a : ℚ × Oracle) : Prop where
  quiet : Quiet cfg s a
  met : a.2 .consoleIsPlaying = .ok true → Sensed.transient cfg cb a.1 a.2 s.controller = false

instance (s : Ran) (a : ℚ × Oracle) : Decidable (Undisturbed cfg cb s a) :=
  decidable_of_iff (Quiet cfg s a ∧
      (a.2 .consoleIsPlaying = .ok true → Sensed.transient cfg cb a.1 a.2 s.controller = false))
    ⟨fun h => ⟨h.1, h.2⟩, fun h => ⟨h.quiet, h.met⟩⟩

instance (o : Oracle) : Decidable (OtherPlays cb o) := inferInstanceAs (Decidable (_ ∨ _))

/-- **A transient never beats a playing source**: in every run of quiet ticks none of which has a
    transient that has the record player while Music Assistant is reported playing, no tick that
    returns ends with a phono route while the console is reported playing or the Bluetooth transport
    plays. -/
theorem transient_beaten (hhyst : 0 ≤ cfg.phonoHysteresisDb)
    (h : (tickRuns cfg cb).Reach (Undisturbed cfg cb) s) (ht : s.last = some t)
    (hret : t.outcome = .ok st) (hplays : OtherPlays cb t.answers) :
    routeSource st.route ≠ .phono := by
  obtain ⟨heval, s₀, hreach, hbefore, hok, -⟩ := last_eval h ht
  rw [hret] at heval
  have htuned : Tuned cfg t.before := hbefore ▸ tuned_reach hreach
  have hnone : Sensed.transient cfg cb t.now t.answers t.before = false := by
    rcases hplays with hconsole | htransport
    · rw [← hbefore]
      exact hok.met hconsole
    · -- the needle drop and the hold both ask for the transport
      simp [Sensed.transient, htransport]
  have hsel : Sensed.selected cfg cb t.now t.answers t.before ≠ .phono := by
    intro hphono
    rw [(selected_of_quiet htuned hhyst hok.quiet).mp hphono] at hnone
    cases hnone
  rcases tick_route heval with hr | ⟨hr, -⟩
  · rw [hr]
    exact desired_of_not_phono hsel
  · rw [hr]
    decide

/-- A transient that has the record player has the route, whatever else plays, unless the router
    fails. -/
theorem transient_taken (hhyst : 0 ≤ cfg.phonoHysteresisDb)
    (h : (tickRuns cfg cb).Reach (Quiet cfg) s) (ht : s.last = some t)
    (hret : t.outcome = .ok st)
    (htransient : Sensed.transient cfg cb t.now t.answers t.before = true) :
    routeSource st.route = .phono ∨ st.route = .idle ∧ RouterFailed t.answers t.requests := by
  obtain ⟨heval, s₀, hreach, hbefore, hquiet, -⟩ := last_eval h ht
  rw [hret] at heval
  have htuned : Tuned cfg t.before := hbefore ▸ tuned_reach hreach
  have hsel : Sensed.selected cfg cb t.now t.answers t.before = .phono :=
    (selected_of_quiet htuned hhyst hquiet).mpr htransient
  refine (tick_route heval).imp (fun hr => ?_) id
  rw [hr, desired_phono hsel (transient_latch htuned hhyst hquiet htransient)]
  exact phonoRoute_source

/-- The tick has returned with `route`. -/
def decidedOn (route : Route) (t : LastTick) : Bool :=
  match t.outcome with
  | .ok st => st.route == route
  | .error _ => false

/-- A peak while Music Assistant has the route: it stays with Music Assistant. -/
theorem transient_beaten_playback : ∃ (s : Ran) (t : LastTick) (st : Status),
    s.last = some t ∧ t.outcome = .ok st ∧ Sensed.peakLevel t.answers = -20 ∧
      routeSource st.route ≠ .phono := by
  obtain ⟨s, hs, hlast⟩ := Machine.exists_reach
    (m := (tickRuns plainConfig {}).guarded (Undisturbed plainConfig {}))
    (l := [(0, Answers.oracle { consolePlaying := true }),
      (1, Answers.oracle { consolePlaying := true, peaks := some (-20, -20) })])
    (fun s => s.last.any (fun t => t.outcome.isOk && decide (Sensed.peakLevel t.answers = -20)
      && decide (OtherPlays {} t.answers)) = true)
    (show _ = ({ controller := Controller.create plainConfig } : Ran) from rfl) (by decide +kernel)
  cases ht : s.last with
  | none => simp [ht] at hlast
  | some t =>
    simp only [ht, Option.any_some, Bool.and_eq_true, decide_eq_true_eq] at hlast
    cases hout : t.outcome with
    | error e => simp [hout, Except.isOk, Except.toBool] at hlast
    | ok st =>
      exact ⟨s, t, st, ht, hout, hlast.1.2,
        transient_beaten (by decide +kernel) hs.of_guarded ht hout hlast.2⟩

/-- A peak in the first tick, while the console already plays: phono takes the output. -/
theorem transient_not_beaten :
    ¬ ∀ (s : Ran) (t : LastTick) (st : Status),
      (tickRuns plainConfig {}).Reach (Quiet plainConfig) s → s.last = some t →
      t.outcome = .ok st →
      (t.answers .consoleIsPlaying = .ok true ∨ Sensed.transportPlaying {} t.answers = true) →
      routeSource st.route ≠ .phono := by
  intro hall
  obtain ⟨s, hs, hlast⟩ := Machine.exists_reach
    (m := (tickRuns plainConfig {}).guarded (Quiet plainConfig))
    (l := [(0, Answers.oracle { consolePlaying := true, peaks := some (-20, -20) })])
    (fun s => s.last.any (fun t => decidedOn .localPhono t && Sensed.truth (t.answers .consoleIsPlaying)) = true)
    (show _ = ({ controller := Controller.create plainConfig } : Ran) from rfl) (by decide +kernel)
  cases ht : s.last with
  | none => simp [ht] at hlast
  | some t =>
    simp only [ht, Option.any_some, Bool.and_eq_true] at hlast
    cases hout : t.outcome with
    | error e => simp [decidedOn, hout] at hlast
    | ok st =>
      simp only [decidedOn, hout, beq_iff_eq] at hlast
      have hplays : t.answers .consoleIsPlaying = .ok true := by
        cases hans : t.answers .consoleIsPlaying with
        | ok b =>
          rw [hans] at hlast
          rw [show b = true from hlast.2]
        | error e =>
          rw [hans] at hlast
          cases hlast.2
      refine hall s t st hs.of_guarded ht hout (.inl hplays) ?_
      rw [hlast.1]
      rfl

end Ran

end PhonoConsole
