/-
  ENTERING DISTRIBUTION in the wired daemon: when a tick may enter a distributed route, and
  whether that route was confirmed for its own source.

  The daemon answers `distribution_available` for the source of the PREVIOUS status, and the tick
  puts that one answer into every field of the reducer's observation of the source it selects
  NOW.  So the reducer's confirmation says something about the selected source only when the two
  are the same, and when the answer did not come from the grace of a pending phono stop.

  * `confirmedFor`         — the confirmation rules, field by field, for one source;
  * `WiredRan`, `wiredRuns` — runs of wired ticks that remember the last tick, between writes of
    the routing coordinator to the session;
  * `console_wins`         — with the Console target a tick neither distributes nor prepares,
    whatever came before;
  * `entry_confirmed`      — a newly entered distributed route was confirmed for its source, in
    every run whose entries follow the source of the previous status.
-/
import PhonoConsole.Distribution
import PhonoConsole.Release

namespace PhonoConsole

open Coro Controller Wired

/-! ## The confirmation rules -/

/-- The observation of `source` that the store and the surroundings amount to. -/
def routingObservation (source : Source) (st : Store) (w : Surroundings) : RoutingObservation where
  activeSource := source
  maConsolePlaying := w.consolePlaying
  maTargetPlaying := w.targetPlaying
  maConnected := w.musicAssistantConnected
  sendspinConnected := w.sendspinSource.connected
  sendspinStreamRequested := w.sendspinSource.streamRequested
  sendspinStreaming := w.sendspinSource.streaming
  sendspinStreamHealthy := w.streamHealthy
  selectedSource := w.sendspinSource.selectedSource.getD .none
  sessionGeneration := st.routingSessionGeneration

/-- All the confirmation rules hold for `source` itself. -/
def confirmedFor (source : Source) (st : Store) (w : Surroundings) : Bool :=
  w.outputTarget == .downstairs
    && distributionConfirmed (routingObservation source st w) w.routingGeneration
    && st.routingSessionSource == source

/-- Outside the grace of a pending phono stop, distribution is available exactly when it is
    confirmed for the source of the published status. -/
theorem available_eq {st : Store} {w : Surroundings}
    (hs : st.activeSource = .phono ∨ st.activeSource = .bluetooth)
    (hgrace : phonoStopGrace st w = false) :
    distributionAvailable st w = confirmedFor st.activeSource st w := by
  have hpublisher : w.streamHealthy = true → w.publisher.isSome = true := by
    unfold Surroundings.streamHealthy
    cases w.publisher <;> simp
  have hselected : (w.sendspinSource.selectedSource == some st.activeSource) =
      (w.sendspinSource.selectedSource.getD .none == st.activeSource) := by
    cases w.sendspinSource.selectedSource <;> rcases hs with hs | hs <;> rw [hs] <;> rfl
  have hphysical : (st.activeSource == .phono || st.activeSource == .bluetooth) = true := by
    rcases hs with hs | hs <;> rw [hs] <;> rfl
  unfold distributionAvailable confirmedFor distributionConfirmed
  rw [hgrace]
  simp only [routingObservation, hselected, hphysical]
  rw [Bool.eq_iff_iff]
  simp only [Bool.false_or, Bool.true_and, Bool.and_eq_true]
  constructor
  · rintro ⟨⟨⟨⟨⟨⟨⟨⟨⟨⟨⟨ht, -⟩, hc⟩, hr⟩, hst⟩, hsel⟩, hh⟩, hma⟩, hcon⟩, htar⟩, hg⟩, hsrc⟩
    exact ⟨⟨ht, ⟨⟨⟨⟨⟨⟨⟨⟨hsel, hc⟩, hr⟩, hst⟩, hh⟩, hma⟩, hcon⟩, htar⟩, hg⟩⟩, hsrc⟩
  · rintro ⟨⟨ht, ⟨⟨⟨⟨⟨⟨⟨⟨hsel, hc⟩, hr⟩, hst⟩, hh⟩, hma⟩, hcon⟩, htar⟩, hg⟩⟩, hsrc⟩
    exact ⟨⟨⟨⟨⟨⟨⟨⟨⟨⟨⟨ht, hpublisher hh⟩, hc⟩, hr⟩, hst⟩, hsel⟩, hh⟩, hma⟩, hcon⟩, htar⟩, hg⟩, hsrc⟩

/-! ## Runs of wired ticks -/

/-- What happens to the daemon's controller and store: a tick, with the surroundings at the
    moments of its other requests, or a routing state set by the coordinator. -/
inductive WiredMove
  | tick (a : WiredTick) (meanwhile : CtlReq → List Surroundings)
  | routingState (sessionGeneration : Option Nat) (sessionSource : Source)

/-- A wired tick as it went. -/
structure WiredLast where
  before : Wired
  tick : WiredTick
  meanwhile : CtlReq → List Surroundings
  outcome : Except Exc Status
  requests : List CtlReq

/-- The store and the surroundings while the requests `l` are awaited one after the other. -/
def WiredTick.moments (a : WiredTick) (meanwhile : CtlReq → List Surroundings) :
    Store → List CtlReq → List (Store × Surroundings)
  | _, [] => []
  | st, q :: l =>
    (meanwhile q).map (fun w => (a.record st q, w)) ++ a.moments meanwhile (a.record st q) l

/-- The moments of a tick: that of its distribution questions, which come before its first write,
    and those of its requests. -/
def WiredLast.moments (t : WiredLast) : List (Store × Surroundings) :=
  (t.before.store, t.tick.around) :: t.tick.moments t.meanwhile t.before.store t.requests

/-- The daemon between two ticks, and the last of them. -/
structure WiredRan where
  wired : Wired
  last : Option WiredLast := none

/-- Runs of wired ticks over the store that the coordinator writes to as well. -/
def wiredRuns (cfg : Config) (bluetooth : Bool) : Machine WiredRan WiredMove where
  init s := s = { wired := { controller := Controller.create cfg } }
  next s
    | .tick a meanwhile =>
      let r := eval (a.wire s.wired.store) (tick cfg (daemonCallbacks bluetooth) a.now)
        s.wired.controller
      ((wiredTicks cfg bluetooth).next s.wired a).map fun w =>
        ⟨w, some ⟨s.wired, a, meanwhile, r.1, r.2.2⟩⟩
    | .routingState sessionGeneration sessionSource =>
      some { s with
        wired.store.routingSessionGeneration := sessionGeneration
        wired.store.routingSessionSource := sessionSource }

/-- The answers of a tick that has gone. -/
def WiredLast.answers (t : WiredLast) : Oracle := t.tick.wire t.before.store

namespace WiredRan

variable {cfg : Config} {bluetooth : Bool} {ok : WiredRan → WiredMove → Prop} {s : WiredRan}
  {t : WiredLast} {st : Status}

/-- The last tick of a reached state is an evaluation from a reached state, under the condition
    of the run. -/
theorem last_eval (h : (wiredRuns cfg bluetooth).Reach ok s) (ht : s.last = some t) :
    (∃ c', eval t.answers (tick cfg (daemonCallbacks bluetooth) t.tick.now) t.before.controller =
      (t.outcome, c', t.requests)) ∧
    ∃ s₀, (wiredRuns cfg bluetooth).Reach ok s₀ ∧ s₀.wired = t.before ∧
      ok s₀ (.tick t.tick t.meanwhile) := by
  induction h with
  | init hs =>
    rw [show _ = _ from hs] at ht
    exact nomatch ht
  | move hreach hok hnext ih =>
    rename_i s₀ s' move
    cases move with
    | tick a meanwhile =>
      simp only [wiredRuns, Option.map_eq_some_iff] at hnext
      obtain ⟨w, -, rfl⟩ := hnext
      obtain rfl := Option.some.inj ht
      exact ⟨⟨_, rfl⟩, s₀, hreach, rfl, hok⟩
    | routingState sessionGeneration sessionSource =>
      obtain rfl := Option.some.inj hnext
      exact ih ht

/-! ## Console -/

variable (cfg bluetooth) in
/-- With the Console target the callbacks offer neither a distribution nor a way to one. -/
theorem console_incapable (htarget : t.tick.around.outputTarget = .console) :
    Sensed.capable cfg (daemonCallbacks bluetooth) t.tick.now t.answers t.before.controller
      = false ∧
    (Sensed.decided cfg (daemonCallbacks bluetooth) t.tick.now t.answers
      t.before.controller).distributed = false := by
  have hcapable : Sensed.capable cfg (daemonCallbacks bluetooth) t.tick.now t.answers
      t.before.controller = false := by
    show (true && distributionCapable t.tick.around _) = false
    simp [distributionCapable, htarget]
  have havailable : Sensed.available (daemonCallbacks bluetooth) t.answers = false := by
    show (true && distributionAvailable t.before.store t.tick.around) = false
    simp [distributionAvailable, phonoStopGrace, htarget]
  have hnone : Sensed.distributes cfg (daemonCallbacks bluetooth) t.tick.now t.answers
      t.before.controller = none := by
    simp [Sensed.distributes, hcapable, havailable]
  refine ⟨hcapable, ?_⟩
  by_contra hd
  rw [distributes_eq, if_pos (Bool.eq_true_of_not_eq_false hd)] at hnone
  cases hnone

/-- **Console always wins**: in every run, a tick that returns while the target is Console ends
    with a non-distributed route and prepares nothing. -/
theorem console_wins (h : (wiredRuns cfg bluetooth).Reach Machine.anyMove s)
    (ht : s.last = some t) (hret : t.outcome = .ok st)
    (htarget : t.tick.around.outputTarget = .console) :
    st.route.distributed = false ∧ ∀ q ∈ t.requests, q.prepares = none := by
  obtain ⟨⟨c', heval⟩, -⟩ := last_eval h ht
  rw [hret] at heval
  obtain ⟨hroute, -, -, -, hlast⟩ := tick_ok heval
  obtain ⟨hcapable, hdecided⟩ := console_incapable cfg bluetooth htarget
  constructor
  · rw [hroute]
    by_contra hd
    have hdist := (route_distributed_iff.mp (Bool.eq_true_of_not_eq_false hd)).1
    rw [hdecided] at hdist
    exact nomatch hdist
  · refine prepares_none ?_
    rw [hlast none, preparesEntry, hdecided, Bool.false_and, Bool.false_and, Bool.false_and,
      if_neg Bool.false_ne_true, startsEarly, hcapable, Bool.and_false, Bool.false_and,
      Bool.false_and, Bool.false_and, if_neg Bool.false_ne_true]

/-! ## Downstairs -/

/-- From the state `s` the tick `a` enters the distributed route of `source`: it decides on it,
    and does not lose it. -/
def Enters (cfg : Config) (bluetooth : Bool) (s : Wired) (a : WiredTick) (source : Source) :
    Prop :=
  s.controller.route ≠ some source.distributedRoute ∧
  Sensed.distributes cfg (daemonCallbacks bluetooth) a.now (a.wire s.store) s.controller =
    some source.distributedRoute ∧
  Sensed.losesRoute cfg (daemonCallbacks bluetooth) a.now (a.wire s.store) s.controller = false

/-- A tick enters a distributed route only for the source of the published status, and not while
    a pending phono stop has its grace. -/
def EntersPublished (cfg : Config) (bluetooth : Bool) : WiredRan → WiredMove → Prop
  | s, .tick a _ =>
    ∀ source, source = .phono ∨ source = .bluetooth → Enters cfg bluetooth s.wired a source →
      s.wired.store.activeSource = source ∧ phonoStopGrace s.wired.store a.around = false
  | _, .routingState _ _ => True

/-- Neither latch enters a route: what a tick enters, it was told to be available. -/
theorem Enters.available {w : Wired} {a : WiredTick} {source : Source}
    (h : Enters cfg bluetooth w a source) : distributionAvailable w.store a.around = true := by
  obtain ⟨hnew, hdist, -⟩ := h
  unfold Sensed.distributes at hdist
  split at hdist
  · -- held by the Bluetooth latch
    rename_i hlatch
    simp only [Bool.and_eq_true, beq_iff_eq] at hlatch
    exact absurd (hlatch.1.1.1.1.trans hdist) hnew
  · split at hdist
    · -- held by the phono latch
      rename_i hlatch
      simp only [Bool.and_eq_true, beq_iff_eq] at hlatch
      exact absurd (hlatch.1.2.trans hdist) hnew
    · split at hdist
      · rename_i hconfirmed
        simp only [Bool.and_eq_true] at hconfirmed
        exact hconfirmed.1.1
      · cases hdist

/-- A tick that returns with a new distributed route has entered it. -/
theorem entered {c' : Controller}
    (heval : eval t.answers (tick cfg (daemonCallbacks bluetooth) t.tick.now) t.before.controller =
      (.ok st, c', t.requests))
    (hdist : st.route.distributed = true) (hnew : t.before.controller.route ≠ some st.route) :
    Enters cfg bluetooth t.before t.tick (routeSource st.route) := by
  obtain ⟨hroute, -⟩ := tick_ok heval
  have hback : (routeSource st.route).distributedRoute = st.route := by
    revert hdist
    cases st.route <;> first | exact fun _ => rfl | exact fun h => nomatch h
  have hd : (Sensed.route cfg (daemonCallbacks bluetooth) t.tick.now t.answers
      t.before.controller).distributed = true := hroute ▸ hdist
  obtain ⟨hdecided, hkept⟩ := route_distributed_iff.mp hd
  have hsame : Sensed.decided cfg (daemonCallbacks bluetooth) t.tick.now t.answers
      t.before.controller = st.route := by
    rw [hroute]
    unfold Sensed.route at hd ⊢
    split
    · rename_i hacc
      rw [if_pos hacc] at hd
      exact (desired_distributed rfl hd).1.symm
    · rename_i hno
      rw [if_neg hno] at hd
      exact nomatch hd
  refine ⟨by rwa [hback], ?_, hkept⟩
  rw [hback, ← hsame]
  exact distributes_eq.trans (if_pos hdecided)

/-- **A new distributed route was confirmed for its source**, at the moment of the distribution
    questions, in every run whose ticks enter only for the published source. -/
theorem entry_confirmed (h : (wiredRuns cfg bluetooth).Reach (EntersPublished cfg bluetooth) s)
    (ht : s.last = some t) (hret : t.outcome = .ok st) (hdist : st.route.distributed = true)
    (hnew : t.before.controller.route ≠ some st.route) :
    ∃ m ∈ t.moments, confirmedFor (routeSource st.route) m.1 m.2 = true := by
  obtain ⟨⟨c', heval⟩, s₀, -, hbefore, hok⟩ := last_eval h ht
  rw [hret] at heval
  have hphysical : routeSource st.route = .phono ∨ routeSource st.route = .bluetooth := by
    revert hdist
    cases st.route <;> simp [routeSource, Route.distributed]
  have henters := entered heval hdist hnew
  rw [← hbefore] at henters
  obtain ⟨hactive, hgrace⟩ := hok _ hphysical henters
  have havailable := henters.available
  rw [hbefore] at hactive hgrace havailable
  refine ⟨(t.before.store, t.tick.around), List.mem_cons_self, ?_⟩
  rw [← hactive]
  rw [← hactive] at hphysical
  exact (available_eq hphysical hgrace).symm.trans havailable

/-! ## Three runs -/

instance (s : Wired) (a : WiredTick) (source : Source) :
    Decidable (Enters cfg bluetooth s a source) :=
  inferInstanceAs (Decidable (_ ∧ _ ∧ _))

instance : ∀ (s : WiredRan) (a : WiredMove), Decidable (EntersPublished cfg bluetooth s a)
  | s, .tick a _ =>
    let Follows (source : Source) : Prop := Enters cfg bluetooth s.wired a source →
      s.wired.store.activeSource = source ∧ phonoStopGrace s.wired.store a.around = false
    decidable_of_iff (Follows .phono ∧ Follows .bluetooth)
      ⟨fun h _ hs => hs.elim (fun hp => hp ▸ h.1) fun hb => hb ▸ h.2,
        fun h => ⟨h _ (.inl rfl), h _ (.inr rfl)⟩⟩
  | _, .routingState _ _ => isTrue trivial

/-- Plain ticks throughout which the surroundings stay the same. -/
def unchanged (l : List WiredTick) : List WiredMove :=
  l.map fun a => .tick a fun _ => [a.around]

/-- The last tick of `s` returned, with a status that `P` holds of. -/
def Returned (s : WiredRan) (P : WiredLast → Status → Bool) : Prop :=
  (s.last.any fun t => match t.outcome with
    | .ok st => P t st
    | .error _ => false) = true

instance (s : WiredRan) (P : WiredLast → Status → Bool) : Decidable (Returned s P) :=
  inferInstanceAs (Decidable (_ = _))

theorem Returned.elim {P : WiredLast → Status → Bool} (h : Returned s P) :
    ∃ t st, s.last = some t ∧ t.outcome = .ok st ∧ P t st = true := by
  obtain ⟨t, ht, hP⟩ := (Option.any_eq_true _ _).mp h
  cases hout : t.outcome with
  | ok st =>
    rw [hout] at hP
    exact ⟨t, st, ht, hout, hP⟩
  | error e =>
    rw [hout] at hP
    exact nomatch hP

/-- The distributed record plays on after Console has been chosen. -/
def consoleChosen : WiredTick :=
  { plainTick 2 { reporting (some .phono) with outputTarget := .console } { level := -30 } with
    modeTarget := .console, endTarget := .console }

theorem console_wins_record : ∃ (t : WiredLast) (st : Status),
    t.before.controller.route = some .distributedPhono ∧ st.phonoActive = true ∧
      st.route.distributed = false ∧ ∀ q ∈ t.requests, q.prepares = none := by
  obtain ⟨s, hs, hlast⟩ := Machine.exists_reach (m := wiredRuns plainConfig true)
    (l := unchanged (recordConfirmed ++ [consoleChosen]))
    (fun s => Returned s fun t st => t.before.controller.route == some .distributedPhono
      && st.phonoActive && t.tick.around.outputTarget == .console)
    (show _ = ({ wired := { controller := Controller.create plainConfig } } : WiredRan) from rfl)
    (by decide +kernel)
  obtain ⟨t, st, ht, hret, hP⟩ := hlast.elim
  simp only [Bool.and_eq_true, beq_iff_eq] at hP
  obtain ⟨⟨hroute, hactive⟩, htarget⟩ := hP
  exact ⟨t, st, hroute, hactive, console_wins hs ht hret htarget⟩

/-- The record enters distributed phono, confirmed for phono. -/
theorem entry_confirmed_record : ∃ (t : WiredLast) (st : Status),
    st.route = .distributedPhono ∧
      ∃ m ∈ t.moments, confirmedFor (routeSource st.route) m.1 m.2 = true := by
  obtain ⟨s, hs, hlast⟩ := Machine.exists_reach
    (m := (wiredRuns plainConfig true).guarded (EntersPublished plainConfig true))
    (l := unchanged recordConfirmed)
    (fun s => Returned s fun t st => st.route == .distributedPhono
      && t.before.controller.route != some .distributedPhono)
    (show _ = ({ wired := { controller := Controller.create plainConfig } } : WiredRan) from rfl)
    (by decide +kernel)
  obtain ⟨t, st, ht, hret, hP⟩ := hlast.elim
  simp only [Bool.and_eq_true, beq_iff_eq, bne_iff_ne] at hP
  obtain ⟨hroute, hnew⟩ := hP
  refine ⟨t, st, hroute, entry_confirmed hs.of_guarded ht hret ?_ ?_⟩
  · rw [hroute]; rfl
  · rwa [hroute]

/-- A quiet record within its release hold, and PCM from a phone that reports no playback. -/
def phoneHeard (now : ℚ) : WiredTick :=
  plainTick now (reporting (some .phono)) { bluetoothLevel := -20 }

/-- The phone's PCM becomes active while everything still reports phono: distributed Bluetooth
    is entered without a preparation, and Sendspin's selected source is phono throughout. -/
theorem entry_not_confirmed :
    ¬ ∀ (s : WiredRan) (t : WiredLast) (st : Status),
      (wiredRuns plainConfig true).Reach Machine.anyMove s → s.last = some t →
      t.outcome = .ok st → st.route.distributed = true →
      t.before.controller.route ≠ some st.route →
      ∃ m ∈ t.moments, confirmedFor (routeSource st.route) m.1 m.2 = true := by
  intro hall
  obtain ⟨s, hs, hlast⟩ := Machine.exists_reach (m := wiredRuns plainConfig true)
    (l := unchanged (recordConfirmed ++ [phoneHeard 2, phoneHeard 3]))
    (fun s => Returned s fun t st => st.route == .distributedBluetooth
      && t.before.controller.route != some .distributedBluetooth
      && t.moments.all fun m => !confirmedFor .bluetooth m.1 m.2)
    (show _ = ({ wired := { controller := Controller.create plainConfig } } : WiredRan) from rfl)
    (by decide +kernel)
  obtain ⟨t, st, ht, hret, hP⟩ := hlast.elim
  simp only [Bool.and_eq_true, beq_iff_eq, bne_iff_ne, List.all_eq_true, Bool.not_eq_true'] at hP
  obtain ⟨⟨hroute, hnew⟩, hnone⟩ := hP
  obtain ⟨m, hm, hconfirmed⟩ := hall s t st hs ht hret (by rw [hroute]; rfl) (by rwa [hroute])
  rw [hroute] at hconfirmed
  rw [show routeSource .distributedBluetooth = .bluetooth from rfl, hnone m hm] at hconfirmed
  cases hconfirmed

end WiredRan

end PhonoConsole
