/-
  THE DAEMON'S DISTRIBUTION CALLBACKS (`phono_console/runtime.py`, `run_daemon`) and the ticks
  wired with them.

  `run_daemon` gives the controller three callbacks over one `StateStore` and one publisher:
  `distribution_available`, `distribution_capable` and `prepare_distribution`.  The first of them
  derives the active source a SECOND time, from the `Status` the previous tick published, with
  phono activity first; the tick itself derives it from the live signal, with Bluetooth before a
  merely held phono.  Whether a confirmed distribution survives the next tick is the question
  whether the two derivations meet:

  * `Surroundings`   — what the callbacks read besides the store;
  * `wire`           — the oracle of a wired tick: the callbacks answer from the store and the
    surroundings, everything else answers as it likes;
  * `wiredTicks`     — runs of wired ticks, the store recording what each tick writes;
  * `wired_session`  — in every reachable state the store's session and status are those of the
    controller's distributed route;
  * `distribution_kept_iff` — when a confirmed distribution is kept, exactly.
-/
import PhonoConsole.TickRuns

namespace PhonoConsole

open Coro Controller

/-! ## The callbacks -/

/-- The routing part of the dictionary the publisher hands to the store. -/
structure SourceState where
  connected : Bool := false
  streamRequested : Bool := false
  streaming : Bool := false
  selectedSource : Option Source := none
deriving DecidableEq, Repr

/-- The publisher's own attributes that the callbacks read. -/
structure PublisherView where
  clientKnown : Bool
  phonoStopPending : Bool := false
  streamHealthy : Bool := false
deriving DecidableEq, Repr

/-- The fields of the state store that ticks write and the callbacks read back. -/
structure Store where
  status : Option Status := none
  routingSessionGeneration : Option Nat := none
  routingSessionSource : Source := .none
deriving DecidableEq

/-- Everything else the callbacks read, at the moment of the tick's distribution questions. -/
structure Surroundings where
  outputTarget : OutputTarget := .downstairs
  routingGeneration : Nat := 0
  sendspinSource : SourceState := {}
  publisher : Option PublisherView := none
  musicAssistantConnected : Bool := false
  consolePlaying : Bool := false
  targetPlaying : Bool := false
  timestampedBluetooth : Bool := true
  bluetoothPlaying : Bool := false
  bluetoothSampleAge : Option ℚ := none
deriving DecidableEq

/-- The active source as `run_daemon` derives it from the published status. -/
def Store.activeSource (st : Store) : Source :=
  match st.status with
  | some status =>
    if status.phonoActive then .phono else if status.bluetoothActive then .bluetooth else .none
  | none => .none

namespace Surroundings

/-- `publisher.phono_stop_pending`, `False` without a publisher. -/
def phonoStopPending (w : Surroundings) : Bool := w.publisher.any PublisherView.phonoStopPending

/-- `publisher.stream_healthy`, `False` without a publisher. -/
def streamHealthy (w : Surroundings) : Bool := w.publisher.any PublisherView.streamHealthy

/-- `publisher.client_id is not None`, `False` without a publisher. -/
def clientKnown (w : Surroundings) : Bool := w.publisher.any PublisherView.clientKnown

end Surroundings

/-- `phono_stop_grace`. -/
def phonoStopGrace (st : Store) (w : Surroundings) : Bool :=
  w.outputTarget == .downstairs
    && w.phonoStopPending
    && st.status.any (fun status => status.route == .distributedPhono)
    && st.routingSessionGeneration == some w.routingGeneration

/-- `distribution_available`: the grace period of a phono stop, or a confirmed session. -/
def distributionAvailable (st : Store) (w : Surroundings) : Bool :=
  phonoStopGrace st w ||
    (w.outputTarget == .downstairs
      && w.publisher.isSome
      && w.sendspinSource.connected
      && w.sendspinSource.streamRequested
      && w.sendspinSource.streaming
      && w.sendspinSource.selectedSource == some st.activeSource
      && w.streamHealthy
      && w.musicAssistantConnected
      && w.consolePlaying
      && w.targetPlaying
      && st.routingSessionGeneration == some w.routingGeneration
      && st.routingSessionSource == st.activeSource)

/-- `distribution_capable`. -/
def distributionCapable (w : Surroundings) (source : Source) : Bool :=
  w.publisher.isSome
    && (source == .bluetooth && w.timestampedBluetooth
      || source == .phono && w.outputTarget == .downstairs && !w.phonoStopPending)
    && w.outputTarget == .downstairs
    && w.clientKnown
    && w.sendspinSource.connected
    && (!w.sendspinSource.streamRequested || w.streamHealthy)
    && w.musicAssistantConnected

/-- The checks of `prepare_distribution` before it awaits anything: it returns `False` at once. -/
def prepareRefused (w : Surroundings) (source : Source) : Bool :=
  !w.clientKnown
    || source == .bluetooth && (!w.bluetoothPlaying
      || (match w.bluetoothSampleAge with
        | some age => decide (1 / 2 < age)
        | none => true))
    || source == .phono && w.phonoStopPending

/-! ## Wired ticks -/

/-- One wired tick: its time, the target read for the output mode, the surroundings of the
    distribution questions, the target and generation current when the tick ends, and the
    answers of everything that is not wired. -/
structure WiredTick where
  now : ℚ
  modeTarget : OutputTarget
  around : Surroundings
  endTarget : OutputTarget
  endGeneration : Nat
  others : Oracle

/-- The callbacks the daemon passes. -/
def daemonCallbacks (bluetooth : Bool) : Callbacks where
  bluetoothMonitor := bluetooth

/-- The oracle of a wired tick.  An unrefused preparation awaits the publisher and Music
    Assistant, so its result comes from outside. -/
def WiredTick.wire (a : WiredTick) (st : Store) : Oracle
  | .distributionAvailable => .ok (distributionAvailable st a.around)
  | .distributionCapable source => .ok (distributionCapable a.around source)
  | .distributionStreamHealthy => .ok a.around.streamHealthy
  | .phonoOutputMode => .ok a.modeTarget.mode
  | .prepareDistribution site source =>
    if prepareRefused a.around source then .ok false
    else a.others (.prepareDistribution site source)
  | q => a.others q

/-- The generation current when the tick writes the routing state. -/
def WiredTick.generationAt (a : WiredTick) : Site → Nat
  | .finish => a.endGeneration
  | _ => a.around.routingGeneration

/-- What a tick's request writes to the store. -/
def WiredTick.record (a : WiredTick) (st : Store) : CtlReq → Store
  | .setRoutingState site _ source _ =>
    { st with
      routingSessionGeneration := if source ≠ .none then some (a.generationAt site) else none
      routingSessionSource := source }
  | .setStatus status => { st with status := some status }
  | _ => st

/-- The controller over its store, and the target and generation current when the last tick
    that returned did so. -/
structure Wired where
  controller : Controller
  store : Store := {}
  target : OutputTarget := .console
  generation : Nat := 0

/-- Runs of wired ticks. -/
def wiredTicks (cfg : Config) (bluetooth : Bool) : Machine Wired WiredTick where
  init s := s = { controller := Controller.create cfg }
  next s a :=
    match eval (a.wire s.store) (tick cfg (daemonCallbacks bluetooth) a.now) s.controller with
    | (.ok _, c', l) =>
      some ⟨c', l.foldl a.record s.store, a.endTarget, a.endGeneration⟩
    | (.error (.exception _), c', l) =>
      some { s with controller := c', store := l.foldl a.record s.store }
    | (.error .cancelled, _, _) => none

namespace Wired

variable {cfg : Config} {bluetooth : Bool} {s : Wired} {a : WiredTick} {c' : Controller}
  {l : List CtlReq}

/-! ## The store follows the controller -/

/-- A distributed route is the one of the published status, and its session is stamped with the
    generation current at the end of the last tick. -/
def InSession (s : Wired) : Prop :=
  ∀ r, s.controller.route = some r → r.distributed = true →
    s.store.routingSessionGeneration = some s.generation ∧
    s.store.routingSessionSource = routeSource r ∧
    ∃ st, s.store.status = some st ∧ st.route = r

theorem record_of_observation {st : Store} (hl : ∀ q ∈ l, q.observation = true) :
    l.foldl a.record st = st := by
  induction l with
  | nil => rfl
  | cons q l ih =>
    obtain ⟨hq, hl⟩ := List.forall_mem_cons.mp hl
    have hst : a.record st q = st := by cases q <;> first | rfl | nomatch hq
    rw [List.foldl_cons, hst, ih hl]

theorem record_of_question {st : Store} (hl : ∀ q ∈ l, q.question = true) :
    l.foldl a.record st = st := by
  induction l with
  | nil => rfl
  | cons q l ih =>
    obtain ⟨hq, hl⟩ := List.forall_mem_cons.mp hl
    have hst : a.record st q = st := by cases q <;> first | rfl | nomatch hq
    rw [List.foldl_cons, hst, ih hl]

/-- What the last phase leaves in the store for a distributed route. -/
theorem record_published {st : Store} {x : Observed} {route : Route} {status : Status}
    (hd : route.distributed = true) :
    (published x route status).foldl a.record st =
      { routingSessionGeneration := some a.endGeneration
        routingSessionSource := routeSource route
        status := some status } := by
  have hsource : routeSource route ≠ .none := by
    cases route <;> simp [routeSource, Route.distributed] at hd ⊢
  simp [published, hd, WiredTick.record, WiredTick.generationAt, hsource]

/-- **The session of a distributed route**, in every reachable state. -/
theorem wired_session (h : (wiredTicks cfg bluetooth).Reach Machine.anyMove s) : s.InSession := by
  refine h.invariant (fun s hs r hr => ?_) fun s a s' hs _ hnext => ?_
  · rw [hs] at hr
    exact nomatch hr
  · simp only [wiredTicks] at hnext
    split at hnext
    · -- a tick that returned
      rename_i status c' l heval
      obtain rfl := Option.some.inj hnext
      intro r hr hdist
      obtain ⟨x, c, l₁, l₂, hfirst, hsecond, rfl⟩ := eval_bind_ok heval
      obtain ⟨_, _, desired, -, -, -, hroute, -, -, hst, -, l₀, rfl⟩ := conclude_ok hsecond
      have hr' : c'.route = some r := hr
      rw [hroute, ← hst, Option.some.injEq] at hr'
      subst hr'
      rw [← List.append_assoc, List.foldl_append, record_published hdist]
      exact ⟨rfl, rfl, status, rfl, rfl⟩
    · -- a tick that ended in an exception
      rename_i t c' l heval
      obtain rfl := Option.some.inj hnext
      intro r hr hdist
      rcases eval_bind_error heval with hfirst | ⟨x, c, l₁, l₂, hfirst, hsecond, rfl⟩
      · obtain ⟨hc, hquiet⟩ := observe_quiet hfirst
        rw [record_of_observation hquiet]
        exact hs r (hc.1 ▸ hr) hdist
      · obtain ⟨hc, hquiet⟩ := observe_quiet hfirst
        obtain ⟨rfl, hquestion⟩ := conclude_error hsecond
        rw [List.foldl_append, record_of_observation hquiet, record_of_question hquestion]
        exact hs r (hc.1 ▸ hr) hdist
    · exact nomatch hnext

/-! ## A confirmed distribution at the next tick -/

/-- At the tick `a` after a tick that ended with the distributed route of `source`, the intent is
    unchanged, the tick selects `source` again, and Sendspin and Music Assistant still report it. -/
structure Steady (cfg : Config) (bluetooth : Bool) (s : Wired) (a : WiredTick) (source : Source) :
    Prop where
  physical : source = .phono ∨ source = .bluetooth
  route : s.controller.route = some source.distributedRoute
  modeTarget : a.modeTarget = s.target
  outputTarget : a.around.outputTarget = s.target
  generation : a.around.routingGeneration = s.generation
  selects : Sensed.selected cfg (daemonCallbacks bluetooth) a.now (a.wire s.store) s.controller =
    source
  sendspin : a.around.sendspinSource = ⟨true, true, true, some source⟩
  publisher : ∃ p, a.around.publisher = some p ∧ p.streamHealthy = true
  musicAssistant : a.around.musicAssistantConnected = true
  consolePlaying : a.around.consolePlaying = true
  targetPlaying : a.around.targetPlaying = true

/-- The two derivations of the active source meet, or a latch bridges the gap. -/
def Sustained (cfg : Config) (bluetooth : Bool) (s : Wired) (a : WiredTick) (source : Source) :
    Prop :=
  s.target = .downstairs ∧
  went (a.others (.routerReconcile source.distributedRoute)) = true ∧
  (source = .phono → s.store.activeSource = .phono ∨ a.around.phonoStopPending = true) ∧
  (source = .bluetooth →
    (Sensed.phonoActive cfg (daemonCallbacks bluetooth) a.now (a.wire s.store) s.controller = false ∧
      a.around.timestampedBluetooth = true ∧ a.around.clientKnown = true) ∨
    (s.store.activeSource = .bluetooth ∧
      Sensed.outputMode cfg (daemonCallbacks bluetooth) a.now (a.wire s.store) s.controller =
        .downstairs))

theorem Steady.available {source : Source} (h : Steady cfg bluetooth s a source)
    (hs : s.InSession) :
    distributionAvailable s.store a.around = true ↔
      s.target = .downstairs ∧
        (s.store.activeSource = source ∨ source = .phono ∧ a.around.phonoStopPending = true) := by
  obtain ⟨p, hp, hhealthy⟩ := h.publisher
  have hdist : source.distributedRoute.distributed = true := source.distributedRoute_distributed
  obtain ⟨hgen, hsource, st, hst, hroute⟩ := hs _ h.route hdist
  have hsource' : s.store.routingSessionSource = source := by
    rw [hsource]
    rcases h.physical with rfl | rfl <;> rfl
  have hphono : st.route = .distributedPhono ↔ source = .phono := by
    rw [hroute]
    rcases h.physical with rfl | rfl <;> simp [Source.distributedRoute]
  simp only [distributionAvailable, phonoStopGrace, Surroundings.streamHealthy,
    Surroundings.phonoStopPending, hp, hst, h.sendspin, h.outputTarget, h.generation,
    h.musicAssistant, h.consolePlaying, h.targetPlaying, hgen, hsource', hhealthy,
    Option.any_some, Option.isSome_some, Option.some.injEq, Bool.or_eq_true, Bool.and_eq_true,
    beq_iff_eq, hphono, and_true]
  constructor
  · rintro (⟨⟨ht, hstop⟩, hsrc⟩ | ⟨⟨ht, -⟩, hact⟩)
    · exact ⟨ht, .inr ⟨hsrc, hstop⟩⟩
    · exact ⟨ht, .inl hact.symm⟩
  · rintro ⟨ht, hact | ⟨hsrc, hstop⟩⟩
    · exact .inr ⟨⟨ht, hact.symm⟩, hact.symm⟩
    · exact .inl ⟨⟨ht, hstop⟩, hsrc⟩

theorem Steady.capable (h : Steady cfg bluetooth s a .bluetooth) :
    distributionCapable a.around .bluetooth = true ↔
      a.around.timestampedBluetooth = true ∧ s.target = .downstairs ∧
        a.around.clientKnown = true := by
  obtain ⟨p, hp, hhealthy⟩ := h.publisher
  simp [distributionCapable, Surroundings.clientKnown, Surroundings.streamHealthy, hp,
    h.outputTarget, h.sendspin, h.musicAssistant, hhealthy, and_assoc]

/-- The end of a tick in terms of the decision: the distributed route is kept exactly when it is
    decided on and the router still takes it. -/
theorem kept_iff {cb : Callbacks} {o : Oracle} {now : ℚ} {c : Controller} {status : Status}
    {r : Route} (hr : r.distributed = true) (hc : c.route = some r)
    (h : eval o (tick cfg cb now) c = (.ok status, c', l)) :
    (c'.route = some r ∧ .releaseDistribution ∉ l) ↔
      Sensed.decided cfg cb now o c = r ∧
        routerAccepts cb o (some r) (Sensed.observed cfg cb now o c) r = true := by
  obtain ⟨hst, hroute, -, hrel, -⟩ := tick_ok h
  rw [hroute, hst, hrel, Option.some.injEq, Sensed.route]
  constructor
  · rintro ⟨hend, -⟩
    have hacc : Sensed.accepted cfg cb now o c = true := by
      by_contra hno
      rw [if_neg hno] at hend
      rw [← hend] at hr
      exact nomatch hr
    rw [if_pos hacc] at hend
    rw [Sensed.accepted, hend, hc] at hacc
    rw [← hend] at hr
    exact ⟨(desired_distributed rfl hr).1.symm.trans hend, hacc⟩
  · rintro ⟨hd, hacc⟩
    have hdes : Sensed.desired cfg cb now o c = r := by
      have hkeep : preparesEntry cb c.route (Sensed.observed cfg cb now o c)
          (Sensed.decided cfg cb now o c) = false := by simp [preparesEntry, hd, hc]
      exact (desired_of_distributed rfl (hd ▸ hr) hkeep).trans hd
    have hacc' : Sensed.accepted cfg cb now o c = true := by
      rw [Sensed.accepted, hdes, hc]
      exact hacc
    rw [if_pos hacc', hd]
    exact ⟨hdes, by simp [leaves, hr]⟩

/-- **A confirmed distribution at the next tick**: in every run of wired ticks, the next tick
    keeps the distributed route and releases nothing exactly when it is sustained. -/
theorem distribution_kept_iff (h : (wiredTicks cfg bluetooth).Reach Machine.anyMove s)
    {source : Source} (hsteady : Steady cfg bluetooth s a source) {status : Status}
    (htick : eval (a.wire s.store) (tick cfg (daemonCallbacks bluetooth) a.now) s.controller =
      (.ok status, c', l)) :
    (c'.route = some source.distributedRoute ∧ .releaseDistribution ∉ l) ↔
      Sustained cfg bluetooth s a source := by
  have hsession := wired_session h
  have hselected : (Sensed.observed cfg (daemonCallbacks bluetooth) a.now (a.wire s.store)
      s.controller).selected = source := hsteady.selects
  have hhealthy : Sensed.streamHealthy (daemonCallbacks bluetooth) (a.wire s.store) = true := by
    obtain ⟨p, hp, hhealthy⟩ := hsteady.publisher
    show (true && a.around.streamHealthy) = true
    simp [Surroundings.streamHealthy, hp, hhealthy]
  have hcapable : Sensed.capable cfg (daemonCallbacks bluetooth) a.now (a.wire s.store)
      s.controller = distributionCapable a.around source := by
    rw [← hselected]
    rfl
  have haccepts : routerAccepts (daemonCallbacks bluetooth) (a.wire s.store)
      (some source.distributedRoute) (Sensed.observed cfg (daemonCallbacks bluetooth) a.now
        (a.wire s.store) s.controller) source.distributedRoute =
        went (a.others (.routerReconcile source.distributedRoute)) := by
    rw [routerAccepts, if_pos rfl]
    rfl
  have havailable : (Sensed.observed cfg (daemonCallbacks bluetooth) a.now (a.wire s.store)
      s.controller).available = true ↔ _ := hsteady.available hsession
  rw [kept_iff source.distributedRoute_distributed hsteady.route htick, haccepts, Sensed.decided,
    hsteady.route, hcapable, hhealthy]
  rcases hsteady.physical with rfl | rfl
  · rw [show Source.phono.distributedRoute = .distributedPhono from rfl,
      decided_phono_iff hselected, havailable]
    simp [Sustained, Source.distributedRoute, and_assoc, and_comm]
  · rw [show Source.bluetooth.distributedRoute = .distributedBluetooth from rfl,
      decided_bluetooth_iff hselected, havailable, hsteady.capable]
    simp only [Sustained, Source.distributedRoute, reduceCtorEq, false_and, or_false,
      IsEmpty.forall_iff, true_and, forall_const]
    constructor
    · rintro ⟨⟨hquiet, htime, ht, hclient⟩ | ⟨hmode, ht, hact⟩, hacc⟩
      · exact ⟨ht, hacc, .inl ⟨hquiet, htime, hclient⟩⟩
      · exact ⟨ht, hacc, .inr ⟨hact, hmode⟩⟩
    · rintro ⟨ht, hacc, ⟨hquiet, htime, hclient⟩ | ⟨hact, hmode⟩⟩
      · exact ⟨.inl ⟨hquiet, htime, ht, hclient⟩, hacc⟩
      · exact ⟨.inr ⟨hmode, ht, hact⟩, hacc⟩

/-! ## Two runs -/

/-- A tick at generation 1 with target Downstairs throughout. -/
def plainTick (now : ℚ) (around : Surroundings) (others : Answers) : WiredTick where
  now := now
  modeTarget := .downstairs
  around := around
  endTarget := .downstairs
  endGeneration := 1
  others := others.oracle

/-- The surroundings while Sendspin and Music Assistant report `source` as streaming, or, for
    `none`, while nothing has been requested. -/
def reporting (source : Option Source) : Surroundings where
  routingGeneration := 1
  sendspinSource := ⟨true, source.isSome, source.isSome, source⟩
  publisher := some { clientKnown := true, streamHealthy := source.isSome }
  musicAssistantConnected := true
  consolePlaying := source.isSome
  targetPlaying := source.isSome
  bluetoothPlaying := true
  bluetoothSampleAge := some 0

/-- A record that is started and confirmed Downstairs. -/
def recordConfirmed : List WiredTick :=
  [plainTick 0 (reporting none) { level := -30, peaks := some (-20, -20) },
    plainTick 1 (reporting (some .phono)) { level := -30 }]

/-- The record playing on, or falling silent while a phone plays. -/
def recordPlays : WiredTick := plainTick 2 (reporting (some .phono)) { level := -30 }

/-- A tick in which a phone plays while Sendspin reports `source`. -/
def phonePlays (now : ℚ) (source : Source) : WiredTick :=
  plainTick now (reporting (some source)) { bluetoothPlaying := true, bluetoothLevel := -20 }

/-- What a plain tick has to find for a steady `source`. -/
def Confirmed (s : Wired) (a : WiredTick) (source : Source) : Prop :=
  s.controller.route = some source.distributedRoute ∧ s.target = .downstairs ∧ s.generation = 1 ∧
    Sensed.selected plainConfig (daemonCallbacks true) a.now (a.wire s.store) s.controller = source

instance (s : Wired) (a : WiredTick) (source : Source) : Decidable (Confirmed s a source) :=
  inferInstanceAs (Decidable (_ ∧ _))

theorem Confirmed.steady {s : Wired} {now : ℚ} {others : Answers} {source : Source}
    (hs : source = .phono ∨ source = .bluetooth)
    (h : Confirmed s (plainTick now (reporting (some source)) others) source) :
    Steady plainConfig true s (plainTick now (reporting (some source)) others) source where
  physical := hs
  route := h.1
  modeTarget := h.2.1.symm
  outputTarget := h.2.1.symm
  generation := h.2.2.1.symm
  selects := h.2.2.2
  sendspin := rfl
  publisher := ⟨_, rfl, rfl⟩
  musicAssistant := rfl
  consolePlaying := rfl
  targetPlaying := rfl

/-- The tick `a` returns from `s`, and ends with the route `r`. -/
def EndsWith (s : Wired) (a : WiredTick) (r : Route) : Prop :=
  ((eval (a.wire s.store) (tick plainConfig (daemonCallbacks true) a.now) s.controller).1.isOk &&
    (eval (a.wire s.store) (tick plainConfig (daemonCallbacks true) a.now) s.controller).2.1.route
      == some r) = true

instance (s : Wired) (a : WiredTick) (r : Route) : Decidable (EndsWith s a r) :=
  inferInstanceAs (Decidable (_ = _))

theorem EndsWith.eval {s : Wired} {a : WiredTick} {r : Route} (h : EndsWith s a r) :
    ∃ status c' l, eval (a.wire s.store) (tick plainConfig (daemonCallbacks true) a.now)
      s.controller = (.ok status, c', l) ∧ c'.route = some r := by
  unfold EndsWith at h
  rcases htick : Coro.eval (a.wire s.store) (tick plainConfig (daemonCallbacks true) a.now)
    s.controller with ⟨_ | status, c', l⟩
  · simp [htick, Except.isOk, Except.toBool] at h
  · exact ⟨status, c', l, rfl, by simpa [htick, Except.isOk, Except.toBool] using h⟩

/-- The record plays on: the confirmed distribution is kept. -/
theorem distribution_kept_phono : ∃ (s : Wired) (c' : Controller) (l : List CtlReq),
    (wiredTicks plainConfig true).Reach Machine.anyMove s ∧
    (c'.route = some .distributedPhono ∧ .releaseDistribution ∉ l) := by
  obtain ⟨s, hs, hconf, hends, hact⟩ := Machine.exists_reach (m := wiredTicks plainConfig true)
    (l := recordConfirmed)
    (fun s => Confirmed s recordPlays .phono ∧ EndsWith s recordPlays .distributedPhono ∧
      s.store.activeSource = .phono)
    (show _ = ({ controller := Controller.create plainConfig } : Wired) from rfl)
    (by decide +kernel)
  obtain ⟨status, c', l, htick, -⟩ := hends.eval
  refine ⟨s, c', l, hs, (distribution_kept_iff hs (hconf.steady (.inl rfl)) htick).mpr ?_⟩
  exact ⟨hconf.2.1, rfl, fun _ => .inl hact, fun h => nomatch h⟩

/-- The phone takes over within the release hold of the record: distributed Bluetooth is
    confirmed, and given up at the next tick. -/
theorem distribution_not_kept :
    ¬ ∀ (s : Wired) (a : WiredTick) (source : Source) (status : Status) (c' : Controller)
      (l : List CtlReq), (wiredTicks plainConfig true).Reach Machine.anyMove s →
      Steady plainConfig true s a source →
      eval (a.wire s.store) (tick plainConfig (daemonCallbacks true) a.now) s.controller =
        (.ok status, c', l) →
      c'.route = some source.distributedRoute ∧ .releaseDistribution ∉ l := by
  intro hall
  obtain ⟨s, hs, hconf, hends⟩ := Machine.exists_reach (m := wiredTicks plainConfig true)
    (l := List.flatten [recordConfirmed, [phonePlays 2 .phono]])
    (fun s => Confirmed s (phonePlays 3 .bluetooth) .bluetooth ∧
      EndsWith s (phonePlays 3 .bluetooth) .localBluetooth)
    (show _ = ({ controller := Controller.create plainConfig } : Wired) from rfl)
    (by decide +kernel)
  obtain ⟨status, c', l, htick, hroute⟩ := hends.eval
  obtain ⟨hkept, -⟩ := hall s _ .bluetooth status c' l hs (hconf.steady (.inr rfl)) htick
  rw [hroute] at hkept
  exact nomatch hkept

end Wired

end PhonoConsole
