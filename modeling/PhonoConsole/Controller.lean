/-
  THE CONTROLLER TICK (`phono_console/controller.py`, `Controller.tick`) as a coroutine.

  The controller owns a private state (`Controller`: the two detectors, the current route and a
  few timers) and reaches everything else through callbacks handed to its constructor.  So the
  tick is a `Coro`: its private state is `Controller`, and every callback, awaited or not, is a
  REQUEST (`CtlReq`) answered from outside.  A request that may raise is answered by an
  `Except Exc _`; `asyncio.CancelledError` is an `Exc` of its own, because it is not an
  `Exception` and passes every `except Exception` of the source.

  The tick is cut at the points where the source's own comments cut it:

  * `observe`           — levels, detectors, pre-activation, MA and mode telemetry (lines 137–332);
  * `startDistribution` — the early preparation and its pending timer (lines 346–409);
  * `latchedRoute`      — the reducer and the two latches (lines 411–474);
  * `releaseIfLeaving`, `enterDistribution` — the hand-over of the network session (475–513);
  * `applyRoute`        — router, amplifier, and the error path (514–592);
  * `publishStatus`     — the new route, the routing state and the status (594–647).

  One callback may be called at several places of a tick with different results; the request
  then carries the place (`Site`), so that an oracle may answer each call as it likes.

  Left out: `set_component`, `emit`, the input-level meters and the log.  They are written and
  never read back by routing, and with the daemon's sinks they neither raise nor suspend; with
  them go `_last_route_error`, `_last_reported_phono_activity` and the write-only
  `_distribution_healthy_since`.
-/
import PhonoConsole.Lib.Coro
import PhonoConsole.Policy
import PhonoConsole.Detector

namespace PhonoConsole

/-- What an awaited call can raise: an `Exception` with its text, or `CancelledError`. -/
inductive Exc
  | exception (text : String)
  | cancelled
deriving DecidableEq, Repr

/-- The configuration values the controller reads. -/
structure Config where
  phonoThresholdDbfs : ℚ
  phonoAttackMs : ℚ
  phonoReleaseMs : ℚ
  phonoHysteresisDb : ℚ
  needleDropPeakDbfs : ℚ := -45
  bluetoothThresholdDbfs : ℚ := -60
  bluetoothAttackMs : ℚ := 200
  bluetoothReleaseMs : ℚ := 2000
  distributionStartTimeoutMs : ℚ := 5000
  phonoModeStickyMinutes : ℚ := 60
deriving DecidableEq

/-- The thresholds of a usual installation. -/
def plainConfig : Config where
  phonoThresholdDbfs := -50
  phonoAttackMs := 500
  phonoReleaseMs := 10000
  phonoHysteresisDb := 3

/-- Which optional collaborators the constructor was given (`is not None`). -/
structure Callbacks where
  bluetoothMonitor : Bool := true
  bluetoothIsPlaying : Bool := true
  distributionAvailable : Bool := true
  distributionCapable : Bool := true
  distributionStreamHealthy : Bool := true
  prepareDistribution : Bool := true
  releaseDistribution : Bool := true
  refreshPhonoOutputMode : Bool := false
  expirePhonoOutputMode : Bool := false
  inheritDistributedPhonoMode : Bool := false
  activateOutput : Bool := true
  activateRoute : Bool := true
  reconcile : Bool := true
deriving DecidableEq

/-- The published `Status` of a tick. -/
structure Status where
  route : Route
  phonoActive : Bool
  maPlaying : Bool
  wholeHouseRequested : Bool
  levelDbfs : ℚ
  bluetoothActive : Bool := false
  bluetoothLevelDbfs : ℚ := -120
  source : Source := .none
  distribution : DistributionPath := .none
deriving DecidableEq

/-- The controller's own state between and during ticks. -/
structure Controller where
  detector : ActivityDetector
  bluetoothDetector : ActivityDetector
  route : Option Route := none
  phonoModeInactiveSince : Option ℚ := none
  phonoModeLastRefresh : Option ℚ := none
  distributionPendingSource : Option Source := none
  distributionPendingSince : Option ℚ := none
deriving DecidableEq

/-- The place in the tick a repeated request is made from. -/
inductive Site
  | sense
  | preactivate
  | monitor
  | start
  | decide
  | enter
  | apply
  | fallback
  | finish
deriving DecidableEq, Repr

/-- Everything a tick asks of its collaborators. -/
inductive CtlReq
  | levelDbfs
  | latestPeaks
  | bluetoothIsPlaying (site : Site)
  | consoleIsPlaying
  | wholeHouseIsRequested
  | inheritDistributedPhonoMode
  | phonoOutputMode
  | refreshPhonoOutputMode
  | expirePhonoOutputMode
  | bluetoothLevelDbfs
  | distributionAvailable
  | distributionCapable (source : Source)
  | distributionStreamHealthy
  | prepareDistribution (site : Site) (source : Source)
  | releaseDistribution
  | routerApply (site : Site) (route : Route)
  | routerReconcile (route : Route)
  | activateOutput (site : Site)
  | activateRoute (route : Route)
  | routingGeneration
  | setRoutingState (site : Site) (phase : RoutingPhase) (sessionSource : Source)
      (error : Option String)
  | setStatus (status : Status)
deriving DecidableEq

/-- The answers.  Reading attributes and writing to the state store cannot fail. -/
abbrev CtlRep : CtlReq → Type
  | .levelDbfs | .bluetoothLevelDbfs => Except Exc ℚ
  | .latestPeaks => Option (ℚ × ℚ)
  | .bluetoothIsPlaying _ | .consoleIsPlaying | .wholeHouseIsRequested
  | .distributionAvailable | .distributionCapable _ | .distributionStreamHealthy
  | .prepareDistribution _ _ => Except Exc Bool
  | .phonoOutputMode => Except Exc PhonoOutputMode
  | .inheritDistributedPhonoMode | .refreshPhonoOutputMode | .expirePhonoOutputMode
  | .releaseDistribution | .routerApply _ _ | .routerReconcile _
  | .activateOutput _ | .activateRoute _ => Except Exc Unit
  | .routingGeneration => Nat
  | .setRoutingState _ _ _ _ | .setStatus _ => Unit

/-- What every callback of a tick answers, call by call. -/
abbrev Oracle := (q : CtlReq) → CtlRep q

/-- Answers that do not depend on the place of the call; the awaited effects go through. -/
structure Answers where
  level : ℚ := -120
  peaks : Option (ℚ × ℚ) := none
  bluetoothPlaying : Bool := false
  consolePlaying : Bool := false
  wholeHouse : Bool := false
  outputMode : PhonoOutputMode := .downstairs
  bluetoothLevel : ℚ := -120
  available : Bool := false
  capable : Source → Bool := fun _ => true
  streamHealthy : Bool := true
  prepared : Source → Bool := fun _ => true
  generation : Nat := 0

/-- The answers, request by request. -/
def Answers.oracle (a : Answers) : Oracle
  | .levelDbfs => .ok a.level
  | .latestPeaks => a.peaks
  | .bluetoothIsPlaying _ => .ok a.bluetoothPlaying
  | .consoleIsPlaying => .ok a.consolePlaying
  | .wholeHouseIsRequested => .ok a.wholeHouse
  | .phonoOutputMode => .ok a.outputMode
  | .bluetoothLevelDbfs => .ok a.bluetoothLevel
  | .distributionAvailable => .ok a.available
  | .distributionCapable source => .ok (a.capable source)
  | .distributionStreamHealthy => .ok a.streamHealthy
  | .prepareDistribution _ source => .ok (a.prepared source)
  | .routingGeneration => a.generation
  | .inheritDistributedPhonoMode | .refreshPhonoOutputMode | .expirePhonoOutputMode
  | .releaseDistribution | .routerApply _ _ | .routerReconcile _
  | .activateOutput _ | .activateRoute _ => .ok ()
  | .setRoutingState _ _ _ _ | .setStatus _ => ()

/-- A program over the controller's own state that makes these requests. -/
abbrev Tick := Coro CtlReq CtlRep Controller Exc

namespace Controller

open Coro (get modify ask when)

/-- A controller as constructed from its configuration. -/
def create (cfg : Config) : Controller where
  detector :=
    { thresholdDbfs := cfg.phonoThresholdDbfs
      attackSeconds := cfg.phonoAttackMs / 1000
      releaseSeconds := cfg.phonoReleaseMs / 1000
      hysteresisDb := cfg.phonoHysteresisDb }
  bluetoothDetector :=
    { thresholdDbfs := cfg.bluetoothThresholdDbfs
      attackSeconds := cfg.bluetoothAttackMs / 1000
      releaseSeconds := cfg.bluetoothReleaseMs / 1000
      hysteresisDb := 3 }

/-! ## Raising and `except Exception` -/

/-- The value of an awaited call, or its exception. -/
def ofExcept {α : Type} (r : Except Exc α) : Tick α := .done r

/-- `try: p; except Exception: h` — a cancellation is not an `Exception`. -/
def exceptException {α : Type} (p : Tick α) (h : Tick α) : Tick α :=
  p.catchError fun
    | .exception _ => h
    | .cancelled => Coro.throw .cancelled

/-- `try: p; except Exception: pass`, telling whether `p` went through. -/
def attempt {α : Type} (p : Tick α) : Tick Bool :=
  exceptException (do let _ ← p; pure true) (pure false)

/-- An optional callback: called when it was given, `dflt` otherwise. -/
def given {α : Type} (present : Bool) (p : Tick α) (dflt : α) : Tick α :=
  if present then p else pure dflt

/-! ## The pure decisions of a tick -/

/-- A peak wakes the console only while idle and while no phone is playing. -/
def needleDropDetected (cfg : Config) (c : Controller) (captureOk transportPlaying : Bool)
    (peakLevel : ℚ) : Bool :=
  captureOk && !c.detector.active && (c.route == none || c.route == some .idle)
    && !transportPlaying && decide (cfg.needleDropPeakDbfs ≤ peakLevel)

/-- `phono_signal_present`: a needle drop, or a level at the boundary of the present state. -/
def phonoSignalPresent (cfg : Config) (c : Controller) (captureOk needleDrop : Bool)
    (level : ℚ) : Bool :=
  captureOk && (needleDrop ||
    decide (cfg.phonoThresholdDbfs - (if c.detector.active then cfg.phonoHysteresisDb else 0)
      ≤ level))

/-- `selected_source`: a signal before Bluetooth, and Bluetooth before a held activity. -/
def selectedSource (phonoSignalPresent bluetoothActive phonoActive : Bool) : Source :=
  if phonoSignalPresent then .phono
  else if bluetoothActive then .bluetooth
  else if phonoActive then .phono
  else .none

/-- Whether an early preparation of `selected` is due: a new pending source, or a timeout. -/
def shouldPrepare (cfg : Config) (c : Controller) (selected : Source) (timestamp : ℚ) : Bool :=
  c.distributionPendingSource != some selected ||
    match c.distributionPendingSince with
    | some since => decide (cfg.distributionStartTimeoutMs / 1000 ≤ timestamp - since)
    | none => false

/-- The observation the tick hands to the reducer: one boolean in every confirmation field. -/
def observation (selected : Source) (available maPlaying capable : Bool) (generation : Nat) :
    RoutingObservation where
  activeSource := selected
  maConsolePlaying := if selected ≠ .none then available else maPlaying
  maTargetPlaying := available
  maConnected := available
  sendspinConnected := available
  sendspinStreamRequested := available
  sendspinStreaming := available
  sendspinStreamHealthy := available
  distributionCapable := capable
  selectedSource := selected
  sessionGeneration := if available then some generation else none

/-- The two latches over the reducer's route: distributed Bluetooth survives a telemetry gap,
    distributed phono stays while it is available and selected. -/
def latchedRoute (route : Option Route) (decided : Route) (selected : Source)
    (bluetoothActive phonoActive capable streamHealthy available : Bool) : Route :=
  if route == some .distributedBluetooth && bluetoothActive && !phonoActive && capable
      && streamHealthy then .distributedBluetooth
  else if available && route == some .distributedPhono && selected == .phono then
    .distributedPhono
  else decided

/-- What the first half of a tick has established. -/
structure Observed where
  level : ℚ
  phonoActive : Bool
  phonoSignalPresent : Bool
  localAudioPreactivated : Bool
  outputPreactivated : Bool
  maPlaying : Bool
  wholeHouse : Bool
  outputMode : PhonoOutputMode
  bluetoothLevel : ℚ
  bluetoothActive : Bool
  bluetoothPcmReady : Bool
  available : Bool

/-- `selected_source`. -/
def Observed.selected (x : Observed) : Source :=
  selectedSource x.phonoSignalPresent x.bluetoothActive x.phonoActive

/-- `can_start_distribution`. -/
def Observed.canStart (x : Observed) : Bool :=
  x.selected != .bluetooth || x.bluetoothPcmReady

/-- `distribution_required`. -/
def Observed.required (x : Observed) : Bool :=
  (x.selected == .phono || x.selected == .bluetooth) && x.outputMode == .downstairs

section Phases

variable (cfg : Config) (cb : Callbacks) (timestamp : ℚ)

/-! ## The first half: what is playing -/

/-- The phono level; a dead capture silences the phono detector at once. -/
def readLevel : Tick (Bool × ℚ) :=
  exceptException
    (do let level ← ask .levelDbfs >>= ofExcept
        pure (true, level))
    (do modify fun c => { c with detector := c.detector.resetInactive }
        pure (false, -120))

/-- `peak_level`, of the latest window. -/
def peakLevel : Tick ℚ := do
  let latest : Option (ℚ × ℚ) ← ask CtlReq.latestPeaks
  pure (match latest with
    | some (left, right) => max left right
    | none => -120)

/-- `bluetooth_transport_playing`, asked once at the start of the tick. -/
def bluetoothTransportPlaying : Tick Bool :=
  given cb.bluetoothIsPlaying (ask (.bluetoothIsPlaying .sense) >>= ofExcept) false

/-- The needle-drop hint and the detector update: `(phono_active, phono_signal_present)`. -/
def senseActivity (captureOk : Bool) (level peak : ℚ) (transportPlaying : Bool) :
    Tick (Bool × Bool) := do
  let c ← get
  let needleDrop := needleDropDetected cfg c captureOk transportPlaying peak
  when needleDrop (modify fun c => { c with detector := c.detector.forceActive })
  when captureOk (modify fun c => { c with detector := c.detector.update level timestamp })
  let c ← get
  pure (captureOk && c.detector.active, phonoSignalPresent cfg c captureOk needleDrop level)

/-- The latency-critical wake-up of the local path, before any network telemetry:
    `(local_audio_preactivated, output_preactivated)`. -/
def preactivate (signalPresent : Bool) : Tick (Bool × Bool) := do
  let c ← get
  if signalPresent && (c.route == none || c.route == some .idle) then
    if ← attempt (ask (.routerApply .preactivate .localPhono) >>= ofExcept) then
      if cb.activateOutput then
        let activated ← attempt (ask (.activateOutput .preactivate) >>= ofExcept)
        pure (true, activated)
      else pure (true, false)
    else pure (false, false)
  else pure (false, false)

/-- MA telemetry; an unknown state reserves the output. -/
def readMaPlaying : Tick Bool :=
  exceptException (ask .consoleIsPlaying >>= ofExcept) (pure true)

/-- A record started over distributed Bluetooth inherits the listening path. -/
def inheritMode (signalPresent : Bool) : Tick Unit := do
  let c ← get
  when (signalPresent && c.route == some .distributedBluetooth && cb.inheritDistributedPhonoMode)
    (ask .inheritDistributedPhonoMode >>= ofExcept)

/-- The sticky Downstairs mode: refreshed while phono is active, expired after inactivity. -/
def stickyMode (phonoActive : Bool) : Tick PhonoOutputMode := do
  let mode ← ask .phonoOutputMode >>= ofExcept
  let c ← get
  if mode = .downstairs then
    if phonoActive then
      modify fun c => { c with phonoModeInactiveSince := none }
      let due := match c.phonoModeLastRefresh with
        | none => true
        | some last => decide (60 ≤ timestamp - last)
      when (cb.refreshPhonoOutputMode && due) do
        ask .refreshPhonoOutputMode >>= ofExcept
        modify fun c => { c with phonoModeLastRefresh := some timestamp }
      pure mode
    else
      match c.phonoModeInactiveSince with
      | none =>
        modify fun c => { c with phonoModeInactiveSince := some timestamp }
        pure mode
      | some since =>
        if cfg.phonoModeStickyMinutes * 60 ≤ timestamp - since then
          when cb.expirePhonoOutputMode (ask .expirePhonoOutputMode >>= ofExcept)
          modify fun c =>
            { c with phonoModeInactiveSince := none, phonoModeLastRefresh := none }
          pure .local
        else pure mode
  else
    modify fun c => { c with phonoModeInactiveSince := none, phonoModeLastRefresh := none }
    pure mode

/-- Bluetooth sensing, skipped while a phono signal is present:
    `(bluetooth_level, bluetooth_active, bluetooth_pcm_ready)`. -/
def senseBluetooth (signalPresent transportPlaying : Bool) : Tick (ℚ × Bool × Bool) := do
  if cb.bluetoothMonitor && !signalPresent then
    let sample ← exceptException
      (do let level ← ask .bluetoothLevelDbfs >>= ofExcept
          pure (some level))
      (pure none)
    match sample with
    | none =>
      modify fun c => { c with bluetoothDetector :=
        if transportPlaying then c.bluetoothDetector.forceActive
        else c.bluetoothDetector.resetInactive }
      pure (-120, transportPlaying, false)
    | some level =>
      let pcmReady ←
        given cb.bluetoothIsPlaying (ask (.bluetoothIsPlaying .monitor) >>= ofExcept) true
      modify fun c => { c with bluetoothDetector := c.bluetoothDetector.update level timestamp }
      let detected ← get
      when transportPlaying
        (modify fun c => { c with bluetoothDetector := c.bluetoothDetector.forceActive })
      pure (level, transportPlaying || detected.bluetoothDetector.active, pcmReady)
  else
    when signalPresent
      (modify fun c => { c with bluetoothDetector := c.bluetoothDetector.resetInactive })
    pure (-120, transportPlaying, false)

/-- `_distribution_ready`. -/
def distributionReady : Tick Bool :=
  given cb.distributionAvailable (ask .distributionAvailable >>= ofExcept) false

/-- `_distribution_is_capable`. -/
def distributionIsCapable (source : Source) : Tick Bool :=
  given cb.distributionCapable (ask (.distributionCapable source) >>= ofExcept) false

/-- `_distribution_stream_is_healthy`. -/
def distributionStreamIsHealthy : Tick Bool :=
  given cb.distributionStreamHealthy (ask .distributionStreamHealthy >>= ofExcept) false

/-- The first half of the tick. -/
def observe : Tick Observed := do
  let (captureOk, level) ← readLevel
  let peak ← peakLevel
  let transportPlaying ← bluetoothTransportPlaying cb
  let (phonoActive, signalPresent) ← senseActivity cfg timestamp captureOk level peak
    transportPlaying
  let (localAudioPreactivated, outputPreactivated) ← preactivate cb signalPresent
  let maPlaying ← readMaPlaying
  let wholeHouse ← ask .wholeHouseIsRequested >>= ofExcept
  inheritMode cb signalPresent
  let outputMode ← stickyMode cfg cb timestamp phonoActive
  let (bluetoothLevel, bluetoothActive, bluetoothPcmReady) ←
    senseBluetooth cb timestamp signalPresent transportPlaying
  let available ← distributionReady cb
  pure {
    level, phonoActive, phonoSignalPresent := signalPresent, localAudioPreactivated
    outputPreactivated, maPlaying, wholeHouse, outputMode, bluetoothLevel, bluetoothActive
    bluetoothPcmReady, available }

/-! ## The second half: what to do about it -/

/-- `_set_routing_state`: one request, because it reads the generation it stamps the session with
    and writes it without suspending in between. -/
def setRoutingState (site : Site) (phase : RoutingPhase) (sessionSource : Source := .none)
    (error : Option String := none) : Tick Unit :=
  ask (CtlReq.setRoutingState site phase sessionSource error)

/-- The early preparation of a required but unavailable distribution. -/
def startDistribution (x : Observed) (capable : Bool) : Tick Unit := do
  if x.required && !x.available && capable && x.canStart then
    let c ← get
    when (shouldPrepare cfg c x.selected timestamp) do
      modify fun c => { c with
        distributionPendingSource := some x.selected
        distributionPendingSince := some timestamp }
      setRoutingState .start .startingDistribution x.selected
      when cb.prepareDistribution do
        let prepared ← attempt (ask (.prepareDistribution .start x.selected) >>= ofExcept)
        when (!prepared)
          (modify fun c => { c with
            distributionPendingSince := some (timestamp - cfg.distributionStartTimeoutMs / 1000) })
  else if x.required && !x.available then
    setRoutingState .start .degraded x.selected
      (some "Downstairs unavailable; source remains local")
  else
    when (x.available || x.selected == .none)
      (modify fun c => { c with
        distributionPendingSource := none
        distributionPendingSince := none })

/-- The reducer's route under the latches. -/
def decideRoute (x : Observed) (capable streamHealthy : Bool) : Tick Route := do
  let generation ← ask CtlReq.routingGeneration
  let c ← get
  let decision := reduceRouting x.outputMode.target
    (observation x.selected x.available x.maPlaying capable generation) generation
    ((c.route.map Route.distributed).getD false)
  pure (latchedRoute c.route decision.route x.selected x.bluetoothActive x.phonoActive capable
    streamHealthy x.available)

/-- Release the session when the route leaves distribution; the live input that was just
    stopped may still be reported as MA playback. -/
def releaseIfLeaving (desired : Route) : Tick Route := do
  let c ← get
  if (c.route.map Route.distributed).getD false && !desired.distributed then
    when cb.releaseDistribution do
      let _ ← attempt (ask .releaseDistribution >>= ofExcept)
    pure (if desired = .maPlayback then .idle else desired)
  else pure desired

/-- Prepare a newly entered distributed route, or fall back to the local chooser. -/
def enterDistribution (x : Observed) (desired : Route) : Tick Route := do
  let c ← get
  if desired.distributed && c.route != some desired && cb.prepareDistribution && x.canStart then
    let prepared ← exceptException
      (ask (.prepareDistribution .enter (routeSource desired)) >>= ofExcept) (pure false)
    if prepared then pure desired
    else
      pure (chooseRoute ⟨x.selected == .phono, x.selected == .bluetooth, x.maPlaying, false,
        x.outputMode⟩)
  else pure desired

/-- Hand the route to the router and wake the amplifier; a router failure falls back to idle. -/
def applyRoute (x : Observed) (desired : Route) : Tick Route := do
  let c ← get
  let activatingOutput := desired != .idle && (c.route == none || c.route == some .idle)
    && cb.activateOutput && !x.outputPreactivated
  exceptException
    (do when (c.route == some desired && cb.reconcile)
          (ask (.routerReconcile desired) >>= ofExcept)
        when (c.route != some desired && !(x.localAudioPreactivated && desired == .localPhono))
          (ask (.routerApply .apply desired) >>= ofExcept)
        when activatingOutput do
          let _ ← attempt (ask (.activateOutput .apply) >>= ofExcept)
        when (c.route != some desired && cb.activateRoute) do
          let _ ← attempt (ask (.activateRoute desired) >>= ofExcept)
        pure desired)
    (do let _ ← attempt (ask (.routerApply .fallback .idle) >>= ofExcept)
        pure .idle)

/-- Record the route, the routing state and the status of the tick. -/
def publishStatus (x : Observed) (route : Route) : Tick Status := do
  modify fun c => { c with route := some route }
  when route.distributed (setRoutingState .finish .stable (routeSource route))
  when (!route.distributed && x.outputMode == .local) (setRoutingState .finish .stable)
  let status : Status := {
    route
    phonoActive := x.phonoActive
    maPlaying := x.maPlaying
    wholeHouseRequested := x.wholeHouse
    levelDbfs := x.level
    bluetoothActive := x.bluetoothActive
    bluetoothLevelDbfs := x.bluetoothLevel
    source := routeSource route
    distribution := routeDistribution route }
  ask (CtlReq.setStatus status)
  pure status

/-- The second half of the tick. -/
def conclude (x : Observed) : Tick Status := do
  let capable ← distributionIsCapable cb x.selected
  let streamHealthy ← distributionStreamIsHealthy cb
  startDistribution cfg cb timestamp x capable
  let decided ← decideRoute x capable streamHealthy
  let desired ← releaseIfLeaving cb decided
  let desired ← enterDistribution cb x desired
  let route ← applyRoute cb x desired
  publishStatus x route

/-- `Controller.tick`. -/
def tick : Tick Status := do
  let x ← observe cfg cb timestamp
  conclude cfg cb timestamp x

end Phases

end Controller

end PhonoConsole
