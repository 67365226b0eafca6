/-
  THE ROUTING POLICY (`phono_console/policy.py`): routes, sources, the pure routing reducer and
  the source-priority chooser.

  The Python enumerations become inductive types, a `frozen=True` dataclass a structure, and the
  two decision functions are translated branch for branch.  `reduce_routing` decides the route
  of a tick from one observation; `choose_route` is the older chooser that the controller falls
  back on when an entry into distribution could not be prepared.

  `Route.WHOLE_HOUSE_PHONO` is an alias of `DISTRIBUTED_PHONO` in the source (same value in a
  `StrEnum`), so it is no constructor of its own.
-/

namespace PhonoConsole

/-- `Route`. -/
inductive Route
  | idle
  | localPhono
  | localBluetooth
  | maPlayback
  | distributedPhono
  | distributedBluetooth
deriving DecidableEq, Repr

/-- `Source`. -/
inductive Source
  | none
  | phono
  | bluetooth
  | musicAssistant
deriving DecidableEq, Repr

/-- `DistributionPath`. -/
inductive DistributionPath
  | none
  | maDownstairs
  | localFallback
deriving DecidableEq, Repr

/-- `PhonoOutputMode`. -/
inductive PhonoOutputMode
  | «local»
  | downstairs
deriving DecidableEq, Repr

/-- The single user-controlled output destination. -/
inductive OutputTarget
  | console
  | downstairs
deriving DecidableEq, Repr

/-- `RoutingPhase`. -/
inductive RoutingPhase
  | stable
  | startingDistribution
  | stoppingDistribution
  | degraded
deriving DecidableEq, Repr

/-- `DistributionCommand`. -/
inductive DistributionCommand
  | none
  | start
  | stop
deriving DecidableEq, Repr

/-- `RoutingObservation`. -/
structure RoutingObservation where
  activeSource : Source := .none
  maConsolePlaying : Bool := false
  maTargetPlaying : Bool := false
  maConnected : Bool := false
  sendspinConnected : Bool := false
  sendspinStreamRequested : Bool := false
  sendspinStreaming : Bool := false
  sendspinStreamHealthy : Bool := false
  distributionCapable : Bool := false
  selectedSource : Source := .none
  sessionGeneration : Option Nat := Option.none
deriving DecidableEq, Repr

/-- `RoutingDecision`. -/
structure RoutingDecision where
  route : Route
  phase : RoutingPhase
  command : DistributionCommand := .none
  confirmed : Bool := false
  error : Option String := Option.none
deriving DecidableEq, Repr

/-- True only when every control-plane distribution signal agrees. -/
def distributionConfirmed (observation : RoutingObservation) (generation : Nat) : Bool :=
  (observation.activeSource == .phono || observation.activeSource == .bluetooth)
    && observation.selectedSource == observation.activeSource
    && observation.sendspinConnected
    && observation.sendspinStreamRequested
    && observation.sendspinStreaming
    && observation.sendspinStreamHealthy
    && observation.maConnected
    && observation.maConsolePlaying
    && observation.maTargetPlaying
    && observation.sessionGeneration == some generation

/-- The pure routing reducer. -/
def reduceRouting (target : OutputTarget) (observation : RoutingObservation) (generation : Nat)
    (distributionSessionActive : Bool := false) : RoutingDecision :=
  let source := observation.activeSource
  if source = .none then
    { route := if observation.maConsolePlaying then .maPlayback else .idle
      phase := .stable
      command := if distributionSessionActive then .stop else .none }
  else
    let localRoute := if source = .phono then Route.localPhono else Route.localBluetooth
    if target = .console then
      { route := localRoute
        phase := if distributionSessionActive then .stoppingDistribution else .stable
        command := if distributionSessionActive then .stop else .none }
    else if distributionConfirmed observation generation then
      { route := if source = .phono then .distributedPhono else .distributedBluetooth
        phase := .stable
        confirmed := true }
    else if observation.distributionCapable then
      { route := localRoute, phase := .startingDistribution, command := .start }
    else
      { route := localRoute
        phase := .degraded
        error := some "Downstairs distribution is unavailable; playing locally" }

/-- The inputs of `choose_route`. -/
structure Inputs where
  phonoActive : Bool := false
  bluetoothActive : Bool := false
  maPlaying : Bool := false
  distributionAvailable : Bool := false
  phonoOutputMode : PhonoOutputMode := .local
deriving DecidableEq, Repr

/-- Choose a route using the project's source-priority contract. -/
def chooseRoute (inputs : Inputs) : Route :=
  if inputs.phonoActive then
    if inputs.distributionAvailable && inputs.phonoOutputMode == .downstairs then
      .distributedPhono
    else .localPhono
  else if inputs.bluetoothActive then
    if inputs.distributionAvailable then .distributedBluetooth else .localBluetooth
  else if inputs.maPlaying then .maPlayback
  else .idle

/-- `route_source`. -/
def routeSource : Route → Source
  | .localPhono | .distributedPhono => .phono
  | .localBluetooth | .distributedBluetooth => .bluetooth
  | .maPlayback => .musicAssistant
  | .idle => .none

/-- `route_distribution`. -/
def routeDistribution : Route → DistributionPath
  | .distributedPhono | .distributedBluetooth => .maDownstairs
  | .localPhono | .localBluetooth => .localFallback
  | .maPlayback | .idle => .none

/-- `route in {Route.DISTRIBUTED_PHONO, Route.DISTRIBUTED_BLUETOOTH}`. -/
def Route.distributed : Route → Bool
  | .distributedPhono | .distributedBluetooth => true
  | _ => false

@[simp] theorem Route.idle_distributed : Route.idle.distributed = false := rfl

/-- The mode that `StateStore.phono_output_mode` derives from the target. -/
def OutputTarget.mode : OutputTarget → PhonoOutputMode
  | .console => .local
  | .downstairs => .downstairs

/-- The target a requested mode stands for. -/
def PhonoOutputMode.target : PhonoOutputMode → OutputTarget
  | .local => .console
  | .downstairs => .downstairs

/-! ## What the two choosers can return -/

/-- The direct console route of a physical source. -/
def Source.localRoute (s : Source) : Route :=
  if s = .phono then .localPhono else .localBluetooth

/-- The Downstairs route of a physical source. -/
def Source.distributedRoute (s : Source) : Route :=
  if s = .phono then .distributedPhono else .distributedBluetooth

@[simp] theorem Source.localRoute_distributed (s : Source) : s.localRoute.distributed = false := by
  cases s <;> rfl

@[simp] theorem Source.distributedRoute_distributed (s : Source) :
    s.distributedRoute.distributed = true := by
  cases s <;> rfl

/-- The route of the reducer: the distributed route of the active source exactly when Downstairs
    is requested and confirmed, its local route otherwise. -/
theorem reduceRouting_route (t : OutputTarget) (obs : RoutingObservation) (g : Nat) (b : Bool) :
    (reduceRouting t obs g b).route =
      if obs.activeSource = .none then (if obs.maConsolePlaying then .maPlayback else .idle)
      else if t = .downstairs ∧ distributionConfirmed obs g = true then
        obs.activeSource.distributedRoute
      else obs.activeSource.localRoute := by
  unfold reduceRouting Source.distributedRoute Source.localRoute
  by_cases hs : obs.activeSource = .none
  · simp only [hs, ↓reduceIte]
  · cases t
    · simp only [hs, ↓reduceIte, reduceCtorEq, false_and]
    · by_cases hc : distributionConfirmed obs g = true
      · simp only [hs, ↓reduceIte, reduceCtorEq, hc, and_self]
      · simp only [hs, ↓reduceIte, reduceCtorEq, hc, and_false, Bool.false_eq_true]
        split <;> rfl

/-- The fallback chooser without an available distribution never distributes. -/
theorem chooseRoute_not_distributed (p b m : Bool) (mode : PhonoOutputMode) :
    (chooseRoute ⟨p, b, m, false, mode⟩).distributed = false := by
  cases p <;> cases b <;> cases m <;> rfl

end PhonoConsole
