/-
  OUTPUT INTENTS: `StateStore.set_output_target`, the API's `_set_canonical_output`, the encoder's
  `hardware_press_action` and the daemon's `output_mode_action`.

  An intent is RECORDED at once, in memory, and APPLIED later, under locks: the API serialises its
  requests with a lock of its own and drops those that a newer intent has superseded; the action
  serialises all transitions with a second lock and drops a target that is no longer wanted.  A
  failed Downstairs request of the API rolls the target back to the one it found on arrival.

  Each intent increments `routing_generation`, so the generation it gets names its task here.  A
  move (`HubMove`) is the arrival of an intent, or the resumption of one task with the answer it
  awaited; between two suspensions a task runs alone, and a free lock is taken without
  suspending.  The publisher's enable flags are set before their setters suspend; the setters of
  an enabled flag, the state store and the event sinks do not suspend at all.

  The disk may refuse writes at any time (`disk`), and `persist_output_target` raises while it
  does.

  Left out: the events, and the HTTP responses, which only repeat the outcome.  The daemon has a
  publisher (`sendspin.source_enabled`); without one the API refuses Downstairs before it records
  anything.  A press records an intent for any target here; `press_command_for_route`, which
  decides what a press stands for, is read from the last status, and the store has none.
-/
import PhonoConsole.Lib.Machine
import PhonoConsole.Lib.FifoLock
import PhonoConsole.Policy
import Mathlib.Logic.Function.Basic

namespace PhonoConsole

/-- The routing fields of the state store. -/
structure Routing where
  phase : RoutingPhase := .stable
  sessionGeneration : Option Nat := none
  sessionSource : Source := .none
  error : Option String := none
deriving DecidableEq, Repr

/-- The publisher's enable flags. -/
structure Flags where
  distribution : Bool
  phono : Bool
  bluetooth : Bool
deriving DecidableEq, Repr

/-- All flags as a target wants them. -/
def Flags.for (t : OutputTarget) : Flags :=
  let enabled := t == .downstairs
  ⟨enabled, enabled, enabled⟩

/-- Who recorded an intent: an API request, with the target it found, or the encoder. -/
inductive Caller
  | api (previous : OutputTarget)
  | encoder
deriving DecidableEq, Repr

/-- How a task ended: dropped by the API, or with its action returning or raising. -/
inductive Outcome
  | superseded
  | returned
  | raised
deriving DecidableEq, Repr

/-- The flag a Console action is switching off. -/
inductive Disabling
  | distribution
  | phono
  | bluetooth
deriving DecidableEq, Repr

/-- Where the task of an intent is suspended.  Inside the action it remembers the generation it
    read under the transition lock. -/
inductive TaskPc
  | apiLock
  | transitionLock
  | disabling (generation : Nat) (flag : Disabling)
  | stopping (generation : Nat)
  | selecting (generation : Nat) (source : Source)
  | playing (generation : Nat) (source : Source)
  | done (outcome : Outcome)
deriving DecidableEq, Repr

/-- The task is inside its action, and holds the transition lock. -/
def TaskPc.inAction : TaskPc → Bool
  | .disabling _ _ | .stopping _ | .selecting _ _ | .playing _ _ => true
  | .apiLock | .transitionLock | .done _ => false

/-- The task has ended. -/
def TaskPc.isDone : TaskPc → Bool
  | .done _ => true
  | _ => false

/-- The generation the action read with its target. -/
def TaskPc.generation : TaskPc → Option Nat
  | .disabling n _ | .stopping n | .selecting n _ | .playing n _ => some n
  | .apiLock | .transitionLock | .done _ => none

/-- The action is stopping the players. -/
def TaskPc.isStopping : TaskPc → Bool
  | .stopping _ => true
  | _ => false

theorem TaskPc.isStopping_iff (pc : TaskPc) :
    pc.isStopping = true ↔ ∃ generation, pc = .stopping generation := by
  cases pc <;> simp [TaskPc.isStopping]

/-- A task in its action has not ended. -/
theorem TaskPc.not_done {pc : TaskPc} (h : pc.inAction = true) : pc.isDone = false := by
  cases pc with
  | apiLock | transitionLock | done => exact nomatch h
  | disabling | stopping | selecting | playing => rfl

/-- The task that records and applies one intent. -/
structure IntentTask where
  target : OutputTarget
  caller : Caller
  pc : TaskPc
deriving DecidableEq, Repr

/-- The state shared by all intents.  `initial` is the target at the start, which no task reads;
    `writable` is the disk's. -/
structure Hub where
  initial : OutputTarget
  outputTarget : OutputTarget
  routingGeneration : Nat := 0
  routing : Routing := {}
  file : OutputTarget
  writable : Bool := true
  flags : Flags
  clientKnown : Bool := false
  activeSource : Source := .none
  bluetoothReady : Bool := false
  distributionTarget : String := "downstairs"
  apiLock : FifoLock Nat := {}
  transitionLock : FifoLock Nat := {}
  task : Nat → IntentTask := fun _ => ⟨.console, .encoder, .done .returned⟩

/-- The answer a suspended task is resumed with. -/
inductive HubReply
  | ok
  | started (players : Bool)
  | raised
deriving DecidableEq, Repr

/-- The moves: intents, resumptions, and what the surroundings report. -/
inductive HubMove
  | request (target : OutputTarget)
  | press (target : OutputTarget)
  | resume (generation : Nat) (reply : HubReply)
  | identify
  | sense (source : Source) (bluetoothReady : Bool)
  | disk (writable : Bool)
deriving DecidableEq, Repr

namespace Hub

/-! ## The state store -/

/-- `set_output_target`. -/
def setOutputTarget (s : Hub) (target : OutputTarget) (increment : Bool) : Hub :=
  let generation := if increment then s.routingGeneration + 1 else s.routingGeneration
  { s with
    outputTarget := target
    routingGeneration := generation
    routing := { s.routing with
      phase := if target = .downstairs then .startingDistribution else .stoppingDistribution
      error := none } }

/-- `set_routing_state`. -/
def setRoutingState (s : Hub) (routing : Routing) : Hub := { s with routing }

/-- The task `g` comes to the point `pc`. -/
def setPc (s : Hub) (g : Nat) (pc : TaskPc) : Hub :=
  { s with task := Function.update s.task g { s.task g with pc } }

/-! ## The action -/

/-- The end of the task of generation `g`, which held the transition lock, and for an API
    request the API lock. -/
def finish (s : Hub) (g : Nat) (outcome : Outcome) : Hub :=
  let s := { s with transitionLock := s.transitionLock.release }
  let s := match (s.task g).caller with
    | .api _ => { s with apiLock := s.apiLock.release }
    | .encoder => s
  s.setPc g (.done outcome)

/-- `output_mode_action` raises: a failed Downstairs request of the API rolls back while its
    generation is the newest. -/
def actionRaises (s : Hub) (g : Nat) : Hub :=
  match (s.task g).caller with
  | .api previous =>
    if (s.task g).target = .downstairs ∧ g = s.routingGeneration then
      (s.setOutputTarget previous false).finish g .raised
    else s.finish g .raised
  | .encoder => s.finish g .raised

/-- `output_mode_action` from the moment it owns the transition lock to its first suspension. -/
def beginAction (s : Hub) (g : Nat) : Hub :=
  let generation := s.routingGeneration
  if s.outputTarget ≠ (s.task g).target then s.finish g .returned
  -- `persist_output_target` comes before everything else the action does
  else if !s.writable then s.actionRaises g
  else
    let s := { s with file := (s.task g).target }
    match (s.task g).target with
    | .console =>
      { s with flags := { s.flags with distribution := false } }.setPc g
        (.disabling generation .distribution)
    | .downstairs =>
      if !s.clientKnown then
        (s.setRoutingState {
          phase := .degraded
          error := some "Sendspin source is not connected; playing locally" }).finish g .returned
      else
        let s := { s with flags := Flags.for .downstairs }
        if s.activeSource = .none then
          (s.setRoutingState { phase := .stable }).finish g .returned
        else if s.activeSource = .bluetooth ∧ ¬ s.bluetoothReady then
          (s.setRoutingState { phase := .startingDistribution }).finish g .returned
        else
          (s.setRoutingState {
            phase := .startingDistribution
            sessionGeneration := some generation
            sessionSource := s.activeSource }).setPc g
            (.selecting generation s.activeSource)

/-- Calling the action: a free transition lock is taken at once. -/
def callAction (s : Hub) (g : Nat) : Hub :=
  let free := s.transitionLock.free
  let s := { s with transitionLock := s.transitionLock.acquire g }
  if free then s.beginAction g else s.setPc g .transitionLock

/-! ## The callers -/

/-- An API request that owns the API lock: dropped when a newer intent has been recorded. -/
def enterApi (s : Hub) (g : Nat) : Hub :=
  if g ≠ s.routingGeneration then
    { s with apiLock := s.apiLock.release }.setPc g (.done .superseded)
  else s.callAction g

/-- Record an intent: the generation it gets names the task that goes on to apply it. -/
def record (s : Hub) (target : OutputTarget) (caller : Caller) (pc : TaskPc) : Hub :=
  let s := s.setOutputTarget target true
  { s with task := Function.update s.task s.routingGeneration ⟨target, caller, pc⟩ }

/-- `_set_canonical_output`, up to its first suspension. -/
def request (s : Hub) (target : OutputTarget) : Hub :=
  let s := s.record target (.api s.outputTarget) .apiLock
  let g := s.routingGeneration
  let free := s.apiLock.free
  let s := { s with apiLock := s.apiLock.acquire g }
  if free then s.enterApi g else s

/-- `hardware_press_action`, for the two presses that record an intent.  The route that makes a
    press such a one is left out, so every press comes at any time. -/
def press (s : Hub) (target : OutputTarget) : Hub :=
  let s := s.record target .encoder .transitionLock
  s.callAction s.routingGeneration

/-- Resume the task of generation `g` with the answer it awaited. -/
def resume (s : Hub) (g : Nat) (reply : HubReply) : Option Hub :=
  match (s.task g).pc, reply with
  | .apiLock, .ok => if s.apiLock.holder = some g then some (s.enterApi g) else none
  | .transitionLock, .ok => if s.transitionLock.holder = some g then some (s.beginAction g) else none
  | .disabling generation .distribution, .ok =>
    some ({ s with flags := { s.flags with phono := false } }.setPc g (.disabling generation .phono))
  | .disabling generation .phono, .ok =>
    some ({ s with flags := { s.flags with bluetooth := false } }.setPc g
      (.disabling generation .bluetooth))
  | .disabling generation .bluetooth, .ok => some (s.setPc g (.stopping generation))
  | .stopping _, .ok | .stopping _, .raised =>
    some ((s.setRoutingState { phase := .stable }).finish g .returned)
  | .selecting generation source, .ok => some (s.setPc g (.playing generation source))
  | .playing generation source, .started players =>
    if generation ≠ s.routingGeneration then some (s.finish g .returned)
    else if players then some (s.finish g .returned)
    else
      some ((s.setRoutingState {
        phase := .degraded
        sessionGeneration := some generation
        sessionSource := source
        error := some (s.distributionTarget ++ " was not found; playing locally") }).finish
          g .returned)
  | .disabling _ _, .raised | .selecting _ _, .raised | .playing _ _, .raised =>
    some (s.actionRaises g)
  | _, _ => none

/-- One move. -/
def next (s : Hub) : HubMove → Option Hub
  | .request target => some (s.request target)
  | .press target => some (s.press target)
  | .resume g reply => s.resume g reply
  | .identify => some { s with clientKnown := true }
  | .sense source bluetoothReady => some { s with activeSource := source, bluetoothReady }
  | .disk writable => some { s with writable }

/-! ## What the operations touch -/

section Fields

variable (s : Hub) (g : Nat) (pc : TaskPc) (outcome : Outcome) (r : Routing)

@[simp] theorem setPc_task : (s.setPc g pc).task = Function.update s.task g { s.task g with pc } :=
  rfl

@[simp] theorem setPc_file : (s.setPc g pc).file = s.file := rfl

@[simp] theorem setPc_flags : (s.setPc g pc).flags = s.flags := rfl

@[simp] theorem setRoutingState_task : (s.setRoutingState r).task = s.task := rfl

@[simp] theorem setRoutingState_outputTarget :
    (s.setRoutingState r).outputTarget = s.outputTarget := rfl

@[simp] theorem setRoutingState_file : (s.setRoutingState r).file = s.file := rfl

@[simp] theorem setRoutingState_flags : (s.setRoutingState r).flags = s.flags := rfl

/-- The end of a task touches that task and the locks, and nothing else. -/
theorem finish_eq : ∃ api, s.finish g outcome =
    { s with
      transitionLock := s.transitionLock.release
      apiLock := api
      task := Function.update s.task g { s.task g with pc := .done outcome } } := by
  cases h : (s.task g).caller with
  | api previous => exact ⟨s.apiLock.release, by simp [finish, setPc, h]⟩
  | encoder => exact ⟨s.apiLock, by simp [finish, setPc, h]⟩

@[simp] theorem finish_task :
    (s.finish g outcome).task = Function.update s.task g { s.task g with pc := .done outcome } := by
  obtain ⟨api, h⟩ := finish_eq s g outcome
  rw [h]

@[simp] theorem finish_outputTarget : (s.finish g outcome).outputTarget = s.outputTarget := by
  obtain ⟨api, h⟩ := finish_eq s g outcome
  rw [h]

@[simp] theorem finish_routingGeneration :
    (s.finish g outcome).routingGeneration = s.routingGeneration := by
  obtain ⟨api, h⟩ := finish_eq s g outcome
  rw [h]

@[simp] theorem finish_file : (s.finish g outcome).file = s.file := by
  obtain ⟨api, h⟩ := finish_eq s g outcome
  rw [h]

@[simp] theorem finish_flags : (s.finish g outcome).flags = s.flags := by
  obtain ⟨api, h⟩ := finish_eq s g outcome
  rw [h]

@[simp] theorem finish_routing : (s.finish g outcome).routing = s.routing := by
  obtain ⟨api, h⟩ := finish_eq s g outcome
  rw [h]

@[simp] theorem finish_initial : (s.finish g outcome).initial = s.initial := by
  obtain ⟨api, h⟩ := finish_eq s g outcome
  rw [h]

end Fields

/-! ## One task moves -/

/-- The task of `g` moves to `pc`; the target, generations and the other tasks stay. -/
structure Moved (s : Hub) (g : Nat) (pc : TaskPc) (s' : Hub) : Prop where
  initial : s'.initial = s.initial
  outputTarget : s'.outputTarget = s.outputTarget
  generation : s'.routingGeneration = s.routingGeneration
  task : s'.task = Function.update s.task g { s.task g with pc }

/-- The task of `g` moves, and nothing happens to the other tasks. -/
structure Framed (s : Hub) (g : Nat) (s' : Hub) : Prop where
  initial : s'.initial = s.initial
  generation : s'.routingGeneration = s.routingGeneration
  target : (s'.task g).target = (s.task g).target
  caller : (s'.task g).caller = (s.task g).caller
  others : ∀ g', g' ≠ g → s'.task g' = s.task g'

section Moved

variable {s s' : Hub} {g : Nat} {pc : TaskPc} (hm : Moved s g pc s')
include hm

/-- A task that moves leaves the others alone. -/
theorem Moved.framed : Framed s g s' where
  initial := hm.initial
  generation := hm.generation
  target := by rw [hm.task, Function.update_self]
  caller := by rw [hm.task, Function.update_self]
  others g' hg := by rw [hm.task, Function.update_of_ne hg]

theorem Moved.target (g' : Nat) : (s'.task g').target = (s.task g').target := by
  by_cases hg : g' = g
  · exact hg ▸ hm.framed.target
  · rw [hm.framed.others g' hg]

theorem Moved.pc_self : (s'.task g).pc = pc := by
  rw [hm.task, Function.update_self]

theorem Moved.pc_other {g' : Nat} (hg : g' ≠ g) : (s'.task g').pc = (s.task g').pc := by
  rw [hm.framed.others g' hg]

end Moved

/-- The task comes to another point. -/
theorem moved_setPc (s : Hub) (g : Nat) (pc : TaskPc) : Moved s g pc (s.setPc g pc) :=
  ⟨rfl, rfl, rfl, rfl⟩

/-- The task ends. -/
theorem moved_finish (s : Hub) (g : Nat) (o : Outcome) : Moved s g (.done o) (s.finish g o) :=
  ⟨by simp, by simp, by simp, by simp⟩

/-- Locks, flags and routing do not count. -/
theorem Moved.after {s q s' : Hub} {g : Nat} {pc : TaskPc} (h : Moved q g pc s')
    (hinit : q.initial = s.initial) (hout : q.outputTarget = s.outputTarget)
    (hgen : q.routingGeneration = s.routingGeneration) (htask : q.task = s.task) :
    Moved s g pc s' :=
  ⟨h.initial.trans hinit, h.outputTarget.trans hout, h.generation.trans hgen, htask ▸ h.task⟩

theorem Framed.after {s q s' : Hub} {g : Nat} (h : Framed q g s') (hinit : q.initial = s.initial)
    (hgen : q.routingGeneration = s.routingGeneration) (htask : q.task = s.task) : Framed s g s' :=
  ⟨h.initial.trans hinit, h.generation.trans hgen, htask ▸ h.target, htask ▸ h.caller,
    htask ▸ h.others⟩

/-- The new task, under the new generation. -/
theorem record_self (s : Hub) (target : OutputTarget) (caller : Caller) (pc : TaskPc) :
    (s.record target caller pc).task (s.routingGeneration + 1) = ⟨target, caller, pc⟩ :=
  Function.update_self ..

/-- The other tasks stay. -/
theorem record_other {s : Hub} {g : Nat} (hg : g ≠ s.routingGeneration + 1) (target : OutputTarget)
    (caller : Caller) (pc : TaskPc) : (s.record target caller pc).task g = s.task g :=
  Function.update_of_ne hg ..

/-! ## What a move can do -/

/-- With a free lock the action begins at once. -/
theorem callAction_of_free {s : Hub} {g : Nat} (h : s.transitionLock.free = true) :
    s.callAction g = { s with transitionLock := s.transitionLock.acquire g }.beginAction g := by
  simp [callAction, h]

/-- Otherwise its task waits for the lock. -/
theorem callAction_of_not_free {s : Hub} {g : Nat} (h : s.transitionLock.free = false) :
    s.callAction g = { s with transitionLock := s.transitionLock.acquire g }.setPc g
      .transitionLock := by
  simp [callAction, h]

/-- With both locks free a request begins its action at once. -/
theorem request_of_free {s : Hub} {target : OutputTarget} (ha : s.apiLock.free = true)
    (ht : s.transitionLock.free = true) :
    s.request target = { s.record target (.api s.outputTarget) .apiLock with
      apiLock := s.apiLock.acquire (s.routingGeneration + 1)
      transitionLock := s.transitionLock.acquire (s.routingGeneration + 1) }.beginAction
        (s.routingGeneration + 1) := by
  simp [request, record, setOutputTarget, enterApi, callAction, ha, ht]

/-- All ends of `beginAction`. -/
inductive Began (s : Hub) (g : Nat) : Hub → Prop
  | unwanted (h : s.outputTarget ≠ (s.task g).target) : Began s g (s.finish g .returned)
  | unwritten (hs : s.outputTarget = (s.task g).target) (hw : s.writable = false) :
    Began s g (s.actionRaises g)
  | console (ht : (s.task g).target = .console) (hs : s.outputTarget = .console) :
    Began s g ({ s with
      file := .console
      flags := { s.flags with distribution := false } }.setPc g
        (.disabling s.routingGeneration .distribution))
  | unidentified (ht : (s.task g).target = .downstairs) (hs : s.outputTarget = .downstairs)
      (hc : s.clientKnown = false) (r : Routing) :
    Began s g (({ s with file := .downstairs }.setRoutingState r).finish g .returned)
  | waiting (ht : (s.task g).target = .downstairs) (hs : s.outputTarget = .downstairs)
      (r : Routing) :
    Began s g
      (({ s with file := .downstairs, flags := Flags.for .downstairs }.setRoutingState r).finish g
        .returned)
  | starting (ht : (s.task g).target = .downstairs) (hs : s.outputTarget = .downstairs)
      (r : Routing) :
    Began s g
      (({ s with file := .downstairs, flags := Flags.for .downstairs }.setRoutingState r).setPc g
        (.selecting s.routingGeneration s.activeSource))

/-- What the first stretch of an action does. -/
theorem beginAction_began (s : Hub) (g : Nat) : Began s g (s.beginAction g) := by
  unfold beginAction
  by_cases hs : s.outputTarget = (s.task g).target
  · cases hw : s.writable with
    | false => simpa [hs, hw] using Began.unwritten hs hw
    | true =>
      cases ht : (s.task g).target with
      | console =>
        rw [ht] at hs
        simpa [hs, ht, hw] using Began.console ht hs
      | downstairs =>
        rw [ht] at hs
        cases hc : s.clientKnown with
        | false => simpa [hs, ht, hw, hc] using Began.unidentified ht hs hc _
        | true =>
          by_cases hnone : s.activeSource = .none
          · simpa [hs, ht, hw, hc, hnone] using Began.waiting ht hs _
          · by_cases hready : s.activeSource = .bluetooth ∧ s.bluetoothReady = false
            · simpa [hs, ht, hw, hc, hready] using Began.waiting ht hs _
            · simpa [hs, ht, hw, hc, hnone, hready] using Began.starting ht hs _
  · simpa [hs] using Began.unwanted hs

/-- Where a task can be right after its action was called under `generation`. -/
inductive Starts (generation : Nat) : TaskPc → Prop
  | queued : Starts generation .transitionLock
  | returned : Starts generation (.done .returned)
  | disabling : Starts generation (.disabling generation .distribution)
  | selecting (source : Source) : Starts generation (.selecting generation source)

/-- A raising action rolls the target back, or does not; then it is over. -/
theorem actionRaises_eq (s : Hub) (g : Nat) : s.actionRaises g = s.finish g .raised ∨
    g = s.routingGeneration ∧
      ∃ previous, s.actionRaises g = (s.setOutputTarget previous false).finish g .raised := by
  unfold actionRaises
  cases (s.task g).caller with
  | encoder => exact .inl rfl
  | api previous =>
    by_cases hnew : (s.task g).target = .downstairs ∧ g = s.routingGeneration
    · exact .inr ⟨hnew.2, previous, if_pos hnew⟩
    · exact .inl (if_neg hnew)

/-- An action that raises leaves the other tasks alone, rolled back or not. -/
theorem actionRaises_framed (s : Hub) (g : Nat) : Framed s g (s.actionRaises g) := by
  obtain h | ⟨-, previous, h⟩ := actionRaises_eq s g
  · rw [h]
    exact (moved_finish ..).framed
  · rw [h]
    exact (moved_finish ..).framed.after rfl rfl rfl

/-- Its task has ended with the exception. -/
theorem actionRaises_pc (s : Hub) (g : Nat) : ((s.actionRaises g).task g).pc = .done .raised := by
  obtain h | ⟨-, previous, h⟩ := actionRaises_eq s g
  · rw [h, (moved_finish ..).pc_self]
  · rw [h, (moved_finish ..).pc_self]

/-- How a call of the action ends: it queues, starts or returns; or the file could not be written,
    and it has raised. -/
inductive Called (s : Hub) (g : Nat) (s' : Hub) : Prop
  | starts {pc : TaskPc} (hm : Moved s g pc s') (hpc : Starts s.routingGeneration pc)
  | raises (api transition : FifoLock Nat) (hw : s.writable = false)
      (h : s' = { s with apiLock := api, transitionLock := transition }.actionRaises g)

theorem Called.framed {s s' : Hub} {g : Nat} (h : Called s g s') : Framed s g s' := by
  cases h with
  | starts hm _ => exact hm.framed
  | raises api transition _ h =>
    rw [h]
    exact (actionRaises_framed { s with apiLock := api, transitionLock := transition } g).after
      rfl rfl rfl

/-- The locks were taken before the call. -/
theorem Called.after {s s' : Hub} {g : Nat} {api transition : FifoLock Nat}
    (h : Called { s with apiLock := api, transitionLock := transition } g s') : Called s g s' := by
  cases h with
  | starts hm hpc => exact .starts (hm.after rfl rfl rfl rfl) hpc
  | raises api transition hw h => exact .raises api transition hw h

/-- An action begins. -/
theorem beginAction_called (s : Hub) (g : Nat) : Called s g (s.beginAction g) := by
  have hbegan := beginAction_began s g
  generalize s.beginAction g = s' at hbegan ⊢
  cases hbegan with
  | unwanted _ => exact .starts (moved_finish ..) .returned
  | unwritten _ hw => exact .raises s.apiLock s.transitionLock hw rfl
  | console _ _ => exact .starts ((moved_setPc ..).after rfl rfl rfl rfl) .disabling
  | starting _ _ r => exact .starts ((moved_setPc ..).after rfl rfl rfl rfl) (.selecting _)
  | unidentified _ _ _ r | waiting _ _ r =>
    exact .starts ((moved_finish ..).after rfl rfl rfl rfl) .returned

/-- An action is called. -/
theorem callAction_called (s : Hub) (g : Nat) : Called s g (s.callAction g) := by
  cases hfree : s.transitionLock.free with
  | true =>
    rw [callAction_of_free hfree]
    exact (beginAction_called { s with transitionLock := s.transitionLock.acquire g } g).after
  | false =>
    rw [callAction_of_not_free hfree]
    exact .starts ((moved_setPc ..).after rfl rfl rfl rfl) .queued

/-- Only a request that is not the newest is superseded. -/
theorem enterApi_called (s : Hub) (g : Nat) : Called s g (s.enterApi g) ∨
    Moved s g (.done .superseded) (s.enterApi g) ∧ g ≠ s.routingGeneration := by
  unfold enterApi
  by_cases hnew : g = s.routingGeneration
  · rw [if_neg (not_not.mpr hnew)]
    exact .inl (callAction_called s g)
  · rw [if_pos hnew]
    exact .inr ⟨(moved_setPc ..).after rfl rfl rfl rfl, hnew⟩

theorem enterApi_framed (s : Hub) (g : Nat) : Framed s g (s.enterApi g) := by
  obtain hc | ⟨hm, -⟩ := enterApi_called s g
  · exact hc.framed
  · exact hm.framed

/-- All resumptions of the task of generation `g`. -/
inductive Resumed (s : Hub) (g : Nat) : HubReply → Hub → Prop
  | entered (hpc : (s.task g).pc = .apiLock) (hl : s.apiLock.holder = some g) :
    Resumed s g .ok (s.enterApi g)
  | owns (hpc : (s.task g).pc = .transitionLock) (hl : s.transitionLock.holder = some g) :
    Resumed s g .ok (s.beginAction g)
  | phono {n : Nat} (hpc : (s.task g).pc = .disabling n .distribution) :
    Resumed s g .ok ({ s with flags := { s.flags with phono := false } }.setPc g
      (.disabling n .phono))
  | bluetooth {n : Nat} (hpc : (s.task g).pc = .disabling n .phono) :
    Resumed s g .ok ({ s with flags := { s.flags with bluetooth := false } }.setPc g
      (.disabling n .bluetooth))
  | stopping {n : Nat} (hpc : (s.task g).pc = .disabling n .bluetooth) :
    Resumed s g .ok (s.setPc g (.stopping n))
  | stopped {n : Nat} {reply : HubReply} (hpc : (s.task g).pc = .stopping n) :
    Resumed s g reply ((s.setRoutingState { phase := .stable }).finish g .returned)
  | playing {n : Nat} {source : Source} (hpc : (s.task g).pc = .selecting n source) :
    Resumed s g .ok (s.setPc g (.playing n source))
  | played {n : Nat} {source : Source} {players : Bool}
      (hpc : (s.task g).pc = .playing n source) :
    Resumed s g (.started players) (s.finish g .returned)
  | missing {n : Nat} {source : Source} {players : Bool}
      (hpc : (s.task g).pc = .playing n source) (hn : n = s.routingGeneration) (r : Routing) :
    Resumed s g (.started players) ((s.setRoutingState r).finish g .returned)
  | raised (hpc : (s.task g).pc.inAction = true) (hstop : ∀ n, (s.task g).pc ≠ .stopping n) :
    Resumed s g .raised (s.actionRaises g)

/-- What a resumed task does, one by one. -/
theorem resume_resumed {s s' : Hub} {g : Nat} {reply : HubReply}
    (h : s.resume g reply = some s') : Resumed s g reply s' := by
  unfold resume at h
  split at h
  case h_1 hpc =>
    split at h
    · rename_i hl
      rw [← Option.some.inj h]
      exact .entered hpc hl
    · exact nomatch h
  case h_2 hpc =>
    split at h
    · rename_i hl
      rw [← Option.some.inj h]
      exact .owns hpc hl
    · exact nomatch h
  case h_9 hpc =>
    split at h
    · rw [← Option.some.inj h]
      exact .played hpc
    · rename_i hn
      split at h
      · rw [← Option.some.inj h]
        exact .played hpc
      · rw [← Option.some.inj h]
        exact .missing hpc (not_not.mp hn) _
  case h_13 => exact nomatch h
  all_goals
    rename_i hpc
    rw [← Option.some.inj h]
  case h_3 => exact .phono hpc
  case h_4 => exact .bluetooth hpc
  case h_5 => exact .stopping hpc
  case h_6 => exact .stopped hpc
  case h_7 => exact .stopped hpc
  case h_8 => exact .playing hpc
  all_goals exact .raised (by rw [hpc]; rfl) (by rw [hpc]; nofun)

/-- Only a task that is not done is resumed. -/
theorem Resumed.pending {s s' : Hub} {g : Nat} {reply : HubReply} (h : Resumed s g reply s') :
    (s.task g).pc.isDone = false := by
  cases h with
  | raised hpc _ => exact TaskPc.not_done hpc
  | entered hpc _ | owns hpc _ | phono hpc | bluetooth hpc | stopping hpc | stopped hpc
  | playing hpc | played hpc | missing hpc _ _ => rw [hpc]; rfl

/-- It leaves the other tasks alone. -/
theorem Resumed.framed {s s' : Hub} {g : Nat} {reply : HubReply} (h : Resumed s g reply s') :
    Framed s g s' := by
  cases h with
  | entered _ _ => exact enterApi_framed s g
  | owns _ _ => exact (beginAction_called s g).framed
  | phono _ | bluetooth _ | stopping _ | playing _ => exact (moved_setPc ..).framed.after rfl rfl rfl
  | stopped _ | played _ | missing _ _ r => exact (moved_finish ..).framed.after rfl rfl rfl
  | raised _ _ => exact actionRaises_framed s g

/-! ## Runs -/

/-- The daemon's initialised state: file and flags follow the restored target. -/
def Initialised (s : Hub) : Prop :=
  ∃ target, s = { initial := target, outputTarget := target, file := target
                  flags := Flags.for target }

/-- Any moves from an initialised daemon. -/
def machine : Machine Hub HubMove where
  init := Initialised
  next := next

/-- Only generations that have been given out name a task that is not done. -/
def Fresh (s : Hub) : Prop := ∀ g, (s.task g).pc.isDone = false → 0 < g ∧ g ≤ s.routingGeneration

theorem Framed.fresh {s s' : Hub} {g : Nat} (h : Framed s g s') (hs : Fresh s)
    (hg : 0 < g ∧ g ≤ s.routingGeneration) : Fresh s' := fun g' hpc => by
  rw [h.generation]
  by_cases hgg : g' = g
  · exact hgg ▸ hg
  · rw [h.others g' hgg] at hpc
    exact hs g' hpc

/-- A new intent takes the next generation. -/
theorem record_fresh {s : Hub} (hs : Fresh s) (target : OutputTarget) (caller : Caller)
    (pc : TaskPc) : Fresh (s.record target caller pc) := fun g hpc => by
  show 0 < g ∧ g ≤ s.routingGeneration + 1
  by_cases hg : g = s.routingGeneration + 1
  · omega
  · rw [record_other hg] at hpc
    have hfresh := hs g hpc
    omega

/-- Generations stay in order. -/
theorem next_fresh {s s' : Hub} {m : HubMove} (hs : Fresh s) (hnext : s.next m = some s') :
    Fresh s' := by
  cases m with
  | request target =>
    rw [← Option.some.inj hnext]
    have hrec := record_fresh hs target (.api s.outputTarget) .apiLock
    show Fresh (if _ then _ else _)
    split
    · have hf := enterApi_framed { s.record target (.api s.outputTarget) .apiLock with
        apiLock := s.apiLock.acquire (s.routingGeneration + 1) } (s.routingGeneration + 1)
      exact hf.fresh hrec ⟨Nat.succ_pos _, Nat.le_refl _⟩
    · exact hrec
  | press target =>
    rw [← Option.some.inj hnext]
    have hc := callAction_called (s.record target .encoder .transitionLock)
      (s.routingGeneration + 1)
    exact hc.framed.fresh (record_fresh hs target .encoder .transitionLock)
      ⟨Nat.succ_pos _, Nat.le_refl _⟩
  | resume g reply =>
    have hresumed := resume_resumed hnext
    exact hresumed.framed.fresh hs (hs g hresumed.pending)
  | identify | sense | disk =>
    rw [← Option.some.inj hnext]
    exact hs

theorem reach_fresh {ok : Hub → HubMove → Prop} {s : Hub} (h : machine.Reach ok s) : Fresh s := by
  refine h.invariant (I := Fresh) (fun s hs => ?_) fun _ _ _ hs _ hnext => next_fresh hs hnext
  obtain ⟨target, rfl⟩ := hs
  exact fun _ hpc => (nomatch hpc)

/-- Every intent has been dealt with. -/
def AllDone (s : Hub) : Prop := ∀ g, g ≤ s.routingGeneration → (s.task g).pc.isDone = true

instance (s : Hub) : Decidable (AllDone s) := by
  unfold AllDone
  exact inferInstance

/-- When all are done, no task of any generation is left. -/
theorem Fresh.done {s : Hub} (hs : Fresh s) (h : AllDone s) (g : Nat) :
    (s.task g).pc.isDone = true := by
  by_contra hpc
  have hpc' : (s.task g).pc.isDone = false := by simpa using hpc
  exact hpc (h g (hs g hpc').2)

/-- The console at start, restored with the Console target. -/
def consoleAtStart : Hub := { initial := .console, outputTarget := .console, file := .console
                              flags := Flags.for .console }

end Hub

end PhonoConsole
