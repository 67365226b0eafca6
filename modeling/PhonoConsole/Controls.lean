/-
  THE ENCODER: `HardwareControls` (`phono_console/controls.py`).

  GPIO callbacks put events into a bounded queue; one worker takes them out and calls the actions.
  A turn waits a moment and then takes along whatever turns have come in; the presses among them
  are parked in a second queue, which the worker looks at first.  Events arrive at every point
  where the worker is suspended, and nowhere else.

  * `enqueue`, `drain`, `handle` — `_enqueue`, the loop of `_handle_turn`, the body of `run`'s loop;
  * `controls`     — the worker and the arrivals as a machine; `received` and `dispatched` record
    what came in and which actions were called;
  * `rest`         — the events that are still to be dispatched, wherever they are;
  * `Parked`       — only presses are parked, and none while the worker waits for a turn's sleep;
  * `Conserved`    — what was dispatched and what is left make up what was received;
  * `nothing_lost` — so that an idle worker has dispatched everything.
-/
import PhonoConsole.Lib.Machine
import Mathlib.Data.Rat.Init
import Mathlib.Algebra.BigOperators.Group.List.Basic
import Mathlib.Tactic.Ring
import Mathlib.Tactic.Linarith

namespace PhonoConsole

/-! ## Events and actions -/

/-- `_ControlEvent`. -/
inductive ControlEvent
  | turn (delta : ℤ)
  | press
deriving DecidableEq

/-- The calls of `turn_action` and `press_action`. -/
inductive ControlAction
  | turn (volumeDelta : ℤ)
  | press
deriving DecidableEq

/-- What the worker tells the event sink. -/
inductive ControlReport
  | hardwareEncoderTurned (detents volumeDelta : ℤ)
  | hardwareEncoderPressed
  | hardwareControlActionFailed (action error : String)
deriving DecidableEq

/-- `event.kind`. -/
def ControlEvent.kind : ControlEvent → String
  | .turn _ => "turn"
  | .press => "press"

/-- The section `[controls]` as the configuration check lets it pass, and the constructor's
    `coalesce_seconds`. -/
structure ControlsConfig where
  volumeStep : ℤ
  coalesceSeconds : ℚ
  positive : 1 ≤ volumeStep
  capped : volumeStep ≤ 10

/-! ## The worker -/

/-- Where the worker is suspended; `deciding` is the top of its loop, which it does not rest at. -/
inductive ControlPhase
  | starting
  | deciding
  | waiting
  | fetched (event : ControlEvent)
  | coalescing (first : ℤ)
  | acting (event : ControlEvent) (report : ControlReport)
  | emitting (event : ControlEvent) (report : ControlReport)
  | failing (report : ControlReport)
  | ended
deriving DecidableEq

/-- The controls: the queue, the parked events, the worker, and what it was given and has done. -/
structure HardwareControls where
  queue : List ControlEvent
  pending : List ControlEvent
  phase : ControlPhase
  stop : Bool
  received : List ControlEvent
  dispatched : List ControlAction
deriving DecidableEq

/-- `asyncio.Queue(maxsize=128)`. -/
def controlQueueSize : Nat := 128

namespace HardwareControls

variable (cfg : ControlsConfig)

/-- `_enqueue`: a full queue gives up its oldest event. -/
def enqueue (c : HardwareControls) (event : ControlEvent) : HardwareControls :=
  { c with
    queue := (if controlQueueSize ≤ c.queue.length then c.queue.tail else c.queue) ++ [event]
    received := c.received ++ [event] }

/-- The loop of `_handle_turn` over the queue: turns are added up, presses parked. -/
def drain : List ControlEvent → ℤ → List ControlEvent → ℤ × List ControlEvent
  | [], delta, pending => (delta, pending)
  | .turn more :: queue, delta, pending => drain queue (delta + more) pending
  | .press :: queue, delta, pending => drain queue delta (pending ++ [.press])

/-- `_handle_turn` from the loop to the call of `turn_action`. -/
def drained (c : HardwareControls) (first : ℤ) : HardwareControls :=
  let (delta, pending) := drain c.queue first c.pending
  let scaled := delta * cfg.volumeStep
  if scaled = 0 then { c with queue := [], pending, phase := .deciding }
  else
    { c with
      queue := []
      pending
      phase := .acting (.turn first) (.hardwareEncoderTurned delta scaled)
      dispatched := c.dispatched ++ [.turn scaled] }

/-- The body of the loop in `run`, from an event to the first suspension. -/
def handle (c : HardwareControls) : ControlEvent → HardwareControls
  | .turn first =>
      if cfg.coalesceSeconds = 0 then c.drained cfg first
      else { c with phase := .coalescing first }
  | .press =>
      { c with
        phase := .acting .press .hardwareEncoderPressed
        dispatched := c.dispatched ++ [.press] }

end HardwareControls

/-- What can happen: a callback from GPIO, the stop event, and the worker going on. -/
inductive ControlMove
  | gpio (event : ControlEvent)
  | setStop
  | opened
  | decide
  | fetch
  | resume
  | leave
  | slept
  | returns
  | raises (error : String)
deriving DecidableEq

namespace HardwareControls

variable (cfg : ControlsConfig)

/-- The controls after a move; the GPIO callbacks come between the steps of the worker. -/
def next (c : HardwareControls) : ControlMove → Option HardwareControls
  | .gpio event => if c.phase = .deciding then none else some (c.enqueue event)
  | .setStop => if c.phase = .deciding then none else some { c with stop := true }
  | .opened => if c.phase = .starting then some { c with phase := .deciding } else none
  | .decide =>
      -- `_next_event` up to its wait: parked events come first
      if c.phase = .deciding then
        match c.pending with
        | [] => some { c with phase := .waiting }
        | event :: pending => some (handle cfg { c with pending } event)
      else none
  | .fetch =>
      -- the task of `self._queue.get()` has its event; the wait has not returned yet
      match c.phase, c.queue with
      | .waiting, event :: queue => some { c with queue, phase := .fetched event }
      | _, _ => none
  | .resume =>
      match c.phase with
      | .fetched event => some (c.handle cfg event)
      | _ => none
  | .leave =>
      -- the stop task is done when the wait returns, whatever the other one has
      match c.stop, c.phase with
      | true, .waiting => some { c with phase := .ended }
      | true, .fetched _ => some { c with phase := .ended }
      | _, _ => none
  | .slept =>
      match c.phase with
      | .coalescing first => some (c.drained cfg first)
      | _ => none
  | .returns =>
      match c.phase with
      | .acting event report => some { c with phase := .emitting event report }
      | .emitting _ _ => some { c with phase := .deciding }
      | .failing _ => some { c with phase := .deciding }
      | _ => none
  | .raises error =>
      match c.phase with
      | .acting event _ | .emitting event _ =>
          some { c with phase := .failing (.hardwareControlActionFailed event.kind error) }
      | .failing _ => some { c with phase := .ended }
      | _ => none

/-- A worker whose inputs have just been opened. -/
def initial : HardwareControls := ⟨[], [], .starting, false, [], []⟩

/-- The move runs the loop of `_handle_turn`. -/
def drains (c : HardwareControls) (move : ControlMove) : Bool :=
  match move, c.phase with
  | .slept, .coalescing _ => true
  | .resume, .fetched (.turn _) => decide (cfg.coalesceSeconds = 0)
  | _, _ => false

end HardwareControls

/-- The worker and everything that arrives. -/
def controls (cfg : ControlsConfig) : Machine HardwareControls ControlMove where
  init c := c = HardwareControls.initial
  next c move := c.next cfg move

namespace HardwareControls

variable {cfg : ControlsConfig} {c c' : HardwareControls} {move : ControlMove}

/-! ## Where the events are -/

/-- The event the worker has taken and not dispatched. -/
def hand (c : HardwareControls) : List ControlEvent :=
  match c.phase with
  | .fetched event => [event]
  | .coalescing first => [.turn first]
  | _ => []

/-- The events still to be dispatched, in the order the worker comes to them. -/
def rest (c : HardwareControls) : List ControlEvent := c.hand ++ c.pending ++ c.queue

/-- The worker waits for an event, and there is none. -/
def Idle (c : HardwareControls) : Prop := c.phase = .waiting ∧ c.queue = []

/-- Only presses are parked, and the worker waits, and holds an event, only when none is. -/
structure Parked (c : HardwareControls) : Prop where
  presses : ∀ event ∈ c.pending, event = .press
  waiting : c.phase = .waiting → c.pending = []
  fetched : ∀ event, c.phase = .fetched event → c.pending = []
  coalescing : ∀ first, c.phase = .coalescing first → c.pending = []

/-- An idle worker has nothing left to dispatch. -/
theorem Idle.rest (hidle : c.Idle) (hparked : c.Parked) : c.rest = [] := by
  obtain ⟨hwaiting, hqueue⟩ := hidle
  simp [HardwareControls.rest, hand, hwaiting, hparked.waiting hwaiting, hqueue]

/-- The turns of a list of events. -/
def turns : List ControlEvent → List ℤ
  | [] => []
  | .turn delta :: events => delta :: turns events
  | .press :: events => turns events

/-- Its presses. -/
def presses : List ControlEvent → List ControlEvent
  | [] => []
  | .turn _ :: events => presses events
  | .press :: events => .press :: presses events

theorem drain_eq (queue : List ControlEvent) (delta : ℤ) (pending : List ControlEvent) :
    drain queue delta pending = (delta + (turns queue).sum, pending ++ presses queue) := by
  induction queue generalizing delta pending with
  | nil => simp [drain, turns, presses]
  | cons event queue ih =>
    cases event with
    | turn more => simp [drain, turns, presses, ih, add_assoc]
    | press => simp [drain, turns, presses, ih]

theorem eq_press_of_mem_presses {event : ControlEvent} {events : List ControlEvent}
    (h : event ∈ presses events) : event = .press := by
  induction events with
  | nil => exact absurd h (List.not_mem_nil)
  | cons first events ih =>
    cases first with
    | turn => exact ih h
    | press =>
      rcases List.mem_cons.mp h with rfl | hrest
      · rfl
      · exact ih hrest

/-- What a drain leaves: an empty queue, the presses parked, and one action at most. -/
theorem drained_eq (cfg : ControlsConfig) (c : HardwareControls) (first : ℤ) :
    let delta := first + (turns c.queue).sum
    (c.drained cfg first).queue = [] ∧
    (c.drained cfg first).pending = c.pending ++ presses c.queue ∧
    (c.drained cfg first).received = c.received ∧
    (c.drained cfg first).hand = [] ∧
    ((c.drained cfg first).phase = .deciding ∨
      ∃ report, (c.drained cfg first).phase = .acting (.turn first) report) ∧
    (c.drained cfg first).dispatched = c.dispatched ++
      if delta * cfg.volumeStep = 0 then [] else [.turn (delta * cfg.volumeStep)] := by
  unfold drained hand
  rw [drain_eq]
  dsimp only
  split <;> simp

theorem drained_parked {first : ℤ} (h : c.Parked) : (c.drained cfg first).Parked := by
  obtain ⟨-, hpending, -, -, hphase, -⟩ := drained_eq cfg c first
  refine ⟨fun event hevent => ?_, ?_, ?_, ?_⟩
  · rw [hpending] at hevent
    rcases List.mem_append.mp hevent with hold | hnew
    · exact h.presses event hold
    · exact eq_press_of_mem_presses hnew
  all_goals rcases hphase with hp | ⟨report, hp⟩ <;> simp [hp]

theorem initial_parked : initial.Parked := by constructor <;> simp [initial]

/-- The worker holds no event, and neither waits for one nor has ended. -/
def Busy (phase : ControlPhase) : Prop :=
  match phase with
  | .starting | .deciding | .acting _ _ | .emitting _ _ | .failing _ => True
  | _ => False

/-- Going from one such phase to another leaves the events where they are. -/
theorem rephased {phase : ControlPhase} (hparked : c.Parked) (hbusy : Busy c.phase)
    (hbusy' : Busy phase) :
    { c with phase }.Parked ∧ { c with phase }.rest = c.rest ∧
      (c.phase = .ended → phase = .ended) := by
  refine ⟨⟨hparked.presses, ?_, ?_, ?_⟩, ?_, ?_⟩
  · rintro rfl
    exact hbusy'.elim
  · rintro event rfl
    exact hbusy'.elim
  · rintro first rfl
    exact hbusy'.elim
  · have hhand : ∀ phase : ControlPhase, Busy phase → ({ c with phase }).hand = [] := by
      intro phase h
      cases phase <;> first | rfl | exact h.elim
    show { c with phase }.hand ++ c.pending ++ c.queue = c.hand ++ c.pending ++ c.queue
    rw [hhand phase hbusy', show c.hand = [] from hhand c.phase hbusy]
  · intro hended
    rw [hended] at hbusy
    exact hbusy.elim

/-- One move, as far as events and actions go: an event arrives; nothing changes but who holds what;
    the worker ends; the first event is a press and is dispatched; or the first event is a turn, and
    it is dispatched with the turns of the queue. -/
theorem next_cases (hparked : c.Parked) (h : c.next cfg move = some c') :
    c'.Parked ∧
    ((∃ event, move = .gpio event ∧ c' = c.enqueue event) ∨
     (c'.rest = c.rest ∧ c'.received = c.received ∧ c'.dispatched = c.dispatched ∧
       (c.phase = .ended → c'.phase = .ended)) ∨
     (c'.phase = .ended ∧ c'.received = c.received ∧ c'.dispatched = c.dispatched) ∨
     (c.rest = .press :: c'.rest ∧ c'.received = c.received ∧
       c'.dispatched = c.dispatched ++ [.press] ∧ c.phase ≠ .ended) ∨
     (∃ first, c.drains cfg move = true ∧ c.pending = [] ∧ c.rest = .turn first :: c.queue ∧
       c.phase ≠ .ended ∧ c' = c.drained cfg first)) := by
  cases move with
  | gpio event =>
    simp only [next] at h
    split at h
    · cases h
    · cases h
      exact ⟨⟨hparked.presses, hparked.waiting, hparked.fetched, hparked.coalescing⟩,
        .inl ⟨event, rfl, rfl⟩⟩
  | setStop =>
    simp only [next] at h
    split at h
    · cases h
    · cases h
      exact ⟨⟨hparked.presses, hparked.waiting, hparked.fetched, hparked.coalescing⟩,
        .inr (.inl ⟨rfl, rfl, rfl, id⟩)⟩
  | opened =>
    simp only [next] at h
    split at h
    · rename_i hphase
      cases h
      have hbusy' : Busy .deciding := trivial
      obtain ⟨hparked', hrest, hended⟩ := rephased hparked (by rw [hphase]; trivial) hbusy'
      exact ⟨hparked', .inr (.inl ⟨hrest, rfl, rfl, hended⟩)⟩
    · cases h
  | decide =>
    simp only [next] at h
    split at h
    · rename_i hphase
      split at h
      · rename_i hpending
        cases h
        refine ⟨⟨hparked.presses, fun _ => hpending, ?_, ?_⟩, .inr (.inl ⟨?_, rfl, rfl, ?_⟩)⟩ <;>
          simp [rest, hand, hphase]
      · rename_i event pending hpending
        -- a parked event is a press
        have hpress : event = .press := hparked.presses event (by simp [hpending])
        subst hpress
        cases h
        refine ⟨⟨fun event hevent => ?_, ?_, ?_, ?_⟩,
          .inr (.inr (.inr (.inl ⟨?_, rfl, rfl, ?_⟩)))⟩
        · exact hparked.presses event (by rw [hpending]; exact List.mem_cons_of_mem _ hevent)
        all_goals simp [handle, rest, hand, hphase, hpending]
    · cases h
  | fetch =>
    simp only [next] at h
    split at h
    · rename_i event queue hphase hqueue
      cases h
      have hpending := hparked.waiting hphase
      refine ⟨⟨hparked.presses, ?_, fun _ _ => hpending, ?_⟩, .inr (.inl ⟨?_, rfl, rfl, ?_⟩)⟩ <;>
        simp [rest, hand, hphase, hqueue, hpending]
    · cases h
  | resume =>
    simp only [next] at h
    split at h
    · rename_i event hphase
      have hpending := hparked.fetched event hphase
      cases h
      cases event with
      | turn first =>
        by_cases hcoalesce : cfg.coalesceSeconds = 0
        · have hhandle : c.handle cfg (.turn first) = c.drained cfg first := by
            rw [handle, if_pos hcoalesce]
          rw [hhandle]
          refine ⟨drained_parked hparked, .inr (.inr (.inr (.inr ⟨first,
            ?_, hpending, ?_, ?_, rfl⟩)))⟩ <;>
            simp [drains, rest, hand, hphase, hpending, hcoalesce]
        · have hhandle : c.handle cfg (.turn first) = { c with phase := .coalescing first } := by
            rw [handle, if_neg hcoalesce]
          rw [hhandle]
          refine ⟨⟨hparked.presses, ?_, ?_, fun _ _ => hpending⟩,
            .inr (.inl ⟨?_, rfl, rfl, ?_⟩)⟩ <;> simp [rest, hand, hphase]
      | press =>
        refine ⟨⟨hparked.presses, ?_, ?_, ?_⟩, .inr (.inr (.inr (.inl ⟨?_, rfl, rfl, ?_⟩)))⟩ <;>
          simp [handle, rest, hand, hphase, hpending]
    · cases h
  | leave =>
    simp only [next] at h
    split at h
    · cases h
      exact ⟨⟨hparked.presses, by simp, by simp, by simp⟩, .inr (.inr (.inl ⟨rfl, rfl, rfl⟩))⟩
    · cases h
      exact ⟨⟨hparked.presses, by simp, by simp, by simp⟩, .inr (.inr (.inl ⟨rfl, rfl, rfl⟩))⟩
    · cases h
  | slept =>
    simp only [next] at h
    split at h
    · rename_i first hphase
      have hpending := hparked.coalescing first hphase
      cases h
      refine ⟨drained_parked hparked, .inr (.inr (.inr (.inr ⟨first,
        ?_, hpending, ?_, ?_, rfl⟩)))⟩ <;> simp [drains, rest, hand, hphase, hpending]
    · cases h
  | returns =>
    have hquiet : ∃ phase, Busy c.phase ∧ Busy phase ∧ c' = { c with phase } := by
      simp only [next] at h
      split at h
      · rename_i event report hphase
        exact ⟨.emitting event report, by rw [hphase]; trivial, trivial, (Option.some.inj h).symm⟩
      · rename_i hphase
        exact ⟨.deciding, by rw [hphase]; trivial, trivial, (Option.some.inj h).symm⟩
      · rename_i hphase
        exact ⟨.deciding, by rw [hphase]; trivial, trivial, (Option.some.inj h).symm⟩
      · cases h
    obtain ⟨phase, hbusy, hbusy', rfl⟩ := hquiet
    obtain ⟨hparked', hrest, hended⟩ := rephased hparked hbusy hbusy'
    exact ⟨hparked', .inr (.inl ⟨hrest, rfl, rfl, hended⟩)⟩
  | raises error =>
    have hquiet : (∃ report, Busy c.phase ∧ c' = { c with phase := .failing report }) ∨
        c' = { c with phase := .ended } := by
      simp only [next] at h
      split at h
      · rename_i hphase
        exact .inl ⟨_, by rw [hphase]; trivial, (Option.some.inj h).symm⟩
      · rename_i hphase
        exact .inl ⟨_, by rw [hphase]; trivial, (Option.some.inj h).symm⟩
      · exact .inr (Option.some.inj h).symm
      · cases h
    rcases hquiet with ⟨report, hbusy, rfl⟩ | rfl
    · have hbusy' : Busy (.failing report) := trivial
      obtain ⟨hparked', hrest, hended⟩ := rephased hparked hbusy hbusy'
      exact ⟨hparked', .inr (.inl ⟨hrest, rfl, rfl, hended⟩)⟩
    · exact ⟨⟨hparked.presses, by simp, by simp, by simp⟩, .inr (.inr (.inl ⟨rfl, rfl, rfl⟩))⟩

/-! ## Nothing is lost -/

/-- The queue has room for every event that arrives. -/
def NeverFull (c : HardwareControls) : ControlMove → Prop
  | .gpio _ => c.queue.length < controlQueueSize
  | _ => True

instance NeverFull.decidable : ∀ (c : HardwareControls) (move : ControlMove),
    Decidable (c.NeverFull move)
  | c, .gpio _ => inferInstanceAs (Decidable (c.queue.length < controlQueueSize))
  | _, .setStop | _, .opened | _, .decide | _, .fetch | _, .resume | _, .leave | _, .slept
  | _, .returns | _, .raises _ => isTrue trivial

/-- An event that finds room joins the end of what is to be dispatched. -/
theorem enqueue_rest {event : ControlEvent} (h : c.queue.length < controlQueueSize) :
    (c.enqueue event).rest = c.rest ++ [event] := by
  simp [enqueue, rest, hand, Nat.not_le.mpr h]

/-- The detents of a list of events. -/
def detents (events : List ControlEvent) : ℤ := (turns events).sum

/-- The deltas passed to `turn_action`, added up. -/
def volumeChange : List ControlAction → ℤ
  | [] => 0
  | .turn volumeDelta :: actions => volumeDelta + volumeChange actions
  | .press :: actions => volumeChange actions

theorem turns_append (events events' : List ControlEvent) :
    turns (events ++ events') = turns events ++ turns events' := by
  induction events with
  | nil => rfl
  | cons event events ih => cases event <;> simp [turns, ih]

theorem detents_append (events events' : List ControlEvent) :
    detents (events ++ events') = detents events + detents events' := by
  simp [detents, turns_append]

theorem detents_turn (delta : ℤ) (events : List ControlEvent) :
    detents (.turn delta :: events) = delta + detents events := by simp [detents, turns]

theorem detents_press (events : List ControlEvent) :
    detents (.press :: events) = detents events := rfl

theorem detents_presses (events : List ControlEvent) : detents (presses events) = 0 := by
  induction events with
  | nil => rfl
  | cons event events ih => cases event <;> simpa [presses, detents, turns] using ih

theorem count_presses (events : List ControlEvent) :
    (presses events).count .press = events.count .press := by
  induction events with
  | nil => rfl
  | cons event events ih => cases event <;> simp [presses, ih]

theorem volumeChange_append (actions actions' : List ControlAction) :
    volumeChange (actions ++ actions') = volumeChange actions + volumeChange actions' := by
  induction actions with
  | nil => simp [volumeChange]
  | cons action actions ih => cases action <;> simp [volumeChange, ih, add_assoc]

/-- What was dispatched and what is left make up what was received. -/
structure Conserved (cfg : ControlsConfig) (c : HardwareControls) : Prop where
  turned : volumeChange c.dispatched + cfg.volumeStep * detents c.rest =
    cfg.volumeStep * detents c.received
  pressed : c.dispatched.count .press + c.rest.count .press = c.received.count .press

/-- Every move of a run that never fills the queue conserves the events, unless the worker ends. -/
theorem conserved_next (hparked : c.Parked) (hok : c.NeverFull move)
    (hc : c.phase = .ended ∨ Conserved cfg c) (h : c.next cfg move = some c') :
    c'.phase = .ended ∨ Conserved cfg c' := by
  obtain ⟨-, ⟨event, rfl, rfl⟩ | ⟨hrest, hreceived, hdispatched, hended⟩ | ⟨hended, -, -⟩ |
    ⟨hrest, hreceived, hdispatched, halive⟩ | ⟨first, -, hpending, hrest, halive, rfl⟩⟩ :=
    next_cases hparked h
  · -- a callback
    refine hc.imp id fun hc => ?_
    have hrest : (c.enqueue event).rest = c.rest ++ [event] := enqueue_rest hok
    constructor
    · show volumeChange c.dispatched + cfg.volumeStep * detents (c.enqueue event).rest =
        cfg.volumeStep * detents (c.received ++ [event])
      rw [hrest, detents_append, detents_append]
      linarith [hc.turned]
    · show c.dispatched.count .press + (c.enqueue event).rest.count .press =
        (c.received ++ [event]).count .press
      rw [hrest, List.count_append, List.count_append]
      have := hc.pressed
      omega
  · refine hc.imp hended fun hc => ?_
    exact ⟨by rw [hdispatched, hrest, hreceived, hc.turned],
      by rw [hdispatched, hrest, hreceived, hc.pressed]⟩
  · exact .inl hended
  · -- a press is dispatched
    have hc := hc.resolve_left halive
    refine .inr ⟨?_, ?_⟩
    · have := hc.turned
      rw [hrest, detents_press] at this
      rw [hdispatched, hreceived, volumeChange_append, ← this]
      simp [volumeChange]
    · have := hc.pressed
      rw [hrest, List.count_cons_self] at this
      rw [hdispatched, hreceived, List.count_append, List.count_singleton_self]
      omega
  · -- the turns up to the drain become one change, or none if they cancel out; the presses stay
    have hc := hc.resolve_left halive
    obtain ⟨hqueue, hparks, hreceived, hhand, -, hdispatched⟩ :=
      drained_eq cfg c first
    have hrest' : (c.drained cfg first).rest = presses c.queue := by
      rw [rest, hhand, hparks, hqueue, hpending]
      simp
    refine .inr ⟨?_, ?_⟩
    · have := hc.turned
      rw [hrest, detents_turn, detents] at this
      rw [hdispatched, hreceived, hrest', detents_presses, ← this, volumeChange_append]
      split
      · rename_i hzero
        rw [mul_comm] at hzero
        rw [hzero]
        simp [volumeChange]
      · simp [volumeChange]
        ring
    · have := hc.pressed
      rw [hrest, List.count_cons_of_ne (by simp)] at this
      rw [hdispatched, hreceived, hrest', count_presses, ← this, List.count_append]
      split <;> simp

/-- In every run that never fills the queue, whatever the actions return or raise and however
    long they take, an idle worker has passed `volume_step` times every detent it received to
    `turn_action`, and called `press_action` once for every press. -/
theorem nothing_lost (cfg : ControlsConfig) {c : HardwareControls}
    (h : (controls cfg).Reach NeverFull c) (hidle : c.Idle) :
    volumeChange c.dispatched = cfg.volumeStep * detents c.received ∧
      c.dispatched.count .press = c.received.count .press := by
  have hinv : c.Parked ∧ (c.phase = .ended ∨ Conserved cfg c) := by
    refine h.invariant (I := fun c => c.Parked ∧ (c.phase = .ended ∨ Conserved cfg c)) ?_ ?_
    · rintro c rfl
      exact ⟨initial_parked, .inr ⟨by simp [initial, rest, hand, detents, turns, volumeChange],
        by simp [initial, rest, hand]⟩⟩
    · intro c move c' ⟨hparked, hc⟩ hok hnext
      exact ⟨(next_cases hparked hnext).1, conserved_next hparked hok hc hnext⟩
  obtain ⟨hparked, hc⟩ := hinv
  have hrest : c.rest = [] := hidle.rest hparked
  have hc : Conserved cfg c := hc.resolve_left (by rw [hidle.1]; simp)
  have hturned := hc.turned
  have hpressed := hc.pressed
  rw [hrest] at hturned hpressed
  exact ⟨by simpa [detents, turns] using hturned, by simpa using hpressed⟩

/-- The defaults of the configuration and of the constructor. -/
def defaultControls : ControlsConfig := ⟨2, 1 / 25, by norm_num, by norm_num⟩

/-- The worker comes to rest after an action that returned. -/
def settled : List ControlMove := [.returns, .returns, .decide]

/-- Two detents, a press during the first action, and a detent whose action raises. -/
theorem nothing_lost_raised : ∃ c : HardwareControls,
    c.received = [.turn 1, .turn 1, .press, .turn (-1)] ∧
      volumeChange c.dispatched = 2 * detents c.received ∧
      c.dispatched.count .press = c.received.count .press := by
  obtain ⟨c, hc, hidle, hreceived⟩ := Machine.exists_reach
    (m := (controls defaultControls).guarded NeverFull)
    (l := List.flatten [[.opened, .decide, .gpio (.turn 1), .fetch, .resume, .gpio (.turn 1),
        .slept, .gpio .press], settled, [.fetch, .resume], settled,
      [.gpio (.turn (-1)), .fetch, .resume, .slept, .raises "OSError", .returns, .decide]])
    (fun c => (c.phase = .waiting ∧ c.queue = []) ∧
      c.received = [.turn 1, .turn 1, .press, .turn (-1)])
    (show _ = HardwareControls.initial from rfl) (by decide +kernel)
  exact ⟨c, hreceived, nothing_lost defaultControls hc.of_guarded hidle⟩

end HardwareControls

end PhonoConsole
