/-
  DASHBOARD AND ENCODER: `ControlApi._set_canonical_output` and `hardware_press_action`, each run
  alone.

  Both record the target and call the same `output_mode_action`; they differ in what surrounds it.
  The API refuses Downstairs without a publisher, before it records anything, and rolls a failed
  Downstairs request back to the target it found; the encoder does neither.  The transition work
  (the write of the file, the publisher's setters, the source selection, Music Assistant) is the
  oracle here, so that "for every outcome of the work" is one quantifier, and both callers meet the
  same outcome.

  * `outputModeAction`, `setCanonicalOutput`, `hardwarePressAction` — the programs;
  * `action_frame`      — the action touches neither the target nor the generation;
  * `action_downstairs` — when the action for Downstairs raises, and what it leaves then;
  * `same_iff`          — when the two callers leave the same state, exactly.

  Run alone, no lock is ever held by another task, so the locks are left out, as are the events.
-/
import PhonoConsole.Controller
import PhonoConsole.Intents

namespace PhonoConsole.Dashboard

open Coro (get modify ask throw catchError when)

/-! ## The daemon -/

/-- The publisher, as far as an output transition reads or writes it. -/
structure Sendspin where
  clientKnown : Bool
  flags : Flags
deriving DecidableEq

/-- The daemon's state.  `publisher` is `none` when no Sendspin source is configured, which is
    when `whole_house_available` is false. -/
structure Daemon where
  outputTarget : OutputTarget
  routingGeneration : Nat
  routing : Routing
  file : OutputTarget
  publisher : Option Sendspin
  status : Option Status
  bluetoothReady : Bool
  distributionTarget : String := "downstairs"
deriving DecidableEq

/-- What is raised: by the transition work, or by the API to its client. -/
inductive Failure
  | wholeHouse (text : String)
  | other (text : String)
  | httpConflict (text : String)
  | httpServiceUnavailable (text : String)
deriving DecidableEq

/-- The text of an exception. -/
def Failure.text : Failure → String
  | .wholeHouse text | .other text | .httpConflict text | .httpServiceUnavailable text => text

/-- The steps that can raise. -/
inductive Step
  | persistOutputTarget (target : OutputTarget)
  | setDistributionEnabled (enabled : Bool)
  | setSourceDistributionEnabled (source : Source) (enabled : Bool)
  | stopPlayers
  | selectSource (source : Source)
  | playVinylSource
  | mediaCommand (command : String)
deriving DecidableEq

/-- How each awaited step comes out. -/
abbrev Outcome : Step → Type
  | .playVinylSource => Except Failure Bool
  | .persistOutputTarget _ | .setDistributionEnabled _ | .setSourceDistributionEnabled _ _
  | .stopPlayers | .selectSource _ | .mediaCommand _ => Except Failure Unit

/-- What the daemon does for a request or a press, step by step. -/
abbrev Work := Coro Step Outcome Daemon Failure

/-- How the steps come out. -/
abbrev Oracle := (q : Step) → Outcome q

/-- Raise what a step raised. -/
def ofExcept {α : Type} : Except Failure α → Work α
  | .ok a => pure a
  | .error e => throw e

/-! ## The state store and the action -/

/-- `set_output_target`. -/
def setOutputTarget (target : OutputTarget) (increment : Bool) : Work Nat := do
  modify fun s => { s with
    outputTarget := target
    routingGeneration := if increment then s.routingGeneration + 1 else s.routingGeneration
    routing := { s.routing with
      phase := if target = .downstairs then .startingDistribution else .stoppingDistribution
      error := none } }
  let s ← get
  pure s.routingGeneration

/-- `set_routing_state`. -/
def setRoutingState (routing : Routing) : Work Unit := modify fun s => { s with routing }

/-- `persist_output_target`: the file is replaced at the end, if nothing was raised until then. -/
def persistOutputTarget (target : OutputTarget) : Work Unit := do
  ask (.persistOutputTarget target) >>= ofExcept
  modify fun s => { s with file := target }

/-- The publisher's setters: the flag is set before anything is awaited. -/
def setDistributionEnabled (enabled : Bool) : Work Unit := do
  modify fun s => { s with publisher := s.publisher.map fun p =>
    { p with flags := { p.flags with distribution := enabled } } }
  ask (.setDistributionEnabled enabled) >>= ofExcept

/-- `set_source_distribution_enabled(Source.PHONO, enabled)`. -/
def setPhonoDistributionEnabled (enabled : Bool) : Work Unit := do
  modify fun s => { s with publisher := s.publisher.map fun p =>
    { p with flags := { p.flags with phono := enabled } } }
  ask (.setSourceDistributionEnabled .phono enabled) >>= ofExcept

/-- `set_source_distribution_enabled(Source.BLUETOOTH, enabled)`. -/
def setBluetoothDistributionEnabled (enabled : Bool) : Work Unit := do
  modify fun s => { s with publisher := s.publisher.map fun p =>
    { p with flags := { p.flags with bluetooth := enabled } } }
  ask (.setSourceDistributionEnabled .bluetooth enabled) >>= ofExcept

/-- The source of a transition, from the published status. -/
def Daemon.source (s : Daemon) : Source :=
  match s.status with
  | some status =>
    if status.phonoActive then .phono else if status.bluetoothActive then .bluetooth else .none
  | none => .none

/-- `publisher is not None and publisher.client_id is not None`. -/
def Daemon.clientKnown (s : Daemon) : Bool := s.publisher.any Sendspin.clientKnown

/-- The transition to Console. -/
def stopDistribution : Work Unit := do
  let s ← get
  when s.publisher.isSome do
    setDistributionEnabled false
    setPhonoDistributionEnabled false
    setBluetoothDistributionEnabled false
  catchError (ask .stopPlayers >>= ofExcept) fun _ => pure ()
  setRoutingState { phase := .stable }

/-- The transition to Downstairs, of the source and under the generation that were read first. -/
def startDistribution (generation : Nat) (source : Source) : Work Unit := do
  let s ← get
  if !s.clientKnown then
    setRoutingState {
      phase := .degraded
      error := some "Sendspin source is not connected; playing locally" }
  else
    setDistributionEnabled true
    setPhonoDistributionEnabled true
    setBluetoothDistributionEnabled true
    if source = .none then setRoutingState { phase := .stable }
    else if source = .bluetooth ∧ ¬ s.bluetoothReady then
      setRoutingState { phase := .startingDistribution }
    else
      setRoutingState {
        phase := .startingDistribution
        sessionGeneration := some generation
        sessionSource := source }
      ask (.selectSource source) >>= ofExcept
      let started ← ask .playVinylSource >>= ofExcept
      let now ← get
      if generation ≠ now.routingGeneration ∨ started = true then pure ()
      else
        setRoutingState {
          phase := .degraded
          sessionGeneration := some generation
          sessionSource := source
          error := some (s.distributionTarget ++ " was not found; playing locally") }

/-- `output_mode_action`. -/
def outputModeAction (target : OutputTarget) : Work Unit := do
  let s ← get
  if s.outputTarget ≠ target then pure ()
  else
    persistOutputTarget target
    match target with
    | .console => stopDistribution
    | .downstairs => startDistribution s.routingGeneration s.source

/-! ## The two callers -/

/-- The rollback of a failed Downstairs request, while its generation is the newest. -/
def rollBack (previous : OutputTarget) (generation : Nat) : Work Unit := do
  let s ← get
  when (generation == s.routingGeneration) do
    let _ ← setOutputTarget previous false

/-- `_set_canonical_output`; it returns the warning it answers with. -/
def setCanonicalOutput (target : OutputTarget) : Work (Option String) := do
  let s ← get
  if target = .downstairs ∧ s.publisher.isNone then
    throw (.httpConflict "Downstairs is unavailable until Sendspin source support is enabled")
  else
    let generation ← setOutputTarget target true
    let now ← get
    if generation ≠ now.routingGeneration then pure none
    else
      catchError
        (do outputModeAction target
            pure none)
        fun e =>
          match e with
          | .wholeHouse text =>
            if target = .console then pure (some ("remote stop was not confirmed: " ++ text))
            else do
              rollBack s.outputTarget generation
              throw (.httpConflict text)
          | e =>
            if target = .console then pure none
            else do
              rollBack s.outputTarget generation
              throw (.httpServiceUnavailable e.text)

/-- What a press of the encoder stands for. -/
inductive PressCommand
  | phonoDownstairs
  | phonoLocal
  | stopBluetooth
  | stopMa
  | none
deriving DecidableEq

/-- `press_command_for_route`. -/
def pressCommandForRoute : Route → PressCommand
  | .localPhono => .phonoDownstairs
  | .distributedPhono => .phonoLocal
  | .localBluetooth | .distributedBluetooth => .stopBluetooth
  | .maPlayback => .stopMa
  | _ => .none

/-- The target a press asks for, if it asks for one. -/
def PressCommand.target : PressCommand → Option OutputTarget
  | .phonoDownstairs => some .downstairs
  | .phonoLocal => some .console
  | .stopBluetooth | .stopMa | .none => Option.none

/-- The route of the published status, idle before the first. -/
def Daemon.route (s : Daemon) : Route := (s.status.map Status.route).getD .idle

/-- `hardware_press_action`. -/
def hardwarePressAction : Work Unit := do
  let s ← get
  match pressCommandForRoute s.route with
  | .phonoDownstairs =>
    let _ ← setOutputTarget .downstairs true
    outputModeAction .downstairs
  | .phonoLocal =>
    let _ ← setOutputTarget .console true
    outputModeAction .console
  | .stopBluetooth =>
    when (s.route == .distributedBluetooth) (ask .stopPlayers >>= ofExcept)
    ask (.mediaCommand "pause") >>= ofExcept
  | .stopMa => ask .stopPlayers >>= ofExcept
  | .none => pure ()

/-! ## What the action can do -/

variable {o : Oracle} {s s' : Daemon} {target : OutputTarget}

/-- The step has raised. -/
def failed {α : Type} : Except Failure α → Bool
  | .ok _ => false
  | .error _ => true

/-- The daemon would go on to start the distribution of its source. -/
def Daemon.starts (s : Daemon) : Bool :=
  s.source != .none && !(s.source == .bluetooth && !s.bluetoothReady)

/-- One of the steps of a transition to Downstairs that are reached raises. -/
def workRaises (o : Oracle) (s : Daemon) : Bool :=
  failed (o (.persistOutputTarget .downstairs))
    || s.clientKnown && (failed (o (.setDistributionEnabled true))
      || failed (o (.setSourceDistributionEnabled .phono true))
      || failed (o (.setSourceDistributionEnabled .bluetooth true))
      || s.starts && (failed (o (.selectSource s.source)) || failed (o .playVinylSource)))

@[simp] theorem eval_ofExcept {α : Type} (r : Except Failure α) (s : Daemon) :
    Coro.eval o (ofExcept r) s = (r, s, []) := by
  cases r <;> rfl

/-- A step of the action keeps the target and the generation. -/
def SameIntent (s s' : Daemon) : Prop :=
  s'.outputTarget = s.outputTarget ∧ s'.routingGeneration = s.routingGeneration

theorem SameIntent.refl (s : Daemon) : SameIntent s s := ⟨rfl, rfl⟩

theorem SameIntent.trans {s₁ s₂ s₃ : Daemon} (h : SameIntent s₁ s₂) (h' : SameIntent s₂ s₃) :
    SameIntent s₁ s₃ := ⟨h'.1.trans h.1, h'.2.trans h.2⟩

theorem ofExcept_frame {α : Type} (r : Except Failure α) :
    (ofExcept r).Frame SameIntent fun _ => True := by
  cases r <;> trivial

/-- An awaited step changes nothing by itself. -/
theorem step_frame (q : Step) {α : Type} (f : Outcome q → Except Failure α) :
    (ask q >>= fun a => ofExcept (f a)).Frame SameIntent fun _ => True :=
  Coro.Frame.bind (Coro.frame_ask trivial) fun _ => ofExcept_frame _

theorem persistOutputTarget_frame (t : OutputTarget) :
    (persistOutputTarget t).Frame SameIntent fun _ => True :=
  Coro.Frame.bind (step_frame (.persistOutputTarget t) fun a => a) fun _ =>
    Coro.frame_modify fun _ => ⟨rfl, rfl⟩

theorem setDistributionEnabled_frame (b : Bool) :
    (setDistributionEnabled b).Frame SameIntent fun _ => True :=
  Coro.Frame.bind (Coro.frame_modify fun _ => ⟨rfl, rfl⟩) fun _ =>
    step_frame (.setDistributionEnabled b) fun a => a

theorem setPhonoDistributionEnabled_frame (b : Bool) :
    (setPhonoDistributionEnabled b).Frame SameIntent fun _ => True :=
  Coro.Frame.bind (Coro.frame_modify fun _ => ⟨rfl, rfl⟩) fun _ =>
    step_frame (.setSourceDistributionEnabled .phono b) fun a => a

theorem setBluetoothDistributionEnabled_frame (b : Bool) :
    (setBluetoothDistributionEnabled b).Frame SameIntent fun _ => True :=
  Coro.Frame.bind (Coro.frame_modify fun _ => ⟨rfl, rfl⟩) fun _ =>
    step_frame (.setSourceDistributionEnabled .bluetooth b) fun a => a

theorem setRoutingState_frame (r : Routing) :
    (setRoutingState r).Frame SameIntent fun _ => True :=
  Coro.frame_modify fun _ => ⟨rfl, rfl⟩

/-- **The action records no intent**, in any outcome of its steps. -/
theorem action_frame : (outputModeAction target).Frame SameIntent fun _ => True := by
  have hget : ∀ s, SameIntent s s := SameIntent.refl
  refine Coro.Frame.bind (Coro.frame_get hget) fun s => ?_
  split
  · trivial
  refine Coro.Frame.bind (persistOutputTarget_frame _) fun _ => ?_
  cases target with
  | console =>
    refine Coro.Frame.bind (Coro.frame_get hget) fun s => ?_
    refine Coro.Frame.bind (Coro.frame_when fun _ => ?_) fun _ => ?_
    · refine Coro.Frame.bind (setDistributionEnabled_frame _) fun _ => ?_
      refine Coro.Frame.bind (setPhonoDistributionEnabled_frame _) fun _ => ?_
      exact setBluetoothDistributionEnabled_frame _
    refine Coro.Frame.bind (Coro.Frame.catchError (step_frame .stopPlayers fun a => a)
      fun _ => trivial) fun _ => ?_
    exact setRoutingState_frame _
  | downstairs =>
    refine Coro.Frame.bind (Coro.frame_get hget) fun s => ?_
    split
    · exact setRoutingState_frame _
    refine Coro.Frame.bind (setDistributionEnabled_frame _) fun _ => ?_
    refine Coro.Frame.bind (setPhonoDistributionEnabled_frame _) fun _ => ?_
    refine Coro.Frame.bind (setBluetoothDistributionEnabled_frame _) fun _ => ?_
    split
    · exact setRoutingState_frame _
    split
    · exact setRoutingState_frame _
    refine Coro.Frame.bind (setRoutingState_frame _) fun _ => ?_
    refine Coro.Frame.bind (step_frame (.selectSource _) fun a => a) fun _ => ?_
    refine Coro.Frame.bind (step_frame .playVinylSource fun a => a) fun started => ?_
    refine Coro.Frame.bind (Coro.frame_get hget) fun now => ?_
    split
    · trivial
    · exact setRoutingState_frame _

/-- The action leaves target and generation alone. -/
theorem action_sameIntent {r : Except Failure Unit} {l : List Step}
    (h : Coro.eval o (outputModeAction target) s = (r, s', l)) : SameIntent s s' := by
  have hf := Coro.Frame.eval (p := outputModeAction target) (o := o) SameIntent.refl
    SameIntent.trans action_frame s
  rw [h] at hf
  exact hf.1

/-- The phase of a transition to Downstairs that has begun. -/
def Begun (s : Daemon) : Prop := s.routing.phase = .startingDistribution

/-- A step of a transition that has begun: it raises when `b` says so, and then the rest is not
    reached. -/
theorem gives_step {α β : Type} {p : Work α} {f : α → Work β} {b : Bool}
    {Q : Except Failure β → Daemon → Prop}
    (hp : p.Gives o (fun r s' => failed r = b ∧ Begun s') s)
    (hok : b = false → ∀ a s', Begun s' → (f a).Gives o Q s')
    (herr : b = true → ∀ e s', Begun s' → Q (.error e) s') : (p >>= f).Gives o Q s :=
  hp.bind (fun a s' h => hok h.1.symm a s' h.2) fun e s' h => herr h.1.symm e s' h.2

/-- A step raises as it comes out. -/
theorem gives_ask {α : Type} (q : Step) (f : Outcome q → Except Failure α) (h : Begun s) :
    (ask q >>= fun a => ofExcept (f a)).Gives o
      (fun r s' => failed r = failed (f (o q)) ∧ Begun s') s := by
  unfold Coro.Gives
  simp only [Coro.eval_bind, Coro.eval_ask, eval_ofExcept]
  exact ⟨trivial, h⟩

/-- The setter raises when its step does. -/
theorem gives_setDistributionEnabled (b : Bool) (h : Begun s) :
    (setDistributionEnabled b).Gives o
      (fun r s' => failed r = failed (o (.setDistributionEnabled b)) ∧ Begun s') s :=
  Coro.gives_modify (gives_ask (.setDistributionEnabled b) (fun a => a) h)

/-- So does the one for phono. -/
theorem gives_setPhonoDistributionEnabled (b : Bool) (h : Begun s) :
    (setPhonoDistributionEnabled b).Gives o
      (fun r s' => failed r = failed (o (.setSourceDistributionEnabled .phono b)) ∧ Begun s') s :=
  Coro.gives_modify (gives_ask (.setSourceDistributionEnabled .phono b) (fun a => a) h)

/-- And the one for Bluetooth. -/
theorem gives_setBluetoothDistributionEnabled (b : Bool) (h : Begun s) :
    (setBluetoothDistributionEnabled b).Gives o
      (fun r s' => failed r = failed (o (.setSourceDistributionEnabled .bluetooth b)) ∧ Begun s')
      s :=
  Coro.gives_modify (gives_ask (.setSourceDistributionEnabled .bluetooth b) (fun a => a) h)

/-- **The transition to Downstairs**, once the file is written, raises exactly when one of its steps
    does, and leaves the phase of a transition that has begun. -/
theorem gives_startDistribution (generation : Nat)
    (h₀ : failed (o (.persistOutputTarget .downstairs)) = false) (h : Begun s) :
    (startDistribution generation s.source).Gives o
      (fun r s' => failed r = workRaises o s ∧ (failed r = true → Begun s')) s := by
  have raised {e : Failure} {s' : Daemon} (hs' : Begun s') (hraises : workRaises o s = true) :
      failed (.error e : Except Failure Unit) = workRaises o s ∧
        (failed (.error e : Except Failure Unit) = true → Begun s') :=
    ⟨hraises.symm, fun _ => hs'⟩
  have returned {s' : Daemon} (hquiet : workRaises o s = false) :
      failed (.ok () : Except Failure Unit) = workRaises o s ∧
        (failed (.ok () : Except Failure Unit) = true → Begun s') :=
    ⟨hquiet.symm, fun hr => nomatch hr⟩
  refine Coro.gives_get ?_
  cases hclient : s.clientKnown with
  | false => exact returned (by simp [workRaises, h₀, hclient])
  | true =>
    rw [if_neg (by simp)]
    refine gives_step (gives_setDistributionEnabled true h) (fun h₁ _ s₁ hs₁ => ?_)
      fun h₁ e s' hs' => raised hs' (by simp [workRaises, h₀, hclient, h₁])
    refine gives_step (gives_setPhonoDistributionEnabled true hs₁) (fun h₂ _ s₂ hs₂ => ?_)
      fun h₂ e s' hs' => raised hs' (by simp [workRaises, h₀, hclient, h₂])
    refine gives_step (gives_setBluetoothDistributionEnabled true hs₂) (fun h₃ _ s₃ hs₃ => ?_)
      fun h₃ e s' hs' => raised hs' (by simp [workRaises, h₀, hclient, h₃])
    by_cases hnone : s.source = .none
    · rw [if_pos hnone]
      exact returned (by simp [workRaises, h₀, hclient, h₁, h₂, h₃, Daemon.starts, hnone])
    rw [if_neg hnone]
    by_cases hwaiting : s.source = .bluetooth ∧ ¬ s.bluetoothReady
    · rw [if_pos hwaiting]
      exact returned (by simp [workRaises, h₀, hclient, h₁, h₂, h₃, Daemon.starts, hwaiting])
    rw [if_neg hwaiting]
    have hstarts : s.starts = true := by
      simp only [Daemon.starts]
      cases hs : s.source <;> simp_all
    -- the selection and the start are the last steps that can raise
    refine Coro.gives_modify ?_
    refine gives_step (gives_ask (.selectSource s.source) (fun a => a) rfl)
      (fun h₄ _ s₄ hs₄ => ?_) fun h₄ e s' hs' =>
        raised hs' (by simp [workRaises, h₀, hclient, hstarts, h₄])
    refine gives_step (gives_ask .playVinylSource (fun a => a) hs₄) (fun h₅ started s₅ hs₅ => ?_)
      fun h₅ e s' hs' => raised hs' (by simp [workRaises, h₀, hclient, hstarts, h₅])
    have hquiet : workRaises o s = false := by simp [workRaises, h₀, h₁, h₂, h₃, h₄, h₅]
    refine Coro.gives_get ?_
    split
    · exact returned hquiet
    · exact returned hquiet

/-- The file is written, or nothing is changed. -/
theorem gives_persistOutputTarget (target : OutputTarget) :
    (persistOutputTarget target).Gives o
      (fun r s' => failed r = failed (o (.persistOutputTarget target)) ∧
        s' = if failed r then s else { s with file := target }) s := by
  unfold persistOutputTarget Coro.Gives
  simp only [Coro.eval_bind, Coro.eval_ask, eval_ofExcept]
  cases o (.persistOutputTarget target) <;> exact ⟨rfl, rfl⟩

/-- A Downstairs action raises exactly when a step that it reaches does. -/
theorem gives_action_downstairs (htarget : s.outputTarget = .downstairs) (h : Begun s) :
    (outputModeAction .downstairs).Gives o
      (fun r s' => failed r = workRaises o s ∧ (failed r = true → Begun s')) s := by
  refine Coro.gives_get ?_
  rw [if_neg (not_not.mpr htarget)]
  refine (gives_persistOutputTarget .downstairs).bind ?_ ?_
  · rintro _ s' ⟨hwritten, rfl⟩
    have hfile : Begun { s with file := .downstairs } := h
    exact gives_startDistribution s.routingGeneration hwritten.symm hfile
  · -- the file is not written, and nothing has changed yet
    rintro e s' ⟨hrefused, rfl⟩
    exact ⟨by rw [workRaises, ← hrefused]; rfl, fun _ => h⟩

/-! ## The two callers, alone -/

/-- The state after an intent was recorded. -/
def Daemon.recorded (s : Daemon) (target : OutputTarget) : Daemon :=
  { s with
    outputTarget := target
    routingGeneration := s.routingGeneration + 1
    routing := { s.routing with
      phase := if target = .downstairs then .startingDistribution else .stoppingDistribution
      error := none } }

/-- The state after a rollback. -/
def Daemon.rolledBack (s : Daemon) (previous : OutputTarget) : Daemon :=
  { s with
    outputTarget := previous
    routing := { s.routing with
      phase := if previous = .downstairs then .startingDistribution else .stoppingDistribution
      error := none } }

/-- The state in which a press leaves the daemon. -/
def Daemon.pressed (o : Oracle) (s : Daemon) : Daemon := (Coro.eval o hardwarePressAction s).2.1

/-- The state in which a request leaves the daemon. -/
def Daemon.requested (o : Oracle) (s : Daemon) (target : OutputTarget) : Daemon :=
  (Coro.eval o (setCanonicalOutput target) s).2.1

/-- The intent is recorded. -/
theorem gives_setOutputTarget {α : Type} {f : Nat → Work α} {Q : Except Failure α → Daemon → Prop}
    (h : (f (s.routingGeneration + 1)).Gives o Q (s.recorded target)) :
    (setOutputTarget target true >>= f).Gives o Q s := h

/-- A press that asks for a target records it and runs the action. -/
theorem gives_press (hpress : (pressCommandForRoute s.route).target = some target)
    {Q : Except Failure Unit → Daemon → Prop}
    (h : (outputModeAction target).Gives o Q (s.recorded target)) :
    hardwarePressAction.Gives o Q s := by
  refine Coro.gives_get ?_
  split
  all_goals
    rename_i hcommand
    rw [hcommand] at hpress
  · obtain rfl := Option.some.inj hpress
    exact gives_setOutputTarget h
  · obtain rfl := Option.some.inj hpress
    exact gives_setOutputTarget h
  all_goals exact nomatch hpress

/-- The newest request is rolled back. -/
theorem gives_rollBack {α : Type} {f : Unit → Work α} {previous : OutputTarget} {generation : Nat}
    {Q : Except Failure α → Daemon → Prop} (hgen : generation = s.routingGeneration)
    (h : (f ()).Gives o Q (s.rolledBack previous)) :
    (rollBack previous generation >>= f).Gives o Q s := by
  subst hgen
  refine Coro.Gives.bind (P := fun r s' => r = .ok () ∧ s' = s.rolledBack previous)
    ?_ ?_ fun e s' hs' => nomatch hs'.1
  · refine Coro.gives_get ?_
    rw [beq_self_eq_true]
    exact ⟨rfl, rfl⟩
  · rintro a s' ⟨-, rfl⟩
    exact h

/-- Any request that is not refused records its target and runs the action; a failed transition to
    Downstairs is rolled back. -/
theorem gives_request {r : Except Failure Unit} {l : List Step}
    (hserved : ¬ (target = .downstairs ∧ s.publisher.isNone = true))
    (hrun : Coro.eval o (outputModeAction target) (s.recorded target) = (r, s', l)) :
    (setCanonicalOutput target).Gives o
      (fun _ t => t =
        if failed r = true ∧ target = .downstairs then s'.rolledBack s.outputTarget else s') s := by
  have hgen : s.routingGeneration + 1 = s'.routingGeneration := (action_sameIntent hrun).2.symm
  refine Coro.gives_get ?_
  rw [if_neg hserved]
  refine gives_setOutputTarget ?_
  refine Coro.gives_get ?_
  rw [if_neg (show ¬ s.routingGeneration + 1 ≠ (s.recorded target).routingGeneration from
    not_not.mpr rfl)]
  refine Coro.Gives.catchError (P := fun q t => failed q = failed r ∧ t = s') ?_ ?_ ?_
  · refine Coro.Gives.bind (P := fun q t => failed q = failed r ∧ t = s') ?_ ?_ ?_
    · show failed _ = failed r ∧ _ = s'
      rw [hrun]
      exact ⟨rfl, rfl⟩
    · exact fun _ t ht => ht
    · exact fun e t ht => ht
  · rintro a t ⟨hfailed, rfl⟩
    have hfailed : failed r = false := hfailed.symm
    rw [if_neg (by simp [hfailed])]
  · -- the two kinds of exceptions are answered differently, and leave the same state
    rintro e t ⟨hfailed, rfl⟩
    have hfailed : failed r = true := hfailed.symm
    cases target with
    | console => cases e <;> exact (if_neg (by simp)).symm
    | downstairs =>
      rw [if_pos ⟨hfailed, rfl⟩]
      cases e <;> exact gives_rollBack hgen rfl

/-- What a request leaves behind: the action's state, rolled back if it raised. -/
theorem requested_eq {r : Except Failure Unit} {l : List Step}
    (hserved : ¬ (target = .downstairs ∧ s.publisher.isNone = true))
    (hrun : Coro.eval o (outputModeAction target) (s.recorded target) = (r, s', l)) :
    s.requested o target =
      if failed r = true ∧ target = .downstairs then s'.rolledBack s.outputTarget else s' :=
  gives_request hserved hrun

/-- What a press leaves behind: the action's state as it is. -/
theorem pressed_eq (hpress : (pressCommandForRoute s.route).target = some target)
    {r : Except Failure Unit} {l : List Step}
    (hrun : Coro.eval o (outputModeAction target) (s.recorded target) = (r, s', l)) :
    s.pressed o = s' := by
  refine gives_press (Q := fun _ t => t = s') hpress ?_
  show (Coro.eval o (outputModeAction target) (s.recorded target)).2.1 = s'
  rw [hrun]

/-- A transition to Downstairs fails exactly when a step of its work raises, and has begun. -/
theorem downstairs_failed {r : Except Failure Unit} {l : List Step}
    (hrun : Coro.eval o (outputModeAction .downstairs) (s.recorded .downstairs) = (r, s', l)) :
    failed r = workRaises o s ∧ (failed r = true → Begun s') := by
  have hbegun : Begun (s.recorded .downstairs) := rfl
  have hgives := gives_action_downstairs (o := o) rfl hbegun
  unfold Coro.Gives at hgives
  rw [hrun] at hgives
  exact hgives

/-- A request for Downstairs without a publisher records nothing. -/
theorem requested_refused (h : s.publisher.isNone = true) : s.requested o .downstairs = s := by
  have hgives : (setCanonicalOutput .downstairs).Gives o (fun _ t => t = s) s := by
    refine Coro.gives_get ?_
    rw [if_pos ⟨rfl, h⟩]
    rfl
  exact hgives

/-- The callers are compared by target, generation, phase, persisted file and enable flags. -/
structure Same (a b : Daemon) : Prop where
  outputTarget : a.outputTarget = b.outputTarget
  routingGeneration : a.routingGeneration = b.routingGeneration
  routingPhase : a.routing.phase = b.routing.phase
  file : a.file = b.file
  flags : a.publisher.map Sendspin.flags = b.publisher.map Sendspin.flags

theorem Same.refl (a : Daemon) : Same a a := ⟨rfl, rfl, rfl, rfl, rfl⟩

/-- Only the rollback to Downstairs itself changes nothing. -/
theorem same_rolledBack {previous : OutputTarget} (htarget : s.outputTarget = .downstairs)
    (hbegun : Begun s) : Same (s.rolledBack previous) s ↔ previous = .downstairs := by
  constructor
  · intro hsame
    have hprevious : previous = s.outputTarget := hsame.outputTarget
    exact hprevious.trans htarget
  · rintro rfl
    exact ⟨htarget.symm, rfl, hbegun.symm, rfl, rfl⟩

/-- **When dashboard and encoder are equivalent.**  From every state, for every outcome of the
    transition work, a request and a press for the same target leave the same state exactly when
    the target is Console, or a publisher is configured and no step of the work raises or the
    target was Downstairs already. -/
theorem same_iff (o : Oracle) (s : Daemon) (target : OutputTarget)
    (hpress : (pressCommandForRoute s.route).target = some target) :
    Same (s.requested o target) (s.pressed o) ↔
      target = .console ∨
        s.publisher.isSome = true ∧ (workRaises o s = false ∨ s.outputTarget = .downstairs) := by
  rcases hrun : Coro.eval o (outputModeAction target) (s.recorded target) with ⟨r, s', l⟩
  obtain ⟨hkept, hgen⟩ := action_sameIntent hrun
  rw [pressed_eq hpress hrun]
  cases target with
  | console =>
    rw [requested_eq (by simp) hrun, if_neg (by simp)]
    exact ⟨fun _ => .inl rfl, fun _ => .refl s'⟩
  | downstairs =>
    cases hpublisher : s.publisher.isNone with
    | true =>
      rw [requested_refused hpublisher]
      constructor
      · intro hsame
        have hsame := hsame.routingGeneration
        rw [hgen] at hsame
        exact absurd hsame (Nat.ne_of_lt (Nat.lt_succ_self _))
      · rintro (h | ⟨h, -⟩)
        · exact nomatch h
        · simp [Option.isNone_iff_eq_none.mp hpublisher] at h
    | false =>
      have hsome : s.publisher.isSome = true := Option.isNone_eq_false_iff.mp hpublisher
      obtain ⟨hraises, hbegun⟩ := downstairs_failed hrun
      rw [requested_eq (by simp [hpublisher]) hrun, ← hraises]
      cases hfailed : failed r with
      | false =>
        rw [if_neg (by simp)]
        exact ⟨fun _ => .inr ⟨hsome, .inl rfl⟩, fun _ => .refl s'⟩
      | true =>
        rw [if_pos ⟨rfl, rfl⟩, same_rolledBack hkept (hbegun hfailed)]
        simp [hsome]

/-- A record plays at the console. -/
def recordPlaying : Daemon where
  outputTarget := .console
  routingGeneration := 0
  routing := {}
  file := .console
  publisher := some ⟨true, Flags.for .console⟩
  status := some {
    route := .localPhono
    phonoActive := true
    maPlaying := false
    wholeHouseRequested := false
    levelDbfs := -20
    bluetoothActive := false
    bluetoothLevelDbfs := -120
    source := .phono }
  bluetoothReady := false

/-- Music Assistant cannot be reached; everything else goes through. -/
def unreachable : Oracle
  | .playVinylSource => .error (.other "Music Assistant is not connected")
  | .persistOutputTarget _ | .setDistributionEnabled _ | .setSourceDistributionEnabled _ _
  | .stopPlayers | .selectSource _ | .mediaCommand _ => .ok ()

/-- A record with Music Assistant out of reach, where the two differ. -/
theorem same_iff_unreachable :
    Same (recordPlaying.requested unreachable .downstairs) (recordPlaying.pressed unreachable) ↔
      OutputTarget.downstairs = .console ∨ recordPlaying.publisher.isSome = true ∧
        (workRaises unreachable recordPlaying = false ∨
          recordPlaying.outputTarget = .downstairs) :=
  same_iff unreachable recordPlaying .downstairs rfl

/-- The two callers are not equivalent: when Music Assistant cannot be reached, the request leaves
    the target at Console and the press leaves it at Downstairs. -/
theorem not_equivalent : ¬ ∀ (o : Oracle) (s : Daemon) (target : OutputTarget),
    (pressCommandForRoute s.route).target = some target →
      Same (s.requested o target) (s.pressed o) := by
  intro hall
  have hsame := (hall unreachable recordPlaying .downstairs rfl).outputTarget
  have hrequested : (recordPlaying.requested unreachable .downstairs).outputTarget = .console := by
    decide +kernel
  have hpressed : (recordPlaying.pressed unreachable).outputTarget = .downstairs := by
    decide +kernel
  rw [hrequested, hpressed] at hsame
  exact nomatch hsame

end PhonoConsole.Dashboard
