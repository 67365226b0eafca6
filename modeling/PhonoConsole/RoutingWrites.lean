/-
  ROUTING WRITES OF A TICK: from which points of suspension a tick can still write the routing state.

  A tick writes the routing state at two places (`startDistribution`, `publishStatus`), and whether it
  will is open until late: it depends on the output mode it has read, and on answers that are still to
  come.  But some points lie beyond every write:

  * `CtlReq.mayWrite mode q` — a tick that goes on in `mode` and awaits `q` may still write;
  * `unexpired`              — the mode in which a tick goes on: a Downstairs choice that the sticky
    interval has outlasted counts as Local;
  * `tick_writes`            — from a point of any other kind the tick makes no routing write, whatever
    it is answered.

  In Local every tick that comes to its end writes, so there only the status is beyond.  In Downstairs
  it writes for a distributed route only: a session that has been released, or a route on its way to the
  router, decides it.
-/
import PhonoConsole.TickConclude

namespace PhonoConsole

open Coro

/-- A write of `_set_routing_state`. -/
def CtlReq.writesRouting : CtlReq → Bool
  | .setRoutingState _ _ _ _ => true
  | _ => false

/-- A tick that goes on in `mode` and awaits this request may still write the routing state, here or
    later. -/
def CtlReq.mayWrite (mode : PhonoOutputMode) : CtlReq → Bool
  | .setStatus _ => false
  | .releaseDistribution => mode == .local
  | .routerApply .preactivate _ => true
  | .routerApply _ route | .routerReconcile route | .activateRoute route =>
    mode == .local || route.distributed
  | _ => true

/-- The requests of the first half lie before every write. -/
theorem CtlReq.mayWrite_of_observation {mode : PhonoOutputMode} {q : CtlReq}
    (h : q.observation = true) : q.mayWrite mode = true := by
  cases q with
  | routerApply site route =>
    cases site with
    | preactivate => rfl
    | sense | monitor | start | decide | enter | apply | fallback | finish => cases h
  | setStatus | releaseDistribution | routerReconcile | activateRoute => cases h
  | _ => rfl

namespace Controller

variable {cfg : Config} {cb : Callbacks} {now : ℚ} {x : Observed} {mode : PhonoOutputMode}

/-- The mode in which a tick goes on that has read `mode` in the state `c`. -/
def unexpired (cfg : Config) (now : ℚ) (c : Controller) : PhonoOutputMode → PhonoOutputMode
  | .local => .local
  | .downstairs =>
    match c.phonoModeInactiveSince with
    | some since => if cfg.phonoModeStickyMinutes * 60 ≤ now - since then .local else .downstairs
    | none => .downstairs

/-- No routing write. -/
def Unwritten (q : CtlReq) : Prop := q.writesRouting = false

/-- Nothing is left but what lies beyond the writes. -/
abbrev Closing {α : Type} (p : Tick α) : Prop := p.Frame (fun _ _ => True) Unwritten

/-- Everything lies before the last write. -/
abbrev Opening {α : Type} (mode : PhonoOutputMode) (p : Tick α) : Prop :=
  p.Frame (fun _ _ => True) fun q => q.mayWrite mode = true

/-- Beyond the points at which it may still write, the program does not. -/
abbrev Writes {α : Type} (mode : PhonoOutputMode) (p : Tick α) (c : Controller) : Prop :=
  p.Past (fun q => q.mayWrite mode = true) Unwritten c

theorem Opening.of_observation {α : Type} {R : Controller → Controller → Prop} {p : Tick α}
    (h : p.Frame R fun q => q.observation = true) : Opening mode p :=
  (h.mono fun _ _ _ => trivial).weaken fun _ => CtlReq.mayWrite_of_observation

/-- A sequence whose first half lies before the last write. -/
theorem Writes.bind {α β : Type} {p : Tick α} {f : α → Tick β} (hp : Opening mode p)
    (hf : ∀ a c, Writes mode (f a) c) (c : Controller) : Writes mode (p >>= f) c :=
  Past.bind hp (ends_true p) (fun a s _ => hf a s) c

private theorem anything (_ : Controller) : True := trivial

/-! ## The second half -/

theorem chooseRoute_not_distributed (phono bluetooth ma : Bool) (mode : PhonoOutputMode) :
    (chooseRoute ⟨phono, bluetooth, ma, false, mode⟩).distributed = false := by
  cases phono <;> cases bluetooth <;> cases ma <;> rfl

/-- If a route is returned, it is a local one. -/
def Locals (r : Except Exc Route) : Prop := ∀ route, r = .ok route → route.distributed = false

theorem locals_ok {route : Route} (h : route.distributed = false) : Locals (.ok route) := by
  intro route' hroute
  cases hroute
  exact h

theorem locals_error (e : Exc) : Locals (.error e) := by
  intro route hroute
  cases hroute

/-- A sequence returns what its second half returns. -/
theorem ends_last {α : Type} {p : Tick α} {f : α → Tick Route}
    (hf : ∀ a, (f a).Ends (fun _ _ => True) Locals) : (p >>= f).Ends (fun _ _ => True) Locals :=
  (ends_true p).bind (fun a _ => hf a) fun e _ => locals_error e

/-- A local route stays local on its way to the router. -/
theorem applyRoute_returns {desired : Route} (hd : desired.distributed = false) :
    (applyRoute cb x desired).Ends (fun _ _ => True) Locals := by
  refine ends_last fun c => ?_
  refine Ends.catchError (P := Locals) ?_ (fun _ h => h) fun e _ => ?_
  · exact ends_last fun _ => ends_last fun _ => ends_last fun _ => ends_last fun _ => locals_ok hd
  · cases e with
    | exception text => exact ends_last fun _ => locals_ok rfl
    | cancelled => exact locals_error _

theorem publishStatus_writes (route : Route) (c : Controller) :
    Writes mode (publishStatus x route) c := by
  refine Writes.bind (frame_modify anything) (fun _ c => ?_) c
  refine Writes.bind (frame_when fun _ => frame_ask (by rfl)) (fun _ c => ?_) c
  refine Writes.bind (frame_when fun _ => frame_ask (by rfl)) (fun _ c => ?_) c
  refine Past.of_frame ?_ c
  exact Frame.bind (frame_ask rfl) fun _ => trivial

theorem publishStatus_closing {route : Route} (hd : route.distributed = false)
    (hm : x.outputMode = .downstairs) : Closing (publishStatus x route) := by
  unfold publishStatus
  rw [hd, hm]
  refine Frame.bind (frame_modify anything) fun _ => ?_
  refine Frame.bind (frame_when fun h => absurd h Bool.false_ne_true) fun _ => ?_
  refine Frame.bind (frame_when fun h => absurd h (by decide)) fun _ => ?_
  exact Frame.bind (frame_ask (C := Unwritten) rfl) fun _ => trivial

/-- A local route that is handed over in Downstairs is beyond every write. -/
theorem handOver_closing {desired : Route} (hd : desired.distributed = false)
    (hm : x.outputMode = .downstairs) :
    Closing (applyRoute cb x desired >>= publishStatus x) :=
  (applyRoute_frame (C := Unwritten) anything rfl rfl rfl rfl rfl).bind_ends (applyRoute_returns hd)
    fun route hroute => publishStatus_closing (hroute route rfl) hm

theorem handOver_writes (desired : Route) (hm : mode = .downstairs → x.outputMode = .downstairs)
    (c : Controller) : Writes mode (applyRoute cb x desired >>= publishStatus x) c := by
  cases mode with
  | «local» =>
    exact Writes.bind (applyRoute_frame anything rfl rfl rfl rfl rfl)
      (fun route c => publishStatus_writes route c) c
  | downstairs =>
    cases hd : desired.distributed with
    | false => exact Past.of_frame (handOver_closing hd (hm rfl)) c
    | true =>
      -- a session on its way: only its failure is beyond the writes
      unfold applyRoute
      rw [bind_bind]
      refine Writes.bind (frame_get anything) (fun c' c => ?_) c
      have hroute : ∀ site, (CtlReq.routerApply site desired).mayWrite .downstairs = true := by
        intro site
        cases site <;> first | rfl | exact hd
      refine Past.bind_catchError (P := fun _ => True) (R := fun _ _ => True) ?_ (ends_true _)
        (fun route c _ => publishStatus_writes route c) (fun e c => ?_) c
      · refine Frame.bind (frame_when fun _ => frame_callback hd) fun _ => ?_
        refine Frame.bind (frame_when fun _ => frame_callback (hroute _)) fun _ => ?_
        refine Frame.bind (frame_when fun _ =>
          Frame.bind (frame_attempt (frame_callback rfl)) fun _ => trivial) fun _ => ?_
        exact Frame.bind (frame_when fun _ =>
          Frame.bind (frame_attempt (frame_callback hd)) fun _ => trivial) fun _ => trivial
      · cases e with
        | exception text =>
          refine Past.of_frame ?_ c
          show Closing ((attempt (ask (.routerApply .fallback .idle) >>= ofExcept) >>=
            fun _ => pure Route.idle) >>= publishStatus x)
          rw [bind_bind]
          exact Frame.bind (frame_attempt (frame_callback rfl)) fun _ =>
            publishStatus_closing rfl (hm rfl)
        | cancelled => trivial

/-- What is released, or stays local, is local. -/
theorem releaseIfLeaving_returns {desired : Route} (hd : desired.distributed = false) :
    (releaseIfLeaving cb desired).Ends (fun _ _ => True) Locals := by
  refine ends_last fun c => ?_
  have hkept : Locals (.ok (if desired = .maPlayback then .idle else desired)) := by
    split
    · exact locals_ok rfl
    · exact locals_ok hd
  split
  · exact ends_last fun _ => hkept
  · exact locals_ok hd

/-- The hand-over of a decided route. -/
theorem settleRoute_writes (decided : Route) (hm : mode = .downstairs → x.outputMode = .downstairs)
    (c : Controller) :
    Writes mode (do
      let desired ← releaseIfLeaving cb decided
      let desired ← enterDistribution cb x desired
      let route ← applyRoute cb x desired
      publishStatus x route) c := by
  have entered : ∀ (desired : Route) (c : Controller), Writes mode (do
      let desired ← enterDistribution cb x desired
      let route ← applyRoute cb x desired
      publishStatus x route) c := fun desired =>
    Writes.bind (enterDistribution_frame anything (fun _ => rfl) desired) fun desired => handOver_writes desired hm
  cases mode with
  | «local» => exact Writes.bind (releaseIfLeaving_frame anything (by rfl) decided) entered c
  | downstairs =>
    cases hd : decided.distributed with
    | true =>
      -- the session is kept
      unfold releaseIfLeaving
      rw [bind_bind]
      refine Writes.bind (frame_get anything) (fun c' c => ?_) c
      rw [hd, Bool.not_true, Bool.and_false]
      exact entered decided c
    | false =>
      refine Past.of_frame ((releaseIfLeaving_frame (C := Unwritten) anything rfl decided).bind_ends
        (releaseIfLeaving_returns hd) fun desired hdesired => ?_) c
      have hlocal := hdesired desired rfl
      unfold enterDistribution
      rw [bind_bind]
      refine Frame.bind (frame_get anything) fun c => ?_
      rw [hlocal, Bool.false_and, Bool.false_and, Bool.false_and]
      exact handOver_closing hlocal (hm rfl)

theorem conclude_writes (hm : mode = .downstairs → x.outputMode = .downstairs) (c : Controller) :
    Writes mode (conclude cfg cb now x) c := by
  refine Writes.bind (frame_given (frame_callback rfl)) (fun capable c => ?_) c
  refine Writes.bind (frame_given (frame_callback rfl)) (fun streamHealthy c => ?_) c
  refine Writes.bind (startDistribution_frame (fun _ _ _ => trivial) (fun _ _ _ => rfl)
    (fun _ => rfl) capable) (fun _ c => ?_) c
  refine Writes.bind (decideRoute_frame anything (by rfl) capable streamHealthy)
    (fun decided c => ?_) c
  exact settleRoute_writes decided hm c

/-! ## The reading of the output mode -/

/-- What follows the reading of the output mode. -/
abbrev FollowsMode {α : Type} (cfg : Config) (now : ℚ) (answer : CtlRep .phonoOutputMode) (p : Tick α)
    (c : Controller) : Prop :=
  ∀ mode, answer = .ok mode → Writes (unexpired cfg now c mode) p c

theorem stickyMode_follows {α : Type} (b : Bool) {f : PhonoOutputMode → Tick α}
    (hf : ∀ mode mode' c, (mode = .downstairs → mode' = .downstairs) → Writes mode (f mode') c)
    (c : Controller) :
    (stickyMode cfg cb now b >>= f).Upon .phonoOutputMode (FollowsMode cfg now) c := by
  refine ⟨fun _ answer mode hmode => ?_, fun h => absurd rfl h⟩
  have hanswer : answer = .ok mode := hmode
  subst hanswer
  cases mode with
  | «local» => exact hf .local .local _ fun h => h
  | downstairs =>
    have hkeep : ∀ c', Writes (unexpired cfg now c .downstairs) (f .downstairs) c' :=
      fun c' => hf _ _ c' fun _ => rfl
    show Writes _ ((if b = true then _ else _ : Tick PhonoOutputMode) >>= f) c
    cases b with
    | true =>
      rw [if_pos rfl, bind_bind]
      refine Writes.bind (frame_modify anything) (fun _ c' => ?_) c
      rw [bind_bind]
      refine Writes.bind (frame_when fun _ => ?_) (fun _ c' => hkeep c') c'
      exact Frame.bind (frame_callback rfl) fun _ => frame_modify anything
    | false =>
      rw [if_neg Bool.false_ne_true]
      unfold unexpired at hkeep ⊢
      cases hsince : c.phonoModeInactiveSince with
      | none =>
        rw [hsince] at hkeep
        exact hkeep _
      | some since =>
        rw [hsince] at hkeep
        dsimp only at hkeep ⊢
        by_cases hdue : cfg.phonoModeStickyMinutes * 60 ≤ now - since
        · rw [if_pos hdue, if_pos hdue, bind_bind]
          refine Writes.bind (frame_when fun _ => frame_callback rfl) (fun _ c' => ?_) c
          rw [bind_bind]
          exact Writes.bind (frame_modify anything) (fun _ c' => hf _ _ c' fun h => h) c'
        · rw [if_neg hdue] at hkeep
          rw [if_neg hdue, if_neg hdue]
          exact hkeep c

/-! ## The whole tick -/

/-- The requests before the reading of the output mode. -/
abbrev Unread {α : Type} (p : Tick α) : Prop :=
  p.Frame (fun _ _ => True) fun q => q ≠ .phonoOutputMode

theorem readLevel_unread : Unread readLevel :=
  frame_exceptException (Frame.bind (frame_callback CtlReq.noConfusion) fun _ => trivial)
    (Frame.bind (frame_modify anything) fun _ => trivial)

theorem peakLevel_unread : Unread peakLevel :=
  Frame.bind (frame_ask CtlReq.noConfusion) fun _ => trivial

theorem senseActivity_unread (ok : Bool) (level peak : ℚ) (transport : Bool) :
    Unread (senseActivity cfg now ok level peak transport) := by
  refine Frame.bind (frame_get anything) fun c => ?_
  refine Frame.bind (frame_when fun _ => frame_modify anything) fun _ => ?_
  refine Frame.bind (frame_when fun _ => frame_modify anything) fun _ => ?_
  exact Frame.bind (frame_get anything) fun _ => trivial

theorem preactivate_unread (b : Bool) : Unread (preactivate cb b) := by
  refine Frame.bind (frame_get anything) fun c => ?_
  split
  · refine Frame.bind (frame_attempt (frame_callback CtlReq.noConfusion)) fun applied => ?_
    split
    · split
      · exact Frame.bind (frame_attempt (frame_callback CtlReq.noConfusion)) fun _ => trivial
      · trivial
    · trivial
  · trivial

theorem readMaPlaying_unread : Unread readMaPlaying :=
  frame_exceptException (frame_callback CtlReq.noConfusion) trivial

/-- A phase of the first half that comes before the reading. -/
theorem Unread.bind {α β γ : Type} {p : Tick α} {f : α → Tick β} {g : β → Tick γ} (hp : Unread p)
    (hf : ∀ a c, (f a >>= g).Upon .phonoOutputMode (FollowsMode cfg now) c) (c : Controller) :
    (p >>= f >>= g).Upon .phonoOutputMode (FollowsMode cfg now) c := by
  rw [bind_bind]
  exact Upon.bind hp hf c

/-- **Where a tick may still write**: once it has read its output mode, it makes no routing write
    beyond the points that `mayWrite` names. -/
theorem tick_writes (c : Controller) :
    (tick cfg cb now).Upon .phonoOutputMode (FollowsMode cfg now) c := by
  refine Unread.bind readLevel_unread (fun ⟨captureOk, level⟩ c => ?_) c
  refine Unread.bind peakLevel_unread (fun peak c => ?_) c
  refine Unread.bind (frame_given (frame_callback CtlReq.noConfusion)) (fun transport c => ?_) c
  refine Unread.bind (senseActivity_unread _ _ _ _) (fun ⟨phonoActive, signal⟩ c => ?_) c
  refine Unread.bind (preactivate_unread signal) (fun ⟨_, _⟩ c => ?_) c
  refine Unread.bind readMaPlaying_unread (fun maPlaying c => ?_) c
  refine Unread.bind (frame_callback CtlReq.noConfusion) (fun wholeHouse c => ?_) c
  refine Unread.bind (Frame.bind (frame_get anything) fun _ => frame_when fun _ =>
    frame_callback CtlReq.noConfusion) (fun _ c => ?_) c
  -- the output mode is read here
  dsimp only
  rw [bind_bind]
  refine stickyMode_follows phonoActive (fun mode mode' c hm => ?_) c
  rw [bind_bind]
  refine Writes.bind (.of_observation (senseBluetooth_frame sameRoute_sensing _ _)) (fun ⟨_, _, _⟩ c => ?_) c
  rw [bind_bind]
  refine Writes.bind (frame_given (frame_callback rfl)) (fun available c => ?_) c
  exact conclude_writes hm c

end Controller

end PhonoConsole
