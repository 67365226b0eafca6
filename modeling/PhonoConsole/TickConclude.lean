/-
  WHAT A TICK DOES: the second half of the tick, phase by phase.

  From the observations `x` of the first half, the second half prepares, decides, hands over and
  publishes.  Each phase gets ONE spec lemma `…_ok`: what it returns, what it does to the private
  state and which of the requests that later results are about it makes.  Two kinds of requests
  are followed:

  * `prepare_distribution`, through `lastPrepared`, the source of the most recent call;
  * `release_distribution`, through membership in the list of requests.

  The outcome lemmas at the end say how a tick can fail: never by an `Exception` once the two
  capability questions are answered (`conclude_error`), and by `CancelledError` only if some
  answer was a cancellation (`tick_uncancelled`).
-/
import PhonoConsole.TickObserve

namespace PhonoConsole

/-- The source a request prepares, if it is a `prepare_distribution`. -/
def CtlReq.prepares : CtlReq → Option Source
  | .prepareDistribution _ s => some s
  | _ => none

/-- The two questions the second half opens with. -/
def CtlReq.question : CtlReq → Bool
  | .distributionCapable _ | .distributionStreamHealthy => true
  | _ => false

/-- The source of the most recent `prepare_distribution` call, `last` before the calls `l`. -/
def lastPrepared (last : Option Source) (l : List CtlReq) : Option Source :=
  l.foldl (fun p q => q.prepares.or p) last

@[simp] theorem lastPrepared_nil (last : Option Source) : lastPrepared last [] = last := rfl

@[simp] theorem lastPrepared_cons (last : Option Source) (q : CtlReq) (l : List CtlReq) :
    lastPrepared last (q :: l) = lastPrepared (q.prepares.or last) l := rfl

@[simp] theorem lastPrepared_append (last : Option Source) (l₁ l₂ : List CtlReq) :
    lastPrepared last (l₁ ++ l₂) = lastPrepared (lastPrepared last l₁) l₂ := by
  simp [lastPrepared]

/-- Calls that prepare nothing leave the last preparation. -/
theorem lastPrepared_eq {last : Option Source} {l : List CtlReq}
    (h : ∀ q ∈ l, q.prepares = none) : lastPrepared last l = last := by
  induction l generalizing last with
  | nil => rfl
  | cons q l ih =>
    obtain ⟨hq, hl⟩ := List.forall_mem_cons.mp h
    rw [lastPrepared_cons, hq, Option.none_or, ih hl]

namespace Controller

open Coro

variable {cfg : Config} {cb : Callbacks} {now : ℚ} {o : Oracle} {c c' : Controller}
  {l : List CtlReq} {x : Observed}

/-! ## Frames of the second half -/

section Frames

variable {R : Controller → Controller → Prop} {C : CtlReq → Prop}

/-- The early start moves the pending start only. -/
theorem startDistribution_frame
    (hR : ∀ c source since,
      R c { c with distributionPendingSource := source, distributionPendingSince := since })
    (hset : ∀ phase s error, C (.setRoutingState .start phase s error))
    (hprepare : ∀ s, C (.prepareDistribution .start s)) (capable : Bool) :
    (startDistribution cfg cb now x capable).Frame R C := by
  have hrefl : ∀ c, R c c := fun c => hR c c.distributionPendingSource c.distributionPendingSince
  unfold startDistribution
  split
  · refine Frame.bind (frame_get hrefl) fun c => frame_when fun _ => ?_
    refine Frame.bind (frame_modify fun c => hR c _ _) fun _ => ?_
    refine Frame.bind (frame_ask (hset _ _ _)) fun _ => frame_when fun _ => ?_
    refine Frame.bind (frame_attempt (frame_callback (hprepare _))) fun _ => frame_when fun _ => ?_
    exact frame_modify fun c => hR c c.distributionPendingSource _
  · split
    · exact frame_ask (hset _ _ _)
    · exact frame_when fun _ => frame_modify fun c => hR c _ _

/-- The decision asks for the generation, and moves nothing. -/
theorem decideRoute_frame (hrefl : ∀ c, R c c) (hgeneration : C .routingGeneration)
    (capable streamHealthy : Bool) : (decideRoute x capable streamHealthy).Frame R C :=
  Frame.bind (frame_ask hgeneration) fun _ => Frame.bind (frame_get hrefl) fun _ => trivial

/-- The hand-over releases at most. -/
theorem releaseIfLeaving_frame (hrefl : ∀ c, R c c) (hrelease : C .releaseDistribution)
    (desired : Route) : (releaseIfLeaving cb desired).Frame R C := by
  refine Frame.bind (frame_get hrefl) fun c => ?_
  split
  · exact Frame.bind (frame_when fun _ =>
      Frame.bind (frame_attempt (frame_callback hrelease)) fun _ => trivial) fun _ => trivial
  · trivial

/-- The entry prepares at most. -/
theorem enterDistribution_frame (hrefl : ∀ c, R c c)
    (hprepare : ∀ s, C (.prepareDistribution .enter s)) (desired : Route) :
    (enterDistribution cb x desired).Frame R C := by
  refine Frame.bind (frame_get hrefl) fun c => ?_
  split
  · refine Frame.bind (frame_exceptException (frame_callback (hprepare _)) trivial) fun prepared => ?_
    split <;> trivial
  · trivial

/-- The calls that hand a route over. -/
theorem applyRoute_frame {desired : Route} (hrefl : ∀ c, R c c)
    (hreconcile : C (.routerReconcile desired)) (happly : C (.routerApply .apply desired))
    (houtput : C (.activateOutput .apply)) (hroute : C (.activateRoute desired))
    (hfallback : C (.routerApply .fallback .idle)) : (applyRoute cb x desired).Frame R C := by
  refine Frame.bind (frame_get hrefl) fun c => frame_exceptException ?_ ?_
  · refine Frame.bind (frame_when fun _ => frame_callback hreconcile) fun _ => ?_
    refine Frame.bind (frame_when fun _ => frame_callback happly) fun _ => ?_
    refine Frame.bind (frame_when fun _ =>
      Frame.bind (frame_attempt (frame_callback houtput)) fun _ => trivial) fun _ => ?_
    exact Frame.bind (frame_when fun _ =>
      Frame.bind (frame_attempt (frame_callback hroute)) fun _ => trivial) fun _ => trivial
  · exact Frame.bind (frame_attempt (frame_callback hfallback)) fun _ => trivial

/-- The publication moves the route. -/
theorem publishStatus_frame (hR : ∀ c route, R c { c with route := some route })
    (hset : ∀ s, C (.setRoutingState .finish .stable s none)) (hstatus : ∀ st, C (.setStatus st))
    (route : Route) : (publishStatus x route).Frame R C := by
  refine Frame.bind (frame_modify fun c => hR c route) fun _ => ?_
  refine Frame.bind (frame_when fun _ => frame_ask (hset _)) fun _ => ?_
  refine Frame.bind (frame_when fun _ => frame_ask (hset _)) fun _ => ?_
  exact Frame.bind (frame_ask (hstatus _)) fun _ => trivial

end Frames

theorem prepares_of_observation {q : CtlReq} (h : q.observation = true) : q.prepares = none := by
  cases q <;> first | rfl | nomatch h

theorem prepares_of_question {q : CtlReq} (h : q.question = true) : q.prepares = none := by
  cases q <;> first | rfl | nomatch h

/-- The early preparation depends on the pending timer only. -/
theorem SameRoute.shouldPrepare (h : SameRoute c c') (s : Source) :
    shouldPrepare cfg c' s now = shouldPrepare cfg c s now := by
  rw [Controller.shouldPrepare, Controller.shouldPrepare, h.2.1, h.2.2]

/-! ## Preparing -/

/-- Whether the second half makes the early `prepare_distribution` call. -/
def startsEarly (cfg : Config) (cb : Callbacks) (now : ℚ) (c : Controller) (x : Observed)
    (capable : Bool) : Bool :=
  x.required && !x.available && capable && x.canStart && shouldPrepare cfg c x.selected now
    && cb.prepareDistribution

/-- Where distribution is available nothing starts early. -/
theorem startsEarly_of_available {capable : Bool} (ha : x.available = true) :
    startsEarly cfg cb now c x capable = false := by
  simp [startsEarly, ha]

theorem eval_setRoutingState (site : Site) (phase : RoutingPhase) (s : Source)
    (error : Option String) (c : Controller) :
    eval o (setRoutingState site phase s error) c =
      (.ok (), c, [.setRoutingState site phase s error]) := rfl

/-- The early start, when it returns. -/
theorem startDistribution_ok {capable : Bool} {r : Unit}
    (h : eval o (startDistribution cfg cb now x capable) c = (.ok r, c', l)) :
    c'.route = c.route ∧ .releaseDistribution ∉ l ∧ ∀ last,
      lastPrepared last l = if startsEarly cfg cb now c x capable then some x.selected else last := by
  unfold startDistribution at h
  unfold startsEarly
  cases hstart : x.required && !x.available && capable && x.canStart with
  | true =>
    rw [hstart, if_pos rfl] at h
    obtain ⟨_, _, _, _, hget, hwhen, rfl⟩ := eval_bind_ok h
    simp only [eval_get, Prod.mk.injEq, Except.ok.injEq] at hget
    obtain ⟨rfl, rfl, rfl⟩ := hget
    rw [eval_when] at hwhen
    cases hs : shouldPrepare cfg c x.selected now with
    | false =>
      simp only [hs, Bool.false_eq_true, ↓reduceIte, Prod.mk.injEq] at hwhen
      obtain ⟨-, rfl, rfl⟩ := hwhen
      simp
    | true =>
      rw [hs, if_pos rfl] at hwhen
      obtain ⟨_, _, _, _, hset, hstate, rfl⟩ := eval_bind_ok hwhen
      simp only [eval_modify, Prod.mk.injEq] at hset
      obtain ⟨-, rfl, rfl⟩ := hset
      obtain ⟨_, _, _, _, hrouting, hprepare, rfl⟩ := eval_bind_ok hstate
      rw [eval_setRoutingState, Prod.mk.injEq, Prod.mk.injEq] at hrouting
      obtain ⟨-, rfl, rfl⟩ := hrouting
      rw [eval_when] at hprepare
      cases hp : cb.prepareDistribution with
      | false =>
        simp only [hp, Bool.false_eq_true, ↓reduceIte, Prod.mk.injEq] at hprepare
        obtain ⟨-, rfl, rfl⟩ := hprepare
        simp [CtlReq.prepares]
      | true =>
        rw [hp, if_pos rfl] at hprepare
        obtain ⟨prepared, _, _, _, hcall, hlast, rfl⟩ := eval_bind_ok hprepare
        obtain ⟨rfl, rfl, -⟩ :=
          attempt_ok (q := .prepareDistribution .start x.selected) (f := fun a => a) hcall
        cases prepared <;> simp at hlast <;> simp [← hlast.1, hlast.2, CtlReq.prepares]
  | false =>
    rw [hstart, if_neg Bool.false_ne_true] at h
    split at h
    · rw [eval_setRoutingState, Prod.mk.injEq, Prod.mk.injEq] at h
      obtain ⟨-, rfl, rfl⟩ := h
      simp [CtlReq.prepares]
    · rw [eval_when, eval_modify] at h
      split at h
      all_goals
        simp only [Prod.mk.injEq] at h
        obtain ⟨-, rfl, rfl⟩ := h
        simp

/-! ## Deciding -/

/-- The route the second half decides on, before any hand-over. -/
def decided (route : Option Route) (x : Observed) (capable streamHealthy : Bool)
    (generation : Nat) : Route :=
  latchedRoute route
    (reduceRouting x.outputMode.target
      (observation x.selected x.available x.maPlaying capable generation) generation
      ((route.map Route.distributed).getD false)).route
    x.selected x.bluetoothActive x.phonoActive capable streamHealthy x.available

/-- The decision, when it returns. -/
theorem decideRoute_ok {capable healthy : Bool} {r : Route}
    (h : eval o (decideRoute x capable healthy) c = (.ok r, c', l)) :
    r = decided c.route x capable healthy (o .routingGeneration) ∧ c = c' ∧
      l = [.routingGeneration] := by
  simp only [decideRoute, eval_bind, eval_ask, eval_get, eval_pure, Prod.mk.injEq,
    Except.ok.injEq] at h
  exact ⟨h.1.symm, h.2.1, h.2.2.symm⟩

/-- The reducer confirms the selected source exactly when distribution is available. -/
theorem distributionConfirmed_observation (s : Source) (available maPlaying capable : Bool)
    (g : Nat) :
    distributionConfirmed (observation s available maPlaying capable g) g =
      (available && (s == .phono || s == .bluetooth)) := by
  cases s <;> cases available <;> simp [distributionConfirmed, observation]

/-- The route without latches: Downstairs exactly for an available, selected, required source. -/
theorem reduceRouting_observation (x : Observed) (capable b : Bool) (g : Nat) :
    (reduceRouting x.outputMode.target
      (observation x.selected x.available x.maPlaying capable g) g b).route =
      if x.required && x.available then x.selected.distributedRoute
      else if x.selected = .none then (if x.maPlaying then .maPlayback else .idle)
      else x.selected.localRoute := by
  rw [reduceRouting_route, distributionConfirmed_observation]
  have hsel : x.selected = .phono ∨ x.selected = .bluetooth ∨ x.selected = .none := by
    unfold Observed.selected selectedSource
    cases x.phonoSignalPresent <;> cases x.bluetoothActive <;> cases x.phonoActive <;> simp
  rcases hsel with hs | hs | hs <;> cases hm : x.outputMode <;> cases x.available <;>
    simp [hs, hm, observation, Observed.required, PhonoOutputMode.target]

/-- When the second half decides to distribute, and for whom. -/
theorem decided_distributed {route : Option Route} {capable healthy : Bool} {g : Nat}
    (h : (decided route x capable healthy g).distributed = true) :
    (route = some .distributedBluetooth ∧ x.bluetoothActive = true ∧ x.phonoActive = false ∧
        capable = true ∧ healthy = true ∧
        decided route x capable healthy g = .distributedBluetooth) ∨
    (x.available = true ∧ route = some .distributedPhono ∧ x.selected = .phono ∧
        decided route x capable healthy g = .distributedPhono) ∨
    (x.required = true ∧ x.available = true ∧
        decided route x capable healthy g = x.selected.distributedRoute) := by
  unfold decided latchedRoute at h ⊢
  split at h
  · rename_i hlatch
    rw [if_pos hlatch]
    simp only [Bool.and_eq_true, beq_iff_eq, Bool.not_eq_true'] at hlatch
    exact .inl ⟨hlatch.1.1.1.1, hlatch.1.1.1.2, hlatch.1.1.2, hlatch.1.2, hlatch.2, rfl⟩
  · rename_i hlatch
    rw [if_neg hlatch]
    split at h
    · rename_i hphono
      rw [if_pos hphono]
      simp only [Bool.and_eq_true, beq_iff_eq] at hphono
      exact .inr (.inl ⟨hphono.1.1, hphono.1.2, hphono.2, rfl⟩)
    · rename_i hphono
      rw [if_neg hphono]
      rw [reduceRouting_observation] at h ⊢
      cases hra : x.required && x.available with
      | true =>
        rw [if_pos rfl]
        rw [Bool.and_eq_true] at hra
        exact .inr (.inr ⟨hra.1, hra.2, rfl⟩)
      | false =>
        rw [hra, if_neg Bool.false_ne_true] at h
        split at h
        · split at h <;> cases h
        · rw [Source.localRoute_distributed] at h
          cases h

/-- The selected source while Bluetooth plays and no phono activity is held. -/
theorem selected_of_bluetooth (hb : x.bluetoothActive = true) (hp : x.phonoActive = false) :
    x.selected = if x.phonoSignalPresent then .phono else .bluetooth := by
  rw [Observed.selected, hb, hp]
  cases x.phonoSignalPresent <;> rfl

/-- The Bluetooth latch decides by itself. -/
theorem decided_of_latch {capable healthy : Bool} {g : Nat}
    (hb : x.bluetoothActive = true) (hp : x.phonoActive = false) (hc : capable = true)
    (hh : healthy = true) :
    decided (some .distributedBluetooth) x capable healthy g = .distributedBluetooth := by
  simp [decided, latchedRoute, hb, hp, hc, hh]

/-- Without the latch, a required and available Bluetooth is distributed. -/
theorem decided_of_bluetooth {route : Option Route} {capable healthy : Bool}
    {g : Nat} (hr : route ≠ some .distributedBluetooth) (hs : x.selected = .bluetooth)
    (hreq : x.required = true) (ha : x.available = true) :
    decided route x capable healthy g = .distributedBluetooth := by
  rw [decided, latchedRoute, reduceRouting_observation]
  simp [hr, hs, hreq, ha, Source.distributedRoute]

/-- Distributed phono stays selected exactly while it is available. -/
theorem decided_phono_iff {capable healthy : Bool} {g : Nat} (hs : x.selected = .phono) :
    decided (some .distributedPhono) x capable healthy g = .distributedPhono ↔
      x.available = true := by
  rw [decided, latchedRoute, reduceRouting_observation]
  cases x.available <;> simp [hs, Source.localRoute]

/-- Distributed Bluetooth stays while it is latched, or while it is required and available. -/
theorem decided_bluetooth_iff {capable : Bool} {g : Nat} (hs : x.selected = .bluetooth) :
    decided (some .distributedBluetooth) x capable true g = .distributedBluetooth ↔
      (x.phonoActive = false ∧ capable = true) ∨
        (x.outputMode = .downstairs ∧ x.available = true) := by
  have hb : x.bluetoothActive = true := by
    by_contra hno
    rw [Observed.selected, selectedSource] at hs
    cases hsig : x.phonoSignalPresent <;> cases hp : x.phonoActive <;> simp [hsig, hp, hno] at hs
  rw [decided, latchedRoute, reduceRouting_observation]
  cases x.phonoActive <;> cases capable <;> cases x.available <;> cases hm : x.outputMode <;>
    simp [hs, hb, hm, Observed.required, Source.localRoute, Source.distributedRoute]

/-! ## Handing over -/

/-- The route leaves distribution. -/
def leaves (route : Option Route) (desired : Route) : Bool :=
  (route.map Route.distributed).getD false && !desired.distributed

/-- The route after the hand-over of the session: the live input that was just stopped may still
    be reported as MA playback. -/
def handedOver (route : Option Route) (desired : Route) : Route :=
  if leaves route desired && desired = .maPlayback then .idle else desired

/-- A distributed route is handed over as it is. -/
theorem handedOver_distributed {route : Option Route} {d : Route} (hd : d.distributed = true) :
    handedOver route d = d := by
  unfold handedOver
  exact if_neg (by simp [leaves, hd])

/-- The hand-over makes no route distributed. -/
theorem distributed_of_handedOver {route : Option Route} {d : Route}
    (h : (handedOver route d).distributed = true) : d.distributed = true := by
  unfold handedOver at h
  split at h
  · exact nomatch h
  · exact h

/-- The hand-over, when it returns. -/
theorem releaseIfLeaving_ok {desired r : Route}
    (h : eval o (releaseIfLeaving cb desired) c = (.ok r, c', l)) :
    c = c' ∧ r = handedOver c.route desired ∧
      l = if leaves c.route desired && cb.releaseDistribution then [.releaseDistribution] else [] := by
  obtain ⟨_, _, _, _, hget, hrest, rfl⟩ := eval_bind_ok h
  simp only [eval_get, Prod.mk.injEq, Except.ok.injEq] at hget
  obtain ⟨rfl, rfl, rfl⟩ := hget
  unfold handedOver leaves
  split at hrest
  · rename_i hleave
    obtain ⟨_, _, _, _, hwhen, hpure, rfl⟩ := eval_bind_ok hrest
    simp only [eval_pure, Prod.mk.injEq, Except.ok.injEq] at hpure
    obtain ⟨rfl, rfl, rfl⟩ := hpure
    rw [eval_when] at hwhen
    cases hrel : cb.releaseDistribution with
    | false =>
      simp only [hrel, Bool.false_eq_true, ↓reduceIte, Prod.mk.injEq] at hwhen
      obtain ⟨-, rfl, rfl⟩ := hwhen
      simp [hleave]
    | true =>
      rw [hrel, if_pos rfl] at hwhen
      obtain ⟨_, _, _, _, hcall, hlast, rfl⟩ := eval_bind_ok hwhen
      obtain ⟨rfl, rfl, -⟩ := attempt_ok (q := .releaseDistribution) (f := fun a => a) hcall
      simp only [eval_pure, Prod.mk.injEq] at hlast
      obtain ⟨-, rfl, rfl⟩ := hlast
      simp [hleave]
  · rename_i hleave
    simp only [eval_pure, Prod.mk.injEq, Except.ok.injEq] at hrest
    obtain ⟨rfl, rfl, rfl⟩ := hrest
    simp [hleave]

/-- Whether the hand-over to `desired` is prepared. -/
def preparesEntry (cb : Callbacks) (route : Option Route) (x : Observed) (desired : Route) :
    Bool :=
  desired.distributed && route != some desired && cb.prepareDistribution && x.canStart

/-- It does not change what is to be prepared. -/
theorem preparesEntry_handedOver {route : Option Route} {d : Route} :
    preparesEntry cb route x (handedOver route d) = preparesEntry cb route x d := by
  unfold handedOver
  split
  · rename_i hma
    simp only [Bool.and_eq_true, decide_eq_true_eq] at hma
    simp [preparesEntry, hma.2, Route.distributed]
  · rfl

/-- The route of the local chooser, used when an entry could not be prepared. -/
def fallbackRoute (x : Observed) : Route :=
  chooseRoute ⟨x.selected == .phono, x.selected == .bluetooth, x.maPlaying, false, x.outputMode⟩

/-- The route the entry leads to: `desired`, or the local one when its preparation failed. -/
def enteredRoute (cb : Callbacks) (o : Oracle) (route : Option Route) (x : Observed)
    (desired : Route) : Route :=
  if preparesEntry cb route x desired
      && !Sensed.truth (o (.prepareDistribution .enter (routeSource desired))) then
    fallbackRoute x
  else desired

/-- The entry, when it returns. -/
theorem enterDistribution_ok {desired r : Route}
    (h : eval o (enterDistribution cb x desired) c = (.ok r, c', l)) :
    c = c' ∧ r = enteredRoute cb o c.route x desired ∧
      l = if preparesEntry cb c.route x desired then [.prepareDistribution .enter (routeSource desired)]
        else [] := by
  obtain ⟨_, _, _, _, hget, hrest, rfl⟩ := eval_bind_ok h
  simp only [eval_get, Prod.mk.injEq, Except.ok.injEq] at hget
  obtain ⟨rfl, rfl, rfl⟩ := hget
  unfold enteredRoute fallbackRoute
  split at hrest
  · rename_i henter
    have henter' : preparesEntry cb c.route x desired = true := henter
    rw [henter']
    obtain ⟨prepared, c₁, l₁, _, hcall, hpure, rfl⟩ := eval_bind_ok hrest
    have hcall' : prepared = Sensed.truth (o (.prepareDistribution .enter (routeSource desired))) ∧
        c = c₁ ∧ l₁ = [.prepareDistribution .enter (routeSource desired)] := by
      rw [eval_exceptException] at hcall
      have hans := eval_callback (o := o) (.prepareDistribution .enter (routeSource desired))
        (fun a => a) c
      rcases ha : o (.prepareDistribution .enter (routeSource desired)) with (_ | _) | b
      all_goals
        rw [ha] at hans
        simp only [hans] at hcall
        simp at hcall
      · exact ⟨hcall.1, hcall.2.1, hcall.2.2.symm⟩
      · exact ⟨hcall.1.symm, hcall.2.1, hcall.2.2.symm⟩
    obtain ⟨hprepared, rfl, rfl⟩ := hcall'
    rw [← hprepared]
    cases prepared with
    | true =>
      simp only [↓reduceIte, eval_pure, Prod.mk.injEq, Except.ok.injEq] at hpure
      obtain ⟨rfl, rfl, rfl⟩ := hpure
      simp
    | false =>
      simp only [Bool.false_eq_true, ↓reduceIte, eval_pure, Prod.mk.injEq, Except.ok.injEq] at hpure
      obtain ⟨rfl, rfl, rfl⟩ := hpure
      simp
  · rename_i henter
    have henter' : ¬ preparesEntry cb c.route x desired = true := henter
    simp only [eval_pure, Prod.mk.injEq, Except.ok.injEq] at hrest
    obtain ⟨rfl, rfl, rfl⟩ := hrest
    simp [henter']

/-- The final route of a tick is distributed only if it is the one decided on. -/
theorem desired_distributed {route : Option Route} {d desired : Route}
    (hdes : desired = enteredRoute cb o route x (handedOver route d))
    (h : desired.distributed = true) : desired = d ∧ d.distributed = true := by
  rw [hdes] at h ⊢
  unfold enteredRoute at h ⊢
  split at h
  · rw [fallbackRoute, chooseRoute_not_distributed] at h
    exact nomatch h
  · rename_i hkeep
    rw [if_neg hkeep]
    have hd := distributed_of_handedOver h
    exact ⟨handedOver_distributed hd, hd⟩

/-- A route that is kept is handed over as it is. -/
theorem desired_of_distributed {route : Option Route} {d desired : Route}
    (hdes : desired = enteredRoute cb o route x (handedOver route d))
    (hd : d.distributed = true) (hp : preparesEntry cb route x d = false) : desired = d := by
  rw [hdes, handedOver_distributed hd, enteredRoute, hp]
  rfl

/-! ## Applying -/

/-- The router takes the desired route: it reconciles a route it already has, applies a new one,
    and has nothing to do for a local phono route that was switched on early. -/
def routerAccepts (cb : Callbacks) (o : Oracle) (route : Option Route) (x : Observed)
    (desired : Route) : Bool :=
  if route = some desired then !cb.reconcile || went (o (.routerReconcile desired))
  else (x.localAudioPreactivated && desired == .localPhono) || went (o (.routerApply .apply desired))

/-- Among the calls `l`, one that hands a route to the router failed. -/
def RouterFailed (o : Oracle) (l : List CtlReq) : Prop :=
  ∃ r, (.routerReconcile r ∈ l ∧ went (o (.routerReconcile r)) = false) ∨
    (.routerApply .apply r ∈ l ∧ went (o (.routerApply .apply r)) = false)

theorem RouterFailed.mono {l l' : List CtlReq} (h : RouterFailed o l) (hl : ∀ q ∈ l, q ∈ l') :
    RouterFailed o l' := by
  obtain ⟨r, ⟨hr, hfail⟩ | ⟨hr, hfail⟩⟩ := h
  · exact ⟨r, .inl ⟨hl _ hr, hfail⟩⟩
  · exact ⟨r, .inr ⟨hl _ hr, hfail⟩⟩

/-- A conditional call that may raise, and did: it was made. -/
theorem when_error {b : Bool} {q : CtlReq} {f : CtlRep q → Except Exc Unit} {e : Exc}
    (h : eval o (when b (ask q >>= fun a => ofExcept (f a))) c = (.error e, c', l)) :
    c = c' ∧ b = true ∧ f (o q) = .error e ∧ l = [q] := by
  rw [eval_when] at h
  cases b
  · simp at h
  · rw [if_pos rfl, eval_callback] at h
    simp only [Prod.mk.injEq] at h
    exact ⟨h.2.1, rfl, h.1, h.2.2.symm⟩

/-- An optional call that went through, or was not made. -/
theorem when_ok {b : Bool} {q : CtlReq} {f : CtlRep q → Except Exc Unit} {u : Unit}
    (h : eval o (when b (ask q >>= fun a => ofExcept (f a))) c = (.ok u, c', l)) :
    c = c' ∧ (b = true → f (o q) = .ok ()) := by
  rw [eval_when] at h
  cases b
  · simp only [Bool.false_eq_true, ↓reduceIte, Prod.mk.injEq] at h
    exact ⟨h.2.1, fun hb => nomatch hb⟩
  · rw [if_pos rfl, eval_callback] at h
    simp only [Prod.mk.injEq] at h
    exact ⟨h.2.1, fun _ => h.1⟩

/-- A conditional call under `attempt` never ends in an `Exception`, and keeps the state. -/
theorem when_attempt {b : Bool} {q : CtlReq} {f : CtlRep q → Except Exc Unit}
    {r : Except Exc Unit}
    (h : eval o (when b (do let _ ← attempt (ask q >>= fun a => ofExcept (f a)))) c = (r, c', l)) :
    c = c' ∧ ∀ t, r ≠ .error (.exception t) := by
  rw [eval_when] at h
  cases b
  · simp only [Bool.false_eq_true, ↓reduceIte, Prod.mk.injEq] at h
    exact ⟨h.2.1, fun t ht => by simp [← h.1] at ht⟩
  · rw [if_pos rfl, eval_bind, eval_attempt, eval_callback] at h
    rcases hf : f (o q) with (_ | _) | a
    all_goals
      rw [hf] at h
      simp at h
      exact ⟨h.2.1, fun t ht => by simp [← h.1] at ht⟩

/-- The calls under the handler of `applyRoute`: the router's two, then two that are attempted. -/
def routeCalls (cb : Callbacks) (x : Observed) (c : Controller) (desired : Route) : Tick Route := do
  when (c.route == some desired && cb.reconcile)
    (ask (.routerReconcile desired) >>= ofExcept)
  when (c.route != some desired && !(x.localAudioPreactivated && desired == .localPhono))
    (ask (.routerApply .apply desired) >>= ofExcept)
  when (desired != .idle && (c.route == none || c.route == some .idle)
      && cb.activateOutput && !x.outputPreactivated) do
    let _ ← attempt (ask (.activateOutput .apply) >>= ofExcept)
  when (c.route != some desired && cb.activateRoute) do
    let _ ← attempt (ask (.activateRoute desired) >>= ofExcept)
  pure desired

/-- The error path around the calls that hand a route over. -/
theorem applyRoute_eq (desired : Route) :
    applyRoute cb x desired = (get >>= fun c => exceptException (routeCalls cb x c desired) (do
      let _ ← attempt (ask (.routerApply .fallback .idle) >>= ofExcept)
      pure .idle)) := rfl

/-- The calls went through: both router calls did. -/
theorem routeCalls_ok {desired r : Route}
    (h : eval o (routeCalls cb x c desired) c = (.ok r, c', l)) :
    c = c' ∧ r = desired ∧ routerAccepts cb o c.route x desired = true := by
  obtain ⟨_, c₁, _, _, hcall₁, hrest₁, rfl⟩ := eval_bind_ok h
  obtain ⟨rfl, hrec⟩ := when_ok (q := .routerReconcile desired) (f := fun a => a) hcall₁
  obtain ⟨_, c₂, _, _, hcall₂, hrest₂, rfl⟩ := eval_bind_ok hrest₁
  obtain ⟨rfl, happ⟩ := when_ok (q := .routerApply .apply desired) (f := fun a => a) hcall₂
  obtain ⟨_, c₃, _, _, hcall₃, hrest₃, rfl⟩ := eval_bind_ok hrest₂
  obtain ⟨rfl, -⟩ := when_attempt (q := .activateOutput .apply) (f := fun a => a) hcall₃
  obtain ⟨_, c₄, _, _, hcall₄, hrest₄, rfl⟩ := eval_bind_ok hrest₃
  obtain ⟨rfl, -⟩ := when_attempt (q := .activateRoute desired) (f := fun a => a) hcall₄
  simp only [eval_pure, Prod.mk.injEq, Except.ok.injEq] at hrest₄
  obtain ⟨rfl, rfl, rfl⟩ := hrest₄
  refine ⟨rfl, rfl, ?_⟩
  unfold routerAccepts
  by_cases hr : c.route = some desired
  · cases hcb : cb.reconcile
    · simp [hr]
    · simp [hr, hrec (by simp [hr, hcb]), went]
  · cases hpre : x.localAudioPreactivated && desired == .localPhono
    · simp [hr, happ (by simp [hr, hpre]), went]
    · simp [hr]

/-- An exception of the calls comes from the router. -/
theorem routeCalls_error {desired : Route} {e : String}
    (h : eval o (routeCalls cb x c desired) c = (.error (.exception e), c', l)) :
    c = c' ∧ routerAccepts cb o c.route x desired = false ∧ RouterFailed o l := by
  unfold routerAccepts
  rcases eval_bind_error h with hcall | ⟨_, c₁, _, _, hcall₁, hrest₁, hl₁⟩
  · obtain ⟨rfl, hb, herr, rfl⟩ :=
      when_error (q := .routerReconcile desired) (f := fun a => a) hcall
    simp only [Bool.and_eq_true, beq_iff_eq] at hb
    have hfail : went (o (.routerReconcile desired)) = false := by simp [herr, went]
    exact ⟨rfl, by simp [hb, hfail], desired, .inl ⟨List.mem_singleton.mpr rfl, hfail⟩⟩
  obtain ⟨rfl, -⟩ := when_ok (q := .routerReconcile desired) (f := fun a => a) hcall₁
  rcases eval_bind_error hrest₁ with hcall | ⟨_, c₂, _, _, hcall₂, hrest₂, -⟩
  · obtain ⟨rfl, hb, herr, rfl⟩ :=
      when_error (q := .routerApply .apply desired) (f := fun a => a) hcall
    simp only [Bool.and_eq_true, bne_iff_ne, Bool.not_eq_true'] at hb
    have hfail : went (o (.routerApply .apply desired)) = false := by simp [herr, went]
    refine ⟨rfl, by simp [hb, hfail], desired, .inr ⟨?_, hfail⟩⟩
    rw [hl₁]
    exact List.mem_append_right _ (List.mem_singleton.mpr rfl)
  obtain ⟨rfl, -⟩ := when_ok (q := .routerApply .apply desired) (f := fun a => a) hcall₂
  rcases eval_bind_error hrest₂ with hcall | ⟨_, c₃, _, _, hcall₃, hrest₃, -⟩
  · exact absurd rfl ((when_attempt (q := .activateOutput .apply) (f := fun a => a) hcall).2 _)
  obtain ⟨rfl, -⟩ := when_attempt (q := .activateOutput .apply) (f := fun a => a) hcall₃
  rcases eval_bind_error hrest₃ with hcall | ⟨_, c₄, _, _, hcall₄, hrest₄, -⟩
  · exact absurd rfl ((when_attempt (q := .activateRoute desired) (f := fun a => a) hcall).2 _)
  simp at hrest₄

/-- The hand-over to the router, when it returns. -/
theorem applyRoute_ok {desired r : Route}
    (h : eval o (applyRoute cb x desired) c = (.ok r, c', l)) :
    c = c' ∧ (r = if routerAccepts cb o c.route x desired then desired else .idle) ∧
      (routerAccepts cb o c.route x desired = false → RouterFailed o l) := by
  rw [applyRoute_eq] at h
  obtain ⟨_, _, _, _, hget, hrest, rfl⟩ := eval_bind_ok h
  simp only [eval_get, Prod.mk.injEq, Except.ok.injEq] at hget
  obtain ⟨rfl, rfl, rfl⟩ := hget
  rw [eval_exceptException] at hrest
  split at hrest
  · rename_i hcalls
    simp only [Prod.mk.injEq, Except.ok.injEq] at hrest
    obtain ⟨rfl, rfl, rfl⟩ := hrest
    obtain ⟨rfl, rfl, hacc⟩ := routeCalls_ok hcalls
    exact ⟨rfl, (if_pos hacc).symm, fun hno => nomatch hacc.symm.trans hno⟩
  · rename_i hcalls
    obtain ⟨rfl, hrefused, hfailed⟩ := routeCalls_error hcalls
    simp only [Prod.mk.injEq] at hrest
    obtain ⟨hr, hc, rfl⟩ := hrest
    have hfailed' := hfailed.mono fun q hq =>
      List.mem_append_left (eval o (do
        let _ ← attempt (ask (.routerApply .fallback .idle) >>= ofExcept)
        pure Route.idle) c).2.2 hq
    rw [hrefused, if_neg Bool.false_ne_true]
    rw [eval_bind, eval_attempt, eval_callback] at hr hc
    rcases hf : o (.routerApply .fallback .idle) with (_ | _) | a
    all_goals
      rw [hf] at hr hc
      simp at hr hc
    · exact ⟨hc, hr.symm, fun _ => hfailed'⟩
    · exact ⟨hc, hr.symm, fun _ => hfailed'⟩
  · simp at hrest

/-- Applying a route neither prepares nor releases. -/
theorem applyRoute_quiet (desired : Route) :
    (applyRoute cb x desired).Frame Eq
      fun q => q.prepares = none ∧ q ≠ .releaseDistribution :=
  applyRoute_frame (fun _ => rfl) ⟨rfl, CtlReq.noConfusion⟩ ⟨rfl, CtlReq.noConfusion⟩
    ⟨rfl, CtlReq.noConfusion⟩ ⟨rfl, CtlReq.noConfusion⟩ ⟨rfl, CtlReq.noConfusion⟩

/-! ## Publishing -/

/-- The requests of the last phase. -/
def published (x : Observed) (route : Route) (st : Status) : List CtlReq :=
  (if route.distributed then [.setRoutingState .finish .stable (routeSource route) none] else []) ++
    (if !route.distributed && x.outputMode == .local then
      [.setRoutingState .finish .stable .none none] else []) ++
    [.setStatus st]

/-- The publication: the new route, the routing state and the status. -/
theorem publishStatus_ok {route : Route} {st : Status}
    (h : eval o (publishStatus x route) c = (.ok st, c', l)) :
    c' = { c with route := some route } ∧ st.route = route ∧
      l = published x route st := by
  unfold publishStatus at h
  unfold published
  cases hd : route.distributed <;> cases hm : x.outputMode == .local <;>
    simp [eval_bind, hd, hm, eval_setRoutingState] at h <;>
    obtain ⟨rfl, rfl, rfl⟩ := h <;> simp

/-- It neither prepares nor releases. -/
theorem published_quiet {route : Route} {st : Status} :
    ∀ q ∈ published x route st, q.prepares = none ∧ q ≠ .releaseDistribution := by
  unfold published
  cases route.distributed <;> cases x.outputMode == .local <;> simp [CtlReq.prepares]

/-! ## The second half as a whole -/

/-- **The second half**: the route decided on is handed over, applied and published; what was
    prepared and released on the way. -/
theorem conclude_ok {st : Status} (h : eval o (conclude cfg cb now x) c = (.ok st, c', l)) :
    ∃ capable d desired,
      capable = (cb.distributionCapable && Sensed.truth (o (.distributionCapable x.selected))) ∧
      d = decided c.route x capable (Sensed.streamHealthy cb o) (o .routingGeneration) ∧
      desired = enteredRoute cb o c.route x (handedOver c.route d) ∧
      c'.route = some (if routerAccepts cb o c.route x desired then desired else .idle) ∧
      (∀ last, lastPrepared last l =
        if preparesEntry cb c.route x d then some (routeSource d)
        else if startsEarly cfg cb now c x capable then some x.selected else last) ∧
      (.releaseDistribution ∈ l ↔ (leaves c.route d && cb.releaseDistribution) = true) ∧
      st.route = (if routerAccepts cb o c.route x desired then desired else .idle) ∧
      (routerAccepts cb o c.route x desired = false → RouterFailed o l) ∧
      ∃ l₀, l = l₀ ++ published x st.route st := by
  obtain ⟨capable, c₁, l₁, _, h₁, k₁, rfl⟩ := eval_bind_ok h
  obtain ⟨hcap, rfl, hl₁⟩ := given_ok (q := .distributionCapable x.selected) (f := fun a => a) h₁
  obtain ⟨healthy, c₂, l₂, _, h₂, k₂, rfl⟩ := eval_bind_ok k₁
  obtain ⟨hheal, rfl, hl₂⟩ := given_ok (q := .distributionStreamHealthy) (f := fun a => a) h₂
  obtain ⟨_, c₃, l₃, _, h₃, k₃, rfl⟩ := eval_bind_ok k₂
  obtain ⟨d, c₄, l₄, _, h₄, k₄, rfl⟩ := eval_bind_ok k₃
  obtain ⟨hd, rfl, rfl⟩ := decideRoute_ok h₄
  obtain ⟨d₁, c₅, l₅, _, h₅, k₅, rfl⟩ := eval_bind_ok k₄
  obtain ⟨rfl, hd₁, rfl⟩ := releaseIfLeaving_ok h₅
  obtain ⟨desired, c₆, l₆, _, h₆, k₆, rfl⟩ := eval_bind_ok k₅
  obtain ⟨rfl, hdes, rfl⟩ := enterDistribution_ok h₆
  obtain ⟨route, c₇, l₇, _, h₇, k₇, rfl⟩ := eval_bind_ok k₆
  obtain ⟨rfl, hroute, hfailed⟩ := applyRoute_ok h₇
  have hl₇ := (eval_frame (applyRoute_quiet desired) h₇).2
  obtain ⟨rfl, hst, rfl⟩ := publishStatus_ok k₇
  have hc₃ : c₃.route = c.route := (startDistribution_ok h₃).1
  rw [hc₃] at hd hd₁ hdes hroute hfailed
  have hcap' : capable =
      (cb.distributionCapable && Sensed.truth (o (.distributionCapable x.selected))) := by
    rw [hcap]
    cases cb.distributionCapable <;> rfl
  have hheal' : healthy = Sensed.streamHealthy cb o := by
    rw [hheal, Sensed.streamHealthy]
    cases cb.distributionStreamHealthy <;> rfl
  -- turning MA playback into idle changes nothing for the preparation
  have hentry : preparesEntry cb c.route x d₁ = preparesEntry cb c.route x d ∧
      (preparesEntry cb c.route x d = true → routeSource d₁ = routeSource d) := by
    rw [hd₁]
    refine ⟨preparesEntry_handedOver, fun hp => ?_⟩
    simp only [preparesEntry, Bool.and_eq_true] at hp
    rw [handedOver_distributed hp.1.1.1]
  -- the remaining requests of the second half neither prepare nor release
  have hquiet₁ : ∀ q ∈ l₁, q.prepares = none ∧ q ≠ .releaseDistribution := by
    rw [hl₁]
    cases cb.distributionCapable <;> simp [CtlReq.prepares]
  have hquiet₂ : ∀ q ∈ l₂, q.prepares = none ∧ q ≠ .releaseDistribution := by
    rw [hl₂]
    cases cb.distributionStreamHealthy <;> simp [CtlReq.prepares]
  have hquiet₈ : ∀ q ∈ published x route st, q.prepares = none ∧ q ≠ .releaseDistribution :=
    published_quiet
  refine ⟨capable, d, desired, hcap', hheal' ▸ hd, ?_, ?_, ?_, ?_, ?_, ?_, ?_⟩
  · rw [← hd₁]
    exact hdes
  · rw [hroute]
  · intro last
    simp only [lastPrepared_append, lastPrepared_eq fun q hq => (hquiet₁ q hq).1,
      lastPrepared_eq fun q hq => (hquiet₂ q hq).1, lastPrepared_eq fun q hq => (hl₇ q hq).1,
      lastPrepared_eq fun q hq => (hquiet₈ q hq).1, (startDistribution_ok h₃).2.2, hc₃, hentry.1]
    cases hp : preparesEntry cb c.route x d with
    | true =>
      rw [if_pos rfl, if_pos rfl, hentry.2 hp]
      rfl
    | false => cases leaves c.route d && cb.releaseDistribution <;> simp [CtlReq.prepares]
  · have hno {l : List CtlReq} (hl : ∀ q ∈ l, q.prepares = none ∧ q ≠ .releaseDistribution) :
        .releaseDistribution ∉ l := fun hm => (hl _ hm).2 rfl
    rw [hc₃, hentry.1]
    simp only [List.mem_append, hno hquiet₁, hno hquiet₂, hno hl₇, hno hquiet₈,
      (startDistribution_ok h₃).2.1, false_or, or_false]
    cases leaves c.route d && cb.releaseDistribution <;> cases preparesEntry cb c.route x d <;> simp
  · rw [hst, hroute]
  · exact fun hno => (hfailed hno).mono fun q hq => by simp [hq]
  · rw [hst]
    simp only [← List.append_assoc]
    exact ⟨_, rfl⟩

/-! ## How a tick can fail -/

/-- No answer is a cancellation. -/
def Uncancelled : (q : CtlReq) → CtlRep q → Prop
  | .levelDbfs, r | .bluetoothLevelDbfs, r => r ≠ .error .cancelled
  | .bluetoothIsPlaying _, r | .consoleIsPlaying, r | .wholeHouseIsRequested, r
  | .distributionAvailable, r | .distributionCapable _, r | .distributionStreamHealthy, r
  | .prepareDistribution _ _, r => r ≠ .error .cancelled
  | .phonoOutputMode, r => r ≠ .error .cancelled
  | .inheritDistributedPhonoMode, r | .refreshPhonoOutputMode, r | .expirePhonoOutputMode, r
  | .releaseDistribution, r | .routerApply _ _, r | .routerReconcile _, r
  | .activateOutput _, r | .activateRoute _, r => r ≠ .error .cancelled
  | .latestPeaks, _ | .routingGeneration, _ | .setRoutingState _ _ _ _, _ | .setStatus _, _ => True

section Endings

/-- The answers `ok` against the errors `bad`: a cancelled answer is excluded, or it is harmless. -/
def Shielded (ok : (q : CtlReq) → CtlRep q → Prop) (bad : Exc → Prop) : Prop :=
  ∀ q a, ok q a → Uncancelled q a ∨ ¬ bad .cancelled

variable {ok : (q : CtlReq) → CtlRep q → Prop} {bad : Exc → Prop}

/-- A call ends as its answers do. -/
theorem callback_ends {α : Type} {Q : Except Exc α → Prop} {q : CtlReq}
    {f : CtlRep q → Except Exc α} (hq : ∀ a, ok q a → Q (f a)) :
    (ask q >>= fun a => ofExcept (f a)).Ends ok Q :=
  fun a ha => hq a ha

/-- A handler of `Exception` lets cancellations through only. -/
theorem exceptException_avoids {α : Type} {p h : Tick α}
    (hp : p.Ends ok fun r => r = .error .cancelled → ¬ bad .cancelled)
    (hh : h.Ends ok (Avoids bad)) : (exceptException p h).Ends ok (Avoids bad) := by
  refine Ends.catchError hp (fun b _ => avoids_ok bad b) fun e he => ?_
  cases e with
  | exception t => exact hh
  | cancelled =>
    intro e' he'
    rw [← Except.error.inj he']
    exact he rfl

/-- A call under `attempt` raises a cancellation only. -/
theorem attempt_avoids {α : Type} {q : CtlReq} {f : CtlRep q → Except Exc α}
    (hq : ∀ a, ok q a → f a = .error .cancelled → ¬ bad .cancelled) :
    (attempt (ask q >>= fun a => ofExcept (f a))).Ends ok (Avoids bad) := by
  refine exceptException_avoids ?_ (avoids_ok bad false)
  have hp : (ask q >>= fun a => ofExcept (f a)).Ends ok
      fun r => r = .error .cancelled → ¬ bad .cancelled := callback_ends hq
  exact hp.bind (fun _ _ h => nomatch h) fun e he h =>
    he (congrArg Except.error (Except.error.inj h))

theorem setRoutingState_avoids (site : Site) (phase : RoutingPhase) (s : Source)
    (error : Option String) :
    (setRoutingState site phase s error).Ends ok (Avoids bad) :=
  fun _ _ => avoids_ok bad _

variable (hs : Shielded ok bad)
include hs

/-- The early start does not raise. -/
theorem startDistribution_avoids (capable : Bool) :
    (startDistribution cfg cb now x capable).Ends ok (Avoids bad) := by
  unfold startDistribution
  split
  · intro c
    refine Ends.when (Ends.bind_avoids (fun _ => avoids_ok bad _) fun _ => ?_) (avoids_ok bad _)
    refine Ends.bind_avoids (setRoutingState_avoids _ _ _ _) fun _ => ?_
    refine Ends.when (Ends.bind_avoids (attempt_avoids ?_) fun prepared => ?_) (avoids_ok bad _)
    · exact fun a ha hc => (hs _ a ha).resolve_left fun h => h hc
    · exact Ends.when (fun _ => avoids_ok bad _) (avoids_ok bad _)
  · split
    · exact setRoutingState_avoids _ _ _ _
    · exact Ends.when (fun _ => avoids_ok bad _) (avoids_ok bad _)

/-- Neither does the release. -/
theorem releaseIfLeaving_avoids (desired : Route) :
    (releaseIfLeaving cb desired).Ends ok (Avoids bad) := by
  intro c
  show (ite _ _ _ : Tick Route).Ends ok (Avoids bad)
  split
  · refine Ends.bind_avoids (Ends.when (Ends.bind_avoids (attempt_avoids ?_) fun _ => ?_) ?_)
      fun _ => avoids_ok bad _
    · exact fun a ha hc => (hs .releaseDistribution a ha).resolve_left fun h => h hc
    · exact avoids_ok bad _
    · exact avoids_ok bad _
  · exact avoids_ok bad _

/-- Nor the entry. -/
theorem enterDistribution_avoids (desired : Route) :
    (enterDistribution cb x desired).Ends ok (Avoids bad) := by
  intro c
  show (ite _ _ _ : Tick Route).Ends ok (Avoids bad)
  split
  · refine Ends.bind_avoids (exceptException_avoids (callback_ends ?_) (avoids_ok bad _))
      fun prepared => ?_
    · exact fun a ha hc => (hs (.prepareDistribution _ _) a ha).resolve_left fun h => h hc
    · cases prepared <;> exact avoids_ok bad _
  · exact avoids_ok bad _

/-- Nor the router, whose errors have a path of their own. -/
theorem applyRoute_avoids (desired : Route) :
    (applyRoute cb x desired).Ends ok (Avoids bad) := by
  intro c
  refine exceptException_avoids ?_ ?_
  · -- the body may end in an `Exception`, which the handler takes
    refine Ends.mono (P := Avoids fun e => e = .cancelled ∧ bad .cancelled) ?_
      fun r hr hc hbad => hr _ hc ⟨rfl, hbad⟩
    refine Ends.bind_avoids (Ends.when (callback_ends fun a ha e he hb => ?_) (avoids_ok _ _))
      fun _ => ?_
    · exact (hs (.routerReconcile _) a ha).elim (fun h => h (hb.1 ▸ he)) fun h => h hb.2
    refine Ends.bind_avoids (Ends.when (callback_ends fun a ha e he hb => ?_) (avoids_ok _ _))
      fun _ => ?_
    · exact (hs (.routerApply _ _) a ha).elim (fun h => h (hb.1 ▸ he)) fun h => h hb.2
    refine Ends.bind_avoids (Ends.when (Ends.bind_avoids (attempt_avoids ?_) fun _ => ?_)
      (avoids_ok _ _)) fun _ => ?_
    · exact fun a ha hc hb => (hs (.activateOutput _) a ha).elim (fun h => h hc) fun h => h hb.2
    · exact avoids_ok _ _
    refine Ends.bind_avoids (Ends.when (Ends.bind_avoids (attempt_avoids ?_) fun _ => ?_)
      (avoids_ok _ _)) fun _ => ?_
    · exact fun a ha hc hb => (hs (.activateRoute _) a ha).elim (fun h => h hc) fun h => h hb.2
    · exact avoids_ok _ _
    exact avoids_ok _ _
  · refine Ends.bind_avoids (attempt_avoids ?_) fun _ => avoids_ok bad _
    exact fun a ha hc => (hs (.routerApply _ _) a ha).resolve_left fun h => h hc

/-- So everything after the two questions goes through. -/
theorem finishing_avoids (cfg : Config) (cb : Callbacks) (now : ℚ) (x : Observed)
    (capable healthy : Bool) :
    (do startDistribution cfg cb now x capable
        let decided ← decideRoute x capable healthy
        let desired ← releaseIfLeaving cb decided
        let desired ← enterDistribution cb x desired
        let route ← applyRoute cb x desired
        publishStatus x route : Tick Status).Ends ok (Avoids bad) := by
  refine Ends.bind_avoids (startDistribution_avoids hs capable) fun _ => ?_
  refine Ends.bind_avoids (fun _ _ _ => avoids_ok bad _) fun decided => ?_
  refine Ends.bind_avoids (releaseIfLeaving_avoids hs decided) fun desired => ?_
  refine Ends.bind_avoids (enterDistribution_avoids hs desired) fun desired => ?_
  refine Ends.bind_avoids (applyRoute_avoids hs desired) fun route => ?_
  refine Ends.bind_avoids (fun _ => avoids_ok bad _) fun _ => ?_
  refine Ends.bind_avoids (Ends.when (setRoutingState_avoids _ _ _ _) (avoids_ok bad _))
    fun _ => ?_
  refine Ends.bind_avoids (Ends.when (setRoutingState_avoids _ _ _ _) (avoids_ok bad _))
    fun _ => ?_
  exact fun _ _ => avoids_ok bad _

end Endings

/-- An `Exception` ends the second half only at its two questions, before anything is done. -/
theorem conclude_error {t : String}
    (h : eval o (conclude cfg cb now x) c = (.error (.exception t), c', l)) :
    c' = c ∧ ∀ q ∈ l, q.question = true := by
  have question {b : Bool} {q : CtlReq} {f : CtlRep q → Except Exc Bool}
      (hq : q.question = true) :
      (given b (ask q >>= fun a => ofExcept (f a)) false).Frame Eq fun q => q.question = true :=
    frame_given (frame_callback hq)
  rcases eval_bind_error h with hcap | ⟨capable, c₁, l₁, l₂, hcap, hrest, rfl⟩
  · obtain ⟨rfl, hl⟩ := eval_frame (question (q := .distributionCapable x.selected)
      (f := fun a => a) rfl) hcap
    exact ⟨rfl, hl⟩
  obtain ⟨rfl, hl₁⟩ := eval_frame (question (q := .distributionCapable x.selected)
    (f := fun a => a) rfl) hcap
  rcases eval_bind_error hrest with hheal | ⟨healthy, c₂, l₃, l₄, hheal, hfin, rfl⟩
  · obtain ⟨rfl, hl₂⟩ := eval_frame (question (q := .distributionStreamHealthy)
      (f := fun a => a) rfl) hheal
    exact ⟨rfl, fun q hq => (List.mem_append.mp hq).elim (hl₁ q) (hl₂ q)⟩
  · have hs : Shielded (fun _ _ => True) (fun e => e ≠ .cancelled) :=
      fun _ _ _ => .inr fun hne => hne rfl
    have hend := (finishing_avoids hs cfg cb now x capable healthy).eval (o := o)
      (fun _ => trivial) c₂
    rw [show eval o _ c₂ = _ from hfin] at hend
    exact absurd (fun hc => nomatch hc) (hend _ rfl)

section Uncancelled

/-- The program does not end in a cancellation, if no answer is one. -/
abbrev EndsUncancelled {α : Type} (p : Tick α) : Prop :=
  p.Ends Uncancelled (Avoids fun e => e = .cancelled)

theorem uncancelled_pure {α : Type} (a : α) : EndsUncancelled (pure a : Tick α) := avoids_ok _ a

theorem uncancelled_call {α : Type} {q : CtlReq} {f : CtlRep q → Except Exc α}
    (hq : ∀ a, Uncancelled q a → f a ≠ .error .cancelled) :
    EndsUncancelled (ask q >>= fun a => ofExcept (f a)) :=
  callback_ends fun a ha _ he hc => hq a ha (hc ▸ he)

theorem uncancelled_caught {α : Type} {p h : Tick α} (hp : EndsUncancelled p)
    (hh : EndsUncancelled h) : EndsUncancelled (exceptException p h) :=
  exceptException_avoids (hp.mono fun _ hr hc => hr _ hc) hh

theorem uncancelled_given {b d : Bool} {q : CtlReq} {f : CtlRep q → Except Exc Bool}
    (hq : ∀ a, Uncancelled q a → f a ≠ .error .cancelled) :
    EndsUncancelled (given b (ask q >>= fun a => ofExcept (f a)) d) := by
  cases b
  · exact avoids_ok _ _
  · exact uncancelled_call hq

theorem readLevel_uncancelled : EndsUncancelled readLevel :=
  uncancelled_caught
    (Ends.bind_avoids (uncancelled_call fun _ ha => ha) fun _ => uncancelled_pure _)
    (Ends.bind_avoids (fun _ => uncancelled_pure _) fun _ => uncancelled_pure _)

theorem senseActivity_uncancelled (captureOk : Bool) (level peak : ℚ) (transportPlaying : Bool) :
    EndsUncancelled (senseActivity cfg now captureOk level peak transportPlaying) := by
  refine Ends.bind_avoids (fun _ => uncancelled_pure _) fun c => ?_
  refine Ends.bind_avoids (Ends.when (fun _ => uncancelled_pure _) (uncancelled_pure _)) fun _ => ?_
  refine Ends.bind_avoids (Ends.when (fun _ => uncancelled_pure _) (uncancelled_pure _)) fun _ => ?_
  exact fun _ => uncancelled_pure _

theorem preactivate_uncancelled (signalPresent : Bool) :
    EndsUncancelled (preactivate cb signalPresent) := by
  refine Ends.bind_avoids (fun _ => uncancelled_pure _) fun c => ?_
  split
  · refine Ends.bind_avoids (attempt_avoids fun a ha hc => absurd hc ha) fun applied => ?_
    split
    · split
      · exact Ends.bind_avoids (attempt_avoids fun a ha hc => absurd hc ha)
          fun _ => uncancelled_pure _
      · exact uncancelled_pure _
    · exact uncancelled_pure _
  · exact uncancelled_pure _

theorem stickyMode_uncancelled (phonoActive : Bool) :
    EndsUncancelled (stickyMode cfg cb now phonoActive) := by
  refine Ends.bind_avoids (uncancelled_call fun _ ha => ha) fun mode => ?_
  intro c
  show (ite _ _ _ : Tick PhonoOutputMode).Ends Uncancelled _
  split
  · split
    · refine Ends.bind_avoids (fun _ => uncancelled_pure _) fun _ => ?_
      refine Ends.bind_avoids (Ends.when ?_ (uncancelled_pure _)) fun _ => uncancelled_pure _
      exact Ends.bind_avoids (uncancelled_call fun _ ha => ha) fun _ _ => uncancelled_pure _
    · split
      · exact fun _ => uncancelled_pure _
      · split
        · refine Ends.bind_avoids (Ends.when (uncancelled_call fun _ ha => ha)
            (uncancelled_pure _)) fun _ => ?_
          exact fun _ => uncancelled_pure _
        · exact uncancelled_pure _
  · exact fun _ => uncancelled_pure _

theorem senseBluetooth_uncancelled (signalPresent transportPlaying : Bool) :
    EndsUncancelled (senseBluetooth cb now signalPresent transportPlaying) := by
  unfold senseBluetooth
  split
  · refine Ends.bind_avoids (uncancelled_caught (Ends.bind_avoids (uncancelled_call fun _ ha => ha)
      fun _ => uncancelled_pure _) (uncancelled_pure _)) fun sample => ?_
    cases sample with
    | none => exact fun _ => uncancelled_pure _
    | some level =>
      refine Ends.bind_avoids (uncancelled_given fun _ ha => ha) fun ready => ?_
      refine Ends.bind_avoids (fun _ => uncancelled_pure _) fun _ => ?_
      refine Ends.bind_avoids (fun _ => uncancelled_pure _) fun detected => ?_
      exact Ends.bind_avoids (Ends.when (fun _ => uncancelled_pure _) (uncancelled_pure _))
        fun _ => uncancelled_pure _
  · exact Ends.bind_avoids (Ends.when (fun _ => uncancelled_pure _) (uncancelled_pure _))
      fun _ => uncancelled_pure _

/-- The first half is cancelled by a cancelled answer only. -/
theorem observe_uncancelled : EndsUncancelled (observe cfg cb now) := by
  refine Ends.bind_avoids readLevel_uncancelled fun ⟨captureOk, level⟩ => ?_
  refine Ends.bind_avoids (fun _ _ => uncancelled_pure _) fun peak => ?_
  refine Ends.bind_avoids (uncancelled_given fun _ ha => ha) fun transportPlaying => ?_
  refine Ends.bind_avoids (senseActivity_uncancelled captureOk level peak transportPlaying)
    fun ⟨phonoActive, signalPresent⟩ => ?_
  refine Ends.bind_avoids (preactivate_uncancelled signalPresent) fun ⟨_, _⟩ => ?_
  refine Ends.bind_avoids (uncancelled_caught (uncancelled_call fun _ ha => ha)
    (uncancelled_pure _)) fun maPlaying => ?_
  refine Ends.bind_avoids (uncancelled_call fun _ ha => ha) fun wholeHouse => ?_
  refine Ends.bind_avoids
    (fun _ => Ends.when (uncancelled_call fun _ ha => ha) (uncancelled_pure _)) fun _ => ?_
  refine Ends.bind_avoids (stickyMode_uncancelled phonoActive) fun mode => ?_
  refine Ends.bind_avoids (senseBluetooth_uncancelled signalPresent transportPlaying)
    fun ⟨_, _, _⟩ => ?_
  exact Ends.bind_avoids (uncancelled_given fun _ ha => ha) fun available => uncancelled_pure _

end Uncancelled

/-- **A tick survives its callbacks**: unless some answer is a cancellation, a tick does not end
    in one. -/
theorem tick_uncancelled :
    (tick cfg cb now).Ends Uncancelled (Avoids fun e => e = .cancelled) := by
  have hs : Shielded Uncancelled fun e => e = .cancelled := fun _ _ ha => .inl ha
  refine Ends.bind_avoids observe_uncancelled fun x => ?_
  refine Ends.bind_avoids (uncancelled_given fun _ ha => ha) fun capable => ?_
  refine Ends.bind_avoids (uncancelled_given fun _ ha => ha) fun healthy => ?_
  exact finishing_avoids hs cfg cb now x capable healthy

end Controller

end PhonoConsole
