/-
  LEAVING DISTRIBUTION: which ticks release the network session.

  The release is decided in the middle of the tick, on the route desired at that point.  Two
  later steps may still take a distributed route away: a preparation that fails when one
  distributed route replaces the other, and the router's error path.  So a tick that leaves
  distribution releases it exactly when it DECIDES to leave:

  * `Sensed.distributes`     — the distributed route a tick decides on, from its inputs;
  * `Sensed.losesRoute`      — that route is lost afterwards, to the preparation or the router;
  * `released_on_leaving_iff` — in every run, a tick that returns from a distributed route has
    released it on leaving, exactly when it does not lose its route.
-/
import PhonoConsole.TickRuns

namespace PhonoConsole

open Coro Controller

namespace Sensed

variable (cfg : Config) (cb : Callbacks) (now : ℚ) (o : Oracle) (c : Controller)

/-- The distributed route a tick decides on: held by one of the latches, or confirmed for the
    selected source. -/
def distributes : Option Route :=
  if c.route == some .distributedBluetooth && bluetoothActive cfg cb now o c
      && !phonoActive cfg cb now o c && capable cfg cb now o c && streamHealthy cb o then
    some .distributedBluetooth
  else if available cb o && c.route == some .distributedPhono
      && selected cfg cb now o c == .phono then some .distributedPhono
  else if available cb o && outputMode cfg cb now o c == .downstairs
      && selected cfg cb now o c != .none then some (selected cfg cb now o c).distributedRoute
  else none

/-- A newly entered distributed route `r` is not prepared. -/
def unprepared (r : Route) : Bool :=
  c.route != some r && cb.prepareDistribution && canStart cfg cb now o c
    && !truth (o (.prepareDistribution .enter (routeSource r)))

/-- The router does not take the distributed route `r`. -/
def refused (r : Route) : Bool :=
  if c.route == some r then cb.reconcile && !went (o (.routerReconcile r))
  else !went (o (.routerApply .apply r))

/-- The distributed route decided on is lost before the tick ends. -/
def losesRoute : Bool :=
  (distributes cfg cb now o c).any fun r => unprepared cfg cb now o c r || refused cb o c r

end Sensed

namespace Controller

variable {cfg : Config} {cb : Callbacks} {now : ℚ} {o : Oracle} {c : Controller}

/-- A tick distributes exactly when the route it decides on is distributed. -/
theorem distributes_eq : Sensed.distributes cfg cb now o c =
    if (Sensed.decided cfg cb now o c).distributed then some (Sensed.decided cfg cb now o c)
    else none := by
  unfold Sensed.distributes Sensed.decided
  rw [decided_eq]
  have hsel : (Sensed.observed cfg cb now o c).selected = Sensed.selected cfg cb now o c := rfl
  have hreq : ((Sensed.observed cfg cb now o c).required && Sensed.available cb o) =
      (Sensed.available cb o && Sensed.outputMode cfg cb now o c == .downstairs
        && Sensed.selected cfg cb now o c != .none) := by
    rw [Observed.required, hsel, Sensed.observed_outputMode]
    rcases hsel ▸ selected_cases (Sensed.observed cfg cb now o c) with hs | hs | hs <;>
      cases Sensed.available cb o <;> simp [hs]
  simp only [Sensed.observed_bluetoothActive, Sensed.observed_phonoActive,
    Sensed.observed_available, hreq, hsel]
  split
  · rfl
  · split
    · rfl
    · split
      · rw [Source.distributedRoute_distributed, if_pos rfl]
      · split
        · split <;> rfl
        · rw [Source.localRoute_distributed, if_neg Bool.false_ne_true]

variable (cfg now) in
/-- A distributed route is refused exactly when the router does not accept it: no distributed
    route was switched on early. -/
theorem refused_eq {r : Route} (hr : r.distributed = true) :
    Sensed.refused cb o c r = !routerAccepts cb o c.route (Sensed.observed cfg cb now o c) r := by
  have hlocal : (r == .localPhono) = false := by
    cases r <;> first | rfl | exact nomatch hr
  unfold Sensed.refused routerAccepts
  by_cases hc : c.route = some r
  · simp [hc]
  · simp [hc, hlocal]

/-- The tick ends with a distributed route exactly when it decides on one and does not lose it. -/
theorem route_distributed_iff : (Sensed.route cfg cb now o c).distributed = true ↔
    (Sensed.decided cfg cb now o c).distributed = true ∧
      Sensed.losesRoute cfg cb now o c = false := by
  unfold Sensed.losesRoute
  rw [distributes_eq]
  by_cases hd : (Sensed.decided cfg cb now o c).distributed = true
  · rw [if_pos hd, Option.any_some, and_iff_right hd]
    have hprepares : preparesEntry cb c.route (Sensed.observed cfg cb now o c)
        (Sensed.decided cfg cb now o c) = (c.route != some (Sensed.decided cfg cb now o c)
          && cb.prepareDistribution && Sensed.canStart cfg cb now o c) := by
      rw [preparesEntry, hd, Bool.true_and]
      rfl
    unfold Sensed.route Sensed.accepted Sensed.desired
    rw [handedOver_distributed hd, enteredRoute, hprepares]
    cases hun : Sensed.unprepared cfg cb now o c (Sensed.decided cfg cb now o c)
    · -- prepared, or not to be: the router decides
      rw [Sensed.unprepared] at hun
      rw [hun, if_neg Bool.false_ne_true, refused_eq cfg now hd]
      cases routerAccepts cb o c.route (Sensed.observed cfg cb now o c)
        (Sensed.decided cfg cb now o c) <;> simp [hd]
    · -- not prepared: the local chooser takes over
      rw [Sensed.unprepared] at hun
      rw [hun, if_pos rfl]
      have hfall : (fallbackRoute (Sensed.observed cfg cb now o c)).distributed = false :=
        chooseRoute_not_distributed _ _ _ _
      split <;> simp [hfall]
  · have hroute : (Sensed.route cfg cb now o c).distributed = false := by
      unfold Sensed.route
      split
      · by_contra hno
        exact hd (desired_distributed rfl (Bool.eq_true_of_not_eq_false hno)).2
      · rfl
    simp [hroute, hd]

end Controller

namespace Ran

variable {cfg : Config} {cb : Callbacks} {s : Ran} {t : LastTick} {st : Status} {r : Route}

/-- **Leaving releases**: in every run, a tick that returns from a distributed route and leaves
    distribution has released it, exactly when it does not lose the route it decided on. -/
theorem released_on_leaving_iff (hcb : cb.releaseDistribution = true)
    (h : (tickRuns cfg cb).Reach Machine.anyMove s) (ht : s.last = some t)
    (hret : t.outcome = .ok st) (hr : t.before.route = some r) (hdist : r.distributed = true) :
    (st.route.distributed = false → .releaseDistribution ∈ t.requests) ↔
      Sensed.losesRoute cfg cb t.now t.answers t.before = false := by
  obtain ⟨heval, -⟩ := last_eval h ht
  rw [hret] at heval
  obtain ⟨hroute, -, -, hrel, -⟩ := tick_ok heval
  have hleaves : leaves t.before.route (Sensed.decided cfg cb t.now t.answers t.before) =
      !(Sensed.decided cfg cb t.now t.answers t.before).distributed := by
    simp [leaves, hr, hdist]
  have hiff : (Sensed.route cfg cb t.now t.answers t.before).distributed = true ↔ _ :=
    route_distributed_iff
  rw [hrel, hleaves, hcb, Bool.and_true, Bool.not_eq_true', hroute]
  cases hd : (Sensed.decided cfg cb t.now t.answers t.before).distributed
  · -- decided to leave: released, and nothing to lose
    have hkeep : Sensed.losesRoute cfg cb t.now t.answers t.before = false := by
      rw [Sensed.losesRoute, distributes_eq, hd]
      rfl
    simp [hkeep]
  · -- decided to stay: left only by losing the route
    rw [hd] at hiff
    constructor
    · intro hno
      by_contra hlost
      have hgone : (Sensed.route cfg cb t.now t.answers t.before).distributed = false := by
        by_contra hstay
        exact hlost (hiff.mp (Bool.eq_true_of_not_eq_false hstay)).2
      cases hno hgone
    · intro hkeep hgone
      rw [hiff.mpr ⟨rfl, hkeep⟩] at hgone
      cases hgone

/-- What the last tick of a state did: it returned to the route `r'` from the route `r`, and
    released or not. -/
def lastTickFrom (s : Ran) (r r' : Route) (released : Bool) : Bool :=
  s.last.any fun t => t.before.route == some r
    && (match t.outcome with
      | .ok st => st.route == r'
      | .error _ => false)
    && decide (.releaseDistribution ∈ t.requests) == released

/-- The record ends over distributed phono: the session is released. -/
theorem released_on_leaving_idle : ∃ (s : Ran) (t : LastTick) (st : Status),
    s.last = some t ∧ t.outcome = .ok st ∧
      (st.route.distributed = false → .releaseDistribution ∈ t.requests) := by
  obtain ⟨s, hs, hlast, hkeep⟩ := Machine.exists_reach (m := tickRuns plainConfig {})
    (l := [(0, Answers.oracle { level := -30, peaks := some (-20, -20) }),
      (1, Answers.oracle { level := -30, available := true }),
      (2, Answers.oracle { available := true }),
      (20, Answers.oracle { available := true })])
    (fun s => lastTickFrom s .distributedPhono .idle true = true ∧
      s.last.any (fun t => !Sensed.losesRoute plainConfig {} t.now t.answers t.before) = true)
    (show _ = ({ controller := Controller.create plainConfig } : Ran) from rfl) (by decide +kernel)
  unfold lastTickFrom at hlast
  cases ht : s.last with
  | none => simp [ht] at hlast
  | some t =>
    simp only [ht, Option.any_some, Bool.and_eq_true, beq_iff_eq, Bool.not_eq_true'] at hlast hkeep
    cases hout : t.outcome with
    | error e => simp [hout] at hlast
    | ok st =>
      exact ⟨s, t, st, ht, hout,
        (released_on_leaving_iff rfl hs ht hout hlast.1.1 rfl).mpr hkeep⟩

/-- A phone takes over from the distributed record, its preparation fails: the console plays
    locally, and the network session is not released. -/
theorem not_released_on_leaving :
    ¬ ∀ (s : Ran) (t : LastTick) (st : Status) (r : Route),
      (tickRuns plainConfig {}).Reach Machine.anyMove s → s.last = some t → t.outcome = .ok st →
      t.before.route = some r → r.distributed = true → st.route.distributed = false →
      .releaseDistribution ∈ t.requests := by
  intro hall
  obtain ⟨s, hs, hlast⟩ := Machine.exists_reach (m := tickRuns plainConfig {})
    (l := [(0, Answers.oracle { level := -30, peaks := some (-20, -20) }),
      (1, Answers.oracle { level := -30, available := true }),
      (2, Answers.oracle
        { bluetoothPlaying := true, bluetoothLevel := -20, available := true
          prepared := fun _ => false })])
    (fun s => lastTickFrom s .distributedPhono .localBluetooth false = true)
    (show _ = ({ controller := Controller.create plainConfig } : Ran) from rfl) (by decide +kernel)
  unfold lastTickFrom at hlast
  cases ht : s.last with
  | none => simp [ht] at hlast
  | some t =>
    simp only [ht, Option.any_some, Bool.and_eq_true, beq_iff_eq] at hlast
    cases hout : t.outcome with
    | error e => simp [hout] at hlast
    | ok st =>
      obtain ⟨⟨hr, hst⟩, hno⟩ := hlast
      simp only [hout, beq_iff_eq] at hst
      have hrel := hall s t st _ hs ht hout hr rfl (by rw [hst]; rfl)
      simp [hrel] at hno

end Ran

end PhonoConsole
