/-
  RUNS OF TICKS, and the route a tick ends with in closed form.

  Once the first half of a tick has a closed form (`Sensed.observed`) and the second half has one
  for each phase, the whole tick has: the route decided on (`Sensed.decided`), the route left of
  it after the hand-over (`Sensed.desired`), and what the router made of that (`Sensed.route`).

  * `tick_ok`       — a tick that returns ends with `Sensed.route`, and what it released and
    prepared on the way;
  * `desired_cases` — the source priority, once for all branches: the desired route belongs to
    the selected source, up to the one latch that does not ask for it;
  * `tickRuns`      — runs of ticks whose state remembers the last tick, so that a statement
    about every tick of every run is a statement about every reached state (`Ran.last_eval`).
-/
import PhonoConsole.Lib.Machine
import PhonoConsole.TickConclude

namespace PhonoConsole

open Coro Controller

namespace Sensed

variable (cfg : Config) (cb : Callbacks) (now : ℚ) (o : Oracle) (c : Controller)

/-- The route decided on: the reducer's under the two latches. -/
def decided : Route :=
  Controller.decided c.route (observed cfg cb now o c) (capable cfg cb now o c)
    (streamHealthy cb o) (o .routingGeneration)

/-- The route handed to the router: after the release, and after a preparation that may fail. -/
def desired : Route :=
  enteredRoute cb o c.route (observed cfg cb now o c)
    (handedOver c.route (decided cfg cb now o c))

/-- The router takes the desired route. -/
def accepted : Bool :=
  routerAccepts cb o c.route (observed cfg cb now o c) (desired cfg cb now o c)

/-- The route of the tick: the desired one, or idle after a router failure. -/
def route : Route := if accepted cfg cb now o c then desired cfg cb now o c else .idle

end Sensed

namespace Controller

variable {cfg : Config} {cb : Callbacks} {now : ℚ} {o : Oracle} {c c' : Controller}
  {l : List CtlReq}

/-! ## A tick that returns -/

/-- **A tick that returns**, in closed form. -/
theorem tick_ok {st : Status} (h : eval o (tick cfg cb now) c = (.ok st, c', l)) :
    st.route = Sensed.route cfg cb now o c ∧
    c'.route = some st.route ∧
    (Sensed.accepted cfg cb now o c = false → RouterFailed o l) ∧
    (.releaseDistribution ∈ l ↔
      (leaves c.route (Sensed.decided cfg cb now o c) && cb.releaseDistribution) = true) ∧
    ∀ last, lastPrepared last l =
      if preparesEntry cb c.route (Sensed.observed cfg cb now o c) (Sensed.decided cfg cb now o c)
      then some (routeSource (Sensed.decided cfg cb now o c))
      else if startsEarly cfg cb now c (Sensed.observed cfg cb now o c)
        (Sensed.capable cfg cb now o c) then some (Sensed.selected cfg cb now o c)
      else last := by
  obtain ⟨x, c₁, l₁, l₂, hfirst, hsecond, rfl⟩ := eval_bind_ok h
  obtain ⟨hc, hquiet⟩ := observe_quiet hfirst
  obtain rfl := observe_ok hfirst
  obtain ⟨capable, d, desired, rfl, hd, hdes, hroute, hlast, hrel, hst, hfail, -⟩ :=
    conclude_ok hsecond
  rw [hc.1] at hd hdes hroute hlast hrel hst hfail
  obtain rfl : d = Sensed.decided cfg cb now o c := hd
  obtain rfl : desired = Sensed.desired cfg cb now o c := hdes
  refine ⟨hst, hst ▸ hroute, fun hno => ?_, ?_, fun last => ?_⟩
  · exact (hfail hno).mono fun q hq => List.mem_append_right _ hq
  · have hno : .releaseDistribution ∉ l₁ := fun hm => nomatch hquiet _ hm
    rw [List.mem_append, or_iff_right hno, hrel]
  · rw [lastPrepared_append, lastPrepared_eq fun q hq => prepares_of_observation (hquiet q hq),
      hlast]
    have hstart : startsEarly cfg cb now c₁ (Sensed.observed cfg cb now o c) =
        startsEarly cfg cb now c (Sensed.observed cfg cb now o c) := by
      funext capable
      rw [startsEarly, startsEarly, hc.shouldPrepare]
    rw [hstart]
    rfl

/-- A tick without a prepared source has made no `prepare_distribution` call. -/
theorem prepares_none (h : lastPrepared none l = none) : ∀ q ∈ l, q.prepares = none := by
  induction l with
  | nil => exact fun q hq => nomatch hq
  | cons q l ih =>
    have step : ∀ (l : List CtlReq) (s : Source), ∃ s', lastPrepared (some s) l = some s' := by
      intro l
      induction l with
      | nil => exact fun s => ⟨s, rfl⟩
      | cons q l ih =>
        intro s
        cases hq : q.prepares with
        | none => simpa [hq] using ih s
        | some s' => simpa [hq] using ih s'
    rw [lastPrepared_cons] at h
    cases hq : q.prepares with
    | none =>
      rw [hq] at h
      exact List.forall_mem_cons.mpr ⟨hq, ih h⟩
    | some s =>
      rw [hq] at h
      obtain ⟨s', hs⟩ := step l s
      rw [show (some s).or none = some s from rfl, hs] at h
      exact nomatch h

/-! ## Source priority -/

section Priority

variable {x : Observed}

/-- The decision, branch by branch. -/
theorem decided_eq {route : Option Route} {capable healthy : Bool} {g : Nat} :
    decided route x capable healthy g =
      if route == some .distributedBluetooth && x.bluetoothActive && !x.phonoActive && capable
        && healthy then .distributedBluetooth
      else if x.available && route == some .distributedPhono && x.selected == .phono then
        .distributedPhono
      else if x.required && x.available then x.selected.distributedRoute
      else if x.selected = .none then (if x.maPlaying then .maPlayback else .idle)
      else x.selected.localRoute := by
  rw [decided, latchedRoute, reduceRouting_observation]

theorem selected_cases (x : Observed) :
    x.selected = .phono ∨ x.selected = .bluetooth ∨ x.selected = .none := by
  unfold Observed.selected selectedSource
  cases x.phonoSignalPresent <;> cases x.bluetoothActive <;> cases x.phonoActive <;> simp

theorem bluetoothActive_of_selected (hs : x.selected = .none) : x.bluetoothActive = false := by
  unfold Observed.selected selectedSource at hs
  cases hsig : x.phonoSignalPresent <;> cases hb : x.bluetoothActive <;> simp_all

/-- The hand-over does not change the source of a physical route. -/
theorem handedOver_source {route : Option Route} {d : Route} {s : Source}
    (hs : s = .phono ∨ s = .bluetooth) (hd : routeSource d = s) :
    routeSource (handedOver route d) = s := by
  unfold handedOver
  split
  · rename_i hma
    simp only [Bool.and_eq_true, decide_eq_true_eq] at hma
    rw [hma.2] at hd
    rcases hs with rfl | rfl <;> exact nomatch hd
  · exact hd

/-- The entry keeps the source too: its fallback is chosen for the selected source. -/
theorem enteredRoute_source {route : Option Route} {d : Route} {s : Source}
    (hs : s = .phono ∨ s = .bluetooth) (hsel : x.selected = s) (hd : routeSource d = s) :
    routeSource (enteredRoute cb o route x d) = s := by
  unfold enteredRoute fallbackRoute
  split
  · rw [hsel]
    rcases hs with rfl | rfl <;> rfl
  · exact hd

/-- The decision belongs to a selected physical source, unless the Bluetooth latch holds for
    another one. -/
theorem decided_source {route : Option Route} {capable healthy : Bool} {g : Nat} {s : Source}
    (hs : s = .phono ∨ s = .bluetooth) (hsel : x.selected = s)
    (hlatch : (route == some .distributedBluetooth && x.bluetoothActive && !x.phonoActive && capable
      && healthy) = true → s = .bluetooth) :
    routeSource (decided route x capable healthy g) = s := by
  rw [decided_eq, hsel]
  split
  · rename_i hl
    rw [hlatch hl]
    rfl
  · split
    · rename_i hphono
      simp only [Bool.and_eq_true, beq_iff_eq] at hphono
      rw [hphono.2]
      rfl
    · rcases hs with rfl | rfl
      · split <;> rfl
      · split <;> rfl

/-- Without a selected source nothing is distributed, prepared or latched. -/
theorem desired_of_none {route : Option Route} {capable healthy : Bool} {g : Nat}
    (hs : x.selected = .none) :
    enteredRoute cb o route x (handedOver route (decided route x capable healthy g)) = .idle ∨
    enteredRoute cb o route x (handedOver route (decided route x capable healthy g)) = .maPlayback ∧
      x.maPlaying = true := by
  have hd : decided route x capable healthy g = if x.maPlaying then .maPlayback else .idle := by
    rw [decided_eq]
    simp [bluetoothActive_of_selected hs, hs, Observed.required]
  have hkeep : preparesEntry cb route x (decided route x capable healthy g) = false := by
    rw [hd]
    cases x.maPlaying <;> rfl
  rw [enteredRoute, preparesEntry_handedOver, hkeep, Bool.false_and, if_neg Bool.false_ne_true, hd]
  unfold handedOver
  cases x.maPlaying <;> cases leaves route .maPlayback <;> simp [*]

/-- **Source priority** of the desired route. -/
theorem desired_cases (route : Option Route) (x : Observed) (capable healthy : Bool) (g : Nat)
    (cb : Callbacks) (o : Oracle) :
    let desired := enteredRoute cb o route x (handedOver route (decided route x capable healthy g))
    (x.selected = .phono ∧ (routeSource desired = .phono ∨
      (route = some .distributedBluetooth ∧ x.bluetoothActive = true ∧ x.phonoActive = false ∧
        desired = .distributedBluetooth))) ∨
    (x.selected = .bluetooth ∧ routeSource desired = .bluetooth) ∨
    (x.selected = .none ∧ (desired = .idle ∨ desired = .maPlayback ∧ x.maPlaying = true)) := by
  intro desired
  rcases selected_cases x with hs | hs | hs
  · refine .inl ⟨hs, ?_⟩
    by_cases hlatch : (route == some .distributedBluetooth && x.bluetoothActive && !x.phonoActive
        && capable && healthy) = true
    · -- the Bluetooth latch does not ask for the selected source
      have hd : decided route x capable healthy g = .distributedBluetooth := by
        rw [decided_eq, if_pos hlatch]
      simp only [Bool.and_eq_true, beq_iff_eq, Bool.not_eq_true'] at hlatch
      obtain ⟨⟨⟨⟨hr, hb⟩, hp⟩, -⟩, -⟩ := hlatch
      have hkeep : preparesEntry cb route x (decided route x capable healthy g) = false := by
        rw [hd]
        simp [preparesEntry, hr]
      exact .inr ⟨hr, hb, hp, (desired_of_distributed rfl (hd ▸ rfl) hkeep).trans hd⟩
    · have hd : routeSource (decided route x capable healthy g) = .phono :=
        decided_source (.inl rfl) hs fun hl => absurd hl hlatch
      exact .inl (enteredRoute_source (.inl rfl) hs (handedOver_source (.inl rfl) hd))
  · have hd : routeSource (decided route x capable healthy g) = .bluetooth :=
      decided_source (.inr rfl) hs fun _ => rfl
    exact .inr (.inl ⟨hs, enteredRoute_source (.inr rfl) hs (handedOver_source (.inr rfl) hd)⟩)
  · exact .inr (.inr ⟨hs, desired_of_none hs⟩)

/-- The source priority of a tick. -/
theorem sensed_cases (cfg : Config) (cb : Callbacks) (now : ℚ) (o : Oracle) (c : Controller) :
    (Sensed.selected cfg cb now o c = .phono ∧
      (routeSource (Sensed.desired cfg cb now o c) = .phono ∨
        (c.route = some .distributedBluetooth ∧ Sensed.bluetoothActive cfg cb now o c = true ∧
          Sensed.phonoActive cfg cb now o c = false ∧
          Sensed.desired cfg cb now o c = .distributedBluetooth))) ∨
    (Sensed.selected cfg cb now o c = .bluetooth ∧
      routeSource (Sensed.desired cfg cb now o c) = .bluetooth) ∨
    (Sensed.selected cfg cb now o c = .none ∧ (Sensed.desired cfg cb now o c = .idle ∨
      Sensed.desired cfg cb now o c = .maPlayback ∧ Sensed.maPlaying o = true)) :=
  desired_cases c.route (Sensed.observed cfg cb now o c) (Sensed.capable cfg cb now o c)
    (Sensed.streamHealthy cb o) (o .routingGeneration) cb o

end Priority

end Controller

/-! ## Runs -/

/-- A tick as it went: its time and answers, the controller before it, how it ended and what it
    asked for. -/
structure LastTick where
  now : ℚ
  answers : Oracle
  before : Controller
  outcome : Except Exc Status
  requests : List CtlReq

/-- The output established by the router once the request `q` has been answered. -/
def CtlReq.establish (out : Option Route) : (q : CtlReq) → CtlRep q → Option Route
  | .routerApply _ r, a => if went a then some r else out
  | .routerReconcile r, a => if went a then some r else out
  | _, _ => out

/-- The controller between two ticks, the last of them, and the output that the last successful
    router operation of the run has established. -/
structure Ran where
  controller : Controller
  last : Option LastTick := none
  applied : Option Route := none

/-- Runs of ticks, at any times and with any answers.  A tick that ends in an `Exception` is
    logged and followed by the next one, a cancelled tick ends the run. -/
def tickRuns (cfg : Config) (cb : Callbacks) : Machine Ran (ℚ × Oracle) where
  init s := s = { controller := Controller.create cfg }
  next s a :=
    match eval a.2 (tick cfg cb a.1) s.controller with
    | (.error .cancelled, _, _) => none
    | (outcome, c', l) =>
      some ⟨c', some ⟨a.1, a.2, s.controller, outcome, l⟩,
        l.foldl (fun out q => q.establish out (a.2 q)) s.applied⟩

namespace Ran

variable {cfg : Config} {cb : Callbacks} {ok : Ran → ℚ × Oracle → Prop} {s : Ran} {t : LastTick}

/-- The last tick of a reached state is an evaluation that led there from a reached state, under
    the condition of the run. -/
theorem last_eval (h : (tickRuns cfg cb).Reach ok s) (ht : s.last = some t) :
    eval t.answers (tick cfg cb t.now) t.before = (t.outcome, s.controller, t.requests) ∧
    ∃ s₀, (tickRuns cfg cb).Reach ok s₀ ∧ s₀.controller = t.before ∧
      ok s₀ (t.now, t.answers) ∧
      s.applied = t.requests.foldl (fun out q => q.establish out (t.answers q)) s₀.applied := by
  cases h with
  | init hs =>
    rw [show s = _ from hs] at ht
    exact nomatch ht
  | move hreach hok hnext =>
    rename_i s₀ a
    simp only [tickRuns] at hnext
    split at hnext
    · exact nomatch hnext
    · rename_i outcome c' l hne heval
      obtain rfl := Option.some.inj hnext
      obtain rfl := Option.some.inj ht
      exact ⟨heval, s₀, hreach, rfl, hok, rfl⟩

end Ran

end PhonoConsole
