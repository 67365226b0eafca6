/-
  THE REPORTED ROUTE IS THE APPLIED ROUTE.

  A tick may touch the router three times: the early wake-up, the hand-over of the desired route
  and the fallback to idle; and it skips the hand-over when it believes that the wake-up has
  already done it.  What the router has established is no state of the controller, so it is the
  world here (`routerWorld`): the route of the last router call that succeeded.  A tick is a
  program in that world, and its weakest precondition is computed phase by phase:

  * `observe_safe`    — a pre-activation that is reported has established local phono, and the
    rest of the first half does not touch the router;
  * `applyRoute_safe` — the hand-over establishes the route it returns, from whatever the router
    was left at: this is what repairs the state an aborted tick has left;
  * `applied_route`   — in every run, every tick that returns reports the established route.
-/
import PhonoConsole.Lib.World
import PhonoConsole.TickRuns

namespace PhonoConsole

open Coro Controller World

/-- The output established by the router, as a world.  It does not move by itself. -/
def routerWorld : World CtlReq CtlRep (Option Route) Empty where
  answer out q a := some (q.establish out a)
  drift _ d := nomatch d

/-- The fallback to idle goes through. -/
def fallbackGoes : (q : CtlReq) → CtlRep q → Prop
  | .routerApply .fallback .idle, a => went a = true
  | _, _ => True

/-- The route a request hands to the router. -/
def CtlReq.applies : CtlReq → Option Route
  | .routerApply _ r | .routerReconcile r => some r
  | _ => none

theorem establish_of_applies {out : Option Route} {q : CtlReq} {a : CtlRep q}
    (h : q.applies = none) : q.establish out a = out := by
  cases q <;> first | rfl | nomatch h

/-- An observation leaves the router alone, or establishes local phono. -/
theorem establish_of_observation (out : Option Route) {q : CtlReq} {a : CtlRep q}
    (h : q.observation = true) :
    q.establish out a = out ∨ q.establish out a = some .localPhono := by
  cases q with
  | routerApply site r =>
    have hr : r = .localPhono := by
      cases site <;> cases r <;> first | rfl | nomatch h
    subst hr
    show (if went a then some Route.localPhono else out) = out ∨
      (if went a then some Route.localPhono else out) = some .localPhono
    split
    · exact .inr rfl
    · exact .inl rfl
  | routerReconcile r => exact nomatch h
  | _ => exact .inl rfl

theorem routerWorld_still {w w' : Option Route} (h : routerWorld.Drifts w w') : w' = w := by
  induction h with
  | refl => rfl
  | move _ hd _ => exact nomatch hd

theorem follow_eq (o : Oracle) (l : List CtlReq) (w : Option Route) :
    routerWorld.follow o w l = some (l.foldl (fun out q => q.establish out (o q)) w) := by
  induction l generalizing w with
  | nil => rfl
  | cons q l ih => exact ih _

namespace Controller

variable {cfg : Config} {cb : Callbacks} {now : ℚ} {x : Observed} {c : Controller}
  {w : Option Route} {α β : Type}

/-! ## Rules for the router's world -/

/-- `P` of the value and the world, of programs that return. -/
def OnOk (P : α → Option Route → Prop) : Except Exc α → Controller → Option Route → Prop :=
  fun r _ w => ∀ a, r = .ok a → P a w

/-- Whatever is answered, apart from a fallback that fails, the program returns with `P`. -/
abbrev Establishes (p : Tick α) (P : α → Option Route → Prop) (c : Controller)
    (w : Option Route) : Prop :=
  p.Safe routerWorld fallbackGoes (fun _ => True) (OnOk P) c w

theorem establishes_pure {a : α} {P : α → Option Route → Prop} (h : P a w) :
    Establishes (pure a) P c w := by
  refine safe_pure fun w' hw' b hb => ?_
  rw [routerWorld_still hw', ← Except.ok.inj hb]
  exact h

theorem Establishes.bind {p : Tick α} {f : α → Tick β} {P : α → Option Route → Prop}
    {Q : β → Option Route → Prop} (hp : Establishes p P c w)
    (hf : ∀ a c w, P a w → Establishes (f a) Q c w) : Establishes (p >>= f) Q c w :=
  Safe.seq hp hf

theorem establishes_get {P : Controller → Option Route → Prop} (h : P c w) :
    Establishes get P c w := by
  refine safe_get fun w' hw' c' hc' => ?_
  rw [routerWorld_still hw', ← Except.ok.inj hc']
  exact h

/-- A call that raises or returns. -/
theorem safe_callback {q : CtlReq} {f : CtlRep q → Except Exc α}
    {Q : Except Exc α → Controller → Option Route → Prop}
    (h : ∀ a, fallbackGoes q a → Q (f a) c (q.establish w a)) :
    (ask q >>= fun a => ofExcept (f a)).Safe routerWorld fallbackGoes (fun _ => True) Q c w := by
  intro w₁ hw₁ a w₂ ha hw₂
  obtain rfl := routerWorld_still hw₁
  obtain rfl := Option.some.inj hw₂
  refine ⟨trivial, fun w₃ hw₃ => ?_⟩
  rw [routerWorld_still hw₃]
  exact h a ha

/-- The result of `attempt` tells whether the call went through. -/
theorem establishes_attempt {q : CtlReq} {f : CtlRep q → Except Exc α}
    {P : Bool → Option Route → Prop}
    (h : ∀ a, fallbackGoes q a → P (went (f a)) (q.establish w a)) :
    Establishes (attempt (ask q >>= fun a => ofExcept (f a))) P c w := by
  have hcall : (ask q >>= fun a => ofExcept (f a)).Safe routerWorld fallbackGoes (fun _ => True)
      (fun r (_ : Controller) w => P (went r) w) c w := safe_callback h
  refine Safe.catchError (Safe.bind (Q := fun r _ w => P (went r) w ∧ ∀ b, r = .ok b → b = true)
    hcall ?_ ?_) ?_ ?_
  · intro a c w ha w' hw'
    rw [routerWorld_still hw']
    exact ⟨ha, fun b hb => (Except.ok.inj hb).symm⟩
  · exact fun e c w he => ⟨he, fun b hb => nomatch hb⟩
  · intro b c w hb b' hb'
    rw [← Except.ok.inj hb', hb.2 b rfl]
    exact hb.1
  · intro e c w he
    cases e with
    | exception t => exact establishes_pure he.1
    | cancelled => exact fun w' _ b hb => nomatch hb

/-- A program that does not touch the router. -/
theorem establishes_frame {R : Controller → Controller → Prop} {p : Tick α}
    {J : Option Route → Prop} (hp : p.Frame R fun q => q.applies = none) (hw : J w) :
    Establishes p (fun _ w => J w) c w := by
  refine (safe_frame hp (J := J) ?_ (fun _ _ => trivial) ?_ hw).mono fun r c w hw a _ => hw
  · exact fun _ d => nomatch d
  · intro q a w w' hq _ hw hans
    obtain rfl := Option.some.inj hans
    rw [establish_of_applies hq]
    exact hw

/-- A part of the first half, before or after the early wake-up: if local phono is established,
    it stays so. -/
theorem establishes_observation {R : Controller → Controller → Prop} {p : Tick α} {b : Bool}
    (hp : p.Frame R fun q => q.observation = true) (hw : b = true → w = some .localPhono) :
    Establishes p (fun _ w => b = true → w = some .localPhono) c w := by
  refine (safe_frame hp (J := fun w => b = true → w = some .localPhono) ?_ (fun _ _ => trivial)
    ?_ hw).mono fun r c w hw a _ => hw
  · exact fun _ d => nomatch d
  · intro q a w w' hq _ hw hans hb
    obtain rfl := Option.some.inj hans
    rcases establish_of_observation w (a := a) hq with h | h
    · rw [h]
      exact hw hb
    · exact h

/-! ## The first half -/

theorem preactivate_safe (signalPresent : Bool) :
    Establishes (preactivate cb signalPresent)
      (fun r w => r.1 = true → w = some .localPhono) c w := by
  refine Establishes.bind (P := fun _ _ => True) (establishes_get trivial) fun c' c w _ => ?_
  split
  · refine Establishes.bind (P := fun applied w => applied = true → w = some .localPhono)
      (establishes_attempt fun a _ hgo => ?_) fun applied c w happlied => ?_
    · show (if went a then _ else _) = _
      rw [hgo, if_pos rfl]
    · split
      · rename_i happ
        split
        · exact Establishes.bind (establishes_observation (b := applied)
            (frame_attempt (R := fun _ _ => True) (frame_callback rfl)) happlied)
            fun _ c w hw => establishes_pure fun _ => hw happ
        · exact establishes_pure fun _ => happlied happ
      · exact establishes_pure fun hno => nomatch hno
  · exact establishes_pure fun hno => nomatch hno

/-- **The first half**: a reported pre-activation has established local phono. -/
theorem observe_safe : Establishes (observe cfg cb now)
    (fun x w => x.localAudioPreactivated = true → w = some .localPhono) c w := by
  have before : ∀ (w : Option Route), false = true → w = some .localPhono :=
    fun _ hno => nomatch hno
  refine Establishes.bind (establishes_observation (R := SameRoute)
    (readLevel_frame fun _ => ⟨rfl, rfl, rfl⟩) (before w))
    fun ⟨captureOk, level⟩ c w _ => ?_
  refine Establishes.bind (establishes_observation (R := fun _ _ => True)
    (Frame.bind (frame_ask rfl) fun _ => trivial) (before w)) fun peak c w _ => ?_
  refine Establishes.bind (establishes_observation (R := fun _ _ => True)
    (frame_given (frame_callback rfl)) (before w)) fun transportPlaying c w _ => ?_
  refine Establishes.bind (establishes_observation (senseActivity_frame sameRoute_sensing _ _ _ _)
    (before w))
    fun ⟨phonoActive, signalPresent⟩ c w _ => ?_
  refine Establishes.bind (preactivate_safe signalPresent) fun ⟨pre, outPre⟩ c w hpre => ?_
  refine Establishes.bind (establishes_observation (R := fun _ _ => True) readMaPlaying_frame hpre)
    fun maPlaying c w hw => ?_
  refine Establishes.bind (establishes_observation (R := fun _ _ => True) (frame_callback rfl) hw)
    fun wholeHouse c w hw => ?_
  refine Establishes.bind (establishes_observation
    (inheritMode_frame (R := fun _ _ => True) (fun _ => trivial) _) hw) fun _ c w hw => ?_
  refine Establishes.bind (establishes_observation (stickyMode_frame _) hw) fun mode c w hw => ?_
  refine Establishes.bind (establishes_observation (senseBluetooth_frame sameRoute_sensing _ _) hw)
    fun ⟨_, _, _⟩ c w hw => ?_
  exact Establishes.bind (establishes_observation (R := fun _ _ => True)
    (frame_given (frame_callback rfl)) hw) fun available c w hw => establishes_pure hw

/-! ## The second half -/

/-- **The hand-over** establishes the route it returns. -/
theorem applyRoute_safe {desired : Route} (hrec : cb.reconcile = true)
    (hpre : x.localAudioPreactivated = true → w = some .localPhono) :
    Establishes (applyRoute cb x desired) (fun r w => w = some r) c w := by
  have woken {b : Bool} {q : CtlReq} {f : CtlRep q → Except Exc Unit} (hq : q.applies = none) :
      (when b (do let _ ← attempt (ask q >>= fun a => ofExcept (f a))) : Tick Unit).Frame
        (fun _ _ => True) fun q => q.applies = none :=
    frame_when fun _ => Frame.bind (frame_attempt (frame_callback hq)) fun _ => trivial
  refine Establishes.bind (P := fun _ w => x.localAudioPreactivated = true → w = some .localPhono)
    (establishes_get hpre) fun c' c w hpre => ?_
  refine Safe.catchError (P := OnOk fun r w => w = some r) ?_ (fun _ _ _ h => h) ?_
  · -- the body: a route that is kept is reconciled, a new one applied unless it was woken early
    refine Establishes.bind
      (P := fun _ w => if c'.route = some desired then w = some desired
        else x.localAudioPreactivated = true → w = some .localPhono) ?_ fun _ c w hw => ?_
    · refine safe_when (fun hb => safe_callback fun a _ u hu => ?_) fun hb w' hw' u _ => ?_
      · simp only [Bool.and_eq_true, beq_iff_eq] at hb
        rw [if_pos hb.1]
        show (if went a then _ else _) = _
        rw [show a = .ok u from hu]
        rfl
      · rw [hrec, Bool.and_true, beq_eq_false_iff_ne] at hb
        rw [if_neg hb, routerWorld_still hw']
        exact hpre
    refine Establishes.bind (P := fun _ w => w = some desired) ?_ fun _ c w hw => ?_
    · refine safe_when (fun hb => safe_callback fun a _ u hu => ?_) fun hb w' hw' u _ => ?_
      · show (if went a then _ else _) = _
        rw [show a = .ok u from hu]
        rfl
      · rw [routerWorld_still hw']
        by_cases hc : c'.route = some desired
        · rwa [if_pos hc] at hw
        · rw [if_neg hc] at hw
          simp only [bne_iff_ne.mpr hc, Bool.true_and, Bool.not_eq_false', Bool.and_eq_true,
            beq_iff_eq] at hb
          rw [hw hb.1, hb.2]
    refine Establishes.bind (establishes_frame (J := fun w => w = some desired) (woken rfl) hw)
      fun _ c w hw => ?_
    refine Establishes.bind (establishes_frame (J := fun w => w = some desired) (woken rfl) hw)
      fun _ c w hw => ?_
    exact establishes_pure hw
  · -- the error path: the fallback establishes idle
    intro e c w _
    cases e with
    | cancelled =>
      intro w' _ b hb
      cases hb
    | exception t =>
      refine Establishes.bind (P := fun _ w => w = some .idle)
        (establishes_attempt fun a ha => ?_) fun _ c w hw => establishes_pure hw
      show (if went a then _ else _) = _
      rw [show went a = true from ha, if_pos rfl]

theorem publishStatus_safe {route : Route} (hw : w = some route) :
    Establishes (publishStatus x route) (fun st w => w = some st.route) c w := by
  have keep {p : Tick Unit} {c : Controller} {w : Option Route} (hw : w = some route)
      (hp : p.Frame (fun _ _ => True) fun q => q.applies = none) :
      Establishes p (fun _ w => w = some route) c w :=
    establishes_frame (J := fun w => w = some route) hp hw
  refine Establishes.bind (keep hw (frame_modify fun _ => trivial)) fun _ c w hw => ?_
  refine Establishes.bind (keep hw (frame_when fun _ => frame_ask rfl))
    fun _ c w hw => ?_
  refine Establishes.bind (keep hw (frame_when fun _ => frame_ask rfl))
    fun _ c w hw => ?_
  exact Establishes.bind (keep hw (frame_ask rfl)) fun _ c w hw => establishes_pure hw

/-- **A tick** that returns has established the route of its status. -/
theorem tick_safe (hrec : cb.reconcile = true) :
    Establishes (tick cfg cb now) (fun st w => w = some st.route) c w := by
  refine Establishes.bind observe_safe fun x c w hpre => ?_
  have keep {α : Type} {p : Tick α} {c : Controller} {w : Option Route}
      (hw : x.localAudioPreactivated = true → w = some .localPhono)
      (hp : p.Frame (fun _ _ => True) fun q => q.applies = none) :
      Establishes p (fun _ w => x.localAudioPreactivated = true → w = some .localPhono) c w :=
    establishes_frame (J := fun w => x.localAudioPreactivated = true → w = some .localPhono) hp hw
  refine Establishes.bind (keep hpre (frame_given (frame_callback rfl))) fun capable c w hpre => ?_
  refine Establishes.bind (keep hpre (frame_given (frame_callback rfl))) fun healthy c w hpre => ?_
  refine Establishes.bind (keep hpre (startDistribution_frame (fun _ _ _ => trivial)
    (fun _ _ _ => rfl) (fun _ => rfl) capable)) fun _ c w hpre => ?_
  refine Establishes.bind (keep hpre (Frame.bind (frame_ask rfl) fun _ =>
    Frame.bind (frame_get fun _ => trivial) fun _ => trivial)) fun decided c w hpre => ?_
  refine Establishes.bind (keep hpre (releaseIfLeaving_frame (fun _ => trivial) (by rfl) decided)) fun desired c w hpre => ?_
  refine Establishes.bind (keep hpre (enterDistribution_frame (fun _ => trivial) (fun _ => rfl)
    desired)) fun desired c w hpre => ?_
  refine Establishes.bind (applyRoute_safe hrec hpre) fun route c w hw => ?_
  exact publishStatus_safe hw

end Controller

namespace Ran

variable {cfg : Config} {cb : Callbacks} {s : Ran} {t : LastTick} {st : Status}

/-- Ticks whose fallback to idle goes through; everything else may fail. -/
def FallbackGoes (_ : Ran) (a : ℚ × Oracle) : Prop :=
  went (a.2 (.routerApply .fallback .idle)) = true

instance (s : Ran) (a : ℚ × Oracle) : Decidable (FallbackGoes s a) :=
  inferInstanceAs (Decidable (_ = _))

/-- **The reported route is the applied route**: in every run with a reconciling router whose
    fallback goes through, after every tick that returns, aborted ticks in between or not, the
    last router operation that succeeded has established the route of the status, which is the
    controller's. -/
theorem applied_route (hrec : cb.reconcile = true) (h : (tickRuns cfg cb).Reach FallbackGoes s)
    (ht : s.last = some t) (hret : t.outcome = .ok st) :
    s.applied = some st.route ∧ s.controller.route = some st.route := by
  obtain ⟨heval, s₀, -, -, hgoes, happlied⟩ := last_eval h ht
  rw [hret] at heval
  have hsafe : Establishes (tick cfg cb t.now) (fun st w => w = some st.route) t.before
      s₀.applied := tick_safe hrec
  have hok : ∀ q, fallbackGoes q (t.answers q) := by
    intro q
    unfold fallbackGoes
    split
    · exact hgoes
    · trivial
  have hend := hsafe.eval hok (follow_eq t.answers _ _)
  rw [heval] at hend
  refine ⟨?_, (tick_ok heval).2.1⟩
  rw [happlied]
  exact hend st rfl

/-- A pre-activation whose tick is then aborted by the telemetry leaves the router at local phono
    over a controller without a route; the next tick brings the two together again. -/
theorem applied_route_after_abort : ∃ (s : Ran) (st : Status),
    s.applied = some st.route ∧ st.route = .idle := by
  obtain ⟨s, hs, hlast⟩ := Machine.exists_reach
    (m := (tickRuns plainConfig {}).guarded FallbackGoes)
    (l := [(0, fun
        | .wholeHouseIsRequested => .error (.exception "unavailable")
        | q => Answers.oracle { peaks := some (-20, -20) } q),
      (1, Answers.oracle {}), (20, Answers.oracle {})])
    (fun s => s.last.any (fun t => match t.outcome with
      | .ok st => st.route == .idle
      | .error _ => false) = true)
    (show _ = ({ controller := Controller.create plainConfig } : Ran) from rfl) (by decide +kernel)
  cases ht : s.last with
  | none => simp [ht] at hlast
  | some t =>
    cases hout : t.outcome with
    | error e => simp [ht, hout] at hlast
    | ok st =>
      refine ⟨s, st, (applied_route rfl hs.of_guarded ht hout).1, ?_⟩
      simpa [ht, hout] using hlast

end Ran

end PhonoConsole
