/-
  THE DECLARED ROUTE AND THE CAPTURED SOURCE.

  `prepare_distribution(S)` is what makes the Sendspin publisher capture `S`, and a route
  `DISTRIBUTED_S` is what the console announces.  The two agree when the route's source is the
  one most recently prepared; this file says exactly which ticks keep that agreement.

  A tick prepares in two places.  Entering a distributed route prepares its source; the early
  start prepares the selected one while distribution is not yet available.  So a tick from an
  agreeing state breaks the agreement in exactly two ways (`tick_agrees_iff`):

  * `overtakenLatch`  — the early start prepares phono while the latch keeps distributed
    Bluetooth: a record in its attack phase, during a gap in the telemetry;
  * `unpreparedEntry` — distributed Bluetooth is entered without a preparation, because no
    Bluetooth PCM has been seen, and something else was prepared last.

  Runs of ticks are then an induction over this step (`declared_route_prepared`).
-/
import PhonoConsole.TickRuns

namespace PhonoConsole

/-- A controller together with the source of its most recent `prepare_distribution` call. -/
structure Session where
  controller : Controller
  last : Option Source

namespace Session

open Coro Controller

variable (cfg : Config) (cb : Callbacks)

/-- Runs of ticks.  A move is one tick, at any time and with any answers; a tick that ends in an
    `Exception` is logged and followed by the next one, a cancelled tick ends the run. -/
def ticks : Machine Session (ℚ × Oracle) where
  init s := s = ⟨Controller.create cfg, none⟩
  next s a :=
    match eval a.2 (tick cfg cb a.1) s.controller with
    | (.error .cancelled, _, _) => none
    | (_, c', l) => some ⟨c', lastPrepared s.last l⟩

/-- The captured source is the one the route declares. -/
def Agrees (s : Session) : Prop :=
  ∀ r, s.controller.route = some r → r.distributed = true → s.last = some (routeSource r)

section Conditions

variable (now : ℚ) (o : Oracle) (s : Session)

/-- The early start prepares phono while the latch keeps distributed Bluetooth. -/
def overtakenLatch : Bool :=
  s.controller.route == some .distributedBluetooth
    && Sensed.signalPresent cfg cb now o s.controller
    && !Sensed.phonoActive cfg cb now o s.controller
    && Sensed.bluetoothActive cfg cb now o s.controller
    && Sensed.outputMode cfg cb now o s.controller == .downstairs
    && !Sensed.available cb o
    && Sensed.capable cfg cb now o s.controller
    && Sensed.streamHealthy cb o
    && shouldPrepare cfg s.controller .phono now
    && (!cb.reconcile || went (o (.routerReconcile .distributedBluetooth)))

/-- Distributed Bluetooth is entered without a preparation, and was not the last one prepared. -/
def unpreparedEntry : Bool :=
  Sensed.selected cfg cb now o s.controller == .bluetooth
    && !Sensed.bluetoothPcmReady cfg cb now o s.controller
    && Sensed.outputMode cfg cb now o s.controller == .downstairs
    && Sensed.available cb o
    && s.controller.route != some .distributedBluetooth
    && s.last != some .bluetooth
    && went (o (.routerApply .apply .distributedBluetooth))

/-- Neither of the two. -/
def Undisturbed (s : Session) (a : ℚ × Oracle) : Prop :=
  overtakenLatch cfg cb a.1 a.2 s = false ∧ unpreparedEntry cfg cb a.1 a.2 s = false

instance (s : Session) (a : ℚ × Oracle) : Decidable (Undisturbed cfg cb s a) :=
  inferInstanceAs (Decidable (_ ∧ _))

end Conditions

variable {cfg cb} {now : ℚ} {o : Oracle} {s : Session} {c' : Controller} {l : List CtlReq}

/-! ## The two disturbances in terms of the second half -/

section Disturbances

variable {x : Observed}

theorem overtakenLatch_iff (hx : x = Sensed.observed cfg cb now o s.controller)
    (hcb : cb.prepareDistribution = true) :
    overtakenLatch cfg cb now o s = true ↔
      s.controller.route = some .distributedBluetooth ∧ x.bluetoothActive = true ∧
      x.phonoActive = false ∧
      Sensed.capable cfg cb now o s.controller = true ∧ Sensed.streamHealthy cb o = true ∧
      x.selected = .phono ∧
      startsEarly cfg cb now s.controller x (Sensed.capable cfg cb now o s.controller) = true ∧
      routerAccepts cb o s.controller.route x .distributedBluetooth = true := by
  unfold overtakenLatch
  simp only [Bool.and_eq_true, beq_iff_eq, Bool.not_eq_true', and_assoc]
  rw [← Sensed.observed_phonoSignalPresent, ← Sensed.observed_phonoActive,
    ← Sensed.observed_bluetoothActive, ← Sensed.observed_outputMode,
    ← Sensed.observed_available cfg cb now o s.controller, ← hx]
  constructor
  · rintro ⟨hr, hsig, hp, hb, hm, ha, hcap, hheal, hprep, hrec⟩
    have hsel : x.selected = .phono := by rw [selected_of_bluetooth hb hp, if_pos hsig]
    refine ⟨hr, hb, hp, hcap, hheal, hsel, ?_, ?_⟩
    · simp [startsEarly, Observed.required, Observed.canStart, hsel, hm, ha, hcap, hcb, hprep]
    · rw [routerAccepts, if_pos hr]
      exact hrec
  · rintro ⟨hr, hb, hp, hcap, hheal, hsel, hstart, hacc⟩
    have hsig : x.phonoSignalPresent = true := by
      rw [selected_of_bluetooth hb hp] at hsel
      by_contra hno
      rw [if_neg hno] at hsel
      cases hsel
    simp only [startsEarly, Observed.required, Bool.and_eq_true, beq_iff_eq, Bool.not_eq_true',
      hsel] at hstart
    rw [routerAccepts, if_pos hr] at hacc
    exact ⟨hr, hsig, hp, hb, hstart.1.1.1.1.1.2, hstart.1.1.1.1.2, hcap, hheal, hstart.1.2, hacc⟩

theorem unpreparedEntry_iff (hx : x = Sensed.observed cfg cb now o s.controller) :
    unpreparedEntry cfg cb now o s = true ↔
      x.selected = .bluetooth ∧ x.canStart = false ∧ x.required = true ∧ x.available = true ∧
      s.controller.route ≠ some .distributedBluetooth ∧ s.last ≠ some .bluetooth ∧
      routerAccepts cb o s.controller.route x .distributedBluetooth = true := by
  unfold unpreparedEntry
  have hselected : Sensed.selected cfg cb now o s.controller = x.selected := by
    rw [hx]
    rfl
  simp only [Bool.and_eq_true, beq_iff_eq, bne_iff_ne, Bool.not_eq_true', hselected, and_assoc]
  rw [← Sensed.observed_bluetoothPcmReady, ← Sensed.observed_outputMode,
    ← Sensed.observed_available cfg cb now o s.controller, ← hx]
  constructor
  · rintro ⟨hsel, hpcm, hm, ha, hr, hlast, hacc⟩
    refine ⟨hsel, ?_, ?_, ha, hr, hlast, ?_⟩
    · simp [Observed.canStart, hsel, hpcm]
    · simp [Observed.required, hsel, hm]
    · rw [routerAccepts, if_neg hr]
      simpa using hacc
  · rintro ⟨hsel, hcan, hreq, ha, hr, hlast, hacc⟩
    simp only [Observed.canStart, hsel, bne_self_eq_false, Bool.false_or] at hcan
    simp only [Observed.required, hsel, Bool.and_eq_true, beq_iff_eq] at hreq
    rw [routerAccepts, if_neg hr] at hacc
    exact ⟨hsel, hcan, hreq.2, ha, hr, hlast, by simpa using hacc⟩

end Disturbances

/-! ## One tick -/

/-- The source prepared last after a tick that returns. -/
def prepared (cfg : Config) (cb : Callbacks) (now : ℚ) (o : Oracle) (s : Session) : Option Source :=
  let x := Sensed.observed cfg cb now o s.controller
  let decided := Sensed.decided cfg cb now o s.controller
  if preparesEntry cb s.controller.route x decided then some (routeSource decided)
  else if startsEarly cfg cb now s.controller x (Sensed.capable cfg cb now o s.controller) then
    some x.selected
  else s.last

/-- A tick that returns ends with the route and the source of the closed form. -/
theorem tick_session {st : Status}
    (h : eval o (tick cfg cb now) s.controller = (.ok st, c', l)) :
    Agrees ⟨c', lastPrepared s.last l⟩ ↔
      ((Sensed.route cfg cb now o s.controller).distributed = true →
        prepared cfg cb now o s = some (routeSource (Sensed.route cfg cb now o s.controller))) := by
  obtain ⟨hst, hroute, -, -, hlast⟩ := tick_ok h
  rw [hst] at hroute
  have hprepared : lastPrepared s.last l = prepared cfg cb now o s := hlast s.last
  rw [hprepared]
  constructor
  · exact fun hagree hdist => hagree _ hroute hdist
  · intro hagree r hr hdist
    obtain rfl := Option.some.inj (hroute.symm.trans hr)
    exact hagree hdist

/-- A distributed route that is decided on and needs no preparation is the tick's, once the
    router accepts it. -/
theorem route_of_kept {d : Route} (hd : Sensed.decided cfg cb now o s.controller = d)
    (hdist : d.distributed = true)
    (hkeep : preparesEntry cb s.controller.route (Sensed.observed cfg cb now o s.controller) d = false)
    (hacc : routerAccepts cb o s.controller.route (Sensed.observed cfg cb now o s.controller) d = true) :
    Sensed.route cfg cb now o s.controller = d := by
  have hdes : Sensed.desired cfg cb now o s.controller = d :=
    (desired_of_distributed rfl (hd ▸ hdist) (hd ▸ hkeep)).trans hd
  rw [Sensed.route, Sensed.accepted, hdes, hacc, if_pos rfl]

theorem overtaken_disagrees (hcb : cb.prepareDistribution = true)
    (h : overtakenLatch cfg cb now o s = true) :
    Sensed.route cfg cb now o s.controller = .distributedBluetooth ∧
      prepared cfg cb now o s = some .phono := by
  obtain ⟨hr, hb, hp, hcap, hheal, hsel, hstart, hacc⟩ := (overtakenLatch_iff rfl hcb).mp h
  have hd : Sensed.decided cfg cb now o s.controller = .distributedBluetooth := by
    unfold Sensed.decided
    rw [hr]
    exact decided_of_latch hb hp hcap hheal
  have hkeep : preparesEntry cb s.controller.route (Sensed.observed cfg cb now o s.controller)
      .distributedBluetooth = false := by simp [preparesEntry, hr]
  refine ⟨route_of_kept hd rfl hkeep hacc, ?_⟩
  simp only [prepared, hd, hkeep, if_neg Bool.false_ne_true, hstart, if_true, hsel]

theorem unprepared_disagrees (h : unpreparedEntry cfg cb now o s = true) :
    Sensed.route cfg cb now o s.controller = .distributedBluetooth ∧
      prepared cfg cb now o s ≠ some .bluetooth := by
  obtain ⟨hsel, hcan, hreq, ha, hr, hne, hacc⟩ := (unpreparedEntry_iff rfl).mp h
  have hd : Sensed.decided cfg cb now o s.controller = .distributedBluetooth :=
    decided_of_bluetooth hr hsel hreq ha
  have hkeep : preparesEntry cb s.controller.route (Sensed.observed cfg cb now o s.controller)
      .distributedBluetooth = false := by simp [preparesEntry, hcan]
  have hstart : startsEarly cfg cb now s.controller (Sensed.observed cfg cb now o s.controller)
      (Sensed.capable cfg cb now o s.controller) = false := startsEarly_of_available ha
  refine ⟨route_of_kept hd rfl hkeep hacc, ?_⟩
  simpa only [prepared, hd, hkeep, hstart, if_neg Bool.false_ne_true] using hne

/-- A kept route that is not overtaken by an early start keeps its source. -/
theorem prepared_of_kept {d : Route} (hs : s.Agrees) (hdist : d.distributed = true)
    (hd : Sensed.decided cfg cb now o s.controller = d) (hr : s.controller.route = some d)
    (hstart : startsEarly cfg cb now s.controller (Sensed.observed cfg cb now o s.controller)
      (Sensed.capable cfg cb now o s.controller) = true →
      (Sensed.observed cfg cb now o s.controller).selected = routeSource d) :
    prepared cfg cb now o s = some (routeSource d) := by
  have hkeep : preparesEntry cb s.controller.route (Sensed.observed cfg cb now o s.controller) d
      = false := by simp [preparesEntry, hr]
  simp only [prepared, hd, hkeep, if_neg Bool.false_ne_true]
  split
  · rename_i hearly
    rw [hstart hearly]
  · exact hs d hr hdist

/-- An undisturbed tick that accepts a distributed route has prepared its source last. -/
theorem undisturbed_agrees {d : Route} (hcb : cb.prepareDistribution = true) (hs : s.Agrees)
    (hu : Undisturbed cfg cb s (now, o)) (hd : Sensed.decided cfg cb now o s.controller = d)
    (hdist : d.distributed = true)
    (hacc : routerAccepts cb o s.controller.route (Sensed.observed cfg cb now o s.controller) d
      = true) :
    prepared cfg cb now o s = some (routeSource d) := by
  obtain ⟨hA, hB⟩ := hu
  have hdecided : (Controller.decided s.controller.route (Sensed.observed cfg cb now o s.controller)
      (Sensed.capable cfg cb now o s.controller) (Sensed.streamHealthy cb o)
      (o .routingGeneration)).distributed = true := by
    rw [← hd] at hdist
    exact hdist
  rcases decided_distributed hdecided with ⟨hr, hb, hp, hcap, hheal, heq⟩ | ⟨ha, hr, hsel, heq⟩ |
    ⟨hreq, ha, heq⟩
  · -- the Bluetooth latch
    obtain rfl : d = .distributedBluetooth := hd.symm.trans heq
    refine prepared_of_kept hs rfl hd hr fun hstart => ?_
    cases hsig : (Sensed.observed cfg cb now o s.controller).phonoSignalPresent with
    | true =>
      have hsel := selected_of_bluetooth hb hp
      rw [hsig, if_pos rfl] at hsel
      rw [(overtakenLatch_iff rfl hcb).mpr ⟨hr, hb, hp, hcap, hheal, hsel, hstart, hacc⟩] at hA
      exact nomatch hA
    | false =>
      rw [selected_of_bluetooth hb hp, hsig]
      rfl
  · -- the phono latch
    obtain rfl : d = .distributedPhono := hd.symm.trans heq
    exact prepared_of_kept hs rfl hd hr fun _ => hsel
  · -- the reducer: an entry is prepared, unless no Bluetooth PCM has been seen
    have hstart : startsEarly cfg cb now s.controller (Sensed.observed cfg cb now o s.controller)
        (Sensed.capable cfg cb now o s.controller) = false := startsEarly_of_available ha
    by_cases hr : s.controller.route = some d
    · exact prepared_of_kept hs hdist hd hr fun hno => nomatch hstart.symm.trans hno
    · cases hcan : (Sensed.observed cfg cb now o s.controller).canStart with
      | true => simp [prepared, hd, preparesEntry, hdist, hr, hcb, hcan]
      | false =>
        have hsel : (Sensed.observed cfg cb now o s.controller).selected = .bluetooth := by
          by_contra hne
          simp [Observed.canStart, hne] at hcan
        rw [hsel] at heq
        obtain rfl : d = .distributedBluetooth := hd.symm.trans heq
        by_cases hlast : s.last = some .bluetooth
        · simp [prepared, hd, preparesEntry, hcan, hstart, hlast, routeSource]
        · rw [(unpreparedEntry_iff rfl).mpr ⟨hsel, hcan, hreq, ha, hr, hlast, hacc⟩] at hB
          exact nomatch hB

/-- **One tick**: from an agreeing state, a tick that returns leaves an agreeing state unless it
    is one of the two disturbances. -/
theorem tick_agrees_iff {st : Status} (hcb : cb.prepareDistribution = true) (hs : s.Agrees)
    (h : eval o (tick cfg cb now) s.controller = (.ok st, c', l)) :
    Agrees ⟨c', lastPrepared s.last l⟩ ↔ Undisturbed cfg cb s (now, o) := by
  rw [tick_session h]
  constructor
  · intro hagree
    refine ⟨Bool.eq_false_iff.mpr fun hA => ?_, Bool.eq_false_iff.mpr fun hB => ?_⟩
    · obtain ⟨hroute, hphono⟩ := overtaken_disagrees hcb hA
      rw [hroute, hphono] at hagree
      exact nomatch hagree rfl
    · obtain ⟨hroute, hno⟩ := unprepared_disagrees hB
      rw [hroute] at hagree
      exact hno (hagree rfl)
  · intro hu hdist
    -- a distributed end was decided on and accepted
    have hacc : Sensed.accepted cfg cb now o s.controller = true := by
      by_contra hno
      rw [Sensed.route, if_neg hno] at hdist
      exact nomatch hdist
    rw [Sensed.route, if_pos hacc] at hdist ⊢
    obtain ⟨hsame, -⟩ := desired_distributed rfl hdist
    exact undisturbed_agrees hcb hs hu hsame.symm hdist hacc

/-- A tick that ends in an `Exception` has prepared nothing and keeps its route. -/
theorem tick_exception {t : String}
    (h : eval o (tick cfg cb now) s.controller = (.error (.exception t), c', l)) :
    c'.route = s.controller.route ∧ lastPrepared s.last l = s.last := by
  rcases eval_bind_error h with hfirst | ⟨x, c, l₁, l₂, hfirst, hsecond, rfl⟩
  · obtain ⟨hc, hquiet⟩ := observe_quiet hfirst
    exact ⟨hc.1, lastPrepared_eq fun q hq => prepares_of_observation (hquiet q hq)⟩
  · obtain ⟨hc, hquiet⟩ := observe_quiet hfirst
    obtain ⟨rfl, hnone⟩ := conclude_error hsecond
    refine ⟨hc.1, lastPrepared_eq fun q hq => ?_⟩
    exact (List.mem_append.mp hq).elim (fun hq => prepares_of_observation (hquiet q hq))
      fun hq => prepares_of_question (hnone q hq)

/-! ## Runs -/

/-- **The declared route is the captured source** in every state of a run whose ticks are
    undisturbed. -/
theorem declared_route_prepared (hcb : cb.prepareDistribution = true)
    (h : (ticks cfg cb).Reach (Undisturbed cfg cb) s) : s.Agrees := by
  refine h.invariant (fun s hs r hr => ?_) fun s a s' hs hok hnext => ?_
  · rw [hs] at hr
    exact nomatch hr
  · obtain ⟨now, o⟩ := a
    simp only [ticks] at hnext
    split at hnext
    · exact nomatch hnext
    · rename_i res c' l hne heval
      obtain rfl := Option.some.inj hnext
      match res, hne, heval with
      | .ok st, _, heval => exact (tick_agrees_iff hcb hs heval).mpr hok
      | .error (.exception t), _, heval =>
        obtain ⟨hroute, hlast⟩ := tick_exception heval
        intro r hr
        rw [hroute] at hr
        rw [hlast]
        exact hs r hr
      | .error .cancelled, hne, heval => exact (hne rfl).elim

/-- A record that is started and then confirmed Downstairs, without disturbance. -/
theorem declared_route_prepared_phono :
    ∃ s : Session, s.controller.route = some .distributedPhono ∧ s.Agrees := by
  obtain ⟨s, hs, hr⟩ := Machine.exists_reach
    (m := (ticks plainConfig {}).guarded (Undisturbed plainConfig {}))
    (l := [(0, Answers.oracle { level := -30, peaks := some (-20, -20) }),
      (1, Answers.oracle { level := -30, available := true })])
    (fun s => s.controller.route = some .distributedPhono)
    (show _ = Session.mk (Controller.create plainConfig) none from rfl) (by decide +kernel)
  exact ⟨s, hr, declared_route_prepared rfl hs.of_guarded⟩

/-- A telemetry gap while a record starts over distributed Bluetooth: phono is prepared, and the
    route stays Bluetooth's. -/
theorem declared_route_not_prepared :
    ¬ ∀ s, (ticks plainConfig {}).Reach Machine.anyMove s → s.Agrees := by
  intro hall
  obtain ⟨s, hs, hr, hlast⟩ := Machine.exists_reach (m := ticks plainConfig {})
    (l := [(0, Answers.oracle { bluetoothPlaying := true, bluetoothLevel := -20 }),
      (1, Answers.oracle { bluetoothPlaying := true, bluetoothLevel := -20, available := true }),
      (2, Answers.oracle { bluetoothPlaying := true, level := -30 })])
    (fun s => s.controller.route = some .distributedBluetooth ∧ s.last = some .phono)
    (show _ = Session.mk (Controller.create plainConfig) none from rfl) (by decide +kernel)
  have hbluetooth := hall s hs _ hr rfl
  rw [hlast] at hbluetooth
  exact nomatch hbluetooth

/-- The other disturbance: Bluetooth that is only held by its detector when Downstairs is
    confirmed is entered with nothing prepared at all. -/
example : ∃ s, (ticks plainConfig {}).Reach Machine.anyMove s ∧
    (s.controller.route = some .distributedBluetooth ∧ s.last = none) :=
  Machine.exists_reach (m := ticks plainConfig {})
    (l := [(0, Answers.oracle
        { bluetoothPlaying := true, bluetoothLevel := -20, outputMode := .local }),
      (1, Answers.oracle { bluetoothLevel := -20, available := true })])
    (fun s => s.controller.route = some .distributedBluetooth ∧ s.last = none)
    (show _ = Session.mk (Controller.create plainConfig) none from rfl) (by decide +kernel)

end Session

end PhonoConsole
