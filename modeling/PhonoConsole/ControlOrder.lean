/-
  THE ORDER OF THE ENCODER'S ACTIONS: what the worker of `HardwareControls` calls, in which order.

  A drain takes turns from behind a press: the press is parked and comes after them.  When no turn
  stands behind a press in the queue at any drain, the actions are the events in their order, with
  runs of adjacent turns merged.

  * `Merged`     — actions that are events in their order, adjacent turns merged;
  * `TurnsFirst` — the queue has no turn behind a press;
  * `Ordered`    — the actions so far are the events received so far, but for those still to come;
  * `order_kept` — every run whose drains find the turns first keeps that.
-/
import PhonoConsole.Controls

namespace PhonoConsole.HardwareControls

variable {cfg : ControlsConfig} {c c' : HardwareControls} {move : ControlMove}

/-! ## Merging adjacent turns -/

/-- The action for turns that add up to `delta` detents: none when they cancel out. -/
def turnAction (step delta : ℤ) : List ControlAction :=
  if delta * step = 0 then [] else [.turn (delta * step)]

/-- The actions are the events in their order, with only adjacent turns merged. -/
inductive Merged (step : ℤ) : List ControlEvent → List ControlAction → Prop
  | nil : Merged step [] []
  | press {events : List ControlEvent} {actions : List ControlAction} :
      Merged step events actions → Merged step (.press :: events) (.press :: actions)
  | turns {events : List ControlEvent} {actions : List ControlAction} (first : ℤ)
      (more : List ℤ) : Merged step events actions →
      Merged step (.turn first :: more.map .turn ++ events)
        (turnAction step (first + more.sum) ++ actions)

/-- What comes later joins at the end. -/
theorem Merged.append {step : ℤ} {events events' : List ControlEvent}
    {actions actions' : List ControlAction} (h : Merged step events actions)
    (h' : Merged step events' actions') : Merged step (events ++ events') (actions ++ actions') := by
  induction h with
  | nil => exact h'
  | press _ ih => exact .press ih
  | turns first more _ ih =>
    have hturns := Merged.turns first more ih
    simpa using hturns

/-- The first action is about the turns before the first press. -/
theorem merged_crossing {step first volumeDelta : ℤ} {events : List ControlEvent}
    {actions : List ControlAction}
    (h : Merged step (.turn first :: .press :: events) (.turn volumeDelta :: actions)) :
    volumeDelta = first * step := by
  generalize hevents : .turn first :: .press :: events = all at h
  generalize hactions : .turn volumeDelta :: actions = called at h
  cases h with
  | nil => cases hevents
  | press => cases hevents
  | @turns events' actions' first' more h' =>
    cases more with
    | cons => cases hevents
    | nil =>
      obtain ⟨⟨⟩, hevents'⟩ := List.cons.inj hevents
      have hevents' : events' = .press :: events := by simpa using hevents'.symm
      subst hevents'
      unfold turnAction at hactions
      split at hactions
      · -- nothing was dispatched for the turn: the press comes first
        cases h'
        cases hactions
      · have hhead : volumeDelta = first * step ∧ actions = actions' := by simpa using hactions
        exact hhead.1

/-- No turn of the queue stands behind a press. -/
def TurnsFirst (queue : List ControlEvent) : Prop :=
  queue.Pairwise fun before after => before = .press → after = .press

instance TurnsFirst.decidable (queue : List ControlEvent) : Decidable (TurnsFirst queue) :=
  inferInstanceAs (Decidable (queue.Pairwise fun before after => before = .press → after = .press))

theorem turns_eq_nil {events : List ControlEvent} (h : ∀ event ∈ events, event = .press) :
    turns events = [] := by
  induction events with
  | nil => rfl
  | cons event events ih =>
    obtain rfl : event = .press := h event List.mem_cons_self
    exact ih fun event hmem => h event (List.mem_cons_of_mem _ hmem)

/-- Such a queue is its turns and then its presses. -/
theorem TurnsFirst.split {queue : List ControlEvent} (h : TurnsFirst queue) :
    queue = (turns queue).map .turn ++ presses queue := by
  induction queue with
  | nil => rfl
  | cons event queue ih =>
    obtain ⟨hfirst, hrest⟩ := List.pairwise_cons.mp h
    have ih := ih hrest
    cases event with
    | turn delta => simpa [turns, presses] using ih
    | press =>
      -- behind a press there are presses only
      have hturns : turns queue = [] := turns_eq_nil fun event hmem => hfirst event hmem rfl
      simpa [turns, presses, hturns] using ih

/-! ## Runs -/

/-- The queue has room for what arrives, and a drain finds no turn behind a press. -/
def Orderly (cfg : ControlsConfig) (c : HardwareControls) (move : ControlMove) : Prop :=
  c.NeverFull move ∧ (c.drains cfg move = true → TurnsFirst c.queue)

instance Orderly.decidable (cfg : ControlsConfig) (c : HardwareControls) (move : ControlMove) :
    Decidable (Orderly cfg c move) :=
  inferInstanceAs (Decidable (_ ∧ (_ → _)))

/-- The actions so far are the first of the events received, in order; the rest is with the worker
    unless it has ended. -/
def Ordered (cfg : ControlsConfig) (c : HardwareControls) : Prop :=
  ∃ done left, c.received = done ++ left ∧ Merged cfg.volumeStep done c.dispatched ∧
    (c.phase ≠ .ended → left = c.rest)

/-- Every such move keeps the order. -/
theorem ordered_next (hparked : c.Parked) (hok : Orderly cfg c move) (hc : Ordered cfg c)
    (h : c.next cfg move = some c') : Ordered cfg c' := by
  obtain ⟨done, left, hleft, hmerged, hrest⟩ := hc
  obtain ⟨-, ⟨event, rfl, rfl⟩ | ⟨hsame, hreceived, hdispatched, hended⟩ |
    ⟨hended, hreceived, hdispatched⟩ | ⟨hpress, hreceived, hdispatched, halive⟩ |
    ⟨first, hdrains, hpending, hturn, halive, rfl⟩⟩ := next_cases hparked h
  · refine ⟨done, left ++ [event], ?_, hmerged, fun halive => ?_⟩
    · show c.received ++ [event] = _
      rw [hleft, List.append_assoc]
    · have hnew : (c.enqueue event).rest = c.rest ++ [event] := enqueue_rest hok.1
      rw [hnew, hrest halive]
  · refine ⟨done, left, by rw [hreceived, hleft], by rwa [hdispatched], fun halive => ?_⟩
    rw [hsame]
    exact hrest fun h => halive (hended h)
  · exact ⟨done, left, by rw [hreceived, hleft], by rwa [hdispatched], fun h => absurd hended h⟩
  · have hleft' : left = .press :: c'.rest := (hrest halive).trans hpress
    refine ⟨done ++ [.press], c'.rest, ?_, ?_, fun _ => rfl⟩
    · rw [hreceived, hleft, hleft']
      simp
    · rw [hdispatched]
      exact hmerged.append (.press .nil)
  · -- the turns of the queue come before its presses, which are parked
    have hsplit := (hok.2 hdrains).split
    obtain ⟨hqueue, hparks, hreceived, hhand, -, hdispatched⟩ :=
      drained_eq cfg c first
    have hleft' : left = .turn first :: (turns c.queue).map .turn ++ presses c.queue := by
      rw [hrest halive, hturn, List.cons_append, ← hsplit]
    refine ⟨done ++ (.turn first :: (turns c.queue).map .turn), presses c.queue, ?_, ?_, fun _ => ?_⟩
    · rw [hreceived, hleft, hleft', List.append_assoc]
    · have hstep : Merged cfg.volumeStep (.turn first :: (turns c.queue).map .turn)
          (turnAction cfg.volumeStep (first + (turns c.queue).sum)) := by
        have hturns : Merged cfg.volumeStep (.turn first :: (turns c.queue).map .turn ++ [])
            (turnAction cfg.volumeStep (first + (turns c.queue).sum) ++ []) :=
          .turns first (turns c.queue) .nil
        simpa using hturns
      rw [hdispatched]
      exact hmerged.append hstep
    · rw [rest, hhand, hparks, hqueue, hpending]
      simp

/-- In every run whose drains find no turn behind a press, the actions dispatched are the first of
    the events received, in the order of their arrival and with only adjacent turns merged; an
    idle worker has dispatched them all. -/
theorem order_kept (cfg : ControlsConfig) {c : HardwareControls}
    (h : (controls cfg).Reach (Orderly cfg) c) :
    (∃ done left, c.received = done ++ left ∧ Merged cfg.volumeStep done c.dispatched) ∧
      (c.Idle → Merged cfg.volumeStep c.received c.dispatched) := by
  have hinv : c.Parked ∧ Ordered cfg c := by
    refine h.invariant (I := fun c => c.Parked ∧ Ordered cfg c) ?_ ?_
    · rintro c rfl
      exact ⟨initial_parked, [], [], rfl, .nil, fun _ => rfl⟩
    · intro c move c' ⟨hparked, hc⟩ hok hnext
      exact ⟨(next_cases hparked hnext).1, ordered_next hparked hok hc hnext⟩
  obtain ⟨hparked, done, left, hleft, hmerged, hrest⟩ := hinv
  refine ⟨⟨done, left, hleft, hmerged⟩, fun hidle => ?_⟩
  have halive : c.phase ≠ .ended := by
    rw [hidle.1]
    simp
  have hnone : left = [] := by
    rw [hrest halive, hidle.rest hparked]
  rw [hleft, hnone, List.append_nil]
  exact hmerged

/-- Two detents, a press while the first action runs, and a detent after it. -/
theorem order_kept_press : ∃ c : HardwareControls,
    c.received = [.turn 1, .turn 1, .press, .turn (-1)] ∧
      c.dispatched = [.turn 4, .press, .turn (-2)] ∧ Merged 2 c.received c.dispatched := by
  obtain ⟨c, hc, hidle, hreceived, hdispatched⟩ := Machine.exists_reach
    (m := (controls defaultControls).guarded (Orderly defaultControls))
    (l := List.flatten [[.opened, .decide, .gpio (.turn 1), .fetch, .resume, .gpio (.turn 1),
        .slept, .gpio .press, .gpio (.turn (-1))], settled, [.fetch, .resume], settled,
      [.fetch, .resume, .slept], settled])
    (fun c => (c.phase = .waiting ∧ c.queue = []) ∧
      c.received = [.turn 1, .turn 1, .press, .turn (-1)] ∧
      c.dispatched = [.turn 4, .press, .turn (-2)])
    (show _ = HardwareControls.initial from rfl) (by decide +kernel)
  exact ⟨c, hreceived, hdispatched, (order_kept defaultControls hc.of_guarded).2 hidle⟩

/-- A detent, a press and a detent within one coalescing sleep: the second detent joins the first,
    before the press. -/
theorem order_broken :
    ¬ ∀ c : HardwareControls, (controls defaultControls).Reach NeverFull c → c.Idle →
      Merged defaultControls.volumeStep c.received c.dispatched := by
  intro hall
  obtain ⟨c, hc, hidle, hreceived, hdispatched⟩ := Machine.exists_reach
    (m := (controls defaultControls).guarded NeverFull)
    (l := List.flatten [[.opened, .decide, .gpio (.turn 1), .fetch, .resume, .gpio .press,
        .gpio (.turn 1), .slept, .returns, .returns, .decide], settled])
    (fun c => (c.phase = .waiting ∧ c.queue = []) ∧
      c.received = [.turn 1, .press, .turn 1] ∧ c.dispatched = [.turn 4, .press])
    (show _ = HardwareControls.initial from rfl) (by decide +kernel)
  have hmerged := hall c hc.of_guarded hidle
  rw [hreceived, hdispatched] at hmerged
  have hfirst : (4 : ℤ) = 1 * 2 := merged_crossing hmerged
  omega

end PhonoConsole.HardwareControls
