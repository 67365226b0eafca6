/-
  THE CONTROLLER LOOP among the tasks that stop playback (`Controller.run` with
  `MusicAssistantState`'s play requests).

  `run` repeats ticks until its stop event is set, and catches every `Exception` of a tick; a
  `CancelledError` passes all handlers and ends it.  The loop is suspended wherever its tick is,
  so its state keeps the suspended tick itself: the same program `Controller.tick` whose oracle
  reading the other results use, advanced here one answer at a time (`Loop.advance`).

  The one await that can deliver a cancellation the loop did not ask for is the shared play
  request of `prepare_distribution` → `play_vinyl_source` → `shield(task)`.  So:

  * `loop`          — the machine: the loop, its request table, other callers of
    `play_vinyl_source`, `stop_players`, `invalidate_play_requests`, and Music Assistant;
  * `Spared`        — the condition on a move: no invalidation while the loop awaits an
    unfinished request;
  * `Loop.Sound`    — the invariant: what the loop waits for is live, and what is left of its
    tick ends in a cancellation only through a cancelled answer (`tick_uncancelled`);
  * `loop_survives` — under the condition the loop ends only when stopped or cancelled.
-/
import PhonoConsole.Lib.Machine
import PhonoConsole.MusicAssistant
import PhonoConsole.TickConclude

namespace PhonoConsole

open Coro Controller

/-- Answers of the collaborators that are awaited outside the play requests: values and
    `Exception`s.  None of them awaits a task that somebody else cancels. -/
structure Answering where
  oracle : Oracle
  uncancelled : ∀ q, Uncancelled q (oracle q)

/-- Answers none of which is a cancellation. -/
def Answers.answering (a : Answers) : Answering where
  oracle := a.oracle
  uncancelled q := by cases q <;> simp [Uncancelled, Answers.oracle]

/-- Where the loop is suspended. -/
inductive LoopPc
  /-- between two ticks -/
  | waiting
  /-- in a tick, at a request -/
  | suspended (p : Tick Status)
  /-- in `prepare_distribution`, at `shield(task)` of the request -/
  | playing (k : Except Exc Bool → Tick Status) (key : PlayKey) (requestId : Nat)
  | terminated

/-- The loop has ended. -/
def LoopPc.isTerminated : LoopPc → Bool
  | .terminated => true
  | _ => false

theorem LoopPc.eq_terminated {pc : LoopPc} (h : pc.isTerminated = true) : pc = .terminated := by
  cases pc <;> first | rfl | exact nomatch h

/-- The loop, its stop event, whether its own task was cancelled, and the play requests. -/
structure Loop where
  controller : Controller
  pc : LoopPc := .waiting
  stop : Bool := false
  cancelled : Bool := false
  requests : PlayRequests := {}

/-- The moves: of the loop's own task, of other tasks, and of Music Assistant. -/
inductive LoopMove
  /-- the next tick starts -/
  | start (now : ℚ)
  /-- the awaited collaborator answers -/
  | answer (a : Answering)
  /-- `prepare_distribution` has selected the source and calls `play_vinyl_source` -/
  | play (key : PlayKey) (now : ℚ)
  /-- the awaited request is done; `stream_requested` as the preparation then reads it -/
  | resume (streamRequested : Bool)
  /-- the loop finds its stop event set -/
  | finish
  | setStop
  | cancelLoop
  | othersPlay (key : PlayKey) (now : ℚ)
  | othersForget (key : PlayKey) (requestId : Nat)
  /-- another task calls `stop_players` or `invalidate_play_requests` -/
  | invalidate
  | requestReturns (requestId : Nat) (players : List String)
  | requestRaises (requestId : Nat) (text : String)
  /-- the cancellation reaches the request's task -/
  | requestCancelled (requestId : Nat)

namespace Loop

/-- Continue the tick with `p` up to its next request, or to its end.  A release starts with an
    invalidation. -/
def advance (s : Loop) (p : Tick Status) : Loop :=
  match p.settle s.controller with
  | (.done (.error .cancelled), c) => { s with controller := c, pc := .terminated }
  | (.done _, c) => { s with controller := c, pc := .waiting }
  | (.call .releaseDistribution k, c) =>
    { s with
      controller := c
      pc := .suspended (.call .releaseDistribution k)
      requests := s.requests.invalidate }
  | (p, c) => { s with controller := c, pc := .suspended p }

/-- The result of the awaited `shield(task)` for the preparation: a started player and a
    requested stream, or the request's own failure. -/
def preparation (result : Except Exc (List String)) (streamRequested : Bool) : Except Exc Bool :=
  match result with
  | .ok started => .ok (!started.isEmpty && streamRequested)
  | .error e => .error e

section Moves

variable (cfg : Config) (cb : Callbacks) (timeout : ℚ)

/-- One move. -/
def next (s : Loop) : LoopMove → Option Loop
  | .start now =>
    match s.pc with
    | .waiting => if s.stop then none else some (s.advance (tick cfg cb now))
    | _ => none
  | .answer a =>
    match s.pc with
    | .suspended (.call q k) => some (s.advance (k (a.oracle q)))
    | _ => none
  | .play key now =>
    match s.pc with
    | .suspended (.call (.prepareDistribution _ _) k) =>
      let (requests, requestId) := s.requests.playVinylSource key now timeout
      some { s with requests, pc := .playing k key requestId }
    | _ => none
  | .resume streamRequested =>
    match s.pc with
    | .playing k key requestId =>
      match s.requests.task requestId with
      | .done (.error (.exception text)) =>
        some ({ s with requests := s.requests.forget key requestId }.advance
          (k (.error (.exception text))))
      | .done result => some (s.advance (k (preparation result streamRequested)))
      | _ => none
    | _ => none
  | .finish =>
    match s.pc with
    | .waiting => if s.stop then some { s with pc := .terminated } else none
    | _ => none
  | .setStop => some { s with stop := true }
  | .cancelLoop => some { s with cancelled := true, pc := .terminated }
  | .othersPlay key now =>
    some { s with requests := (s.requests.playVinylSource key now timeout).1 }
  | .othersForget key requestId => some { s with requests := s.requests.forget key requestId }
  | .invalidate => some { s with requests := s.requests.invalidate }
  | .requestReturns requestId players =>
    if (s.requests.task requestId).isDone then none
    else some { s with requests := s.requests.settle requestId (.ok players) }
  | .requestRaises requestId text =>
    if (s.requests.task requestId).isDone then none
    else some { s with requests := s.requests.settle requestId (.error (.exception text)) }
  | .requestCancelled requestId =>
    if s.requests.task requestId = .cancelling then
      some { s with requests := s.requests.settle requestId (.error .cancelled) }
    else none

/-- The loop among the other tasks. -/
def machine : Machine Loop LoopMove where
  init s := s = { controller := Controller.create cfg }
  next := next cfg cb timeout

end Moves

/-- The loop awaits a request that is not done. -/
def awaitsRequest (s : Loop) : Prop :=
  ∃ k key requestId, s.pc = .playing k key requestId ∧ (s.requests.task requestId).isDone = false

instance (s : Loop) : Decidable s.awaitsRequest :=
  match hpc : s.pc with
  | .playing k key requestId =>
    decidable_of_iff ((s.requests.task requestId).isDone = false)
      ⟨fun h => ⟨k, key, requestId, hpc, h⟩, fun ⟨_, _, _, hpc', h⟩ => by
        cases hpc.symm.trans hpc'
        exact h⟩
  | .waiting | .suspended _ | .terminated => .isFalse fun ⟨_, _, _, hpc', _⟩ => by
      cases hpc.symm.trans hpc'

/-- No invalidation while the loop awaits an unfinished request. -/
def Spared (s : Loop) : LoopMove → Prop
  | .invalidate => ¬ s.awaitsRequest
  | _ => True

instance (s : Loop) (m : LoopMove) : Decidable (s.Spared m) := by
  cases m <;> unfold Spared <;> exact inferInstance

/-! ## The invariant -/

/-- What is left of a tick ends in a cancellation only through a cancelled answer. -/
def Calm (p : Tick Status) : Prop := p.Ends Uncancelled (Avoids fun e => e = .cancelled)

/-- What the loop waits for cannot deliver a cancellation, and it has ended only on request. -/
structure Sound (s : Loop) : Prop where
  requests : s.requests.Live
  suspended : ∀ p, s.pc = .suspended p → Calm p
  playing : ∀ k key id, s.pc = .playing k key id →
    (s.requests.task id).Live ∧ ∀ r, r ≠ .error .cancelled → Calm (k r)
  terminated : s.pc = .terminated → s.stop = true ∨ s.cancelled = true

variable {s s' : Loop} {p : Tick Status}

/-- Continuing a calm tick keeps the loop alive. -/
theorem advance_sound (hs : s.requests.Live) (hp : Calm p) : (s.advance p).Sound := by
  have hsettled := hp.settle s.controller
  unfold advance
  split
  · -- the tick has ended in a cancellation
    rename_i c heq
    rw [heq] at hsettled
    exact absurd rfl (hsettled _ rfl)
  · exact ⟨hs, fun _ h => (nomatch h), fun _ _ _ h => (nomatch h), fun h => (nomatch h)⟩
  · rename_i k c heq
    rw [heq] at hsettled
    refine ⟨PlayRequests.invalidate_live _, fun p h => ?_, fun _ _ _ h => (nomatch h),
      fun h => (nomatch h)⟩
    rw [← LoopPc.suspended.inj h]
    exact hsettled
  · rename_i q c heq
    rw [heq] at hsettled
    refine ⟨hs, fun p h => ?_, fun _ _ _ h => (nomatch h), fun h => (nomatch h)⟩
    rw [← LoopPc.suspended.inj h]
    exact hsettled

/-- A change of the request table that keeps the live tasks live keeps the loop sound. -/
theorem Sound.withRequests {r : PlayRequests} (h : s.Sound) (hr : r.Live)
    (htask : ∀ k key id, s.pc = .playing k key id → (s.requests.task id).Live → (r.task id).Live) :
    Sound { s with requests := r } :=
  ⟨hr, h.suspended, fun k key id hpc => ⟨htask k key id hpc (h.playing k key id hpc).1,
    (h.playing k key id hpc).2⟩, h.terminated⟩

/-- The end of a request; a live one does not end cancelled. -/
theorem Sound.settled {id : Nat} {result : Except Exc (List String)} (h : s.Sound)
    (hr : (s.requests.task id).Live → result ≠ .error .cancelled) :
    Sound { s with requests := s.requests.settle id result } := by
  have hsettle : ∀ i, (s.requests.task i).Live → ((s.requests.settle id result).task i).Live :=
    fun i ht => PlayRequests.settle_task (fun hi => hr (hi ▸ ht)) ht
  exact h.withRequests (fun e he => hsettle _ (h.requests e he)) fun _ _ i _ ht => hsettle i ht

section Moves

variable {cfg : Config} {cb : Callbacks} {timeout : ℚ}

/-- The preparation waits for the request it joins, which is live. -/
theorem play_sound {key : PlayKey} {now : ℚ} (h : s.Sound)
    (hnext : next cfg cb timeout s (.play key now) = some s') : s'.Sound := by
  simp only [next] at hnext
  split at hnext
  · rename_i site source k hpc
    rw [← Option.some.inj hnext]
    obtain ⟨hlive, htask⟩ := PlayRequests.playVinylSource_live h.requests key now timeout
    refine ⟨hlive, fun _ hp => (nomatch hp), fun k' key' id hp => ?_, fun hp => (nomatch hp)⟩
    simp only [LoopPc.playing.injEq] at hp
    obtain ⟨rfl, rfl, rfl⟩ := hp
    exact ⟨htask, fun r hr => h.suspended _ hpc r hr⟩
  · exact nomatch hnext

/-- The awaited request is done: being live, it was not cancelled. -/
theorem resume_sound {streamRequested : Bool} (h : s.Sound)
    (hnext : next cfg cb timeout s (.resume streamRequested) = some s') : s'.Sound := by
  simp only [next] at hnext
  split at hnext
  · rename_i k key id hpc
    obtain ⟨hlive, hk⟩ := h.playing k key id hpc
    split at hnext
    · rw [← Option.some.inj hnext]
      exact advance_sound (PlayRequests.forget_live h.requests)
        (hk _ fun hcancel => by simp at hcancel)
    · rename_i result _ hdone
      rw [← Option.some.inj hnext]
      rw [hdone] at hlive
      refine advance_sound h.requests (hk _ ?_)
      rcases result with e | started
      · intro hcancel
        exact hlive (by rw [← Except.error.inj hcancel])
      · exact fun hcancel => (nomatch hcancel)
    · exact nomatch hnext
  · exact nomatch hnext

/-- **One move** of the loop, of the other tasks or of Music Assistant. -/
theorem next_sound {m : LoopMove} (h : s.Sound) (hm : s.Spared m)
    (hnext : next cfg cb timeout s m = some s') : s'.Sound := by
  cases m with
  | start now =>
    simp only [next] at hnext
    split at hnext
    · obtain ⟨-, hnext⟩ := Option.ite_none_left_eq_some.mp hnext
      rw [← Option.some.inj hnext]
      exact advance_sound h.requests tick_uncancelled
    · exact nomatch hnext
  | answer a =>
    simp only [next] at hnext
    split at hnext
    · rename_i q k hpc
      rw [← Option.some.inj hnext]
      exact advance_sound h.requests (h.suspended _ hpc (a.oracle q) (a.uncancelled q))
    · exact nomatch hnext
  | play key now => exact play_sound h hnext
  | resume streamRequested => exact resume_sound h hnext
  | finish =>
    simp only [next] at hnext
    split at hnext
    · obtain ⟨hstop, hnext⟩ := Option.ite_none_right_eq_some.mp hnext
      rw [← Option.some.inj hnext]
      exact ⟨h.requests, fun _ hp => (nomatch hp), fun _ _ _ hp => (nomatch hp),
        fun _ => .inl hstop⟩
    · exact nomatch hnext
  | setStop =>
    rw [← Option.some.inj hnext]
    exact ⟨h.requests, h.suspended, h.playing, fun _ => .inl rfl⟩
  | cancelLoop =>
    rw [← Option.some.inj hnext]
    exact ⟨h.requests, fun _ hp => (nomatch hp), fun _ _ _ hp => (nomatch hp), fun _ => .inr rfl⟩
  | othersPlay key now =>
    rw [← Option.some.inj hnext]
    exact h.withRequests (PlayRequests.playVinylSource_live h.requests ..).1
      fun _ _ _ _ ht => PlayRequests.playVinylSource_task ht
  | othersForget key id =>
    rw [← Option.some.inj hnext]
    exact h.withRequests (PlayRequests.forget_live h.requests)
      fun _ _ _ _ ht => by rwa [PlayRequests.forget_task]
  | invalidate =>
    -- the request the loop awaits is done, and a done task is left as it is
    rw [← Option.some.inj hnext]
    refine h.withRequests (PlayRequests.invalidate_live _) fun k key id hpc ht => ?_
    have hdone : (s.requests.task id).isDone = true := by
      by_contra hno
      exact hm ⟨k, key, id, hpc, by simpa using hno⟩
    rwa [PlayRequests.invalidate_task hdone]
  | requestReturns id players =>
    obtain ⟨-, hnext⟩ := Option.ite_none_left_eq_some.mp hnext
    rw [← Option.some.inj hnext]
    exact h.settled fun _ => by simp
  | requestRaises id text =>
    obtain ⟨-, hnext⟩ := Option.ite_none_left_eq_some.mp hnext
    rw [← Option.some.inj hnext]
    exact h.settled fun _ => by simp
  | requestCancelled id =>
    obtain ⟨hcancelling, hnext⟩ := Option.ite_none_right_eq_some.mp hnext
    rw [← Option.some.inj hnext]
    -- a cancelling task is not live, so nothing the invariant is about is that task
    refine h.settled fun hlive => ?_
    rw [hcancelling] at hlive
    exact hlive.elim

end Moves

/-- **The loop survives**: in a run whose moves are spared, it has ended only if its stop event
    is set or its own task was cancelled. -/
theorem loop_survives {cfg : Config} {cb : Callbacks} {timeout : ℚ}
    (h : (machine cfg cb timeout).Reach Spared s) (hpc : s.pc = .terminated) :
    s.stop = true ∨ s.cancelled = true := by
  have hsound : s.Sound := by
    refine h.invariant (fun s hs => ?_) fun s m s' hs hm hnext => next_sound hs hm hnext
    rw [hs]
    exact ⟨fun _ he => (nomatch he), fun _ h => (nomatch h), fun _ _ _ h => (nomatch h),
      fun h => (nomatch h)⟩
  exact hsound.terminated hpc

/-- What the callbacks of a tick answer while a record plays. -/
def recordAnswers : Answering := Answers.answering { level := -30, peaks := some (-20, -20) }

/-- A record starts with Downstairs requested.  Its play request is answered, and an output action
    stops the players before the tick goes on; that tick and the next one end, and the loop is
    stopped. -/
theorem loop_survives_stop : ∃ s : Loop, s.pc = .terminated ∧ s.cancelled = false ∧
    (s.stop = true ∨ s.cancelled = true) := by
  obtain ⟨s, hs, hpc, hcancelled⟩ := Machine.exists_reach
    (m := (machine plainConfig {} 5).guarded Spared)
    (l := List.flatten [[.start 0], List.replicate 12 (.answer recordAnswers),
      [.play ("vinyl", ["downstairs"]) 0, .requestReturns 1 ["downstairs"], .invalidate,
        .resume true], List.replicate 3 (.answer recordAnswers), [.start 1],
      List.replicate 12 (.answer recordAnswers), [.setStop, .finish]])
    (fun s => s.pc.isTerminated = true ∧ s.cancelled = false)
    (show _ = ({ controller := Controller.create plainConfig } : Loop) from rfl) (by decide +kernel)
  have hpc := LoopPc.eq_terminated hpc
  exact ⟨s, hpc, hcancelled, loop_survives (.of_guarded hs) hpc⟩

/-- A record starts with Downstairs requested; while its play request is in flight, an output
    action stops the players. -/
theorem loop_dies : ¬ ∀ s, (machine plainConfig {} 5).Reach Machine.anyMove s →
    s.pc = .terminated → s.stop = true ∨ s.cancelled = true := by
  intro hall
  obtain ⟨s, hs, hpc, hstop, hcancelled⟩ := Machine.exists_reach (m := machine plainConfig {} 5)
    (l := List.flatten [[.start 0],
      List.replicate 12 (.answer recordAnswers),
      [.play ("vinyl", ["downstairs"]) 0, .invalidate, .requestCancelled 1, .resume false]])
    (fun s => s.pc.isTerminated = true ∧ s.stop = false ∧ s.cancelled = false)
    (show _ = ({ controller := Controller.create plainConfig } : Loop) from rfl) (by decide +kernel)
  have hor := hall s hs (LoopPc.eq_terminated hpc)
  rw [hstop, hcancelled] at hor
  simp at hor

end Loop

end PhonoConsole
