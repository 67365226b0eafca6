/-
  THE CONNECTION TO MUSIC ASSISTANT: `_ensure_connected`, `_connect_for_status` and
  `console_is_playing` of `MusicAssistantState` (`phono_console/ma.py`), up to its `close`.

  Any number of tasks ask for the connection at once.  The first of them creates a listener, a task
  that lives as long as the websocket, and waits until it is ready; the others queue at a lock behind
  it.  Listeners die at any time, callers are cancelled at any await, and `console_is_playing` never
  waits: it starts a task of its own, and backs off when that fails.

  * `MaConnection`, `maConnection` — the callers, the listeners, and every interleaving of them;
  * `Sound`         — the invariant: who is behind the lock, and what that says of the listeners;
  * `one_listener`  — at most one listener is alive, and it is the one recorded; whoever returns from
    `_ensure_connected` found the present client ready;
  * `status_attempts_paced` — one attempt for the status at a time, none before the wait after the last
    failures (1, 2, 4 .. 30 s) is over;
  * `playing_kept`  — a call that finds no connection returns what the last one returned.

  Events and component states, which nothing here reads, are left out.  Storing them does not raise.
-/
import PhonoConsole.Lib.Backoff
import PhonoConsole.Lib.FifoLock
import PhonoConsole.Lib.Machine
import Mathlib.Tactic.NormNum

namespace PhonoConsole

open Backoff

/-! ## Callers and listeners -/

/-- Where a call of `_ensure_connected` is: at the lock; in the `wait_for` of a listener that is alive;
    in the report of a dead one; in the `wait_for` of a new one; awaiting its own listener, which it
    has cancelled; in the report of success; then, for the status, in that of failure. -/
inductive MaCall
  | idle
  | queued
  | awaiting (deadline : ℚ)
  | reporting
  | starting (deadline : ℚ)
  | stopping
  | announcing
  | noting
  | returned (listener : Nat)
  | raised
  | cancelled
deriving DecidableEq

/-- The call is behind the lock. -/
def MaCall.inside : MaCall → Bool
  | .awaiting _ | .reporting | .starting _ | .stopping | .announcing => true
  | _ => false

/-- It is queued for the lock, or behind it. -/
def MaCall.wants (c : MaCall) : Bool := c = .queued || c.inside

/-- The call has ended. -/
def MaCall.over : MaCall → Bool
  | .returned _ | .raised | .cancelled => true
  | _ => false

/-- The console's player, as the client's telemetry has it. -/
structure MaPlayer where
  available : Bool
  playing : Bool
  volumeLevel : Option Int
  groupVolume : Option Int

/-- The fields of `MusicAssistantState`, with its listeners numbered as they are created (`ready` is
    the event of each), its calls, and a record of the attempts made for the status. -/
structure MaConnection where
  lock : FifoLock Nat := .unlocked
  listener : Option Nat := none
  made : Nat := 0
  done : Nat → Bool := fun _ => false
  ready : Nat → Bool := fun _ => false
  calls : Nat → MaCall := fun _ => .idle
  connectionTask : Option Nat := none
  nextRetryAt : ℚ := 0
  retrySeconds : ℚ := 1
  lastConsolePlaying : Bool := false
  lastConsoleVolume : Option Int := none
  now : ℚ
  streak : Streak ℚ := none
  attempts : List (Attempt ℚ) := []
  tasks : List Nat := []

/-- What a caller, the connection or the clock does next. -/
inductive MaMove
  | call (i : Nat)
  | resume (i : Nat)
  | proceed (i : Nat)
  | timeout (i : Nat)
  | reported (i : Nat)
  | stopped (i : Nat) (raised : Bool)
  | announced (i : Nat)
  | noted (i : Nat)
  | cancel (i : Nat)
  | event (n : Nat)
  | ends (n : Nat)
  | poll (task : Nat) (player : Option MaPlayer)

namespace MaConnection

/-- The call `i` comes to the point `call`. -/
def set (s : MaConnection) (i : Nat) (call : MaCall) : MaConnection :=
  { s with calls := fun j => if j = i then call else s.calls j }

/-- `self._listener is not None and not self._listener.done()`. -/
def live (s : MaConnection) : Bool := s.listener.any fun n => !s.done n

/-- `self._ready.is_set()`: the event belongs to the listener created last. -/
def isReady (s : MaConnection) : Bool := s.ready (s.made - 1)

/-- `_ensure_connected` returns, and with it `_connect_for_status`. -/
def succeed (s : MaConnection) (i : Nat) : MaConnection :=
  let s := { s.set i (.returned (s.made - 1)) with lock := s.lock.release }
  if s.connectionTask = some i then { s with nextRetryAt := 0, retrySeconds := 1, streak := none }
  else s

/-- It raises, and `_connect_for_status` reports that. -/
def fail (s : MaConnection) (i : Nat) : MaConnection :=
  { s.set i (if s.connectionTask = some i then .noting else .raised) with lock := s.lock.release }

/-- A new client, and its listener. -/
def create (s : MaConnection) (i : Nat) : MaConnection :=
  { s.set i (.starting (s.now + 10)) with listener := some s.made, made := s.made + 1 }

/-- `_ensure_connected` behind the lock. -/
def enter (s : MaConnection) (i : Nat) : MaConnection :=
  if s.live then if s.isReady then s.succeed i else s.set i (.awaiting (s.now + 10))
  else if s.listener.isSome then s.set i .reporting
  else s.create i

/-- `_ensure_connected`, called: a free lock is taken at once. -/
def call (s : MaConnection) (i : Nat) : MaConnection :=
  let s := { s.set i .queued with lock := s.lock.acquire i }
  if s.lock.holder = some i then s.enter i else s

/-- What `console_is_playing` takes from a player it finds. -/
def observe (s : MaConnection) : Option MaPlayer → MaConnection
  | none => s
  | some player =>
    if player.available then
      { s with
        lastConsolePlaying := player.playing
        lastConsoleVolume := match player.volumeLevel.orElse fun _ => player.groupVolume with
          | some volume => some (max 0 (min 100 volume))
          | none => s.lastConsoleVolume }
    else { s with lastConsolePlaying := false }

/-- A finished attempt is forgotten. -/
def collect (s : MaConnection) : MaConnection :=
  if s.connectionTask.any fun i => (s.calls i).over then { s with connectionTask := none } else s

/-- `console_is_playing`; `task` is the call that it may create. -/
def poll (s : MaConnection) (task : Nat) (player : Option MaPlayer) : Option MaConnection :=
  let s := s.collect
  if s.live ∧ s.isReady then some (s.observe player)
  else if s.connectionTask = none ∧ s.nextRetryAt ≤ s.now then
    if s.calls task = .idle then
      some { s with
        connectionTask := some task
        attempts := s.attempts ++ [⟨s.now, s.streak⟩]
        tasks := s.tasks ++ [task] }
    else none
  else some s

/-- A cancellation of the task of a call. -/
def cancel (s : MaConnection) (i : Nat) : Option MaConnection :=
  match s.calls i with
  | .queued => some { s.set i .cancelled with lock := s.lock.leave i }
  | .awaiting _ | .reporting | .starting _ | .announcing =>
      some { s.set i .cancelled with lock := s.lock.release }
  -- the cancellation goes on to the listener, and what comes back of it is suppressed
  | .stopping => some s
  | .idle | .noting | .returned _ | .raised | .cancelled => none

/-- One resumption.  The task that `console_is_playing` creates is not cancelled. -/
def next (s : MaConnection) : MaMove → Option MaConnection
  | .call i => if s.calls i = .idle then some (s.call i) else none
  | .resume i =>
    if s.calls i = .queued ∧ s.lock.holder = some i then some (s.enter i) else none
  | .proceed i =>
    match s.calls i with
    | .awaiting _ => if s.isReady then some (s.succeed i) else none
    | .starting _ => if s.isReady then some (s.set i .announcing) else none
    | _ => none
  | .timeout i =>
    match s.calls i with
    | .awaiting deadline => if deadline ≤ s.now then some (s.fail i) else none
    | .starting deadline => if deadline ≤ s.now then some (s.set i .stopping) else none
    | _ => none
  | .reported i => if s.calls i = .reporting then some (s.create i) else none
  | .stopped i raised =>
    -- an exception of the listener replaces the timeout, and leaves `_listener` as it is
    if s.calls i = .stopping ∧ ¬ s.live then
      some (if raised then s.fail i else { s.fail i with listener := none })
    else none
  | .announced i => if s.calls i = .announcing then some (s.succeed i) else none
  | .noted i =>
    if s.calls i = .noting then
      some { s.set i .raised with
        nextRetryAt := s.now + s.retrySeconds
        retrySeconds := min (s.retrySeconds * 2) 30
        streak := s.streak.fail s.now }
    else none
  | .cancel i => if s.connectionTask = some i then none else s.cancel i
  | .event n =>
    if n < s.made ∧ s.done n = false then
      some { s with ready := fun k => if k = n then true else s.ready k }
    else none
  | .ends n =>
    if n < s.made then some { s with done := fun k => if k = n then true else s.done k } else none
  | .poll task player => s.poll task player

end MaConnection

/-- Every interleaving, on a clock that does not go back. -/
def maConnection : Machine MaConnection (ℚ × MaMove) where
  init s := ∃ now, s = { now }
  next s a := if s.now ≤ a.1 then { s with now := a.1 }.next a.2 else none

namespace MaConnection

variable {s s' : MaConnection} {i j : Nat} {c : MaCall} {m : MaMove}

@[simp] theorem set_calls_self (s : MaConnection) (i : Nat) (c : MaCall) : (s.set i c).calls i = c :=
  if_pos rfl

theorem set_calls_other (h : j ≠ i) (s : MaConnection) (c : MaCall) :
    (s.set i c).calls j = s.calls j :=
  if_neg h

@[simp] theorem set_made (s : MaConnection) (i : Nat) (c : MaCall) : (s.set i c).made = s.made := rfl

@[simp] theorem set_lock (s : MaConnection) (i : Nat) (c : MaCall) : (s.set i c).lock = s.lock := rfl

/-! ## Listeners -/

/-- What the place of a call says of the listeners. -/
def Phase (s : MaConnection) : MaCall → Prop
  | .awaiting _ | .starting _ | .stopping => s.listener.isSome = true
  | .reporting => ∀ n, n < s.made → s.done n = true
  | .announcing => 0 < s.made ∧ s.isReady = true
  | .returned n => n < s.made ∧ s.ready n = true
  | .idle | .queued | .noting | .raised | .cancelled => True

/-- One call at a time is behind the lock; a listener that is alive is the last one, and recorded. -/
structure Sound (s : MaConnection) : Prop where
  order : s.lock.InOrder (fun i => (s.calls i).wants) (fun i => (s.calls i).inside)
  latest : ∀ n, s.listener = some n → n + 1 = s.made
  alive : ∀ n, n < s.made → s.done n = false → s.listener = some n
  phases : ∀ i, s.Phase (s.calls i)

/-- A call outside the lock knows of a listener only that it was ready. -/
theorem Phase.outside (h : s.Phase c) (hc : c.inside = false) (hmade : s.made ≤ s'.made)
    (hready : ∀ n, n < s.made → s.ready n = true → s'.ready n = true) : s'.Phase c := by
  cases c with
  | awaiting | reporting | starting | stopping | announcing => cases hc
  | idle | queued | noting | raised | cancelled => trivial
  | returned n => exact ⟨h.1.trans_le hmade, hready n h.1 h.2⟩

/-- The holder of the lock is resumed, alone behind it. -/
theorem Sound.act {t : MaConnection} (h : Sound s) (hi : s.lock.holder = some i)
    (hcalls : ∀ j, j ≠ i → t.calls j = s.calls j) (hmade : s.made ≤ t.made)
    (hready : ∀ n, n < s.made → s.ready n = true → t.ready n = true)
    (hphase : t.Phase (t.calls i)) : ∀ j, t.Phase (t.calls j) := by
  intro j
  by_cases hj : j = i
  · exact hj ▸ hphase
  · rw [hcalls j hj]
    refine (h.phases j).outside ?_ hmade hready
    cases hin : (s.calls j).inside with
    | false => rfl
    | true => exact absurd (Option.some.inj ((h.order.holder j hin).symm.trans hi)) hj

/-- It stays behind the lock. -/
theorem Sound.stays (h : Sound s) (hi : s.lock.holder = some i) (hc : c.inside = true)
    (hcalls : s'.calls = (s.set i c).calls) (hlock : s'.lock = s.lock) :
    s'.lock.InOrder (fun i => (s'.calls i).wants) (fun i => (s'.calls i).inside) := by
  rw [hlock, hcalls]
  refine h.order.kept (fun j hj => ?_) (fun j hj => ?_)
  · by_cases hji : j = i
    · rw [hji, set_calls_self]
      simp [MaCall.wants, hc]
    · rw [set_calls_other hji]
      exact h.order.wants j hj
  · by_cases hji : j = i
    · rw [hji, hi]
    · rw [set_calls_other hji] at hj
      exact h.order.holder j hj

/-- It lets the lock go. -/
theorem Sound.leaves {t : MaConnection} (h : Sound s) (hi : s.lock.holder = some i) (hc : c.wants = false)
    (hcalls : t.calls = (s.set i c).calls) (hlock : t.lock = s.lock.release) :
    t.lock.InOrder (fun i => (t.calls i).wants) (fun i => (t.calls i).inside) := by
  rw [hlock, hcalls]
  refine h.order.passed hi (fun j hj hji => ?_) (fun j hj => ?_)
  · rw [set_calls_other hji]
    exact h.order.wants j hj
  · by_cases hji : j = i
    · rw [hji, set_calls_self] at hj
      simp [MaCall.wants, hj] at hc
    · rw [set_calls_other hji] at hj
      exact ⟨hj, hji⟩

/-- A call within the lock holds it. -/
theorem Sound.holder (h : Sound s) (hin : (s.calls i).inside = true) : s.lock.holder = some i :=
  h.order.holder i hin

/-- The recorded listener is the last one made. -/
theorem made_of_listener (h : Sound s) (hsome : s.listener.isSome = true) :
    s.listener = some (s.made - 1) ∧ 0 < s.made := by
  obtain ⟨n, hn⟩ := Option.isSome_iff_exists.mp hsome
  have hlast := h.latest n hn
  refine ⟨?_, by omega⟩
  rw [hn, ← hlast, Nat.add_sub_cancel]

/-- Without a listener that is alive every listener is done. -/
theorem Sound.all_done (h : Sound s) (hlive : s.live = false) : ∀ n, n < s.made → s.done n = true := by
  intro n hn
  cases hdone : s.done n with
  | true => rfl
  | false =>
    have hlisten := h.alive n hn hdone
    rw [live, hlisten] at hlive
    simp [hdone] at hlive

/-- A call succeeds. -/
theorem Sound.succeed (h : Sound s) (hi : s.lock.holder = some i) (hmade : 0 < s.made)
    (hready : s.isReady = true) : Sound (s.succeed i) := by
  have hphases : ∀ j, Phase s ((s.set i (.returned (s.made - 1))).calls j) := by
    refine h.act (t := s.set i (.returned (s.made - 1))) hi (fun j hj => set_calls_other hj _ _)
      (le_refl _) (fun _ _ hr => hr) ?_
    rw [set_calls_self]
    exact ⟨by show s.made - 1 < s.made; omega, hready⟩
  have horder := h.leaves (c := .returned (s.made - 1))
    (t := { s.set i (.returned (s.made - 1)) with lock := s.lock.release }) hi rfl rfl rfl
  unfold MaConnection.succeed
  dsimp only
  split
  · exact ⟨horder, h.latest, h.alive, hphases⟩
  · exact ⟨horder, h.latest, h.alive, hphases⟩

/-- A call fails. -/
theorem Sound.fail (h : Sound s) (hi : s.lock.holder = some i) : Sound (s.fail i) := by
  have hc : (if s.connectionTask = some i then MaCall.noting else .raised).wants = false := by
    split <;> rfl
  have hphase : s.Phase (if s.connectionTask = some i then MaCall.noting else .raised) := by
    split <;> trivial
  refine ⟨h.leaves hi hc rfl rfl, h.latest, h.alive, ?_⟩
  refine h.act (t := s.fail i) hi (fun j hj => set_calls_other hj _ _) (le_refl _)
    (fun _ _ hr => hr) ?_
  show Phase s ((s.set i _).calls i)
  rw [set_calls_self]
  exact hphase

/-- It goes on behind the lock, and nothing else changes. -/
theorem Sound.set (h : Sound s) (hi : s.lock.holder = some i) (hc : c.inside = true)
    (hphase : s.Phase c) : Sound (s.set i c) := by
  refine ⟨h.stays hi hc rfl rfl, h.latest, h.alive, ?_⟩
  refine h.act (t := s.set i c) hi (fun j hj => set_calls_other hj _ _) (le_refl _)
    (fun _ _ hr => hr) ?_
  rw [set_calls_self]
  exact hphase

/-- A listener is created when all others are done. -/
theorem Sound.create (h : Sound s) (hi : s.lock.holder = some i)
    (hdone : ∀ n, n < s.made → s.done n = true) : Sound (s.create i) := by
  constructor
  · exact h.stays (c := .starting (s.now + 10)) hi rfl rfl rfl
  · intro n hn
    obtain rfl : s.made = n := Option.some.inj hn
    rfl
  · intro n hn hlive
    have hn : n < s.made + 1 := hn
    rcases Nat.lt_succ_iff_lt_or_eq.mp hn with hlt | rfl
    · exact absurd (hdone n hlt) (Bool.eq_false_iff.mp hlive)
    · rfl
  · refine h.act (t := s.create i) hi (fun j hj => set_calls_other hj _ _) (Nat.le_succ _)
      (fun _ _ hr => hr) ?_
    show Phase (s.create i) ((s.set i _).calls i)
    rw [set_calls_self]
    rfl

/-- `_ensure_connected` behind the lock. -/
theorem Sound.enter (h : Sound s) (hi : s.lock.holder = some i) : Sound (s.enter i) := by
  unfold MaConnection.enter
  cases hlive : s.live with
  | true =>
    have hsome : s.listener.isSome = true := by
      obtain ⟨n, hn, -⟩ := (Option.any_eq_true _ _).mp hlive
      rw [hn]
      rfl
    rw [if_pos rfl]
    split
    · rename_i hready
      exact h.succeed hi (made_of_listener h hsome).2 hready
    · exact h.set hi rfl hsome
  | false =>
    rw [if_neg (by simp)]
    split
    · exact h.set hi rfl (h.all_done hlive)
    · exact h.create hi (h.all_done hlive)

/-- A call that is new. -/
theorem Sound.call (h : Sound s) (hidle : s.calls i = .idle) : Sound (s.call i) := by
  have hout : i ∉ s.lock.queue := by
    intro hin
    have hwants := h.order.wants i hin
    simp [hidle, MaCall.wants, MaCall.inside] at hwants
  have hqueued : Sound { s.set i .queued with lock := s.lock.acquire i } := by
    refine ⟨h.order.acquired hout (fun j hj => ?_) (fun j hj => ?_), h.latest, h.alive, fun j => ?_⟩
    · by_cases hji : j = i
      · show ((s.set i .queued).calls j).wants = true
        rw [hji, set_calls_self]
        rfl
      · show ((s.set i .queued).calls j).wants = true
        rw [set_calls_other hji]
        rcases List.mem_append.mp hj with hj | hj
        · exact h.order.wants j hj
        · exact absurd (List.mem_singleton.mp hj) hji
    · by_cases hji : j = i
      · change ((s.set i .queued).calls j).inside = true at hj
        rw [hji, set_calls_self] at hj
        cases hj
      · change ((s.set i .queued).calls j).inside = true at hj
        rw [set_calls_other hji] at hj
        exact hj
    · show Phase s ((s.set i .queued).calls j)
      by_cases hji : j = i
      · rw [hji, set_calls_self]
        trivial
      · rw [set_calls_other hji]
        exact h.phases j
  unfold MaConnection.call
  dsimp only
  split
  · rename_i hholder
    exact hqueued.enter hholder
  · exact hqueued

/-- The lock, the listeners and the calls are as before. -/
theorem Sound.same (h : Sound s) (hlock : s'.lock = s.lock) (hlistener : s'.listener = s.listener)
    (hmade : s'.made = s.made) (hdone : s'.done = s.done) (hready : s'.ready = s.ready)
    (hcalls : s'.calls = s.calls) : Sound s' := by
  have hphase : ∀ c, s'.Phase c ↔ s.Phase c := by
    intro c
    cases c <;> simp only [Phase, isReady, hlistener, hmade, hdone, hready]
  refine ⟨?_, ?_, ?_, fun j => ?_⟩
  · rw [hlock, hcalls]
    exact h.order
  · rw [hlistener, hmade]
    exact h.latest
  · rw [hlistener, hmade, hdone]
    exact h.alive
  · rw [hcalls]
    exact (hphase _).mpr (h.phases j)

/-- A call that does not want the lock ends. -/
theorem Sound.over (h : Sound s) (hi : (s.calls i).wants = false) (hc : c.wants = false)
    (hphase : s.Phase c) : Sound (s.set i c) := by
  have hout : ∀ j, (s.calls j).wants = true → j ≠ i := by
    rintro j hj rfl
    exact absurd hj (by simp [hi])
  refine ⟨h.order.kept (fun j hj => ?_) (fun j hj => ?_), h.latest, h.alive, fun j => ?_⟩
  · have hwants := h.order.wants j hj
    rw [set_calls_other (hout j hwants)]
    exact hwants
  · by_cases hji : j = i
    · rw [hji, set_calls_self] at hj
      simp [MaCall.wants, hj] at hc
    · rw [set_calls_other hji] at hj
      exact h.order.holder j hj
  · show Phase s ((s.set i c).calls j)
    by_cases hji : j = i
    · rw [hji, set_calls_self]
      exact hphase
    · rw [set_calls_other hji]
      exact h.phases j

/-- A call is cancelled, wherever it is. -/
theorem Sound.cancel (h : Sound s) (hnext : s.cancel i = some s') : Sound s' := by
  have hinside : (s.calls i).inside = true →
      Sound { s.set i .cancelled with lock := s.lock.release } := by
    intro hin
    have hi := h.holder hin
    refine ⟨h.leaves hi rfl rfl rfl, h.latest, h.alive, ?_⟩
    refine h.act (t := s.set i .cancelled) hi (fun j hj => set_calls_other hj _ _) (le_refl _)
      (fun _ _ hr => hr) ?_
    rw [set_calls_self]
    trivial
  unfold MaConnection.cancel at hnext
  split at hnext
  · rename_i hqueued
    obtain rfl := Option.some.inj hnext
    have hnot : (s.calls i).inside = false := by rw [hqueued]; rfl
    refine ⟨h.order.left hnot (fun j hj hji => ?_) (fun j hj => ?_), h.latest, h.alive, fun j => ?_⟩
    · show ((s.set i .cancelled).calls j).wants = true
      rw [set_calls_other hji]
      exact h.order.wants j hj
    · change ((s.set i .cancelled).calls j).inside = true at hj
      by_cases hji : j = i
      · rw [hji, set_calls_self] at hj
        cases hj
      · rwa [set_calls_other hji] at hj
    · show Phase s ((s.set i .cancelled).calls j)
      by_cases hji : j = i
      · rw [hji, set_calls_self]
        trivial
      · rw [set_calls_other hji]
        exact h.phases j
  · rename_i hcall
    obtain rfl := Option.some.inj hnext
    exact hinside (by rw [hcall]; rfl)
  · rename_i hcall
    obtain rfl := Option.some.inj hnext
    exact hinside (by rw [hcall]; rfl)
  · rename_i hcall
    obtain rfl := Option.some.inj hnext
    exact hinside (by rw [hcall]; rfl)
  · rename_i hcall
    obtain rfl := Option.some.inj hnext
    exact hinside (by rw [hcall]; rfl)
  · obtain rfl := Option.some.inj hnext
    exact h
  all_goals cases hnext

/-- A listener sets its event. -/
theorem Sound.event (h : Sound s) (n : Nat) :
    Sound { s with ready := fun k => if k = n then true else s.ready k } := by
  have hready : ∀ k, s.ready k = true → (if k = n then true else s.ready k) = true := by
    intro k hk
    split
    · rfl
    · exact hk
  refine ⟨h.order, h.latest, h.alive, fun j => ?_⟩
  have hphase := h.phases j
  cases hcall : s.calls j with
  | awaiting | starting | stopping | reporting =>
    rw [hcall] at hphase
    exact hphase
  | announcing =>
    rw [hcall] at hphase
    exact ⟨hphase.1, hready _ hphase.2⟩
  | returned k =>
    rw [hcall] at hphase
    exact ⟨hphase.1, hready _ hphase.2⟩
  | idle | queued | noting | raised | cancelled => trivial

/-- A listener ends. -/
theorem Sound.ends (h : Sound s) (n : Nat) :
    Sound { s with done := fun k => if k = n then true else s.done k } := by
  have hdone : ∀ k, s.done k = true → (if k = n then true else s.done k) = true := by
    intro k hk
    split
    · rfl
    · exact hk
  refine ⟨h.order, h.latest, fun k hk hlive => ?_, fun j => ?_⟩
  · refine h.alive k hk ?_
    cases hold : s.done k with
    | false => rfl
    | true => exact absurd (hdone k hold) (by simpa using hlive)
  · have hphase := h.phases j
    cases hcall : s.calls j with
    | reporting =>
      rw [hcall] at hphase
      exact fun k hk => hdone k (hphase k hk)
    | awaiting | starting | stopping | announcing | returned =>
      rw [hcall] at hphase
      exact hphase
    | idle | queued | noting | raised | cancelled => trivial

/-- The listener that is recorded is done, and is no longer recorded. -/
theorem Sound.forget (h : Sound s) (hi : s.lock.holder = some i) (hlive : s.live = false) :
    Sound { s.fail i with listener := none } := by
  have hfail := h.fail hi
  have hdone := h.all_done hlive
  refine ⟨hfail.order, nofun, fun n hn hfalse => ?_, ?_⟩
  · exact absurd (hdone n hn) (Bool.eq_false_iff.mp hfalse)
  · refine h.act (t := { s.fail i with listener := none }) hi
      (fun j hj => set_calls_other hj _ _) (le_refl _) (fun _ _ hr => hr) ?_
    show Phase { s.fail i with listener := none } ((s.set i _).calls i)
    rw [set_calls_self]
    split <;> trivial

theorem Sound.collect (h : Sound s) : Sound s.collect := by
  unfold MaConnection.collect
  split
  · exact h.same rfl rfl rfl rfl rfl rfl
  · exact h

/-- The answer of a status poll is taken over. -/
theorem Sound.observe (h : Sound s) (player : Option MaPlayer) : Sound (s.observe player) := by
  unfold MaConnection.observe
  split
  · exact h
  · split <;> exact h.same rfl rfl rfl rfl rfl rfl

/-- A status poll ends. -/
theorem Sound.poll (h : Sound s) {task : Nat} {player : Option MaPlayer}
    (hnext : s.poll task player = some s') : Sound s' := by
  have hcollect := h.collect
  unfold MaConnection.poll at hnext
  dsimp only at hnext
  split at hnext
  · obtain rfl := Option.some.inj hnext
    exact hcollect.observe player
  · split at hnext
    · split at hnext
      · obtain rfl := Option.some.inj hnext
        exact hcollect.same rfl rfl rfl rfl rfl rfl
      · cases hnext
    · obtain rfl := Option.some.inj hnext
      exact hcollect

/-- Every resumption. -/
theorem Sound.next (h : Sound s) (hnext : s.next m = some s') : Sound s' := by
  cases m with
  | call i =>
    obtain ⟨hidle, hnext⟩ := Option.ite_none_right_eq_some.mp hnext
    obtain rfl := Option.some.inj hnext
    exact h.call hidle
  | resume i =>
    obtain ⟨⟨-, hholder⟩, hnext⟩ := Option.ite_none_right_eq_some.mp hnext
    obtain rfl := Option.some.inj hnext
    exact h.enter hholder
  | proceed i =>
    have hphase := h.phases i
    simp only [MaConnection.next] at hnext
    split at hnext
    · rename_i hcall
      obtain ⟨hready, hnext⟩ := Option.ite_none_right_eq_some.mp hnext
      obtain rfl := Option.some.inj hnext
      rw [hcall] at hphase
      exact h.succeed (h.holder (by rw [hcall]; rfl)) (made_of_listener h hphase).2 hready
    · rename_i hcall
      obtain ⟨hready, hnext⟩ := Option.ite_none_right_eq_some.mp hnext
      obtain rfl := Option.some.inj hnext
      rw [hcall] at hphase
      exact h.set (h.holder (by rw [hcall]; rfl)) rfl ⟨(made_of_listener h hphase).2, hready⟩
    · cases hnext
  | timeout i =>
    have hphase := h.phases i
    simp only [MaConnection.next] at hnext
    split at hnext
    · rename_i hcall
      obtain ⟨-, hnext⟩ := Option.ite_none_right_eq_some.mp hnext
      obtain rfl := Option.some.inj hnext
      exact h.fail (h.holder (by rw [hcall]; rfl))
    · rename_i hcall
      obtain ⟨-, hnext⟩ := Option.ite_none_right_eq_some.mp hnext
      obtain rfl := Option.some.inj hnext
      rw [hcall] at hphase
      exact h.set (h.holder (by rw [hcall]; rfl)) rfl hphase
    · cases hnext
  | reported i =>
    obtain ⟨hcall, hnext⟩ := Option.ite_none_right_eq_some.mp hnext
    obtain rfl := Option.some.inj hnext
    have hphase := h.phases i
    rw [hcall] at hphase
    exact h.create (h.holder (by rw [hcall]; rfl)) hphase
  | stopped i raised =>
    obtain ⟨⟨hcall, hlive⟩, hnext⟩ := Option.ite_none_right_eq_some.mp hnext
    obtain rfl := Option.some.inj hnext
    have hholder := h.holder (i := i) (by rw [hcall]; rfl)
    split
    · exact h.fail hholder
    · exact h.forget hholder (Bool.eq_false_iff.mpr hlive)
  | announced i =>
    obtain ⟨hcall, hnext⟩ := Option.ite_none_right_eq_some.mp hnext
    obtain rfl := Option.some.inj hnext
    have hphase := h.phases i
    rw [hcall] at hphase
    exact h.succeed (h.holder (by rw [hcall]; rfl)) hphase.1 hphase.2
  | noted i =>
    obtain ⟨hcall, hnext⟩ := Option.ite_none_right_eq_some.mp hnext
    obtain rfl := Option.some.inj hnext
    have hover := h.over (i := i) (c := .raised) (by rw [hcall]; rfl) rfl trivial
    exact hover.same rfl rfl rfl rfl rfl rfl
  | cancel i =>
    simp only [MaConnection.next] at hnext
    split at hnext
    · cases hnext
    · exact h.cancel hnext
  | event n =>
    obtain ⟨-, hnext⟩ := Option.ite_none_right_eq_some.mp hnext
    obtain rfl := Option.some.inj hnext
    exact h.event n
  | ends n =>
    obtain ⟨-, hnext⟩ := Option.ite_none_right_eq_some.mp hnext
    obtain rfl := Option.some.inj hnext
    exact h.ends n
  | poll task player => exact h.poll hnext

theorem Sound.start (now : ℚ) : Sound { now } :=
  ⟨⟨.nil, nofun, nofun⟩, nofun, nofun, fun _ => trivial⟩

/-- The invariant holds in every state reached. -/
theorem Sound.reach (hs : maConnection.Reach Machine.anyMove s) : Sound s := by
  refine hs.invariant ?_ ?_
  · rintro s ⟨now, rfl⟩
    exact .start now
  · intro s a s' h _ hnext
    obtain ⟨-, hnext⟩ := Option.ite_none_right_eq_some.mp hnext
    exact (h.same rfl rfl rfl rfl rfl rfl : Sound { s with now := a.1 }).next hnext

/-- **One listener.**  However the callers interleave, whoever is cancelled, and whenever a listener
    dies: a listener that is alive is the one recorded, and the last one created, so there is at most
    one; and a call that has returned found the listener of its client ready. -/
theorem one_listener (hs : maConnection.Reach Machine.anyMove s) :
    (∀ n, n < s.made → s.done n = false → s.listener = some n ∧ n + 1 = s.made) ∧
    (∀ i n, s.calls i = .returned n → n < s.made ∧ s.ready n = true) := by
  have h := Sound.reach hs
  refine ⟨fun n hn hlive => ?_, fun i n hcall => ?_⟩
  · have hlistener := h.alive n hn hlive
    exact ⟨hlistener, h.latest n hlistener⟩
  · have hphase := h.phases i
    rw [hcall] at hphase
    exact hphase

/-- A listener that dies, one that is never ready, and callers that queue behind both. -/
def restarts : List (ℚ × MaMove) :=
  [(0, .poll 0 none), (0, .call 0), (0, .call 1), (1, .event 0), (1, .proceed 0), (1, .announced 0),
    (1, .resume 1), (2, .ends 0), (2, .call 2), (2, .call 3), (2, .reported 2), (12, .timeout 2),
    (12, .cancel 2), (12, .ends 1), (12, .stopped 2 false), (12, .resume 3), (13, .event 2),
    (13, .proceed 3), (13, .announced 3)]

/-- The third listener is the only one left. -/
theorem one_listener_restarts :
    ∃ s, maConnection.Reach Machine.anyMove s ∧ s.made = 3 ∧ s.listener = some 2 ∧
      s.calls 3 = .returned 2 ∧ s.ready 2 = true := by
  obtain ⟨s, hs, hmade, hlistener, hcall⟩ := Machine.exists_reach (m := maConnection)
    (s := { now := 0 }) (l := restarts)
    (fun s => s.made = 3 ∧ s.listener = some 2 ∧ s.calls 3 = .returned 2) ⟨0, rfl⟩ (by decide +kernel)
  exact ⟨s, hs, hmade, hlistener, hcall, ((one_listener hs).2 3 2 hcall).2⟩

/-! ## Attempts for the status -/

/-- What only the status reads and writes. -/
structure SamePace (s s' : MaConnection) : Prop where
  connectionTask : s'.connectionTask = s.connectionTask
  nextRetryAt : s'.nextRetryAt = s.nextRetryAt
  retrySeconds : s'.retrySeconds = s.retrySeconds
  streak : s'.streak = s.streak
  attempts : s'.attempts = s.attempts
  tasks : s'.tasks = s.tasks

/-- A call that is over stays so. -/
def OverKept (s s' : MaConnection) : Prop := ∀ j, (s.calls j).over = true → s'.calls j = s.calls j

theorem SamePace.refl (s : MaConnection) : SamePace s s := ⟨rfl, rfl, rfl, rfl, rfl, rfl⟩

/-- A call that was not over moves. -/
theorem OverKept.set (h : (s.calls i).over = false) (c : MaCall) : OverKept s (s.set i c) := by
  intro j hj
  refine set_calls_other ?_ s c
  rintro rfl
  exact absurd hj (by simp [h])

theorem OverKept.trans {s₁ : MaConnection} (h : OverKept s s₁) (h' : OverKept s₁ s') :
    OverKept s s' := by
  intro j hj
  have hj₁ := h j hj
  rw [h' j (hj₁ ▸ hj), hj₁]

/-- What a resumption of a call does to the pace: nothing, or it is the end of an attempt. -/
inductive Pacing (s s' : MaConnection) : Prop
  | kept : SamePace s s' → OverKept s s' → Pacing s s'
  | succeeded : SamePace { s with nextRetryAt := 0, retrySeconds := 1, streak := none } s' →
      OverKept s s' → Pacing s s'
  | failed : SamePace { s with
        nextRetryAt := s.now + s.retrySeconds
        retrySeconds := min (s.retrySeconds * 2) 30
        streak := s.streak.fail s.now } s' → OverKept s s' → Pacing s s'

/-- A success is no attempt. -/
theorem succeed_pacing {s₁ : MaConnection} (hsame : SamePace s s₁) (hkept : OverKept s s₁)
    (h : (s₁.calls i).over = false) : Pacing s (s₁.succeed i) := by
  have hover := hkept.trans (OverKept.set h (.returned (s₁.made - 1)))
  unfold MaConnection.succeed
  dsimp only
  split
  · exact .succeeded ⟨hsame.connectionTask, rfl, rfl, rfl, hsame.attempts, hsame.tasks⟩ hover
  · exact .kept ⟨hsame.connectionTask, hsame.nextRetryAt, hsame.retrySeconds, hsame.streak,
      hsame.attempts, hsame.tasks⟩ hover

/-- Within the lock an attempt is made when it is due. -/
theorem enter_pacing {s₁ : MaConnection} (hsame : SamePace s s₁) (hkept : OverKept s s₁)
    (h : (s₁.calls i).over = false) : Pacing s (s₁.enter i) := by
  have hstays : ∀ (c : MaCall) (s₂ : MaConnection), s₂.calls = (s₁.set i c).calls →
      SamePace s₁ s₂ → Pacing s s₂ := by
    intro c s₂ hcalls hsame₂
    refine .kept ⟨hsame₂.connectionTask.trans hsame.connectionTask,
      hsame₂.nextRetryAt.trans hsame.nextRetryAt, hsame₂.retrySeconds.trans hsame.retrySeconds,
      hsame₂.streak.trans hsame.streak, hsame₂.attempts.trans hsame.attempts,
      hsame₂.tasks.trans hsame.tasks⟩ ?_
    refine hkept.trans fun j hj => ?_
    rw [hcalls]
    exact OverKept.set h c j hj
  unfold MaConnection.enter
  split
  · split
    · exact succeed_pacing hsame hkept h
    · exact hstays _ _ rfl ⟨rfl, rfl, rfl, rfl, rfl, rfl⟩
  · split <;> exact hstays _ _ rfl ⟨rfl, rfl, rfl, rfl, rfl, rfl⟩

/-- A call takes the lock, or queues, before anything else. -/
theorem call_pacing (h : s.calls i = .idle) : Pacing s (s.call i) := by
  have hset : OverKept s (s.set i .queued) := OverKept.set (by rw [h]; rfl) _
  unfold MaConnection.call
  dsimp only
  split
  · have hqueued : (s.set i .queued).calls i = .queued := set_calls_self s i .queued
    refine enter_pacing ⟨rfl, rfl, rfl, rfl, rfl, rfl⟩ hset ?_
    show ((s.set i .queued).calls i).over = false
    rw [hqueued]
    rfl
  · exact .kept ⟨rfl, rfl, rfl, rfl, rfl, rfl⟩ hset

/-- Every resumption but that of `console_is_playing`. -/
theorem next_pacing (hnext : s.next m = some s') (hm : ∀ task player, m ≠ .poll task player) :
    Pacing s s' := by
  have hset : ∀ {i : Nat} {c : MaCall}, s.calls i = c → c.over = false → ∀ c', OverKept s (s.set i c') :=
    fun hcall hover => OverKept.set (hcall ▸ hover)
  have hsame : SamePace s s := .refl s
  have hkept : OverKept s s := fun _ _ => rfl
  cases m with
  | call i =>
    obtain ⟨hidle, hnext⟩ := Option.ite_none_right_eq_some.mp hnext
    obtain rfl := Option.some.inj hnext
    exact call_pacing hidle
  | resume i =>
    obtain ⟨⟨hcall, -⟩, hnext⟩ := Option.ite_none_right_eq_some.mp hnext
    obtain rfl := Option.some.inj hnext
    exact enter_pacing hsame hkept (by rw [hcall]; rfl)
  | proceed i =>
    simp only [MaConnection.next] at hnext
    split at hnext
    · rename_i hcall
      obtain ⟨-, hnext⟩ := Option.ite_none_right_eq_some.mp hnext
      obtain rfl := Option.some.inj hnext
      exact succeed_pacing hsame hkept (by rw [hcall]; rfl)
    · rename_i hcall
      obtain ⟨-, hnext⟩ := Option.ite_none_right_eq_some.mp hnext
      obtain rfl := Option.some.inj hnext
      exact .kept ⟨rfl, rfl, rfl, rfl, rfl, rfl⟩ (hset hcall rfl _)
    · cases hnext
  | timeout i =>
    simp only [MaConnection.next] at hnext
    split at hnext
    · rename_i hcall
      obtain ⟨-, hnext⟩ := Option.ite_none_right_eq_some.mp hnext
      obtain rfl := Option.some.inj hnext
      exact .kept ⟨rfl, rfl, rfl, rfl, rfl, rfl⟩ (hset hcall rfl _)
    · rename_i hcall
      obtain ⟨-, hnext⟩ := Option.ite_none_right_eq_some.mp hnext
      obtain rfl := Option.some.inj hnext
      exact .kept ⟨rfl, rfl, rfl, rfl, rfl, rfl⟩ (hset hcall rfl _)
    · cases hnext
  | reported i =>
    obtain ⟨hcall, hnext⟩ := Option.ite_none_right_eq_some.mp hnext
    obtain rfl := Option.some.inj hnext
    exact .kept ⟨rfl, rfl, rfl, rfl, rfl, rfl⟩ (hset hcall rfl _)
  | stopped i raised =>
    obtain ⟨⟨hcall, -⟩, hnext⟩ := Option.ite_none_right_eq_some.mp hnext
    obtain rfl := Option.some.inj hnext
    split <;> exact .kept ⟨rfl, rfl, rfl, rfl, rfl, rfl⟩ (hset hcall rfl _)
  | announced i =>
    obtain ⟨hcall, hnext⟩ := Option.ite_none_right_eq_some.mp hnext
    obtain rfl := Option.some.inj hnext
    exact succeed_pacing hsame hkept (by rw [hcall]; rfl)
  | noted i =>
    obtain ⟨hcall, hnext⟩ := Option.ite_none_right_eq_some.mp hnext
    obtain rfl := Option.some.inj hnext
    exact .failed ⟨rfl, rfl, rfl, rfl, rfl, rfl⟩ (hset hcall rfl _)
  | cancel i =>
    simp only [MaConnection.next] at hnext
    split at hnext
    · cases hnext
    unfold MaConnection.cancel at hnext
    split at hnext
    all_goals first
      | (obtain rfl := Option.some.inj hnext
         rename_i hcall
         first
           | exact .kept ⟨rfl, rfl, rfl, rfl, rfl, rfl⟩ (hset hcall rfl _)
           | exact .kept hsame hkept)
      | cases hnext
  | event n =>
    obtain ⟨-, hnext⟩ := Option.ite_none_right_eq_some.mp hnext
    obtain rfl := Option.some.inj hnext
    exact .kept ⟨rfl, rfl, rfl, rfl, rfl, rfl⟩ hkept
  | ends n =>
    obtain ⟨-, hnext⟩ := Option.ite_none_right_eq_some.mp hnext
    obtain rfl := Option.some.inj hnext
    exact .kept ⟨rfl, rfl, rfl, rfl, rfl, rfl⟩ hkept
  | poll task player => exact absurd rfl (hm task player)

/-- The backoff, and the attempts made. -/
structure Paced (s : MaConnection) : Prop where
  gate : Gate 1 30 s.retrySeconds s.nextRetryAt s.streak
  inTime : ∀ a ∈ s.attempts, a.InTime 1 30
  single : ∀ j ∈ s.tasks, s.connectionTask = some j ∨ (s.calls j).over = true

/-- A call keeps the pace. -/
theorem Paced.next_call (h : Paced s) (hp : Pacing s s') : Paced s' := by
  have hsingle : s'.connectionTask = s.connectionTask → s'.tasks = s.tasks → OverKept s s' →
      ∀ j ∈ s'.tasks, s'.connectionTask = some j ∨ (s'.calls j).over = true := by
    intro htask htasks hkept j hj
    rw [htasks] at hj
    rcases h.single j hj with hpresent | hover
    · exact .inl (htask.trans hpresent)
    · exact .inr (by rw [hkept j hover]; exact hover)
  cases hp with
  | kept hsame hkept =>
    refine ⟨?_, ?_, hsingle hsame.connectionTask hsame.tasks hkept⟩
    · rw [hsame.retrySeconds, hsame.nextRetryAt, hsame.streak]
      exact h.gate
    · rw [hsame.attempts]
      exact h.inTime
  | succeeded hsame hkept =>
    refine ⟨?_, ?_, hsingle hsame.connectionTask hsame.tasks hkept⟩
    · rw [hsame.retrySeconds, hsame.nextRetryAt, hsame.streak]
      exact Gate.reset 1 30 0
    · rw [hsame.attempts]
      exact h.inTime
  | failed hsame hkept =>
    refine ⟨?_, ?_, hsingle hsame.connectionTask hsame.tasks hkept⟩
    · rw [hsame.retrySeconds, hsame.nextRetryAt, hsame.streak]
      exact Gate.failed h.gate.delay s.now
    · rw [hsame.attempts]
      exact h.inTime

/-- An answer does. -/
theorem observe_paced (h : Paced s) (player : Option MaPlayer) : Paced (s.observe player) := by
  unfold MaConnection.observe
  split
  · exact h
  · split <;> exact ⟨h.gate, h.inTime, h.single⟩

/-- Only an attempt that is over is forgotten. -/
theorem collect_paced (h : Paced s) : Paced s.collect := by
  unfold MaConnection.collect
  split
  · rename_i hover
    refine ⟨h.gate, h.inTime, fun j hj => .inr ?_⟩
    rcases h.single j hj with hpresent | hover'
    · rw [hpresent] at hover
      exact hover
    · exact hover'
  · exact h

/-- `console_is_playing` makes an attempt when there is none, and the gate is open. -/
theorem Paced.poll (h : Paced s) {task : Nat} {player : Option MaPlayer}
    (hnext : s.poll task player = some s') : Paced s' := by
  have hcollect := collect_paced h
  unfold MaConnection.poll at hnext
  dsimp only at hnext
  split at hnext
  · obtain rfl := Option.some.inj hnext
    exact observe_paced hcollect player
  · split at hnext
    · rename_i hfree
      obtain ⟨-, hnext⟩ := Option.ite_none_right_eq_some.mp hnext
      obtain rfl := Option.some.inj hnext
      refine ⟨hcollect.gate, fun a ha => ?_, fun j hj => ?_⟩
      · rcases List.mem_append.mp ha with ha | ha
        · exact hcollect.inTime a ha
        · obtain rfl := List.mem_singleton.mp ha
          exact hcollect.gate.inTime hfree.2
      · rcases List.mem_append.mp hj with hj | hj
        · rcases hcollect.single j hj with hpresent | hover
          · exact nomatch hfree.1.symm.trans hpresent
          · exact .inr hover
        · exact .inl (congrArg some (List.mem_singleton.mp hj).symm)
    · obtain rfl := Option.some.inj hnext
      exact hcollect

/-- The pace is kept in every state reached. -/
theorem Paced.reach (hs : maConnection.Reach Machine.anyMove s) : Paced s := by
  refine hs.invariant ?_ ?_
  · rintro s ⟨now, rfl⟩
    exact ⟨⟨rfl, nofun⟩, nofun, nofun⟩
  · rintro s ⟨now, m⟩ s' h - hnext
    obtain ⟨-, hnext⟩ := Option.ite_none_right_eq_some.mp hnext
    have h : Paced { s with now } := ⟨h.gate, h.inTime, h.single⟩
    cases m with
    | poll task player => exact h.poll hnext
    | call | resume | proceed | timeout | reported | stopped | announced | noted | cancel | event |
        ends =>
      exact h.next_call (next_pacing hnext nofun)

/-- **The status backs off.**  However the other callers use the connection: `console_is_playing` makes
    one attempt at a time, and none before the wait after the failures in a row (one second, doubled up
    to thirty) is over. -/
theorem status_attempts_paced (hs : maConnection.Reach Machine.anyMove s) :
    (∀ a ∈ s.attempts, a.InTime 1 30) ∧
    ∀ j ∈ s.tasks, ∀ k ∈ s.tasks, (s.calls j).over = false → (s.calls k).over = false → j = k := by
  have h := Paced.reach hs
  refine ⟨h.inTime, fun j hj k hk hjrun hkrun => ?_⟩
  have hpresent : ∀ i ∈ s.tasks, (s.calls i).over = false → s.connectionTask = some i := by
    intro i hi hrun
    rcases h.single i hi with hpresent | hover
    · exact hpresent
    · exact absurd hover (by simp [hrun])
  exact Option.some.inj ((hpresent j hj hjrun).symm.trans (hpresent k hk hkrun))

/-- Two failed attempts, a success, and the next attempt when that listener has died. -/
def failures : List (ℚ × MaMove) :=
  [(0, .poll 0 none), (0, .call 0), (10, .timeout 0), (10, .ends 0), (10, .stopped 0 false),
    (10, .noted 0), (11, .poll 1 none), (11, .call 1), (21, .timeout 1), (21, .ends 1),
    (21, .stopped 1 true), (21, .noted 1), (23, .poll 2 none), (23, .call 2), (23, .reported 2),
    (24, .event 2), (24, .proceed 2), (24, .announced 2), (25, .ends 2), (25, .poll 3 none)]

/-- Two failures, the waits after them, and an attempt after a success. -/
theorem status_attempts_paced_failures :
    ∃ s, maConnection.Reach Machine.anyMove s ∧
      s.attempts = [⟨0, none⟩, ⟨11, some (0, 10)⟩, ⟨23, some (1, 21)⟩, ⟨25, none⟩] ∧
      ∀ a ∈ s.attempts, a.InTime 1 30 := by
  obtain ⟨s, hs, hattempts⟩ := Machine.exists_reach (m := maConnection) (s := { now := 0 })
    (l := failures)
    (fun s => s.attempts = [⟨0, none⟩, ⟨11, some (0, 10)⟩, ⟨23, some (1, 21)⟩, ⟨25, none⟩])
    ⟨0, rfl⟩ (by decide +kernel)
  exact ⟨s, hs, hattempts, (status_attempts_paced hs).1⟩

/-! ## The state of the console -/

/-- What the telemetry last said of the console. -/
def status (s : MaConnection) : Bool × Option Int := (s.lastConsolePlaying, s.lastConsoleVolume)

theorem succeed_status (s : MaConnection) (i : Nat) : (s.succeed i).status = s.status := by
  unfold MaConnection.succeed
  dsimp only
  split <;> rfl

theorem enter_status (s : MaConnection) (i : Nat) : (s.enter i).status = s.status := by
  unfold MaConnection.enter
  split
  · split
    · exact succeed_status s i
    · rfl
  · split <;> rfl

theorem call_status (s : MaConnection) (i : Nat) : (s.call i).status = s.status := by
  unfold MaConnection.call
  dsimp only
  split
  · exact enter_status _ i
  · rfl

theorem collect_status (s : MaConnection) : s.collect.status = s.status := by
  unfold MaConnection.collect
  split <;> rfl

/-- Only `console_is_playing` says anything of the console. -/
theorem next_status (hnext : s.next m = some s') (hm : ∀ task player, m ≠ .poll task player) :
    s'.status = s.status := by
  cases m with
  | call i =>
    obtain ⟨-, hnext⟩ := Option.ite_none_right_eq_some.mp hnext
    obtain rfl := Option.some.inj hnext
    exact call_status s i
  | resume i =>
    obtain ⟨-, hnext⟩ := Option.ite_none_right_eq_some.mp hnext
    obtain rfl := Option.some.inj hnext
    exact enter_status s i
  | proceed i =>
    simp only [MaConnection.next] at hnext
    split at hnext
    · obtain ⟨-, hnext⟩ := Option.ite_none_right_eq_some.mp hnext
      obtain rfl := Option.some.inj hnext
      exact succeed_status s i
    · obtain ⟨-, hnext⟩ := Option.ite_none_right_eq_some.mp hnext
      obtain rfl := Option.some.inj hnext
      rfl
    · cases hnext
  | timeout i =>
    simp only [MaConnection.next] at hnext
    split at hnext
    · obtain ⟨-, hnext⟩ := Option.ite_none_right_eq_some.mp hnext
      obtain rfl := Option.some.inj hnext
      rfl
    · obtain ⟨-, hnext⟩ := Option.ite_none_right_eq_some.mp hnext
      obtain rfl := Option.some.inj hnext
      rfl
    · cases hnext
  | stopped i raised =>
    obtain ⟨-, hnext⟩ := Option.ite_none_right_eq_some.mp hnext
    obtain rfl := Option.some.inj hnext
    split <;> rfl
  | announced i =>
    obtain ⟨-, hnext⟩ := Option.ite_none_right_eq_some.mp hnext
    obtain rfl := Option.some.inj hnext
    exact succeed_status s i
  | reported i | noted i =>
    obtain ⟨-, hnext⟩ := Option.ite_none_right_eq_some.mp hnext
    obtain rfl := Option.some.inj hnext
    rfl
  | event n | ends n =>
    obtain ⟨-, hnext⟩ := Option.ite_none_right_eq_some.mp hnext
    obtain rfl := Option.some.inj hnext
    rfl
  | cancel i =>
    simp only [MaConnection.next] at hnext
    split at hnext
    · cases hnext
    unfold MaConnection.cancel at hnext
    split at hnext
    all_goals first
      | (obtain rfl := Option.some.inj hnext; rfl)
      | cases hnext
  | poll task player => exact absurd rfl (hm task player)

/-- A player that is found is believed; its volume is clamped. -/
theorem observe_status (s : MaConnection) (player : Option MaPlayer) :
    (s.observe player).status = s.status ∨
    ∃ p, player = some p ∧ (s.observe player).lastConsolePlaying = (p.available && p.playing) ∧
      ((s.observe player).lastConsoleVolume = s.lastConsoleVolume ∨
        ∃ v, (s.observe player).lastConsoleVolume = some (max 0 (min 100 v))) := by
  unfold MaConnection.observe
  cases player with
  | none => exact .inl rfl
  | some p =>
    refine .inr ⟨p, rfl, ?_⟩
    dsimp only
    cases havailable : p.available with
    | false => exact ⟨rfl, .inl rfl⟩
    | true =>
      refine ⟨rfl, ?_⟩
      rw [if_pos rfl]
      dsimp only
      split
      · exact .inr ⟨_, rfl⟩
      · exact .inl rfl

/-- What a call of `console_is_playing` finds. -/
theorem poll_status {task : Nat} {player : Option MaPlayer} (hnext : s.poll task player = some s') :
    s'.status = s.status ∨ s.live = true ∧ s.isReady = true ∧
      ∃ p, player = some p ∧ s'.lastConsolePlaying = (p.available && p.playing) ∧
        (s'.lastConsoleVolume = s.lastConsoleVolume ∨
          ∃ v, s'.lastConsoleVolume = some (max 0 (min 100 v))) := by
  have hfound : s.collect.live = s.live ∧ s.collect.isReady = s.isReady := by
    unfold MaConnection.collect
    split <;> exact ⟨rfl, rfl⟩
  have hvolume : s.collect.lastConsoleVolume = s.lastConsoleVolume :=
    congrArg Prod.snd (collect_status s)
  unfold MaConnection.poll at hnext
  dsimp only at hnext
  split at hnext
  · rename_i hready
    obtain rfl := Option.some.inj hnext
    rw [hfound.1, hfound.2] at hready
    rcases observe_status s.collect player with hsame | ⟨p, hp, hplaying, hv⟩
    · exact .inl (hsame.trans (collect_status s))
    · exact .inr ⟨hready.1, hready.2, p, hp, hplaying, hvolume ▸ hv⟩
  · refine .inl ?_
    split at hnext
    · obtain ⟨-, hnext⟩ := Option.ite_none_right_eq_some.mp hnext
      obtain rfl := Option.some.inj hnext
      exact collect_status s
    · obtain rfl := Option.some.inj hnext
      exact collect_status s

/-- Any move. -/
theorem step_status (hnext : s.next m = some s') :
    s'.status = s.status ∨ ∃ task p, m = .poll task (some p) ∧ s.live = true ∧ s.isReady = true ∧
      s'.lastConsolePlaying = (p.available && p.playing) ∧
      (s'.lastConsoleVolume = s.lastConsoleVolume ∨
        ∃ v, s'.lastConsoleVolume = some (max 0 (min 100 v))) := by
  cases m with
  | poll task player =>
    rcases poll_status hnext with hsame | ⟨hlive, hready, p, rfl, hplaying, hv⟩
    · exact .inl hsame
    · exact .inr ⟨task, p, rfl, hlive, hready, hplaying, hv⟩
  | call | resume | proceed | timeout | reported | stopped | announced | noted | cancel | event |
      ends => exact .inl (next_status hnext nofun)

/-- A remembered volume is between 0 and 100. -/
theorem volume_reach (hs : maConnection.Reach Machine.anyMove s) :
    ∀ v, s.lastConsoleVolume = some v → 0 ≤ v ∧ v ≤ 100 := by
  refine hs.invariant (I := fun s => ∀ v, s.lastConsoleVolume = some v → 0 ≤ v ∧ v ≤ 100) ?_ ?_
  · rintro s ⟨now, rfl⟩
    nofun
  · intro s a s' h _ hnext v hv
    obtain ⟨-, hnext⟩ := Option.ite_none_right_eq_some.mp hnext
    rcases step_status hnext with hsame | ⟨_, _, -, -, -, -, hkept | ⟨w, hw⟩⟩
    · exact h v ((congrArg Prod.snd hsame).symm.trans hv)
    · exact h v (hkept.symm.trans hv)
    · obtain rfl := Option.some.inj (hw.symm.trans hv)
      omega

/-- **The output stays reserved.**  What `console_is_playing` returns changes only when it finds the
    recorded listener alive and ready, and is then what the player says; the volume that goes with it
    is between 0 and 100. -/
theorem playing_kept (hs : maConnection.Reach Machine.anyMove s) {a : ℚ × MaMove}
    (hnext : maConnection.next s a = some s') :
    (s'.lastConsolePlaying ≠ s.lastConsolePlaying → ∃ task p n, a.2 = .poll task (some p) ∧
      s.listener = some n ∧ s.done n = false ∧ s.ready n = true ∧
      s'.lastConsolePlaying = (p.available && p.playing)) ∧
    ∀ v, s'.lastConsoleVolume = some v → 0 ≤ v ∧ v ≤ 100 := by
  obtain ⟨hnow, hmove⟩ := Option.ite_none_right_eq_some.mp hnext
  refine ⟨fun hchanged => ?_, volume_reach (hs.move trivial hnext)⟩
  rcases step_status hmove with hsame | ⟨task, p, hpoll, hlive, hready, hplaying, -⟩
  · exact absurd (congrArg Prod.fst hsame) hchanged
  · obtain ⟨n, hn, hdone⟩ := (Option.any_eq_true _ _).mp hlive
    have hlast : n + 1 = s.made := (Sound.reach hs).latest n hn
    have hready : s.ready (s.made - 1) = true := hready
    rw [← hlast, Nat.add_sub_cancel] at hready
    exact ⟨task, p, n, hpoll, hn, by simpa using hdone, hready, hplaying⟩

/-- The console plays when its connection is lost, and is not believed to have stopped. -/
def lostWhilePlaying : List (ℚ × MaMove) :=
  [(0, .poll 0 none), (0, .call 0), (1, .event 0), (1, .proceed 0), (1, .announced 0),
    (1, .poll 1 (some ⟨true, true, none, some 120⟩)), (2, .ends 0), (2, .poll 1 none)]

/-- The connection is lost, and the console goes on being reported as playing. -/
theorem playing_kept_lost :
    ∃ s s', maConnection.Reach Machine.anyMove s ∧ s.live = false ∧ s.lastConsolePlaying = true ∧
      maConnection.next s (3, .poll 2 (some ⟨true, false, none, none⟩)) = some s' ∧
      s'.lastConsolePlaying = true ∧ s'.lastConsoleVolume = some 100 ∧ (100 : Int) ≤ 100 := by
  obtain ⟨s, hs, hlive, hplaying, hafter⟩ := Machine.exists_reach (m := maConnection)
    (s := { now := 0 }) (l := lostWhilePlaying)
    (fun s => s.live = false ∧ s.lastConsolePlaying = true ∧
      (maConnection.next s (3, .poll 2 (some ⟨true, false, none, none⟩))).any
        (fun s' => decide (s'.lastConsoleVolume = some 100)) = true) ⟨0, rfl⟩ (by decide +kernel)
  obtain ⟨s', hnext, hvolume⟩ := (Option.any_eq_true _ _).mp hafter
  have hvolume := of_decide_eq_true hvolume
  obtain ⟨hchanges, hbounds⟩ := playing_kept hs hnext
  refine ⟨s, s', hs, hlive, hplaying, hnext, ?_, hvolume, (hbounds 100 hvolume).2⟩
  by_contra hstopped
  obtain ⟨_, _, n, -, hn, hdone, -, -⟩ := hchanges (by rw [hplaying]; exact hstopped)
  rw [live, hn] at hlive
  simp [hdone] at hlive

end MaConnection

end PhonoConsole
