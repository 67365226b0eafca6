/-
  THE CLIENT OF THE AUDIO ENGINE: `AudioEngineClient.run` (`phono_console/audio_engine_client.py`).

  The client connects, publishes every packet that it can decode, and begins again when anything
  fails, after a wait.  It is suspended in `sock_connect`, in `sock_recv`, or in that wait.

  * `AudioEngineClient.next` — one resumption, with the answer of the loop, and the frame it
    publishes;
  * `ClientRun`, `clientRun` — runs on a clock, with the attempts to connect and the failures in a
    row on record;
  * `ClientRun.Paced`        — the wait in force is the one that the failures ask for;
  * `reconnects`             — over every run: no attempt before its wait is over, `connected` exactly
    while packets are received, and no way out but the stop event and a cancellation.

  `socket.socket` itself is taken to succeed.
-/
import PhonoConsole.Lib.Backoff
import PhonoConsole.Lib.Machine
import PhonoConsole.Protocol
import Mathlib.Data.List.Chain
import Mathlib.Tactic.NormNum

namespace PhonoConsole

open Protocol Backoff Struct

/-! ## The loop -/

/-- Where `run` is suspended, or how it has ended; `raised` is an error that it does not handle. -/
inductive ClientPhase
  | connecting
  | receiving
  | waiting (deadline : ℚ)
  | returned
  | cancelled
  | raised
deriving DecidableEq

/-- The client's fields, the stop event, and the local `retry_seconds`. -/
structure AudioEngineClient where
  connected : Bool := false
  error : Option String := none
  retrySeconds : ℚ := 1 / 2
  stopped : Bool := false
  phase : ClientPhase
deriving DecidableEq

/-- What the client is told, or gets: a stop, an answer of the socket, or the time. -/
inductive ClientMove
  | stop
  | connect (answer : Except String Unit)
  | receive (answer : Except String Bytes)
  | timeout
  | woken
  | cancel

namespace AudioEngineClient

/-- The head of the outer loop. -/
def enter (c : AudioEngineClient) : AudioEngineClient :=
  { c with phase := if c.stopped then .returned else .connecting }

/-- The `finally`, and the wait for the stop event, which does not begin when that is set. -/
def leave (c : AudioEngineClient) (now : ℚ) : AudioEngineClient :=
  if c.stopped then { c with connected := false }.enter
  else { c with connected := false, phase := .waiting (now + c.retrySeconds) }

/-- The head of the inner loop. -/
def receive (c : AudioEngineClient) (now : ℚ) : AudioEngineClient :=
  if c.stopped then c.leave now else { c with phase := .receiving }

/-- What follows `sock_connect`. -/
def connect (c : AudioEngineClient) (now : ℚ) : Except String Unit → AudioEngineClient
  | .ok () => { c with connected := true, error := none, retrySeconds := 1 / 2 }.receive now
  | .error text => { c with error := some text }.leave now

/-- What follows `sock_recv`; a frame that is decoded is published. -/
def handle (c : AudioEngineClient) (now : ℚ) :
    Except String Bytes → AudioEngineClient × Option Protocol.TimestampedPcm
  | .error text => ({ c with error := some text }.leave now, none)
  | .ok packet =>
    if packet = [] then ({ c with error := some "audio engine disconnected" }.leave now, none)
    else
      match decode packet with
      | .ok frame => (c.receive now, some frame)
      | .error (.protocolError text) => ({ c with error := some text }.leave now, none)
      | .error .structError => ({ c with connected := false, phase := .raised }, none)

/-- One resumption at the time `now`, and what is published in it. -/
def next (c : AudioEngineClient) (now : ℚ) :
    ClientMove → Option (AudioEngineClient × Option Protocol.TimestampedPcm)
  | .stop => some ({ c with stopped := true }, none)
  | .connect answer => if c.phase = .connecting then some (c.connect now answer, none) else none
  | .receive answer => if c.phase = .receiving then some (c.handle now answer) else none
  | .timeout =>
    match c.phase with
    | .waiting deadline =>
        if deadline ≤ now then some ({ c with retrySeconds := min (c.retrySeconds * 2) 10 }.enter, none)
        else none
    | _ => none
  | .woken =>
    match c.phase with
    | .waiting _ => if c.stopped then some (c.enter, none) else none
    | _ => none
  | .cancel =>
    match c.phase with
    | .connecting | .receiving | .waiting _ =>
        some ({ c with connected := false, phase := .cancelled }, none)
    | .returned | .cancelled | .raised => none

/-- `run` as it is called. -/
def start (stopped : Bool) : AudioEngineClient :=
  enter { stopped, phase := .connecting }

end AudioEngineClient

/-! ## On a clock -/

/-- The failures in a row and the attempts to connect. -/
structure Reconnections where
  streak : Streak ℚ := none
  attempts : List (Attempt ℚ) := []

/-- What a resumption adds to the record, by the phases before and after it. -/
def Reconnections.after (r : Reconnections) (now : ℚ) : ClientPhase → ClientPhase → Reconnections
  | _, .receiving => { r with streak := none }
  | .waiting _, .connecting => { r with attempts := r.attempts ++ [⟨now, r.streak⟩] }
  | .connecting, .waiting _ | .receiving, .waiting _ => { r with streak := r.streak.fail now }
  | _, _ => r

/-- A client with the clock, its attempts and what it has published. -/
structure ClientRun where
  client : AudioEngineClient
  now : ℚ
  record : Reconnections
  published : List Protocol.TimestampedPcm := []

/-- Any run of the client.  Time does not go back. -/
def clientRun : Machine ClientRun (ℚ × ClientMove) where
  init s := ∃ stopped now,
    s = ⟨.start stopped, now, { attempts := if stopped then [] else [⟨now, none⟩] }, []⟩
  next s a :=
    if s.now ≤ a.1 then
      (s.client.next a.1 a.2).map fun (client, frame) =>
        ⟨client, a.1, s.record.after a.1 s.client.phase client.phase, s.published ++ frame.toList⟩
    else none

/-! ## What a resumption does -/

namespace AudioEngineClient

variable {c c' : AudioEngineClient} {now : ℚ} {m : ClientMove}
  {frame : Option Protocol.TimestampedPcm}

/-- Leaving a connection ends the loop when the stop event is set, and begins a wait otherwise. -/
theorem leave_cases (c : AudioEngineClient) (now : ℚ) :
    (c.stopped = true ∧ c.leave now = { c with connected := false, phase := .returned }) ∨
    (c.stopped = false ∧
      c.leave now = { c with connected := false, phase := .waiting (now + c.retrySeconds) }) := by
  unfold leave enter
  cases hstop : c.stopped with
  | true => exact .inl ⟨rfl, by simp⟩
  | false => exact .inr ⟨rfl, by simp⟩

theorem enter_cases (c : AudioEngineClient) :
    (c.stopped = true ∧ c.enter = { c with phase := .returned }) ∨
    (c.stopped = false ∧ c.enter = { c with phase := .connecting }) := by
  unfold enter
  cases hstop : c.stopped with
  | true => exact .inl ⟨rfl, rfl⟩
  | false => exact .inr ⟨rfl, rfl⟩

/-- An answer of `sock_connect` or `sock_recv` ends the loop, begins a wait, or leads to the next
    packet; only the last keeps the connection, and publishes. -/
inductive Answered (c : AudioEngineClient) (now : ℚ) :
    AudioEngineClient → Option Protocol.TimestampedPcm → Prop
  | ended {c₁ : AudioEngineClient} {frame : Option Protocol.TimestampedPcm} :
      c₁.stopped = true → c₁.connected = false → c₁.phase = .returned → Answered c now c₁ frame
  | failed {error : Option String} : c.stopped = false →
      Answered c now { c with connected := false, error, phase := .waiting (now + c.retrySeconds) } none
  | received {frame : Option Protocol.TimestampedPcm} : c.stopped = false → c.phase = .receiving →
      Answered c now c frame
  | connected : c.stopped = false → c.phase = .connecting →
      Answered c now
        { c with connected := true, error := none, retrySeconds := 1 / 2, phase := .receiving } none

theorem answered_leave (c : AudioEngineClient) (now : ℚ) (error : Option String) :
    Answered c now ({ c with error }.leave now) none := by
  rcases leave_cases { c with error } now with ⟨hstop, hleave⟩ | ⟨hgo, hleave⟩ <;> rw [hleave]
  · exact .ended hstop rfl rfl
  · exact .failed hgo

theorem connect_answered (hphase : c.phase = .connecting) (now : ℚ) (answer : Except String Unit) :
    Answered c now (c.connect now answer) none := by
  cases answer with
  | error text => exact answered_leave c now _
  | ok u =>
    cases hstop : c.stopped with
    | true =>
      refine .ended ?_ ?_ ?_ <;> simp [connect, receive, leave, enter, hstop]
    | false =>
      have hconnect : c.connect now (.ok u) =
          { c with connected := true, error := none, retrySeconds := 1 / 2, phase := .receiving } := by
        simp [connect, receive, hstop]
      rw [hconnect]
      exact .connected hstop hphase

/-- `struct.error` does not come out of `decode`, so that every answer is handled. -/
theorem handle_answered (hphase : c.phase = .receiving) (now : ℚ) (answer : Except String Bytes) :
    Answered c now (c.handle now answer).1 (c.handle now answer).2 := by
  cases answer with
  | error text => exact answered_leave c now _
  | ok packet =>
    unfold handle
    dsimp only
    split
    · exact answered_leave c now _
    rcases decode_total packet with ⟨f, hdecode⟩ | ⟨text, hdecode⟩ <;> rw [hdecode]
    · cases hstop : c.stopped with
      | true =>
        refine .ended ?_ ?_ ?_ <;> simp [receive, leave, enter, hstop]
      | false =>
        have hreceive : c.receive now = c := by
          unfold receive
          rw [if_neg (by simp [hstop]), ← hphase]
        simp only [hreceive]
        exact .received hstop hphase
    · exact answered_leave c now _

/-- Everything that a resumption can do. -/
theorem next_cases (h : c.next now m = some (c', frame)) :
    (frame = none ∧ c' = { c with stopped := true }) ∨
    ((c.phase = .connecting ∨ c.phase = .receiving) ∧ Answered c now c' frame) ∨
    (∃ deadline, c.phase = .waiting deadline ∧ deadline ≤ now ∧ frame = none ∧
      c' = { c with retrySeconds := min (c.retrySeconds * 2) 10 }.enter) ∨
    (frame = none ∧ c.stopped = true ∧ c' = { c with phase := .returned }
      ∧ ∃ deadline, c.phase = .waiting deadline) ∨
    (frame = none ∧ c' = { c with connected := false, phase := .cancelled }) := by
  cases m with
  | stop =>
    obtain ⟨rfl, rfl⟩ := Prod.mk.inj (Option.some.inj h)
    exact .inl ⟨rfl, rfl⟩
  | connect answer =>
    simp only [next] at h
    split at h
    · rename_i hphase
      obtain ⟨rfl, rfl⟩ := Prod.mk.inj (Option.some.inj h)
      exact .inr (.inl ⟨.inl hphase, connect_answered hphase now answer⟩)
    · cases h
  | receive answer =>
    simp only [next] at h
    split at h
    · rename_i hphase
      have hanswered := handle_answered hphase now answer
      rw [Option.some.inj h] at hanswered
      exact .inr (.inl ⟨.inr hphase, hanswered⟩)
    · cases h
  | timeout =>
    simp only [next] at h
    split at h
    · rename_i deadline hphase
      split at h
      · rename_i hover
        obtain ⟨rfl, rfl⟩ := Prod.mk.inj (Option.some.inj h)
        exact .inr (.inr (.inl ⟨deadline, hphase, hover, rfl, rfl⟩))
      · cases h
    · cases h
  | woken =>
    simp only [next] at h
    split at h
    · rename_i deadline hphase
      split at h
      · rename_i hstop
        obtain ⟨rfl, rfl⟩ := Prod.mk.inj (Option.some.inj h)
        refine .inr (.inr (.inr (.inl ⟨rfl, hstop, ?_, deadline, hphase⟩)))
        simp [enter, hstop]
      · cases h
    · cases h
  | cancel =>
    simp only [next] at h
    split at h
    all_goals first
      | (cases h; done)
      | (obtain ⟨rfl, rfl⟩ := Prod.mk.inj (Option.some.inj h)
         exact .inr (.inr (.inr (.inr ⟨rfl, rfl⟩))))

/-- A frame is published for a packet that is received, and decoded. -/
theorem next_published {f : Protocol.TimestampedPcm} (h : c.next now m = some (c', some f)) :
    ∃ packet, m = .receive (.ok packet) ∧ packet ≠ [] ∧ decode packet = .ok f := by
  unfold next at h
  split at h
  · cases (Prod.mk.inj (Option.some.inj h)).2
  · split at h
    · cases (Prod.mk.inj (Option.some.inj h)).2
    · cases h
  · rename_i answer
    split at h
    · have hframe : (c.handle now answer).2 = some f := congrArg Prod.snd (Option.some.inj h)
      cases answer with
      | error text => cases hframe
      | ok packet =>
        unfold handle at hframe
        dsimp only at hframe
        split at hframe
        · cases hframe
        rename_i hne
        refine ⟨packet, rfl, hne, ?_⟩
        rcases decode_total packet with ⟨g, hdecode⟩ | ⟨text, hdecode⟩ <;> rw [hdecode] at hframe
        · obtain rfl := Option.some.inj hframe
          exact hdecode
        · cases hframe
    · cases h
  · split at h
    · split at h
      · cases (Prod.mk.inj (Option.some.inj h)).2
      · cases h
    · cases h
  · split at h
    · split at h
      · cases (Prod.mk.inj (Option.some.inj h)).2
      · cases h
    · cases h
  · split at h <;> cases h

/-- A packet that is decoded is published, and is no error. -/
theorem next_decoded {packet : Bytes} {f : Protocol.TimestampedPcm} (hne : packet ≠ [])
    (hdecode : decode packet = .ok f) (h : c.next now (.receive (.ok packet)) = some (c', frame)) :
    frame = some f ∧ c'.error = c.error := by
  obtain ⟨-, h⟩ := Option.ite_none_right_eq_some.mp h
  have hhandle : c.handle now (.ok packet) = (c.receive now, some f) := by
    unfold handle
    dsimp only
    rw [if_neg hne, hdecode]
  rw [hhandle] at h
  obtain ⟨rfl, rfl⟩ := Prod.mk.inj (Option.some.inj h)
  refine ⟨rfl, ?_⟩
  unfold receive leave enter
  split_ifs <;> rfl

end AudioEngineClient

/-! ## Every attempt in time -/

/-- What the wait in force, or the next one, has to do with the failures on record. -/
def Reconnections.Due (r : Reconnections) (retrySeconds : ℚ) : ClientPhase → Prop
  | .connecting => retrySeconds = r.streak.upcoming (1 / 2) 10
  | .receiving => r.streak = none ∧ retrySeconds = 1 / 2
  | .waiting deadline => Gate (1 / 2) 10 (min (retrySeconds * 2) 10) deadline r.streak ∧
      ∀ a ∈ r.attempts.getLast?, a.time + 1 / 2 ≤ deadline
  | .returned | .cancelled => True
  | .raised => False

/-- The pacing: attempts are in time and apart, and `connected` tells the phase. -/
structure ClientRun.Paced (s : ClientRun) : Prop where
  due : s.record.Due s.client.retrySeconds s.client.phase
  inTime : ∀ a ∈ s.record.attempts, a.InTime (1 / 2) 10 ∧ a.time ≤ s.now
  spaced : s.record.attempts.IsChain fun a b => a.time + 1 / 2 ≤ b.time
  connected : s.client.connected = true ↔ s.client.phase = .receiving
  returned : s.client.phase = .returned → s.client.stopped = true

namespace ClientRun.Paced

open AudioEngineClient

variable {s : ClientRun} {now : ℚ} {m : ClientMove} {c : AudioEngineClient}
  {published : List Protocol.TimestampedPcm}

theorem start (stopped : Bool) (now : ℚ) :
    Paced ⟨.start stopped, now, { attempts := if stopped then [] else [⟨now, none⟩] }, []⟩ := by
  cases stopped with
  | true =>
    exact ⟨trivial, by simp, .nil, by simp [AudioEngineClient.start, enter], fun _ => rfl⟩
  | false =>
    refine ⟨rfl, ?_, .singleton _, by simp [AudioEngineClient.start, enter],
      by simp [AudioEngineClient.start, enter]⟩
    intro a ha
    obtain rfl := List.mem_singleton.mp ha
    exact ⟨nofun, le_refl _⟩

/-- The attempts on record are as before, at a later time. -/
theorem later (h : Paced s) (hnow : s.now ≤ now) :
    ∀ a ∈ s.record.attempts, a.InTime (1 / 2) 10 ∧ a.time ≤ now := fun a ha =>
  ⟨(h.inTime a ha).1, (h.inTime a ha).2.trans hnow⟩

/-- The wait that a failure begins: it is the one due, and it is half a second at least. -/
theorem fail (h : Paced s) (hnow : s.now ≤ now)
    (hphase : s.client.phase = .connecting ∨ s.client.phase = .receiving) :
    Reconnections.Due { s.record with streak := s.record.streak.fail now } s.client.retrySeconds
      (.waiting (now + s.client.retrySeconds)) := by
  have hdelay : s.client.retrySeconds = s.record.streak.upcoming (1 / 2) 10 := by
    have hdue := h.due
    rcases hphase with hphase | hphase <;> rw [hphase] at hdue
    · exact hdue
    · rw [hdue.1, hdue.2]
      rfl
  constructor
  · exact Gate.failed hdelay now
  · intro a ha
    have htime := (h.inTime a (List.mem_of_mem_getLast? ha)).2
    have hwait : 1 / 2 ≤ s.client.retrySeconds := by
      obtain ⟨n, -, hn⟩ := s.record.streak.fail_eq (1 / 2) 10 now
      rw [hdelay, hn]
      exact base_le_wait (by norm_num) (by norm_num)
    linarith

/-- An attempt at the end of its wait. -/
theorem attempt (h : Paced s) (hnow : s.now ≤ now) {deadline : ℚ}
    (hphase : s.client.phase = .waiting deadline) (hover : deadline ≤ now) :
    Paced ⟨{ s.client with retrySeconds := min (s.client.retrySeconds * 2) 10, phase := .connecting },
      now, { s.record with attempts := s.record.attempts ++ [⟨now, s.record.streak⟩] }, published⟩ := by
  have hdue := h.due
  rw [hphase] at hdue
  obtain ⟨hgate, hlast⟩ := hdue
  constructor
  · exact hgate.delay
  · intro a ha
    rcases List.mem_append.mp ha with ha | ha
    · exact h.later hnow a ha
    · obtain rfl := List.mem_singleton.mp ha
      exact ⟨hgate.inTime hover, le_refl _⟩
  · refine List.isChain_append.mpr ⟨h.spaced, .singleton _, ?_⟩
    intro a ha b hb
    obtain rfl : _ = b := Option.some.inj hb
    exact (hlast a ha).trans hover
  · have hnot : s.client.connected ≠ true := fun hconnected => by
      rw [h.connected.mp hconnected] at hphase
      cases hphase
    simp [hnot]
  · nofun

/-- The loop is over, one way or the other: nothing is due any more. -/
theorem finished (h : Paced s) (hnow : s.now ≤ now)
    (hended : c.phase = .returned ∧ c.stopped = true ∨ c.phase = .cancelled)
    (hclosed : c.connected = false) :
    Paced ⟨c, now, s.record.after now s.client.phase c.phase, published⟩ := by
  have hrecord : s.record.after now s.client.phase c.phase = s.record := by
    rcases hended with ⟨hphase, -⟩ | hphase <;> rw [hphase] <;> cases s.client.phase <;> rfl
  rw [hrecord]
  constructor
  · rcases hended with ⟨hphase, -⟩ | hphase <;> simp [hphase, Reconnections.Due]
  · exact h.later hnow
  · exact h.spaced
  · rcases hended with ⟨hphase, -⟩ | hphase <;> simp [hphase, hclosed]
  · intro hphase
    rcases hended with ⟨-, hstop⟩ | hcancelled
    · exact hstop
    · exact nomatch hphase.symm.trans hcancelled

/-- The stop event resumes nothing. -/
theorem stop (h : Paced s) (hnow : s.now ≤ now) :
    Paced ⟨{ s.client with stopped := true }, now,
      s.record.after now s.client.phase s.client.phase, published⟩ := by
  have hdue := h.due
  have hrecord : s.record.after now s.client.phase s.client.phase = s.record := by
    cases hphase : s.client.phase with
    | receiving =>
      rw [hphase] at hdue
      show ({ s.record with streak := none } : Reconnections) = s.record
      rw [← hdue.1]
    | connecting | waiting | returned | cancelled | raised => rfl
  rw [hrecord]
  exact ⟨h.due, h.later hnow, h.spaced, h.connected, fun _ => rfl⟩

/-- Outside `receiving` the client is not connected. -/
theorem closed (h : Paced s) (hphase : s.client.phase ≠ .receiving) : s.client.connected = false :=
  Bool.eq_false_iff.mpr (mt h.connected.mp hphase)

/-- A resumption keeps the pace. -/
theorem next (h : Paced s) (hnow : s.now ≤ now) {frame : Option Protocol.TimestampedPcm}
    (hnext : s.client.next now m = some (c, frame)) :
    Paced ⟨c, now, s.record.after now s.client.phase c.phase, published⟩ := by
  rcases next_cases hnext with ⟨-, rfl⟩ | ⟨hphase, hanswered⟩ | ⟨deadline, hphase, hover, -, rfl⟩ |
    ⟨-, hstop, rfl, deadline, hphase⟩ | ⟨-, rfl⟩
  · exact h.stop hnow
  · cases hanswered with
    | ended hstop hclosed hreturned => exact h.finished hnow (.inl ⟨hreturned, hstop⟩) hclosed
    | failed hgo =>
      have hrecord : s.record.after now s.client.phase (.waiting (now + s.client.retrySeconds)) =
          { s.record with streak := s.record.streak.fail now } := by
        rcases hphase with hphase | hphase <;> rw [hphase] <;> rfl
      dsimp only
      rw [hrecord]
      exact ⟨h.fail hnow hphase, h.later hnow, h.spaced, by simp, nofun⟩
    | received hgo hreceiving =>
      rw [hreceiving]
      have hdue := h.due
      rw [hreceiving] at hdue
      exact ⟨by rw [hreceiving]; exact ⟨rfl, hdue.2⟩, h.later hnow, h.spaced, h.connected, h.returned⟩
    | connected hgo hconnecting =>
      exact ⟨⟨rfl, rfl⟩, h.later hnow, h.spaced, by simp, nofun⟩
  · -- the end of the wait, at which the stop event may be set as well
    rcases enter_cases { s.client with retrySeconds := min (s.client.retrySeconds * 2) 10 } with
      ⟨hstop, henter⟩ | ⟨-, henter⟩ <;> rw [henter]
    · exact h.finished hnow (.inl ⟨rfl, hstop⟩) (h.closed (by simp [hphase]))
    · dsimp only
      rw [hphase]
      exact h.attempt hnow hphase hover
  · exact h.finished hnow (.inl ⟨rfl, hstop⟩) (h.closed (by simp [hphase]))
  · exact h.finished hnow (.inr rfl) rfl

theorem reach {s : ClientRun} (hs : clientRun.Reach Machine.anyMove s) : Paced s := by
  refine hs.invariant ?_ ?_
  · rintro s ⟨stopped, now, rfl⟩
    exact start stopped now
  · intro s a s' h _ hnext
    simp only [clientRun] at hnext
    split at hnext
    · obtain ⟨⟨c, frame⟩, hc, rfl⟩ := Option.map_eq_some_iff.mp hnext
      exact h.next ‹_› hc
    · cases hnext

end ClientRun.Paced

/-- Whatever the engine and the socket answer, and whenever the client is stopped or cancelled: it
    tries to connect only when the wait after its last failure is over (half a second, doubled from
    failure to failure up to ten), so twice in no half second; it says that it is connected exactly
    while it awaits a packet; nothing that it receives raises out of `run`; and `run` returns only
    after the stop event. -/
theorem reconnects {s : ClientRun} (hs : clientRun.Reach Machine.anyMove s) :
    (∀ a ∈ s.record.attempts, a.InTime (1 / 2) 10) ∧
    (s.record.attempts.IsChain fun a b => a.time + 1 / 2 ≤ b.time) ∧
    (s.client.connected = true ↔ s.client.phase = .receiving) ∧
    s.client.phase ≠ .raised ∧
    (s.client.phase = .returned → s.client.stopped = true) := by
  have h := ClientRun.Paced.reach hs
  refine ⟨fun a ha => (h.inTime a ha).1, h.spaced, h.connected, ?_, h.returned⟩
  intro hraised
  have hdue := h.due
  rw [hraised] at hdue
  exact hdue

/-- Two refusals, a connection, a packet that is none, and the next attempt after half a second. -/
theorem reconnects_after_refusals :
    ∃ s, clientRun.Reach Machine.anyMove s ∧
      s.record.attempts = [⟨0, none⟩, ⟨1, some (0, 0)⟩, ⟨2, some (1, 1)⟩, ⟨3, some (0, 2)⟩] ∧
      ∀ a ∈ s.record.attempts, a.InTime (1 / 2) 10 := by
  obtain ⟨s, hs, hattempts⟩ := Machine.exists_reach (m := clientRun)
    (s := ⟨.start false, 0, { attempts := [⟨0, none⟩] }, []⟩)
    (l := [(0, .connect (.error "refused")), (1, .timeout), (1, .connect (.error "refused")),
      (2, .timeout), (2, .connect (.ok ())), (2, .receive (.ok [0])), (3, .timeout)])
    (fun s => s.record.attempts = [⟨0, none⟩, ⟨1, some (0, 0)⟩, ⟨2, some (1, 1)⟩, ⟨3, some (0, 2)⟩])
    ⟨false, 0, rfl⟩ (by decide +kernel)
  exact ⟨s, hs, hattempts, (reconnects hs).1⟩

end PhonoConsole
