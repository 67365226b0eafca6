/-
  THE CAPTURE: the windows of sound that the controller measures (`ArecordLevelMonitor`;
  `phono_console/alsa.py`).

  `read_pcm` starts arecord when there is none, reads a window of its output, and drops the older of
  those that have piled up.  arecord may be silent, end, or close its output at any moment; the caller
  is cancelled at any await, after two seconds at the latest (`Controller.tick`).

  * `StreamReader`, `Arecord` — the buffered output of a process, with all that ever arrived there;
  * `ArecordLevelMonitor`, `arecordLevelMonitor` — the monitor, await by await;
  * `Sound`              — the invariant: what has been read of each process is whole windows;
  * `windows_in_order`   — every window returned is one of a process, of its own number, later than those
    returned before, and the newest complete one there was;
  * `one_capture`        — every process but the present one has ended, or was told to;
  * `launches_paced`     — no launch before the wait after the failures in a row is over.

  The levels of a window, which are logarithms, are left out.
-/
import PhonoConsole.Lib.Backoff
import PhonoConsole.Lib.Machine
import Mathlib.Algebra.Order.Field.Rat
import Mathlib.Tactic.NormNum

namespace PhonoConsole

open Backoff

/-! ## The output of a process -/

/-- The capture configuration: what one window of it is. -/
structure CaptureSettings where
  sampleRate : Nat
  channels : Nat
  windowMs : Nat
  channels_pos : 0 < channels
  windowMs_pos : 0 < windowMs

namespace CaptureSettings

/-- `_window_bytes`. -/
def windowBytes (o : CaptureSettings) : Nat :=
  max 1 (o.sampleRate * o.windowMs / 1000) * o.channels * 2

/-- `max_buffered_windows`, a minute of them. -/
def maxBufferedWindows (o : CaptureSettings) : Nat := max 1 (60000 / o.windowMs)

theorem windowBytes_pos (o : CaptureSettings) : 0 < o.windowBytes := by
  have hframes : 0 < max 1 (o.sampleRate * o.windowMs / 1000) :=
    Nat.lt_of_lt_of_le Nat.one_pos (Nat.le_max_left ..)
  exact Nat.mul_pos (Nat.mul_pos hframes o.channels_pos) Nat.two_pos

end CaptureSettings

/-- `asyncio.StreamReader`. -/
structure StreamReader where
  buffer : List UInt8 := []
  eof : Bool := false

/-- What `readexactly` comes to when it looks into the buffer. -/
inductive ReadExactly
  | full (window : List UInt8)
  | incomplete
  | suspended

/-- `readexactly(n)`, as far as it gets without suspending. -/
def StreamReader.readexactly (r : StreamReader) (n : Nat) : ReadExactly :=
  if n ≤ r.buffer.length then .full (r.buffer.take n)
  else if r.eof then .incomplete
  else .suspended

/-- A process, whether it was told to end, and a record of its output: what has arrived, how many windows
    were read of it, and how much had arrived when the reader was last looked into. -/
structure Arecord where
  stdout : StreamReader := {}
  returncode : Option Int := none
  told : Bool := false
  arrived : List UInt8 := []
  taken : Nat := 0
  looked : Nat := 0

namespace Arecord

/-- A window leaves the buffer. -/
def take (c : Arecord) (n : Nat) : Arecord :=
  { c with
    stdout.buffer := c.stdout.buffer.drop n
    taken := c.taken + 1
    looked := c.arrived.length }

/-- The rest of an output that has ended is thrown away. -/
def clear (c : Arecord) : Arecord := { c with stdout.buffer := [], looked := c.arrived.length }

/-- The reader looks into all that has arrived. -/
def look (c : Arecord) : Arecord := { c with looked := c.arrived.length }

end Arecord

/-! ## The monitor -/

/-- `CaptureUnavailable`, with the text of its reason. -/
inductive CaptureUnavailable
  | retrying (remaining : ℚ)
  | error (text : String)

/-- What follows a failure that was recorded: the retry, or the exception. -/
inductive AfterFailure
  | retry
  | raise (text : String)

/-- Where `read_pcm` is suspended (`close` in the last two). -/
inductive CapturePhase
  | idle
  | lost (returncode : Int)
  | launching
  | reading
  | draining (left : Nat) (pcm : List UInt8) (discarded : Nat)
  | announcing (pcm : List UInt8) (discarded : Nat)
  | exiting
  | failed (returncode : Int)
  | killing (process : Nat)
  | reporting (follow : AfterFailure)
  | closing (process : Nat) (killed : Bool)
  | stopping

/-- A window on record: the process it is of, its number there, how much had arrived when the reader was
    last looked into, and how many older ones it replaced. -/
structure CaptureWindow where
  capture : Nat
  index : Nat
  pcm : List UInt8
  looked : Nat
  older : Nat

/-- The fields of `ArecordLevelMonitor`, with its processes numbered as they are launched, and a record of
    the launches that were tried and the windows that were returned. -/
structure ArecordLevelMonitor where
  process : Option Nat := none
  nextRetryAt : ℚ := 0
  retrySeconds : ℚ := 1 / 2
  lastError : Option String := none
  lastSampleAt : Option ℚ := none
  discardedWindows : Nat := 0
  children : Nat → Arecord := fun _ => {}
  launched : Nat := 0
  phase : CapturePhase := .idle
  outcome : Option (Except CaptureUnavailable (List UInt8)) := none
  now : ℚ
  streak : Streak ℚ := none
  attempts : List (Attempt ℚ) := []
  returned : List CaptureWindow := []

/-- What can happen to the monitor: calls, and answers to what it awaits. -/
inductive CaptureMove
  | call
  | stderr (text : String)
  | started (error : Option String)
  | resume
  | timeout
  | waited
  | reported
  | cancel
  | close
  | data (process : Nat) (bytes : List UInt8)
  | eof (process : Nat)
  | exits (process : Nat) (returncode : Int)

namespace ArecordLevelMonitor

/-- Another record of the process `p`. -/
def set (s : ArecordLevelMonitor) (p : Nat) (c : Arecord) : ArecordLevelMonitor :=
  { s with children := fun q => if q = p then c else s.children q }

/-- The call ends with this exception. -/
def raise (s : ArecordLevelMonitor) (error : CaptureUnavailable) : ArecordLevelMonitor :=
  { s with phase := .idle, outcome := some (.error error) }

/-- Without a process: `CaptureUnavailable`, or a launch. -/
def retry (s : ArecordLevelMonitor) : ArecordLevelMonitor :=
  if s.now < s.nextRetryAt then s.raise (.retrying (s.nextRetryAt - s.now))
  else { s with phase := .launching, attempts := s.attempts ++ [⟨s.now, s.streak⟩] }

/-- A failure has been noted; the call goes on as it was to. -/
def goOn (s : ArecordLevelMonitor) : AfterFailure → ArecordLevelMonitor
  | .retry => s.retry
  | .raise text => s.raise (.error text)

/-- `_record_failure`: an error is reported when it is not the last one. -/
def recordFailure (s : ArecordLevelMonitor) (error : String) (follow : AfterFailure) :
    ArecordLevelMonitor :=
  let s' := { s with
    nextRetryAt := s.now + s.retrySeconds
    retrySeconds := min (s.retrySeconds * 2) 30
    lastError := some error
    streak := s.streak.fail s.now }
  if s.lastError ≠ some error then { s' with phase := .reporting follow } else s'.goOn follow

/-- The end of `read_pcm`. -/
def finish (s : ArecordLevelMonitor) (p : Nat) (pcm : List UInt8) (discarded : Nat) :
    ArecordLevelMonitor :=
  { s with
    lastError := none
    nextRetryAt := 0
    retrySeconds := 1 / 2
    streak := none
    lastSampleAt := some s.now
    phase := .idle
    outcome := some (.ok pcm)
    returned := s.returned ++
      [⟨p, (s.children p).taken - 1, pcm, (s.children p).looked, discarded⟩] }

/-- After the loop: the first window, and the first after an error, are announced. -/
def drained (s : ArecordLevelMonitor) (p : Nat) (pcm : List UInt8) (discarded : Nat) :
    ArecordLevelMonitor :=
  let s := { s with discardedWindows := s.discardedWindows + discarded }
  if s.lastError.isSome ∨ s.lastSampleAt = none then { s with phase := .announcing pcm discarded }
  else s.finish p pcm discarded

/-- `IncompleteReadError`. -/
def incomplete (s : ArecordLevelMonitor) (p : Nat) : ArecordLevelMonitor :=
  let s := s.set p (s.children p).clear
  match (s.children p).returncode with
  | some returncode => { s with phase := .failed returncode }
  | none => { s with phase := .exiting }

/-- The loop, with `left` rounds to go: a window that waits replaces the one in hand. -/
def drain (o : CaptureSettings) (p : Nat) :
    Nat → ArecordLevelMonitor → List UInt8 → Nat → ArecordLevelMonitor
  | 0, s, pcm, discarded => s.drained p pcm discarded
  | left + 1, s, pcm, discarded =>
    match (s.children p).stdout.readexactly o.windowBytes with
    | .full newer => drain o p left (s.set p ((s.children p).take o.windowBytes)) newer (discarded + 1)
    | .incomplete => s.incomplete p
    | .suspended =>
        { s.set p (s.children p).look with phase := .draining (left + 1) pcm discarded }

/-- The first window. -/
def read (o : CaptureSettings) (s : ArecordLevelMonitor) (p : Nat) : ArecordLevelMonitor :=
  match (s.children p).stdout.readexactly o.windowBytes with
  | .full pcm =>
      drain o p o.maxBufferedWindows (s.set p ((s.children p).take o.windowBytes)) pcm 0
  | .incomplete => s.incomplete p
  | .suspended => { s.set p (s.children p).look with phase := .reading }

/-- `read_pcm`, up to its first suspension. -/
def readPcm (o : CaptureSettings) (s : ArecordLevelMonitor) : ArecordLevelMonitor :=
  match s.process with
  | none => s.retry
  | some p =>
    match (s.children p).returncode with
    | some returncode => { s with phase := .lost returncode }
    | none => s.read o p

/-- The reason that is given for a process that has exited. -/
def lostMessage (returncode : Int) (error : String) : String :=
  if error = "" then "ALSA capture exited with status " ++ toString returncode else error

/-- The reason that is given for a process without audio. -/
def stalledMessage : String := "ALSA capture produced no audio before the read timeout"

/-- The `TimeoutError` of the first window. -/
def stalled (s : ArecordLevelMonitor) (p : Nat) : ArecordLevelMonitor :=
  let s := { s with process := none }
  if (s.children p).returncode = none then
    { s.set p { s.children p with told := true } with phase := .killing p }
  else s.recordFailure stalledMessage (.raise stalledMessage)

/-- `close`: the process is forgotten, and told to end if it still runs. -/
def close (s : ArecordLevelMonitor) : ArecordLevelMonitor :=
  match s.process with
  | none => s
  | some p =>
    let s := { s with process := none }
    if (s.children p).returncode = none then
      { s.set p { s.children p with told := true } with phase := .closing p false }
    else s

/-- One resumption, of the monitor or of the world around it. -/
def next (o : CaptureSettings) (s : ArecordLevelMonitor) : CaptureMove → Option ArecordLevelMonitor
  | .call =>
    match s.phase with
    | .idle => some (s.readPcm o)
    | _ => none
  | .stderr error =>
    match s.phase with
    | .lost returncode =>
        some ({ s with process := none }.recordFailure (lostMessage returncode error) .retry)
    | .failed returncode =>
        some ({ s with process := none }.recordFailure (lostMessage returncode error)
          (.raise (lostMessage returncode error)))
    | _ => none
  | .started error =>
    match s.phase, error with
    | .launching, some error => some (s.recordFailure error (.raise error))
    | .launching, none =>
        some ({ s with process := some s.launched, launched := s.launched + 1 }.read o s.launched)
    | _, _ => none
  | .resume =>
    match s.phase, s.process with
    | .reading, some p => some (s.read o p)
    | .draining left pcm discarded, some p => some (drain o p left s pcm discarded)
    | _, _ => none
  | .timeout =>
    match s.phase, s.process with
    | .reading, some p => some (s.stalled p)
    | .draining _ pcm discarded, some p => some (s.drained p pcm discarded)
    | .closing p false, _ => some { s with phase := .closing p true }
    | _, _ => none
  | .waited =>
    match s.phase with
    | .exiting =>
        (s.process.bind fun p => (s.children p).returncode).map fun returncode =>
          { s with phase := .failed returncode }
    | .killing p =>
      if (s.children p).returncode.isSome then
        some (s.recordFailure stalledMessage (.raise stalledMessage))
      else none
    | .closing p _ =>
      if (s.children p).returncode.isSome then some { s with phase := .stopping } else none
    | _ => none
  | .reported =>
    match s.phase, s.process with
    | .reporting follow, _ => some (s.goOn follow)
    | .announcing pcm discarded, some p => some (s.finish p pcm discarded)
    | .stopping, _ => some { s with phase := .idle }
    | _, _ => none
  -- an event sink that raises ends the call in the same way
  | .cancel =>
    match s.phase with
    | .idle => none
    | _ => some { s with phase := .idle, outcome := none }
  | .close =>
    match s.phase with
    | .idle => some s.close
    | _ => none
  | .data p bytes =>
    if p < s.launched ∧ (s.children p).stdout.eof = false then
      some (s.set p { s.children p with
        stdout.buffer := (s.children p).stdout.buffer ++ bytes
        arrived := (s.children p).arrived ++ bytes })
    else none
  | .eof p =>
    if p < s.launched then some (s.set p { s.children p with stdout.eof := true }) else none
  | .exits p returncode =>
    if p < s.launched ∧ (s.children p).returncode = none then
      some (s.set p { s.children p with returncode := some returncode })
    else none

end ArecordLevelMonitor

/-- Every interleaving, on a clock that does not go back. -/
def arecordLevelMonitor (o : CaptureSettings) : Machine ArecordLevelMonitor (ℚ × CaptureMove) where
  init s := ∃ now, s = { now }
  next s a := if s.now ≤ a.1 then { s with now := a.1 }.next o a.2 else none

/-! ## Whole windows -/

/-- A window of all that has arrived. -/
def Arecord.window (c : Arecord) (n index : Nat) : List UInt8 := (c.arrived.drop (index * n)).take n

/-- The process has ended, or was told to. -/
def Arecord.Ending (c : Arecord) : Prop := c.told = true ∨ c.returncode.isSome = true

/-- The buffer follows the windows that were read; what is left of an output that has ended may have been
    thrown away. -/
structure Arecord.Sound (n : Nat) (c : Arecord) : Prop where
  buffer : c.stdout.buffer = c.arrived.drop (c.taken * n) ∨
    c.stdout.eof = true ∧ c.stdout.buffer = []
  taken : c.taken * n ≤ c.looked
  looked : c.looked ≤ c.arrived.length

section Reader

variable {n : Nat} {r : StreamReader} {w : List UInt8} {c : Arecord}

/-- What a full read returns is the front of the buffer. -/
theorem readexactly_full (h : r.readexactly n = .full w) : n ≤ r.buffer.length ∧ w = r.buffer.take n := by
  unfold StreamReader.readexactly at h
  split at h
  · rename_i hlength
    exact ⟨hlength, (ReadExactly.full.inj h).symm⟩
  · split at h <;> cases h

/-- Only at the end of the output is a read incomplete. -/
theorem readexactly_incomplete (h : r.readexactly n = .incomplete) : r.eof = true := by
  unfold StreamReader.readexactly at h
  split at h
  · cases h
  · split at h
    · assumption
    · cases h

/-- A read is suspended for want of bytes that may still come. -/
theorem readexactly_suspended (h : r.readexactly n = .suspended) :
    r.buffer.length < n ∧ r.eof = false := by
  unfold StreamReader.readexactly at h
  split at h
  · cases h
  · split at h
    · cases h
    · rename_i hshort heof
      exact ⟨Nat.not_le.mp hshort, Bool.eq_false_iff.mpr heof⟩

/-- A window stays what it is. -/
theorem window_prefix {c' : Arecord} {index : Nat} (h : c.arrived <+: c'.arrived)
    (hfits : (index + 1) * n ≤ c.arrived.length) : c'.window n index = c.window n index := by
  obtain ⟨more, hmore⟩ := h
  unfold Arecord.window
  rw [Nat.succ_mul] at hfits
  rw [← hmore, List.drop_append_of_le_length (by omega), List.take_append_of_le_length]
  rw [List.length_drop]
  omega

namespace Arecord.Sound

/-- A full buffer holds the next window. -/
theorem next_window (h : c.Sound n) (hn : 0 < n) (hfull : n ≤ c.stdout.buffer.length) :
    c.stdout.buffer = c.arrived.drop (c.taken * n) ∧ (c.taken + 1) * n ≤ c.arrived.length := by
  rcases h.buffer with hbuffer | ⟨-, hempty⟩
  · refine ⟨hbuffer, ?_⟩
    rw [hbuffer, List.length_drop] at hfull
    rw [Nat.succ_mul]
    omega
  · rw [hempty] at hfull
    exact absurd hfull (by simp; omega)

/-- A window is taken off the buffer. -/
theorem take (h : c.Sound n) (hn : 0 < n) (hfull : n ≤ c.stdout.buffer.length) :
    (c.take n).Sound n := by
  obtain ⟨hbuffer, hfits⟩ := h.next_window hn hfull
  refine ⟨.inl ?_, hfits, le_refl _⟩
  show c.stdout.buffer.drop n = c.arrived.drop ((c.taken + 1) * n)
  rw [hbuffer, List.drop_drop, Nat.succ_mul]

theorem look (h : c.Sound n) : c.look.Sound n :=
  ⟨h.buffer, h.taken.trans h.looked, le_refl _⟩

theorem clear (h : c.Sound n) (heof : c.stdout.eof = true) : c.clear.Sound n :=
  ⟨.inr ⟨heof, rfl⟩, h.taken.trans h.looked, le_refl _⟩

/-- Of an output that is still open, less than a window is left. -/
theorem rest (h : c.Sound n) (hshort : c.stdout.buffer.length < n) (hopen : c.stdout.eof = false) :
    c.arrived.length < (c.taken + 1) * n := by
  rcases h.buffer with hbuffer | ⟨heof, -⟩
  · rw [hbuffer, List.length_drop] at hshort
    rw [Nat.succ_mul]
    omega
  · exact nomatch hopen.symm.trans heof

/-- More output arrives. -/
theorem data (h : c.Sound n) (hopen : c.stdout.eof = false) (bytes : List UInt8) :
    ({ c with
      stdout.buffer := c.stdout.buffer ++ bytes
      arrived := c.arrived ++ bytes } : Arecord).Sound n := by
  have hfits := h.taken.trans h.looked
  refine ⟨.inl ?_, h.taken, ?_⟩
  · rcases h.buffer with hbuffer | ⟨heof, -⟩
    · show c.stdout.buffer ++ bytes = (c.arrived ++ bytes).drop (c.taken * n)
      rw [hbuffer, List.drop_append_of_le_length hfits]
    · exact nomatch hopen.symm.trans heof
  · show c.looked ≤ (c.arrived ++ bytes).length
    rw [List.length_append]
    exact h.looked.trans (Nat.le_add_right ..)

end Arecord.Sound

end Reader

/-! ## The invariant -/

namespace ArecordLevelMonitor

variable {o : CaptureSettings} {s s' : ArecordLevelMonitor} {p : Nat} {c : Arecord}
  {pcm : List UInt8} {discarded : Nat}

/-- A window on record is one of its process, whole when the reader was last looked into; and no later one
    was, unless a minute of older ones had been dropped. -/
structure Recorded (o : CaptureSettings) (children : Nat → Arecord) (launched : Nat)
    (r : CaptureWindow) : Prop where
  capture : r.capture < launched
  index : r.index < (children r.capture).taken
  pcm : r.pcm = (children r.capture).window o.windowBytes r.index
  whole : (r.index + 1) * o.windowBytes ≤ r.looked
  arrived : r.looked ≤ (children r.capture).arrived.length
  newest : r.looked < (r.index + 2) * o.windowBytes ∨ r.older = o.maxBufferedWindows

/-- The window `r` was returned before `r'`. -/
def Before (r r' : CaptureWindow) : Prop :=
  r.capture < r'.capture ∨ r.capture = r'.capture ∧ r.index < r'.index

/-- What holds wherever `read_pcm` is. -/
structure Books (o : CaptureSettings) (s : ArecordLevelMonitor) : Prop where
  child : ∀ p, (s.children p).Sound o.windowBytes
  current : ∀ p, s.process = some p → p + 1 = s.launched
  others : ∀ p < s.launched, s.process = some p ∨ (s.children p).Ending
  returned : ∀ r ∈ s.returned, Recorded o s.children s.launched r
  ordered : s.returned.Pairwise Before

/-- The window in hand is the last one read, and was not returned. -/
structure Holds (o : CaptureSettings) (s : ArecordLevelMonitor) (p : Nat) (pcm : List UInt8) : Prop where
  process : s.process = some p
  read : 0 < (s.children p).taken
  pcm : pcm = (s.children p).window o.windowBytes ((s.children p).taken - 1)
  ahead : ∀ r ∈ s.returned, r.capture = p → r.index + 1 < (s.children p).taken

/-- What holds where it is suspended. -/
def At (o : CaptureSettings) (s : ArecordLevelMonitor) : CapturePhase → Prop
  | .idle | .stopping => True
  | .lost _ | .failed _ => ∃ p, s.process = some p ∧ (s.children p).returncode.isSome = true
  | .reading | .exiting => s.process.isSome = true
  | .draining left pcm discarded => ∃ p, Holds o s p pcm ∧
      (s.children p).looked < ((s.children p).taken + 1) * o.windowBytes ∧
      left + discarded = o.maxBufferedWindows
  | .announcing pcm discarded => ∃ p, Holds o s p pcm ∧
      ((s.children p).looked < ((s.children p).taken + 1) * o.windowBytes ∨
        discarded = o.maxBufferedWindows)
  | .launching | .reporting _ | .killing _ | .closing _ _ => s.process = none

/-- The invariant of the monitor: its processes, and the phase of its call. -/
structure Sound (o : CaptureSettings) (s : ArecordLevelMonitor) : Prop where
  books : Books o s
  at_phase : At o s s.phase

@[simp] theorem set_child (s : ArecordLevelMonitor) (p : Nat) (c : Arecord) :
    (s.set p c).children p = c :=
  if_pos rfl

theorem set_other (s : ArecordLevelMonitor) (c : Arecord) {p q : Nat} (h : q ≠ p) :
    (s.set p c).children q = s.children q :=
  if_neg h

/-- A process moves on. -/
theorem Books.set (h : Books o s) (hc : c.Sound o.windowBytes)
    (harrived : (s.children p).arrived <+: c.arrived) (htaken : (s.children p).taken ≤ c.taken)
    (hending : (s.children p).Ending → c.Ending) : Books o (s.set p c) := by
  refine ⟨fun q => ?_, h.current, fun q hq => ?_, fun r hr => ?_, h.ordered⟩
  · by_cases hqp : q = p
    · rw [hqp, set_child]
      exact hc
    · rw [set_other s c hqp]
      exact h.child q
  · by_cases hqp : q = p
    · rw [hqp, set_child]
      exact (h.others p (hqp ▸ hq)).imp id hending
    · rw [set_other s c hqp]
      exact h.others q hq
  · have hrecorded := h.returned r hr
    by_cases hrp : r.capture = p
    · have hchild : (s.set p c).children r.capture = c := by rw [hrp, set_child]
      rw [← hrp] at harrived htaken
      refine ⟨hrecorded.capture, ?_, ?_, hrecorded.whole, ?_, hrecorded.newest⟩
      · rw [hchild]
        exact hrecorded.index.trans_le htaken
      · rw [hchild, window_prefix harrived (hrecorded.whole.trans hrecorded.arrived)]
        exact hrecorded.pcm
      · rw [hchild]
        exact hrecorded.arrived.trans harrived.length_le
    · have hchild := set_other s c hrp
      refine ⟨hrecorded.capture, ?_, ?_, hrecorded.whole, ?_, hrecorded.newest⟩
      · rw [hchild]
        exact hrecorded.index
      · rw [hchild]
        exact hrecorded.pcm
      · rw [hchild]
        exact hrecorded.arrived

/-- A process that is ending is forgotten. -/
theorem Books.forget (h : Books o s)
    (hending : ∀ p, s.process = some p → (s.children p).Ending) :
    Books o { s with process := none } := by
  refine ⟨h.child, nofun, fun q hq => .inr ?_, h.returned, h.ordered⟩
  rcases h.others q hq with hpresent | hend
  · exact hending q hpresent
  · exact hend

/-- A process is launched into silence. -/
theorem Books.launch (h : Books o s) (hnone : s.process = none) :
    Books o { s with process := some s.launched, launched := s.launched + 1 } := by
  refine ⟨h.child, fun p hp => ?_, fun q hq => ?_, fun r hr => ?_, h.ordered⟩
  · exact congrArg (· + 1) (Option.some.inj hp).symm
  · rcases Nat.lt_succ_iff_lt_or_eq.mp hq with hq | rfl
    · exact .inr ((h.others q hq).resolve_left (by rw [hnone]; nofun))
    · exact .inl rfl
  · obtain ⟨hcapture, hindex, hpcm, hwhole, harrived, hnewest⟩ := h.returned r hr
    exact ⟨hcapture.trans (Nat.lt_succ_self _), hindex, hpcm, hwhole, harrived, hnewest⟩

/-- The window in hand is returned. -/
theorem Books.finish (h : Books o s) (hold : Holds o s p pcm)
    (hnewest : (s.children p).looked < ((s.children p).taken + 1) * o.windowBytes ∨
      discarded = o.maxBufferedWindows) : Books o (s.finish p pcm discarded) := by
  have hsucc : (s.children p).taken - 1 + 1 = (s.children p).taken := Nat.sub_add_cancel hold.read
  have hlast : p + 1 = s.launched := h.current p hold.process
  refine ⟨h.child, h.current, h.others, fun r hr => ?_, ?_⟩
  · rcases List.mem_append.mp hr with hr | hr
    · exact h.returned r hr
    · obtain rfl := List.mem_singleton.mp hr
      refine ⟨?_, ?_, hold.pcm, ?_, (h.child p).looked, ?_⟩
      · show p < s.launched
        omega
      · show (s.children p).taken - 1 < (s.children p).taken
        omega
      · show ((s.children p).taken - 1 + 1) * o.windowBytes ≤ (s.children p).looked
        rw [hsucc]
        exact (h.child p).taken
      · show (s.children p).looked < ((s.children p).taken - 1 + 2) * o.windowBytes ∨ _
        rw [show (s.children p).taken - 1 + 2 = (s.children p).taken + 1 by omega]
        exact hnewest
  · refine List.pairwise_append.mpr ⟨h.ordered, List.pairwise_singleton _ _, fun r hr r' hr' => ?_⟩
    obtain rfl := List.mem_singleton.mp hr'
    have hcapture := (h.returned r hr).capture
    rcases Nat.lt_or_ge r.capture p with hlt | hge
    · exact .inl hlt
    · have heq : r.capture = p := by omega
      have hahead := hold.ahead r hr heq
      refine .inr ⟨heq, ?_⟩
      show r.index < (s.children p).taken - 1
      omega

/-! ## One resumption -/

/-- The processes and what was read of them are as before. -/
theorem Books.same (h : Books o s) (hprocess : s'.process = s.process)
    (hchildren : s'.children = s.children) (hlaunched : s'.launched = s.launched)
    (hreturned : s'.returned = s.returned) : Books o s' := by
  constructor
  · rw [hchildren]
    exact h.child
  · rw [hprocess, hlaunched]
    exact h.current
  · rw [hprocess, hlaunched, hchildren]
    exact h.others
  · rw [hreturned, hchildren, hlaunched]
    exact h.returned
  · rw [hreturned]
    exact h.ordered

/-- The next try, before which no process is on record. -/
theorem retry_sound (h : Books o s) (hnone : s.process = none) : Sound o s.retry := by
  unfold ArecordLevelMonitor.retry
  split
  · exact ⟨h.same rfl rfl rfl rfl, trivial⟩
  · exact ⟨h.same rfl rfl rfl rfl, hnone⟩

/-- After a failure, in either of the two ways to go on. -/
theorem goOn_sound (h : Books o s) (hnone : s.process = none) (follow : AfterFailure) :
    Sound o (s.goOn follow) := by
  cases follow with
  | retry => exact retry_sound h hnone
  | raise text => exact ⟨h.same rfl rfl rfl rfl, trivial⟩

/-- A failure is noted. -/
theorem recordFailure_sound (h : Books o s) (hnone : s.process = none) (error : String)
    (follow : AfterFailure) : Sound o (s.recordFailure error follow) := by
  unfold ArecordLevelMonitor.recordFailure
  dsimp only
  split
  · exact ⟨h.same rfl rfl rfl rfl, hnone⟩
  · apply goOn_sound
    · exact h.same rfl rfl rfl rfl
    · exact hnone

/-- A window is returned that is the newest complete one, or has a minute of older ones behind
    it. -/
theorem finish_sound (h : Books o s) (hold : Holds o s p pcm)
    (hnewest : (s.children p).looked < ((s.children p).taken + 1) * o.windowBytes ∨
      discarded = o.maxBufferedWindows) : Sound o (s.finish p pcm discarded) :=
  ⟨h.finish hold hnewest, trivial⟩

/-- The draining stops with the window in hand. -/
theorem drained_sound (h : Books o s) (hold : Holds o s p pcm)
    (hnewest : (s.children p).looked < ((s.children p).taken + 1) * o.windowBytes ∨
      discarded = o.maxBufferedWindows) : Sound o (s.drained p pcm discarded) := by
  have hold' : ∀ t : ArecordLevelMonitor, t.process = s.process → t.children = s.children →
      t.returned = s.returned → Holds o t p pcm := by
    intro t hprocess hchildren hreturned
    constructor
    · rw [hprocess]
      exact hold.process
    · rw [hchildren]
      exact hold.read
    · rw [hchildren]
      exact hold.pcm
    · rw [hreturned, hchildren]
      exact hold.ahead
  unfold ArecordLevelMonitor.drained
  dsimp only
  split
  · exact ⟨h.same rfl rfl rfl rfl, p, hold' _ rfl rfl rfl, hnewest⟩
  · exact finish_sound (h.same rfl rfl rfl rfl) (hold' _ rfl rfl rfl) hnewest

/-- The output ends within a window. -/
theorem incomplete_sound (h : Books o s) (hp : s.process = some p)
    (heof : (s.children p).stdout.eof = true) : Sound o (s.incomplete p) := by
  have hbooks : Books o (s.set p (s.children p).clear) :=
    h.set ((h.child p).clear heof) (List.prefix_refl _) (le_refl _) id
  unfold ArecordLevelMonitor.incomplete
  dsimp only
  split
  · rename_i returncode hreturn
    refine ⟨hbooks.same rfl rfl rfl rfl, p, hp, ?_⟩
    exact Option.isSome_iff_exists.mpr ⟨returncode, hreturn⟩
  · exact ⟨hbooks.same rfl rfl rfl rfl, Option.isSome_iff_exists.mpr ⟨p, hp⟩⟩

/-- A window is read. -/
theorem take_holds (h : Books o s) (hp : s.process = some p)
    (hfull : o.windowBytes ≤ (s.children p).stdout.buffer.length) :
    Books o (s.set p ((s.children p).take o.windowBytes)) ∧
    Holds o (s.set p ((s.children p).take o.windowBytes)) p
      ((s.children p).stdout.buffer.take o.windowBytes) := by
  have hchild := h.child p
  constructor
  · exact h.set (hchild.take o.windowBytes_pos hfull) (List.prefix_refl _) (Nat.le_succ _) id
  · constructor
    · exact hp
    · rw [set_child]
      exact Nat.succ_pos _
    · rw [set_child, (hchild.next_window o.windowBytes_pos hfull).1]
      rfl
    · intro r hr hcapture
      rw [set_child]
      have hindex := (h.returned r hr).index
      rw [hcapture] at hindex
      exact Nat.succ_lt_succ hindex

theorem look_books (h : Books o s) : Books o (s.set p (s.children p).look) :=
  h.set (h.child p).look (List.prefix_refl _) (le_refl _) id

/-- The loop: by induction on the rounds that are left. -/
theorem drain_sound : ∀ (left : Nat) (s : ArecordLevelMonitor) (pcm : List UInt8) (discarded : Nat),
    Books o s → Holds o s p pcm → left + discarded = o.maxBufferedWindows →
    Sound o (drain o p left s pcm discarded)
  | 0, s, pcm, discarded, h, hold, hcount => drained_sound h hold (.inr (by omega))
  | left + 1, s, pcm, discarded, h, hold, hcount => by
    unfold ArecordLevelMonitor.drain
    split
    · rename_i newer hread
      obtain ⟨hfull, rfl⟩ := readexactly_full hread
      obtain ⟨hbooks, hholds⟩ := take_holds h hold.process hfull
      exact drain_sound left _ _ _ hbooks hholds (by omega)
    · rename_i hread
      exact incomplete_sound h hold.process (readexactly_incomplete hread)
    · rename_i hread
      obtain ⟨hshort, hopen⟩ := readexactly_suspended hread
      refine ⟨look_books h |>.same rfl rfl rfl rfl, p, ⟨hold.process, ?_, ?_, ?_⟩, ?_, hcount⟩
      · show 0 < ((s.set p (s.children p).look).children p).taken
        rw [set_child]
        exact hold.read
      · show pcm = ((s.set p (s.children p).look).children p).window _ _
        rw [set_child]
        exact hold.pcm
      · intro r hr hcapture
        show r.index + 1 < ((s.set p (s.children p).look).children p).taken
        rw [set_child]
        exact hold.ahead r hr hcapture
      · show ((s.set p (s.children p).look).children p).looked < _
        rw [set_child]
        exact (h.child p).rest hshort hopen

/-- A read, whatever it finds in the buffer. -/
theorem read_sound (h : Books o s) (hp : s.process = some p) : Sound o (s.read o p) := by
  unfold ArecordLevelMonitor.read
  split
  · rename_i window hread
    obtain ⟨hfull, rfl⟩ := readexactly_full hread
    obtain ⟨hbooks, hholds⟩ := take_holds h hp hfull
    exact drain_sound _ _ _ _ hbooks hholds (Nat.add_zero _)
  · rename_i hread
    exact incomplete_sound h hp (readexactly_incomplete hread)
  · exact ⟨look_books h |>.same rfl rfl rfl rfl, Option.isSome_iff_exists.mpr ⟨p, hp⟩⟩

/-- A call, from its start to where it is suspended. -/
theorem readPcm_sound (h : Books o s) : Sound o (s.readPcm o) := by
  unfold ArecordLevelMonitor.readPcm
  split
  · rename_i hnone
    exact retry_sound h hnone
  · rename_i p hp
    split
    · rename_i returncode hreturn
      exact ⟨h.same rfl rfl rfl rfl, p, hp, Option.isSome_iff_exists.mpr ⟨returncode, hreturn⟩⟩
    · exact read_sound h hp

/-- The present process is told to end, and forgotten. -/
theorem told_books (h : Books o s) (hp : s.process = some p) :
    Books o ({ s with process := none }.set p { s.children p with told := true }) := by
  have hset : Books o (s.set p { s.children p with told := true }) :=
    h.set ⟨(h.child p).buffer, (h.child p).taken, (h.child p).looked⟩ (List.prefix_refl _) (le_refl _)
      fun _ => .inl rfl
  refine (hset.forget fun q hq => ?_).same rfl rfl rfl rfl
  obtain rfl := Option.some.inj (hp.symm.trans hq)
  rw [set_child]
  exact .inl rfl

/-- A process that has ended is forgotten. -/
theorem ended_books (h : Books o s) (hp : s.process = some p)
    (hreturn : (s.children p).returncode.isSome = true) : Books o { s with process := none } := by
  refine h.forget fun q hq => ?_
  obtain rfl := Option.some.inj (hp.symm.trans hq)
  exact .inr hreturn

/-- A read that times out tells the process to end. -/
theorem stalled_sound (h : Books o s) (hp : s.process = some p) : Sound o (s.stalled p) := by
  unfold ArecordLevelMonitor.stalled
  dsimp only
  split
  · exact ⟨(told_books h hp).same rfl rfl rfl rfl, rfl⟩
  · rename_i hreturn
    exact recordFailure_sound (ended_books h hp (Option.isSome_iff_ne_none.mpr hreturn)) rfl _ _

/-- `close`, between two calls. -/
theorem close_sound (h : Sound o s) (hidle : s.phase = .idle) : Sound o s.close := by
  unfold ArecordLevelMonitor.close
  split
  · exact h
  · rename_i p hp
    dsimp only
    split
    · exact ⟨(told_books h.books hp).same rfl rfl rfl rfl, rfl⟩
    · rename_i hreturn
      refine ⟨ended_books h.books hp (Option.isSome_iff_ne_none.mpr hreturn), ?_⟩
      show At o _ s.phase
      rw [hidle]
      trivial

/-- A process moves while `read_pcm` is suspended. -/
theorem Sound.moves (h : Sound o s) (hc : c.Sound o.windowBytes)
    (harrived : (s.children p).arrived <+: c.arrived) (htaken : c.taken = (s.children p).taken)
    (hlooked : c.looked = (s.children p).looked)
    (hreturn : (s.children p).returncode.isSome = true → c.returncode.isSome = true)
    (htold : (s.children p).told = true → c.told = true) : Sound o (s.set p c) := by
  have hbooks := h.books.set hc harrived htaken.ge (Or.imp htold hreturn)
  have hhold : ∀ {q : Nat} {pcm : List UInt8}, Holds o s q pcm →
      Holds o (s.set p c) q pcm ∧ ((s.set p c).children q).taken = (s.children q).taken ∧
        ((s.set p c).children q).looked = (s.children q).looked := by
    intro q pcm hold
    by_cases hqp : q = p
    · subst hqp
      have hfits := (h.books.child q).taken.trans (h.books.child q).looked
      refine ⟨⟨hold.process, ?_, ?_, ?_⟩, ?_, ?_⟩
      · rw [set_child, htaken]
        exact hold.read
      · rw [set_child, htaken, window_prefix harrived]
        · exact hold.pcm
        · rw [Nat.sub_add_cancel hold.read]
          exact hfits
      · rw [set_child, htaken]
        exact hold.ahead
      · rw [set_child, htaken]
      · rw [set_child, hlooked]
    · have hchild := set_other s c hqp
      refine ⟨⟨hold.process, ?_, ?_, ?_⟩, ?_, ?_⟩
      · rw [hchild]
        exact hold.read
      · rw [hchild]
        exact hold.pcm
      · rw [hchild]
        exact hold.ahead
      · rw [hchild]
      · rw [hchild]
  refine ⟨hbooks, ?_⟩
  have hat := h.at_phase
  show At o (s.set p c) s.phase
  cases hphase : s.phase with
  | idle | stopping => trivial
  | lost | failed =>
    rw [hphase] at hat
    obtain ⟨q, hq, hended⟩ := hat
    refine ⟨q, hq, ?_⟩
    by_cases hqp : q = p
    · rw [hqp, set_child]
      exact hreturn (hqp ▸ hended)
    · rw [set_other s c hqp]
      exact hended
  | draining left pcm discarded =>
    rw [hphase] at hat
    obtain ⟨q, hold, hnew, hcount⟩ := hat
    obtain ⟨hold', htaken', hlooked'⟩ := hhold hold
    exact ⟨q, hold', by rw [htaken', hlooked']; exact hnew, hcount⟩
  | announcing pcm discarded =>
    rw [hphase] at hat
    obtain ⟨q, hold, hnew⟩ := hat
    obtain ⟨hold', htaken', hlooked'⟩ := hhold hold
    exact ⟨q, hold', by rw [htaken', hlooked']; exact hnew⟩
  | reading | exiting | launching | reporting | killing | closing =>
    rw [hphase] at hat
    exact hat

/-- Every move keeps the invariant. -/
theorem Sound.next (h : Sound o s) {m : CaptureMove} (hnext : s.next o m = some s') : Sound o s' := by
  have hbooks := h.books
  have hat := h.at_phase
  cases m with
  | call =>
    simp only [ArecordLevelMonitor.next] at hnext
    split at hnext
    · obtain rfl := Option.some.inj hnext
      exact readPcm_sound hbooks
    · cases hnext
  | stderr error =>
    simp only [ArecordLevelMonitor.next] at hnext
    split at hnext
    · rename_i hphase
      rw [hphase] at hat
      obtain ⟨p, hp, hended⟩ := hat
      obtain rfl := Option.some.inj hnext
      exact recordFailure_sound (ended_books hbooks hp hended) rfl _ _
    · rename_i hphase
      rw [hphase] at hat
      obtain ⟨p, hp, hended⟩ := hat
      obtain rfl := Option.some.inj hnext
      exact recordFailure_sound (ended_books hbooks hp hended) rfl _ _
    · cases hnext
  | started error =>
    simp only [ArecordLevelMonitor.next] at hnext
    split at hnext
    · rename_i hphase
      rw [hphase] at hat
      obtain rfl := Option.some.inj hnext
      exact recordFailure_sound hbooks hat _ _
    · rename_i hphase
      rw [hphase] at hat
      obtain rfl := Option.some.inj hnext
      exact read_sound (hbooks.launch hat) rfl
    · cases hnext
  | resume =>
    simp only [ArecordLevelMonitor.next] at hnext
    split at hnext
    · rename_i p hphase hp
      obtain rfl := Option.some.inj hnext
      exact read_sound hbooks hp
    · rename_i left pcm discarded p hphase hp
      rw [hphase] at hat
      obtain ⟨q, hold, -, hcount⟩ := hat
      obtain rfl := Option.some.inj (hp.symm.trans hold.process)
      obtain rfl := Option.some.inj hnext
      exact drain_sound _ _ _ _ hbooks hold hcount
    · cases hnext
  | timeout =>
    simp only [ArecordLevelMonitor.next] at hnext
    split at hnext
    · rename_i p hphase hp
      obtain rfl := Option.some.inj hnext
      exact stalled_sound hbooks hp
    · rename_i left pcm discarded p hphase hp
      rw [hphase] at hat
      obtain ⟨q, hold, hnew, -⟩ := hat
      obtain rfl := Option.some.inj (hp.symm.trans hold.process)
      obtain rfl := Option.some.inj hnext
      exact drained_sound hbooks hold (.inl hnew)
    · rename_i p _ hphase
      rw [hphase] at hat
      obtain rfl := Option.some.inj hnext
      exact ⟨hbooks.same rfl rfl rfl rfl, hat⟩
    · cases hnext
  | waited =>
    simp only [ArecordLevelMonitor.next] at hnext
    split at hnext
    · obtain ⟨returncode, hreturn, rfl⟩ := Option.map_eq_some_iff.mp hnext
      obtain ⟨p, hp, hreturn⟩ := Option.bind_eq_some_iff.mp hreturn
      exact ⟨hbooks.same rfl rfl rfl rfl, p, hp, Option.isSome_iff_exists.mpr ⟨returncode, hreturn⟩⟩
    · rename_i p hphase
      rw [hphase] at hat
      obtain ⟨-, hnext⟩ := Option.ite_none_right_eq_some.mp hnext
      obtain rfl := Option.some.inj hnext
      exact recordFailure_sound hbooks hat _ _
    · obtain ⟨-, hnext⟩ := Option.ite_none_right_eq_some.mp hnext
      obtain rfl := Option.some.inj hnext
      exact ⟨hbooks.same rfl rfl rfl rfl, trivial⟩
    · cases hnext
  | reported =>
    simp only [ArecordLevelMonitor.next] at hnext
    split at hnext
    · rename_i hphase
      rw [hphase] at hat
      obtain rfl := Option.some.inj hnext
      exact goOn_sound hbooks hat _
    · rename_i pcm discarded p hphase hp
      rw [hphase] at hat
      obtain ⟨q, hold, hnew⟩ := hat
      obtain rfl := Option.some.inj (hp.symm.trans hold.process)
      obtain rfl := Option.some.inj hnext
      exact finish_sound hbooks hold hnew
    · obtain rfl := Option.some.inj hnext
      exact ⟨hbooks.same rfl rfl rfl rfl, trivial⟩
    · cases hnext
  | cancel =>
    simp only [ArecordLevelMonitor.next] at hnext
    split at hnext
    · cases hnext
    · obtain rfl := Option.some.inj hnext
      exact ⟨hbooks.same rfl rfl rfl rfl, trivial⟩
  | close =>
    simp only [ArecordLevelMonitor.next] at hnext
    split at hnext
    · rename_i hphase
      obtain rfl := Option.some.inj hnext
      exact close_sound h hphase
    · cases hnext
  | data p bytes =>
    obtain ⟨⟨-, hopen⟩, hnext⟩ := Option.ite_none_right_eq_some.mp hnext
    obtain rfl := Option.some.inj hnext
    exact h.moves ((hbooks.child p).data hopen bytes) (List.prefix_append _ _) rfl rfl id id
  | eof p =>
    obtain ⟨-, hnext⟩ := Option.ite_none_right_eq_some.mp hnext
    obtain rfl := Option.some.inj hnext
    have hchild := hbooks.child p
    refine h.moves ⟨hchild.buffer.imp id fun hrest => ⟨rfl, hrest.2⟩, hchild.taken, hchild.looked⟩
      (List.prefix_refl _) rfl rfl id id
  | exits p returncode =>
    obtain ⟨-, hnext⟩ := Option.ite_none_right_eq_some.mp hnext
    obtain rfl := Option.some.inj hnext
    have hchild := hbooks.child p
    exact h.moves ⟨hchild.buffer, hchild.taken, hchild.looked⟩ (List.prefix_refl _) rfl rfl
      (fun _ => rfl) id

theorem Sound.reach (hs : (arecordLevelMonitor o).Reach Machine.anyMove s) : Sound o s := by
  refine hs.invariant ?_ ?_
  · rintro s ⟨now, rfl⟩
    have hchild : ({} : Arecord).Sound o.windowBytes :=
      ⟨.inl List.drop_nil.symm, (Nat.zero_mul _).le, le_refl _⟩
    exact ⟨⟨fun _ => hchild, nofun, nofun, nofun, .nil⟩, trivial⟩
  · intro s a s' h _ hnext
    obtain ⟨-, hnext⟩ := Option.ite_none_right_eq_some.mp hnext
    have hnow : Sound o { s with now := a.1 } := by
      refine ⟨h.books.same rfl rfl rfl rfl, ?_⟩
      have hat := h.at_phase
      show At o { s with now := a.1 } s.phase
      cases hphase : s.phase with
      | draining =>
        rw [hphase] at hat
        obtain ⟨p, hold, hnew⟩ := hat
        exact ⟨p, ⟨hold.process, hold.read, hold.pcm, hold.ahead⟩, hnew⟩
      | announcing =>
        rw [hphase] at hat
        obtain ⟨p, hold, hnew⟩ := hat
        exact ⟨p, ⟨hold.process, hold.read, hold.pcm, hold.ahead⟩, hnew⟩
      | idle | stopping | lost | failed | reading | exiting | launching | reporting | killing | closing =>
        rw [hphase] at hat
        exact hat
    exact hnow.next hnext

/-- **Whole windows, in order, and the newest.**  Whatever arecord does and whenever a caller is
    cancelled: each window returned is one of the windows that the output of its process is cut into, no
    two returned are the same, they come in their order, and each was the last complete one when the
    reader was last looked into (or a minute of older ones had just been dropped). -/
theorem windows_in_order (hs : (arecordLevelMonitor o).Reach Machine.anyMove s) :
    (∀ r ∈ s.returned, r.pcm = (s.children r.capture).window o.windowBytes r.index ∧
      r.pcm.length = o.windowBytes ∧ r.looked ≤ (s.children r.capture).arrived.length ∧
      (r.index + 1) * o.windowBytes ≤ r.looked ∧
      (r.looked < (r.index + 2) * o.windowBytes ∨ r.older = o.maxBufferedWindows)) ∧
    s.returned.Pairwise Before := by
  have h := (Sound.reach hs).books
  refine ⟨fun r hr => ?_, h.ordered⟩
  have hrecorded := h.returned r hr
  refine ⟨hrecorded.pcm, ?_, hrecorded.arrived, hrecorded.whole, hrecorded.newest⟩
  have hfits := hrecorded.whole.trans hrecorded.arrived
  rw [Nat.succ_mul] at hfits
  rw [hrecorded.pcm, Arecord.window, List.length_take, List.length_drop]
  omega

/-- Windows of two bytes. -/
def twoBytes : CaptureSettings := ⟨10, 1, 100, Nat.one_pos, by decide⟩

/-- Two windows of which the older is dropped, one that is lost with its caller, an end of arecord, a call
    that comes too early, and the first window of the next arecord. -/
def twoCaptures : List (ℚ × CaptureMove) :=
  [(0, .call), (0, .started none), (1, .data 0 [1, 2, 3, 4, 5]), (1, .resume), (1, .timeout),
    (1, .reported), (2, .call), (2, .data 0 [6]), (2, .resume), (2, .cancel), (3, .call), (3, .exits 0 1),
    (3, .eof 0), (3, .resume), (3, .stderr ""), (3, .reported), (3, .call), (4, .call),
    (4, .started none), (4, .data 1 [7, 8]), (4, .resume), (4, .timeout), (4, .reported)]

/-- Two captures: the second window of the first one, then the first of the second. -/
theorem windows_in_order_captures :
    ∃ s, (arecordLevelMonitor twoBytes).Reach Machine.anyMove s ∧
      s.returned.map (fun r => (r.capture, r.index, r.pcm)) = [(0, 1, [3, 4]), (1, 0, [7, 8])] ∧
      s.returned.Pairwise Before := by
  obtain ⟨s, hs, hreturned⟩ := Machine.exists_reach (m := arecordLevelMonitor twoBytes)
    (s := { now := 0 }) (l := twoCaptures)
    (fun s => s.returned.map (fun r => (r.capture, r.index, r.pcm)) = [(0, 1, [3, 4]), (1, 0, [7, 8])])
    ⟨0, rfl⟩ (by decide +kernel)
  exact ⟨s, hs, hreturned, (windows_in_order hs).2⟩

/-- **One capture.**  Every arecord but the present one has ended or was told to, and a new one is launched
    only when all have. -/
theorem one_capture (hs : (arecordLevelMonitor o).Reach Machine.anyMove s) :
    (∀ p < s.launched, s.process = some p ∨ (s.children p).Ending) ∧
    (s.phase = .launching → ∀ p < s.launched, (s.children p).Ending) := by
  have h := Sound.reach hs
  refine ⟨h.books.others, fun hphase p hp => ?_⟩
  have hat := h.at_phase
  rw [hphase] at hat
  exact (h.books.others p hp).resolve_left (by rw [show s.process = none from hat]; nofun)

/-- The first of two captures has ended or was told to when the second is on record. -/
theorem one_capture_captures :
    ∃ s, (arecordLevelMonitor twoBytes).Reach Machine.anyMove s ∧ s.launched = 2 ∧
      s.process = some 1 ∧ (s.children 0).Ending := by
  obtain ⟨s, hs, hlaunched, hprocess⟩ := Machine.exists_reach (m := arecordLevelMonitor twoBytes)
    (s := { now := 0 }) (l := twoCaptures) (fun s => s.launched = 2 ∧ s.process = some 1) ⟨0, rfl⟩
    (by decide +kernel)
  refine ⟨s, hs, hlaunched, hprocess, ?_⟩
  exact ((one_capture hs).1 0 (by omega)).resolve_left (by rw [hprocess]; decide)

/-! ## Launches -/

/-- The backoff, and the launches tried. -/
structure Paced (s : ArecordLevelMonitor) : Prop where
  gate : Gate (1 / 2) 30 s.retrySeconds s.nextRetryAt s.streak
  inTime : ∀ a ∈ s.attempts, a.InTime (1 / 2) 30

theorem Paced.same (h : Paced s) (hretry : s'.retrySeconds = s.retrySeconds)
    (hnext : s'.nextRetryAt = s.nextRetryAt) (hstreak : s'.streak = s.streak)
    (hattempts : s'.attempts = s.attempts) : Paced s' := by
  constructor
  · rw [hretry, hnext, hstreak]
    exact h.gate
  · rw [hattempts]
    exact h.inTime

theorem Paced.retry (h : Paced s) : Paced s.retry := by
  unfold ArecordLevelMonitor.retry
  split
  · exact h.same rfl rfl rfl rfl
  · rename_i hopen
    refine ⟨h.gate, fun a ha => ?_⟩
    rcases List.mem_append.mp ha with ha | ha
    · exact h.inTime a ha
    · obtain rfl := List.mem_singleton.mp ha
      exact h.gate.inTime (not_lt.mp hopen)

theorem Paced.goOn (h : Paced s) (follow : AfterFailure) : Paced (s.goOn follow) := by
  cases follow with
  | retry => exact h.retry
  | raise text => exact h.same rfl rfl rfl rfl

/-- A failure that is noted doubles the wait. -/
theorem Paced.recordFailure (h : Paced s) (error : String) (follow : AfterFailure) :
    Paced (s.recordFailure error follow) := by
  have hgate := Gate.failed h.gate.delay s.now
  unfold ArecordLevelMonitor.recordFailure
  dsimp only
  split
  · exact ⟨hgate, h.inTime⟩
  · apply Paced.goOn
    exact ⟨hgate, h.inTime⟩

/-- A window that is returned ends the failures in a row. -/
theorem Paced.finish (h : Paced s) : Paced (s.finish p pcm discarded) :=
  ⟨Gate.reset _ _ _, h.inTime⟩

theorem Paced.drained (h : Paced s) : Paced (s.drained p pcm discarded) := by
  unfold ArecordLevelMonitor.drained
  dsimp only
  split
  · exact h.same rfl rfl rfl rfl
  · apply Paced.finish
    exact h.same rfl rfl rfl rfl

theorem Paced.incomplete (h : Paced s) : Paced (s.incomplete p) := by
  unfold ArecordLevelMonitor.incomplete
  dsimp only
  split <;> exact h.same rfl rfl rfl rfl

theorem Paced.drain : ∀ (left : Nat) (s : ArecordLevelMonitor) (pcm : List UInt8) (discarded : Nat),
    Paced s → Paced (ArecordLevelMonitor.drain o p left s pcm discarded)
  | 0, s, pcm, discarded, h => h.drained
  | left + 1, s, pcm, discarded, h => by
    unfold ArecordLevelMonitor.drain
    split
    · exact Paced.drain left _ _ _ (h.same rfl rfl rfl rfl)
    · exact h.incomplete
    · exact h.same rfl rfl rfl rfl

theorem Paced.read (h : Paced s) : Paced (s.read o p) := by
  unfold ArecordLevelMonitor.read
  split
  · exact Paced.drain _ _ _ _ (h.same rfl rfl rfl rfl)
  · exact h.incomplete
  · exact h.same rfl rfl rfl rfl

theorem Paced.readPcm (h : Paced s) : Paced (s.readPcm o) := by
  unfold ArecordLevelMonitor.readPcm
  split
  · exact h.retry
  · split
    · exact h.same rfl rfl rfl rfl
    · exact h.read

theorem Paced.stalled (h : Paced s) : Paced (s.stalled p) := by
  unfold ArecordLevelMonitor.stalled
  dsimp only
  split
  · exact h.same rfl rfl rfl rfl
  · apply Paced.recordFailure
    exact h.same rfl rfl rfl rfl

theorem Paced.close (h : Paced s) : Paced s.close := by
  unfold ArecordLevelMonitor.close
  split
  · exact h
  · dsimp only
    split <;> exact h.same rfl rfl rfl rfl

/-- Every move keeps the pace. -/
theorem Paced.next (h : Paced s) {m : CaptureMove} (hnext : s.next o m = some s') : Paced s' := by
  have hforget : Paced { s with process := none } := h.same rfl rfl rfl rfl
  cases m with
  | call =>
    simp only [ArecordLevelMonitor.next] at hnext
    split at hnext
    · obtain rfl := Option.some.inj hnext
      exact h.readPcm
    · cases hnext
  | stderr error =>
    simp only [ArecordLevelMonitor.next] at hnext
    split at hnext
    · obtain rfl := Option.some.inj hnext
      exact hforget.recordFailure _ _
    · obtain rfl := Option.some.inj hnext
      exact hforget.recordFailure _ _
    · cases hnext
  | started error =>
    simp only [ArecordLevelMonitor.next] at hnext
    split at hnext
    · obtain rfl := Option.some.inj hnext
      exact h.recordFailure _ _
    · obtain rfl := Option.some.inj hnext
      apply Paced.read
      exact h.same rfl rfl rfl rfl
    · cases hnext
  | resume =>
    simp only [ArecordLevelMonitor.next] at hnext
    split at hnext
    · obtain rfl := Option.some.inj hnext
      exact h.read
    · obtain rfl := Option.some.inj hnext
      exact Paced.drain _ _ _ _ h
    · cases hnext
  | timeout =>
    simp only [ArecordLevelMonitor.next] at hnext
    split at hnext
    · obtain rfl := Option.some.inj hnext
      exact h.stalled
    · obtain rfl := Option.some.inj hnext
      exact h.drained
    · obtain rfl := Option.some.inj hnext
      exact h.same rfl rfl rfl rfl
    · cases hnext
  | waited =>
    simp only [ArecordLevelMonitor.next] at hnext
    split at hnext
    · obtain ⟨returncode, -, rfl⟩ := Option.map_eq_some_iff.mp hnext
      exact h.same rfl rfl rfl rfl
    · obtain ⟨-, hnext⟩ := Option.ite_none_right_eq_some.mp hnext
      obtain rfl := Option.some.inj hnext
      exact h.recordFailure _ _
    · obtain ⟨-, hnext⟩ := Option.ite_none_right_eq_some.mp hnext
      obtain rfl := Option.some.inj hnext
      exact h.same rfl rfl rfl rfl
    · cases hnext
  | reported =>
    simp only [ArecordLevelMonitor.next] at hnext
    split at hnext
    · obtain rfl := Option.some.inj hnext
      exact h.goOn _
    · obtain rfl := Option.some.inj hnext
      exact h.finish
    · obtain rfl := Option.some.inj hnext
      exact h.same rfl rfl rfl rfl
    · cases hnext
  | cancel =>
    simp only [ArecordLevelMonitor.next] at hnext
    split at hnext
    · cases hnext
    · obtain rfl := Option.some.inj hnext
      exact h.same rfl rfl rfl rfl
  | close =>
    simp only [ArecordLevelMonitor.next] at hnext
    split at hnext
    · obtain rfl := Option.some.inj hnext
      exact h.close
    · cases hnext
  | data | eof | exits =>
    obtain ⟨-, hnext⟩ := Option.ite_none_right_eq_some.mp hnext
    obtain rfl := Option.some.inj hnext
    exact h.same rfl rfl rfl rfl

theorem Paced.reach (hs : (arecordLevelMonitor o).Reach Machine.anyMove s) : Paced s := by
  refine hs.invariant ?_ ?_
  · rintro s ⟨now, rfl⟩
    exact ⟨Gate.reset _ _ _, nofun⟩
  · intro s a s' h _ hnext
    obtain ⟨-, hnext⟩ := Option.ite_none_right_eq_some.mp hnext
    have hnow : Paced { s with now := a.1 } := h.same rfl rfl rfl rfl
    exact hnow.next hnext

/-- **Launches are paced.**  arecord is launched only when the wait after the failures in a row is over:
    half a second, doubled from failure to failure up to thirty. -/
theorem launches_paced (hs : (arecordLevelMonitor o).Reach Machine.anyMove s) :
    ∀ a ∈ s.attempts, a.InTime (1 / 2) 30 :=
  (Paced.reach hs).inTime

/-- The second launch comes a second after the one failure of the first capture. -/
theorem launches_paced_captures :
    ∃ s, (arecordLevelMonitor twoBytes).Reach Machine.anyMove s ∧
      s.attempts = [⟨0, none⟩, ⟨4, some (0, 3)⟩] ∧ ∀ a ∈ s.attempts, a.InTime (1 / 2) 30 := by
  obtain ⟨s, hs, hattempts⟩ := Machine.exists_reach (m := arecordLevelMonitor twoBytes)
    (s := { now := 0 }) (l := twoCaptures)
    (fun s => s.attempts = [⟨0, none⟩, ⟨4, some (0, 3)⟩]) ⟨0, rfl⟩ (by decide +kernel)
  exact ⟨s, hs, hattempts, launches_paced hs⟩

end ArecordLevelMonitor

end PhonoConsole
