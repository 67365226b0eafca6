/-
  THE BLUETOOTH MANAGER (`phono_console/bluetooth.py`): the agent and its pairing window.

  The manager owns one `bluetoothctl` agent, restarted whenever it exits or fails, and answers the
  agent's prompts while the pairing window is open.  The window is three pieces of state: the flag
  `_pairing_active`, the close task `_pairing_task`, and the agent that is told about it.  They are
  changed by the calls of `open_pairing` and `close_pairing`, by the close task, and by `run`, all
  of which share one lock for the agent's input.

  A task is suspended somewhere (`Pc`), and a move lets one run from there to its next suspension,
  with the answer it has awaited; everything between is atomic.  A cancelled task gets its
  `CancelledError` where it is suspended (`unwind`).

  Time passes in moves of their own (`tick`).  A close task that is due, or has not begun to
  sleep, runs before time goes on: that is what `asyncio.sleep` promises on a loop that is not
  blocked.

  Left out: the media monitor and the trust commands' own results, which touch none of this; the
  published state, events and log lines, which do not suspend; the text of the agent's output (a
  chunk holds a prompt or not, and whether the agent registers in time is an answer from outside).
-/
import PhonoConsole.Lib.Machine
import PhonoConsole.Lib.FifoLock
import Mathlib.Data.Rat.Defs
import Mathlib.Algebra.Order.Ring.Rat
import Mathlib.Logic.Function.Basic

namespace PhonoConsole

namespace BluetoothManager

/-- The tasks: a call from outside, a close task, the reader of an agent's output, and `run`. -/
inductive TaskId
  | call (n : Nat)
  | timer (n : Nat)
  | reader (n : Nat)
  | run
deriving DecidableEq, Repr

/-- A `_send_command`, by what it is part of; `run` has more to send. -/
inductive Sending
  | pairableOn
  | discoverableOn
  | discoverableOff
  | pairableOff
  | setup (command : List String) (rest : List (List String))
deriving DecidableEq, Repr

/-- The words of the command line. -/
def Sending.words : Sending → List String
  | .pairableOn => ["pairable", "on"]
  | .discoverableOn => ["discoverable", "on"]
  | .discoverableOff => ["discoverable", "off"]
  | .pairableOff => ["pairable", "off"]
  | .setup command _ => command

/-- What is written to an agent. -/
inductive Write
  | command (c : Sending)
  | answer (accepted : Bool)
deriving DecidableEq, Repr

/-- A line of an agent's input. -/
inductive Line
  | command (words : List String)
  | answer (accepted : Bool)
deriving DecidableEq, Repr

/-- The line that is written. -/
def Write.line : Write → Line
  | .command c => .command c.words
  | .answer accepted => .answer accepted

/-- Who called `_stop_agent`. -/
inductive StopCaller
  | failed
  | closing
deriving DecidableEq, Repr

/-- Where a task is suspended, or how it has ended. -/
inductive Pc
  | done
  | raised
  | writeLock (process : Nat) (w : Write)
  | draining (process : Nat) (w : Write)
  | trusting
  | timerNew
  | timerSleeping (due : ℚ)
  | readerNew
  | reading
  | launching
  | awaitingReady
  | watching
  | pausing
  | joiningMedia
  | terminating (k : StopCaller) (process : Nat)
  | killing (k : StopCaller) (process : Nat)
  | joiningReader (k : StopCaller) (reader : Nat)
deriving DecidableEq

/-- The answer a suspended task is resumed with. -/
inductive Reply
  | ok
  | raised
  | chunk
  | prompt
  | stopped
  | cancelled
deriving DecidableEq, Repr

/-- Time passes, a window is opened or closed, the process exits, or a task goes on. -/
inductive Move
  | tick (d : ℚ)
  | openPairing
  | closePairing
  | exit (process : Nat)
  | resume (t : TaskId) (reply : Reply)
deriving DecidableEq

end BluetoothManager

open BluetoothManager

/-- The manager's fields, its tasks, the agents that have exited, what has been written to the
    agents, and the time. -/
structure BluetoothManager where
  systemAlias : String
  pairingWindowSeconds : Nat
  pairingActive : Bool := false
  pairingTask : Option Nat := none
  process : Option Nat := none
  readerTask : Option Nat := none
  writeLock : FifoLock BluetoothManager.TaskId := {}
  exited : Nat → Bool := fun _ => false
  stdin : List (Nat × BluetoothManager.Line) := []
  now : ℚ := 0
  pc : BluetoothManager.TaskId → BluetoothManager.Pc := fun t => if t = .run then .launching else .done
  cancelled : BluetoothManager.TaskId → Bool := fun _ => false
  nextTask : Nat := 0

namespace BluetoothManager

/-! ## Tasks -/

/-- `task.cancel()`. -/
def cancel (s : BluetoothManager) (t : TaskId) : BluetoothManager :=
  { s with cancelled := Function.update s.cancelled t true }

/-- The running task is suspended at `pc`, or has ended. -/
def suspend (s : BluetoothManager) (t : TaskId) (pc : Pc) : BluetoothManager :=
  { s with pc := Function.update s.pc t pc }

/-- A new task, suspended at `pc`. -/
def spawn (s : BluetoothManager) (t : TaskId) (pc : Pc) : BluetoothManager :=
  { s with
    pc := Function.update s.pc t pc
    cancelled := Function.update s.cancelled t false
    nextTask := s.nextTask + 1 }

/-- The end of `async with self._write_lock`. -/
def releaseWriteLock (s : BluetoothManager) : BluetoothManager :=
  { s with writeLock := s.writeLock.release }

/-- A cancelled task ends where it is suspended. -/
def unwind (s : BluetoothManager) (t : TaskId) : BluetoothManager :=
  match s.pc t with
  | .writeLock _ _ => { s with writeLock := s.writeLock.leave t }.suspend t .done
  | .draining _ _ => s.releaseWriteLock.suspend t .done
  | _ => s.suspend t .done

/-! ## The agent's input -/

/-- The agent that is running, if any. -/
def agent (s : BluetoothManager) : Option Nat := s.process.filter fun p => !s.exited p

/-- `stdin.write` and `drain`, owning the lock. -/
def write (s : BluetoothManager) (t : TaskId) (p : Nat) (w : Write) : BluetoothManager :=
  { s with stdin := s.stdin ++ [(p, w.line)] }.suspend t (.draining p w)

/-- `async with self._write_lock`. -/
def lockedWrite (s : BluetoothManager) (t : TaskId) (p : Nat) (w : Write) : BluetoothManager :=
  let free := s.writeLock.free
  let s := { s with writeLock := s.writeLock.acquire t }
  if free then s.write t p w else s.suspend t (.writeLock p w)

/-- `_answer_agent_prompt`. -/
def answerAgentPrompt (s : BluetoothManager) (t : TaskId) (accepted : Bool) : BluetoothManager :=
  match s.agent with
  | some p => s.lockedWrite t p (.answer accepted)
  | none => s.suspend t .reading

/-! ## The end of an agent -/

/-- What follows `_stop_agent` in its callers. -/
def agentStopped (s : BluetoothManager) (t : TaskId) : StopCaller → BluetoothManager
  | .failed => s.suspend t .pausing
  | .closing => s.suspend t .done

/-- `_stop_agent` cancels and awaits the reader task, if there is one. -/
def joinReader (s : BluetoothManager) (t : TaskId) (k : StopCaller) : BluetoothManager :=
  match s.readerTask with
  | some r => ({ s with readerTask := none }.cancel (.reader r)).suspend t (.joiningReader k r)
  | none => s.agentStopped t k

/-- `_stop_agent`. -/
def stopAgent (s : BluetoothManager) (t : TaskId) (k : StopCaller) : BluetoothManager :=
  let stopped := { s with process := none, pairingActive := false }
  match s.agent with
  | some p => stopped.suspend t (.terminating k p)
  | none => stopped.joinReader t k

/-- `close`. -/
def close (s : BluetoothManager) (t : TaskId) : BluetoothManager :=
  match s.pairingTask with
  | some n => ({ s with pairingTask := none }.cancel (.timer n)).stopAgent t .closing
  | none => s.stopAgent t .closing

/-! ## Commands -/

/-- A `_send_command` has raised: `open_pairing` raises, `close_pairing` goes on to its trust
    commands, and `run` stops the agent. -/
def sendFailed (s : BluetoothManager) (t : TaskId) : Sending → BluetoothManager
  | .pairableOn | .discoverableOn => s.suspend t .raised
  | .discoverableOff | .pairableOff => s.suspend t .trusting
  | .setup _ _ => s.stopAgent t .failed

/-- `_send_command`. -/
def send (s : BluetoothManager) (t : TaskId) (c : Sending) : BluetoothManager :=
  match s.agent with
  | some p => s.lockedWrite t p (.command c)
  | none => s.sendFailed t c

/-- The commands that `run` sends a new agent. -/
def setupCommands (s : BluetoothManager) : List (List String) :=
  [["default-agent"], ["power", "on"], ["system-alias", s.systemAlias], ["discoverable", "off"],
    ["pairable", "off"]]

/-- The setup commands of `_run_agent`, one after another, then the wait for the process. -/
def setup (s : BluetoothManager) (t : TaskId) : List (List String) → BluetoothManager
  | [] => s.suspend t .watching
  | command :: rest => s.send t (.setup command rest)

/-- The end of `open_pairing`. -/
def opened (s : BluetoothManager) (t : TaskId) : BluetoothManager :=
  let s := match s.pairingTask with
    | some n => s.cancel (.timer n)
    | none => s
  { s.spawn (.timer s.nextTask) .timerNew with pairingTask := some s.nextTask }.suspend t .done

/-- A `_send_command` has returned. -/
def sent (s : BluetoothManager) (t : TaskId) : Sending → BluetoothManager
  | .pairableOn => s.send t .discoverableOn
  | .discoverableOn => s.opened t
  | .discoverableOff => s.send t .pairableOff
  | .pairableOff => s.suspend t .trusting
  | .setup _ rest => s.setup t rest

/-- `close_pairing`, by the task `t`. -/
def closePairing (s : BluetoothManager) (t : TaskId) : BluetoothManager :=
  let closed := { s with pairingActive := false, pairingTask := none }
  match s.pairingTask with
  | some n => (if t = .timer n then closed else closed.cancel (.timer n)).send t .discoverableOff
  | none => closed.send t .discoverableOff

/-- `open_pairing`. -/
def openPairing (s : BluetoothManager) (t : TaskId) : BluetoothManager :=
  { s with pairingActive := true }.send t .pairableOn

/-! ## Moves -/

/-- The task `t`, not cancelled, goes on with the answer it has awaited. -/
def proceed (s : BluetoothManager) (t : TaskId) (reply : Reply) : Option BluetoothManager :=
  match s.pc t, reply with
  | .writeLock p w, .ok => if s.writeLock.holder = some t then some (s.write t p w) else none
  | .draining _ (.command c), .ok => some (s.releaseWriteLock.sent t c)
  | .draining _ (.command c), .raised => some (s.releaseWriteLock.sendFailed t c)
  | .draining _ (.answer _), .ok => some (s.releaseWriteLock.suspend t .reading)
  | .draining _ (.answer _), .raised => some (s.releaseWriteLock.suspend t .raised)
  | .trusting, .ok => some (s.suspend t .done)
  | .trusting, .raised => some (s.suspend t .raised)
  -- `_close_after_timeout`
  | .timerNew, .ok => some (s.suspend t (.timerSleeping (s.now + s.pairingWindowSeconds)))
  | .timerSleeping due, .ok => if due ≤ s.now then some (s.closePairing t) else none
  -- `_read_agent_output`
  | .readerNew, .ok => some (s.suspend t (if s.process.isSome then .reading else .done))
  | .reading, .ok => some (s.suspend t .done)
  | .reading, .chunk => some (s.suspend t .reading)
  | .reading, .prompt => some (s.answerAgentPrompt t s.pairingActive)
  -- `run`
  | .launching, .ok =>
    some ({ s.spawn (.reader s.nextTask) .readerNew with
      process := some s.nextTask
      readerTask := some s.nextTask }.suspend t .awaitingReady)
  | .launching, .raised | .awaitingReady, .raised => some (s.stopAgent t .failed)
  | .awaitingReady, .ok => some (s.setup t s.setupCommands)
  | .watching, .ok => if s.agent = none then some (s.suspend t .pausing) else none
  | .watching, .stopped | .pausing, .stopped => some (s.suspend t .joiningMedia)
  | .pausing, .ok => some (s.suspend t .launching)
  | .joiningMedia, .ok => some (s.close t)
  -- `_stop_agent`
  | .terminating k p, .ok => if s.exited p then some (s.joinReader t k) else none
  | .terminating k p, .raised =>
    some (if s.exited p then s.joinReader t k else s.suspend t (.killing k p))
  | .killing k p, .ok => if s.exited p then some (s.joinReader t k) else none
  | .joiningReader k r, .ok =>
    if s.pc (.reader r) = .done then some (s.agentStopped t k) else none
  | .joiningReader _ r, .raised =>
    if s.pc (.reader r) = .raised then some (s.suspend t .raised) else none
  | _, _ => none

/-- A suspended task goes on: by its cancellation first, if it was cancelled. -/
def resume (s : BluetoothManager) (t : TaskId) (reply : Reply) : Option BluetoothManager :=
  if s.cancelled t then
    if reply = .cancelled ∧ s.pc t ≠ .done ∧ s.pc t ≠ .raised then some (s.unwind t) else none
  else s.proceed t reply

/-- The close task has begun to sleep, and is not due within `d`. -/
def waits (s : BluetoothManager) (d : ℚ) (n : Nat) : Bool :=
  s.cancelled (.timer n) ||
    match s.pc (.timer n) with
    | .timerNew => false
    | .timerSleeping due => s.now + d ≤ due
    | _ => true

/-- A call from outside, as a task of its own. -/
def call (s : BluetoothManager) : BluetoothManager := { s with nextTask := s.nextTask + 1 }

/-- The manager after a move; no timer is left behind by the clock. -/
def next (s : BluetoothManager) : Move → Option BluetoothManager
  | .tick d =>
    if 0 ≤ d ∧ ∀ n ∈ List.range s.nextTask, s.waits d n = true then some { s with now := s.now + d }
    else none
  | .openPairing => some (s.call.openPairing (.call s.nextTask))
  | .closePairing => some (s.call.closePairing (.call s.nextTask))
  | .exit p => some { s with exited := Function.update s.exited p true }
  | .resume t reply => s.resume t reply

/-- A manager as constructed. -/
def created (systemAlias : String) (pairingWindowSeconds : Nat) : BluetoothManager :=
  { systemAlias, pairingWindowSeconds }

/-- The manager before `run` has begun. -/
def machine : Machine BluetoothManager Move where
  init s := ∃ name seconds, s = { systemAlias := name, pairingWindowSeconds := seconds }
  next := next

end BluetoothManager

end PhonoConsole
