/-
  THE SENDSPIN SOURCE PUBLISHER (`phono_console/sendspin_source.py`) as cooperating tasks.

  Everything the publisher does is done by asyncio tasks over one object: one task for each
  server command, one for each call of `select_source` or of an enable setter, the pump of each
  capture, the retries, the delayed phono stop, and `run`.  Tasks interleave at awaits only.  So
  the state says for each task where it is SUSPENDED (`Pc`), and at most one task is running
  (`active`), at a program point (`Point`) between two awaits.  While one is running nothing
  else moves: a run of `step`s from one suspension to the next is one atomic piece of the source.

  * `wakes`   — what a suspended task goes on with, for the answer it awaited;
  * `advance` — the program, point by point, under the source's names;
  * `next`    — one move: a step of the running task, a resumption, or a call from outside.

  A cancelled task gets its `CancelledError` where it is suspended, before anything else; one
  that never started just ends, without its `finally`.  A task that awaits another one resumes
  when that one is done.

  Left out: the audio, its limiter and the clock; the signal watcher, which changes no field;
  `_stream_error` and the other keys that the routing callbacks do not compare; the Bluetooth
  pause latches, which only the watcher reads.  Events and publications do not suspend: nobody
  waits on the store's condition, so its lock is free whenever a task asks for it.  `run` goes on
  for ever: the shutdown of the daemon is not modelled.  Nobody cancels the tasks that call the
  publisher.
-/
import PhonoConsole.Lib.Machine
import PhonoConsole.Lib.FifoLock
import PhonoConsole.Policy
import Mathlib.Logic.Function.Basic

namespace PhonoConsole

/-- The keys of the published dictionary that the routing callbacks decide from. -/
structure Publication where
  connected : Bool
  streaming : Bool
  streamRequested : Bool
  selectedSource : Source
  phonoStopPending : Bool
deriving DecidableEq, Repr

namespace Publisher

/-- The tasks: an operation (a command or a call), a pump, a retry, a phono stop, and `run`. -/
inductive TaskId
  | op (n : Nat)
  | pump (n : Nat)
  | retry (n : Nat)
  | phonoStop (n : Nat)
  | run
deriving DecidableEq, Repr

/-- A command of the server. -/
inductive Command
  | start
  | stop
deriving DecidableEq, Repr

/-- Who called `_stop_streaming`. -/
inductive StopCaller
  | setter
  | select (source : Source) (wasRequested : Bool)
  | ignoredStart
  | stopCommand
  | disconnect
deriving DecidableEq, Repr

/-- Who called `_start_streaming`. -/
inductive StartCaller
  | command
  | select
  | retry
deriving DecidableEq, Repr

/-- A task in the queue of the stream lock, with what it wants the lock for. -/
inductive LockUse
  | stop (t : TaskId)
  | start (t : TaskId)
deriving DecidableEq, Repr

/-- Where a task is suspended. -/
inductive Pc
  | done
  | running
  | commandLock (command : Command)
  | mediaCommand
  | sendSignal (k : StopCaller)
  | joinRetry (k : StopCaller) (retry : Nat)
  | stopLock (k : StopCaller)
  | joinPump (k : StopCaller) (pump : Nat) (wasStreaming : Bool)
  | startLock (k : StartCaller)
  | capturing (k : StartCaller)
  | pumpNew
  | pumping (source : Source)
  | pumpClosing (failed : Bool)
  | retryNew
  | retrySleep
  | phonoStopNew
  | phonoStopSleep
  | phonoStopAction
  | runWaiting
  | runConnecting
  | runAbandoning
  | runConnected
  | runTearingDown
deriving DecidableEq, Repr

/-- Where a running task is, between two awaits. -/
inductive Point
  | selectSource (source : Source)
  | setDistributionEnabled (enabled : Bool)
  | setSourceDistributionEnabled (source : Source) (enabled : Bool)
  | handle (command : Command)
  | mediaDone
  | sendSignal (k : StopCaller)
  | stop (k : StopCaller)
  | stopAcquire (k : StopCaller)
  | take (k : StopCaller)
  | stopped (k : StopCaller) (wasStreaming : Bool)
  | afterStop (k : StopCaller)
  | publish
  | start (k : StartCaller)
  | startOwned (k : StartCaller)
  | captured (k : StartCaller) (failed : Bool)
  | started (k : StartCaller)
  | pumpOpen
  | pumpFed (source : Source) (activityChanged : Bool)
  | pumpFailed
  | pumpCancelled
  | pumpEnd (failed : Bool)
  | retryLoop
  | retryWoke
  | retryLeave
  | retryAbort
  | retryEnd
  | phonoStopBegin
  | phonoStopSlept
  | phonoStopEnd
  | ended
  | newClient
  | connected
  | connectFailed
  | abandoned
  | dropped
  | toreDown
deriving DecidableEq, Repr

/-- The answer a suspended task is resumed with. -/
inductive Reply
  | ok
  | raised
  | fed (activityChanged : Bool)
  | cancelled
deriving DecidableEq, Repr

/-- The moves: of the running task, of a suspended one, and calls from outside. -/
inductive Move
  | step
  | resume (t : TaskId) (reply : Reply)
  | serverCommand (command : Command)
  | selectSource (source : Source)
  | setDistributionEnabled (enabled : Bool)
  | setSourceDistributionEnabled (source : Source) (enabled : Bool)
deriving DecidableEq, Repr

end Publisher

open Publisher

/-- The publisher's fields, its tasks, and the dictionary last given to the state store. -/
structure Publisher where
  client : Bool := false
  connected : Bool := false
  streamTask : Option Nat := none
  streaming : Bool := false
  streamLock : FifoLock LockUse := {}
  commandLock : FifoLock TaskId := {}
  streamRequested : Bool := false
  streamRetryTask : Option Nat := none
  selectedSource : Source := .phono
  distributionEnabled : Bool := true
  sourceDevices : Source → Bool
  sourceDistributionEnabled : Source → Option Bool
  bluetoothMedia : Bool
  phonoStopTask : Option Nat := none
  published : Option Publication := none
  pc : TaskId → Pc := fun t => if t = .run then .runWaiting else .done
  cancelled : TaskId → Bool := fun _ => false
  active : Option (TaskId × Point) := none
  nextTask : Nat := 0

namespace Publisher

/-! ## Fields -/

/-- `distribution_allowed`, were `source` selected. -/
def allowedFor (s : Publisher) (source : Source) : Bool :=
  s.distributionEnabled && (s.sourceDistributionEnabled source).getD false

/-- `distribution_allowed`. -/
def distributionAllowed (s : Publisher) : Bool := s.allowedFor s.selectedSource

/-- What the dictionary would say now. -/
def snapshot (s : Publisher) : Publication where
  connected := s.connected
  streaming := s.streaming
  streamRequested := s.streamRequested
  selectedSource := s.selectedSource
  phonoStopPending := s.phonoStopTask.isSome

/-- `_publish_state`. -/
def publishState (s : Publisher) : Publisher := { s with published := some s.snapshot }

/-- `task.cancel()`. -/
def cancel (s : Publisher) (t : TaskId) : Publisher :=
  { s with cancelled := Function.update s.cancelled t true }

/-- The running task is suspended at `pc`. -/
def suspend (s : Publisher) (t : TaskId) (pc : Pc) : Publisher :=
  { s with pc := Function.update s.pc t pc, active := none }

/-- The running task goes on at `p`. -/
def goto (s : Publisher) (t : TaskId) (p : Point) : Publisher := { s with active := some (t, p) }

/-- A suspended task runs on at `p`. -/
def activate (s : Publisher) (t : TaskId) (p : Point) : Publisher :=
  { s with pc := Function.update s.pc t .running, active := some (t, p) }

/-- `create_task`: the new task is suspended before its first line. -/
def spawn (s : Publisher) (t : TaskId) (pc : Pc) : Publisher :=
  { s with
    pc := Function.update s.pc t pc
    cancelled := Function.update s.cancelled t false
    nextTask := s.nextTask + 1 }

/-- `_cancel_phono_stop`. -/
def cancelPhonoStop (s : Publisher) : Publisher :=
  match s.phonoStopTask with
  | some p => { s.cancel (.phonoStop p) with phonoStopTask := none }
  | none => s

/-- `_schedule_stream_retry`. -/
def scheduleStreamRetry (s : Publisher) : Publisher :=
  if !s.streamRequested || !s.connected
      || s.streamRetryTask.any (fun r => s.pc (.retry r) != .done) then s
  else { s.spawn (.retry s.nextTask) .retryNew with streamRetryTask := some s.nextTask }

/-- The end of `async with self._stream_lock`. -/
def releaseStreamLock (s : Publisher) : Publisher :=
  { s with streamLock := s.streamLock.release }

/-- The end of `async with self._command_lock`. -/
def releaseCommandLock (s : Publisher) : Publisher :=
  { s with commandLock := s.commandLock.release }

/-! ## The program -/

/-- `_handle_server_command`, owning the command lock. -/
def handle (s : Publisher) (t : TaskId) : Command → Publisher
  | .start =>
    if !s.distributionAllowed then s.goto t (.sendSignal .ignoredStart)
    else if s.selectedSource = .bluetooth ∧ s.bluetoothMedia then s.suspend t .mediaCommand
    else s.cancelPhonoStop.goto t (.start .command)
  | .stop => s.goto t (.stop .stopCommand)

/-- What follows `_stop_streaming` in its callers. -/
def afterStop (s : Publisher) (t : TaskId) : StopCaller → Publisher
  | .setter => s.goto t .publish
  | .select source wasRequested =>
    { s with selectedSource := source, streamRequested := wasRequested }.goto t
      (if wasRequested then .start .select else .publish)
  | .ignoredStart => s.releaseCommandLock.suspend t .done
  | .stopCommand =>
    if s.selectedSource = .phono then
      let s := s.cancelPhonoStop
      let s := { s.spawn (.phonoStop s.nextTask) .phonoStopNew with phonoStopTask := some s.nextTask }
      s.publishState.releaseCommandLock.suspend t .done
    else s.releaseCommandLock.suspend t .done
  | .disconnect => s.suspend t .runTearingDown

/-- `_start_streaming` once `capture.start()` has returned, or raised. -/
def captured (s : Publisher) (t : TaskId) (k : StartCaller) (failed : Bool) : Publisher :=
  if failed then s.publishState.scheduleStreamRetry.releaseStreamLock.goto t (.started k)
  else
    let s := { s.spawn (.pump s.nextTask) .pumpNew with
      streaming := true
      streamTask := some s.nextTask }
    s.publishState.releaseStreamLock.goto t (.started k)

/-- What follows `_start_streaming` in its callers. -/
def started (s : Publisher) (t : TaskId) : StartCaller → Publisher
  | .command => s.releaseCommandLock.suspend t .done
  | .select => s.goto t .publish
  | .retry => s.goto t (if s.streamTask.isSome then .retryEnd else .retryLoop)

/-- The end of `_pump`, its stream and its capture closed. -/
def pumpEnd (s : Publisher) (t : TaskId) (failed : Bool) : Publisher :=
  if s.streamTask.any (TaskId.pump · == t) then
    let ended := { s with streamTask := none, streaming := false }
    let ended := if s.streaming then ended.publishState else ended
    (if failed && s.streamRequested then ended.scheduleStreamRetry else ended).suspend t .done
  else s.suspend t .done

/-- The running task `t` at the point `p`: up to the next point, or to its suspension. -/
def advance (s : Publisher) (t : TaskId) : Point → Publisher
  | .selectSource source =>
    if !s.sourceDevices source then s.suspend t .done
    else if source = s.selectedSource then s.suspend t .done
    else s.goto t (.stop (.select source s.streamRequested))
  | .setDistributionEnabled enabled =>
    { s with distributionEnabled := enabled }.goto t (if enabled then .publish else .sendSignal .setter)
  | .setSourceDistributionEnabled source enabled =>
    { s with sourceDistributionEnabled :=
        Function.update s.sourceDistributionEnabled source (some enabled) }.goto t
      (if source = s.selectedSource ∧ enabled = false then .sendSignal .setter else .publish)
  | .handle command => s.handle t command
  | .mediaDone => s.cancelPhonoStop.goto t (.start .command)
  -- `_send_signal(False)`
  | .sendSignal k => if s.client && s.connected then s.suspend t (.sendSignal k) else s.goto t (.stop k)
  -- `_stop_streaming`
  | .stop k =>
    let s := { s with streamRequested := false }
    match s.streamRetryTask with
    | some r => ({ s with streamRetryTask := none }.cancel (.retry r)).suspend t (.joinRetry k r)
    | none => s.goto t (.stopAcquire k)
  | .stopAcquire k =>
    let free := s.streamLock.free
    let s := { s with streamLock := s.streamLock.acquire (.stop t) }
    if free then s.goto t (.take k) else s.suspend t (.stopLock k)
  | .take k =>
    let taken := { s with streamTask := none, streaming := false }.releaseStreamLock
    match s.streamTask with
    | some p => (taken.cancel (.pump p)).suspend t (.joinPump k p s.streaming)
    | none => taken.goto t (.stopped k s.streaming)
  | .stopped k wasStreaming =>
    (if wasStreaming then s.publishState else s).goto t (.afterStop k)
  | .afterStop k => s.afterStop t k
  | .publish => s.publishState.suspend t .done
  -- `_start_streaming`
  | .start k =>
    let free := s.streamLock.free
    let s := { s with streamRequested := true, streamLock := s.streamLock.acquire (.start t) }
    if free then s.goto t (.startOwned k) else s.suspend t (.startLock k)
  | .startOwned k =>
    if !s.client || s.streamTask.isSome then s.releaseStreamLock.goto t (.started k)
    else s.suspend t (.capturing k)
  | .captured k failed => s.captured t k failed
  | .started k => s.started t k
  -- `_pump`: the PCM factory and the gain are those of the source selected now
  | .pumpOpen => s.suspend t (.pumping s.selectedSource)
  | .pumpFed source activityChanged =>
    (if activityChanged && s.selectedSource == .phono then s.publishState else s).suspend t
      (.pumping source)
  | .pumpFailed => s.suspend t (.pumpClosing true)
  | .pumpCancelled =>
    { s with cancelled := Function.update s.cancelled t false }.suspend t (.pumpClosing false)
  | .pumpEnd failed => s.pumpEnd t failed
  -- `_retry_stream`
  | .retryLoop =>
    if s.streamRequested && s.connected then s.suspend t .retrySleep else s.goto t .retryEnd
  | .retryWoke =>
    s.goto t (if s.streamRequested && s.connected then .start .retry else .retryEnd)
  | .retryLeave => { s with streamLock := s.streamLock.leave (.start t) }.goto t .retryEnd
  | .retryAbort => s.releaseStreamLock.goto t .retryEnd
  | .retryEnd =>
    { s with streamRetryTask := s.streamRetryTask.filter (TaskId.retry · != t) }.suspend t .done
  -- `_commit_phono_stop`
  | .phonoStopBegin => s.suspend t .phonoStopSleep
  | .phonoStopSlept => s.suspend t .phonoStopAction
  | .phonoStopEnd =>
    { s with phonoStopTask := s.phonoStopTask.filter (TaskId.phonoStop · != t) }.publishState.suspend t
      .done
  | .ended => s.suspend t .done
  -- `run`
  | .newClient => { s with client := true }.suspend t .runConnecting
  | .connected => { s with connected := true }.publishState.suspend t .runConnected
  | .connectFailed => s.suspend t .runAbandoning
  | .abandoned => { s with client := false }.suspend t .runWaiting
  | .dropped => { s with connected := false }.goto t (.stop .disconnect)
  | .toreDown => { s with client := false }.publishState.suspend t .runWaiting

/-- What the task `t` goes on with when it gets the answer it awaited. -/
def wakes (s : Publisher) (t : TaskId) (reply : Reply) : Option Point :=
  match s.pc t, reply with
  | .commandLock command, .ok =>
    if s.commandLock.holder = some t then some (.handle command) else none
  | .mediaCommand, .ok | .mediaCommand, .raised => some .mediaDone
  | .sendSignal k, .ok | .sendSignal k, .raised => some (.stop k)
  | .joinRetry k r, .ok => if s.pc (.retry r) = .done then some (.stopAcquire k) else none
  | .stopLock k, .ok => if s.streamLock.holder = some (.stop t) then some (.take k) else none
  | .joinPump k p wasStreaming, .ok =>
    if s.pc (.pump p) = .done then some (.stopped k wasStreaming) else none
  | .startLock k, .ok =>
    if s.streamLock.holder = some (.start t) ∧ s.cancelled t = false then some (.startOwned k) else none
  | .startLock .retry, .cancelled => if s.cancelled t then some .retryLeave else none
  | .capturing k, .ok => if s.cancelled t then none else some (.captured k false)
  | .capturing k, .raised => if s.cancelled t then none else some (.captured k true)
  | .capturing .retry, .cancelled => if s.cancelled t then some .retryAbort else none
  | .pumpNew, .ok => if s.cancelled t then none else some .pumpOpen
  | .pumpNew, .cancelled => if s.cancelled t then some .ended else none
  | .pumping source, .fed activityChanged =>
    if s.cancelled t then none else some (.pumpFed source activityChanged)
  | .pumping _, .raised => if s.cancelled t then none else some .pumpFailed
  | .pumping _, .cancelled => if s.cancelled t then some .pumpCancelled else none
  | .pumpClosing failed, .ok => if s.cancelled t then none else some (.pumpEnd failed)
  | .pumpClosing _, .cancelled => if s.cancelled t then some .ended else none
  | .retryNew, .ok => if s.cancelled t then none else some .retryLoop
  | .retryNew, .cancelled => if s.cancelled t then some .ended else none
  | .retrySleep, .ok => if s.cancelled t then none else some .retryWoke
  | .retrySleep, .cancelled => if s.cancelled t then some .retryEnd else none
  | .phonoStopNew, .ok => if s.cancelled t then none else some .phonoStopBegin
  | .phonoStopNew, .cancelled => if s.cancelled t then some .ended else none
  | .phonoStopSleep, .ok => if s.cancelled t then none else some .phonoStopSlept
  | .phonoStopAction, .ok | .phonoStopAction, .raised =>
    if s.cancelled t then none else some .phonoStopEnd
  | .phonoStopSleep, .cancelled | .phonoStopAction, .cancelled =>
    if s.cancelled t then some .phonoStopEnd else none
  | .runWaiting, .ok => some .newClient
  | .runConnecting, .ok => some .connected
  | .runConnecting, .raised => some .connectFailed
  | .runAbandoning, .ok | .runAbandoning, .raised => some .abandoned
  | .runConnected, .ok => some .dropped
  | .runTearingDown, .ok | .runTearingDown, .raised => some .toreDown
  | _, _ => none

/-- A call from outside: a task of its own, which runs at once. -/
def call (s : Publisher) (p : Point) : Publisher :=
  { s with nextTask := s.nextTask + 1 }.activate (.op s.nextTask) p

/-- `_on_server_command`: a task that is queued for the command lock. -/
def onServerCommand (s : Publisher) (command : Command) : Publisher :=
  { s.spawn (.op s.nextTask) (.commandLock command) with
    commandLock := s.commandLock.acquire (.op s.nextTask) }

/-- One move. -/
def next (s : Publisher) (m : Move) : Option Publisher :=
  match s.active, m with
  | some (t, p), .step => some (s.advance t p)
  | none, .resume t reply => (s.wakes t reply).map (s.activate t)
  | none, .serverCommand command => some (s.onServerCommand command)
  | none, .selectSource source => some (s.call (.selectSource source))
  | none, .setDistributionEnabled enabled => some (s.call (.setDistributionEnabled enabled))
  | none, .setSourceDistributionEnabled source enabled =>
    some (s.call (.setSourceDistributionEnabled source enabled))
  | _, _ => none

/-- The publisher as the daemon has set it up for a target, before it runs. -/
def initial (enabled : Bool) (sourceDevices : Source → Bool) (bluetoothMedia : Bool) :
    Publisher where
  distributionEnabled := enabled
  sourceDevices := sourceDevices
  sourceDistributionEnabled source :=
    if sourceDevices source ∨ source = .phono ∨ source = .bluetooth then some enabled else none
  bluetoothMedia := bluetoothMedia
  published := some ⟨false, false, false, .phono, false⟩

/-- As constructed. -/
def Initialised (s : Publisher) : Prop :=
  ∃ enabled sourceDevices bluetoothMedia, s = initial enabled sourceDevices bluetoothMedia

/-- Any moves of a publisher from its construction on. -/
def machine : Machine Publisher Move where
  init := Initialised
  next := next

/-- A turntable and a Bluetooth receiver, with distribution enabled. -/
def bothSources : Publisher :=
  initial true (fun source => source == .phono || source == .bluetooth) true

theorem bothSources_initialised : machine.init bothSources := ⟨_, _, _, rfl⟩

/-- `run` connects. -/
def connecting : List Move := [.resume .run .ok, .step, .resume .run .ok, .step]

/-- The start command of the task `n` up to `capture.start()`, while the stream lock is free. -/
def startCommand (n : Nat) : List Move :=
  [.serverCommand .start, .resume (.op n) .ok, .step, .step, .step]

/-! ## No operation in progress -/

/-- The task is in the middle of an operation.  A running pump, a sleeping retry, the delay of a
    phono stop and `run` between its own operations are not. -/
def Pc.busy : Pc → Bool
  | .done | .pumping _ | .retrySleep | .phonoStopSleep | .phonoStopAction | .runWaiting
  | .runConnecting | .runAbandoning | .runConnected => false
  | .running | .commandLock _ | .mediaCommand | .sendSignal _ | .joinRetry _ _ | .stopLock _
  | .joinPump _ _ _ | .startLock _ | .capturing _ | .pumpNew | .pumpClosing _ | .retryNew
  | .phonoStopNew | .runTearingDown => true

/-- All tasks there have been. -/
def tasks (s : Publisher) : List TaskId :=
  .run :: (List.range s.nextTask).flatMap fun n => [.op n, .pump n, .retry n, .phonoStop n]

/-- No task is in the middle of an operation, and none has a cancellation to come. -/
def Idle (s : Publisher) : Prop :=
  s.active = none ∧
    ∀ t ∈ s.tasks, (s.pc t).busy = false ∧ (s.cancelled t = true → s.pc t = .done)

instance (s : Publisher) : Decidable s.Idle := by
  unfold Idle
  exact inferInstance

end Publisher

end PhonoConsole
