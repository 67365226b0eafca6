/-
  THE CHILD PROCESSES and the two classes that own one: `ManagedProcess`
  (`phono_console/processes.py`) and `TimestampedLocalPlayback`
  (`phono_console/audio_engine_playback.py`).

  An owner cannot see whether its child is alive.  It asks for its return code, terminates it,
  waits for it, with a timeout, and kills it; meanwhile the child exits whenever it likes.  So the
  children are a world (`childWorld`): a return code may lag behind the exit, a wait only comes
  back when the child is dead, a child that ignores `terminate` makes the wait time out, and
  nobody but `drift` ends a child.

  * `ProcReq`, `childWorld`  — what the owners ask for, and what the children make of it;
  * `ManagedProcess`, `TimestampedLocalPlayback` — `start` and `stop` of both classes;
  * `Exclusive`              — at most one child is alive;
  * `ManagedProcess.stop_safe`, `TimestampedLocalPlayback.stop_safe` — a stop leaves the owner
    without a child, and its child dead;
  * `ManagedProcess.start_safe`, `TimestampedLocalPlayback.start_safe` — a start that no other
    child is alive at launches at most one, which it remembers: for the playback under the
    condition that the child has a standard input (`HasInput`).
-/
import PhonoConsole.Lib.World
import Mathlib.Data.Rat.Defs
import Mathlib.Algebra.Order.Ring.Rat
import Mathlib.Logic.Function.Basic

namespace PhonoConsole

open Coro World

/-! ## Requests -/

/-- The three owners of the console output. -/
inductive Loopback
  | phono
  | bluetooth
  | ma
deriving DecidableEq, Repr

/-- The events of the owners, with their payloads. -/
inductive ProcessEvent
  | exited (process : String) (returncode : Option Int)
  | startFailed (process : String) (error : String)
  | started (process : String)
  | killed (process : String)
  | stopped (process : String) (returncode : Option Int)
deriving DecidableEq

/-- A child as `process_factory` returns it, and whether it has a `stdin`. -/
structure PlaybackProcess where
  child : Nat
  stdin : Bool
deriving DecidableEq

/-- What an owner asks of the system; children are named by the order of their launch. -/
inductive ProcReq
  | launch (owner : Loopback) (argv : List String)
  | processFactory (owner : Loopback)
  | returncode (child : Nat)
  | terminate (child : Nat)
  | kill (child : Nat)
  /-- `wait_for(process.wait(), timeout)` -/
  | waitFor (child : Nat) (timeout : ℚ)
  | wait (child : Nat)
  /-- `stdin.close()` and the bounded `wait_closed()`, exceptions suppressed -/
  | closeStdin (child : Nat)
  /-- `pump_task.done()` -/
  | pumpDone
  /-- `pump_task.cancel()` and the wait for its end -/
  | cancelPump
  | emit (event : ProcessEvent)
  | monotonic
deriving DecidableEq

/-- The answers: a launch raises or returns a child, a bounded wait says whether it came back. -/
abbrev ProcRep : ProcReq → Type
  | .launch _ _ => Except String Nat
  | .processFactory _ => Except String PlaybackProcess
  | .returncode _ => Option Int
  | .waitFor _ _ | .pumpDone => Bool
  | .monotonic => ℚ
  | .terminate _ | .kill _ | .wait _ | .closeStdin _ | .cancelPump | .emit _ => Unit

/-! ## The children -/

/-- The children launched so far, who launched them, and which are alive. -/
structure Children where
  count : Nat := 0
  owner : Nat → Loopback := fun _ => .phono
  alive : Nat → Bool := fun _ => false

/-- The children after the launch of the next one. -/
def Children.born (w : Children) (owner : Loopback) : Children where
  count := w.count + 1
  owner := Function.update w.owner w.count owner
  alive := Function.update w.alive w.count true

/-- The children after `child` has exited. -/
def Children.exit (w : Children) (child : Nat) : Children :=
  { w with alive := Function.update w.alive child false }

@[simp] theorem Children.born_alive {w : Children} {owner : Loopback} {i : Nat} :
    (w.born owner).alive i = true ↔ i = w.count ∨ w.alive i = true := by
  show Function.update w.alive w.count true i = true ↔ _
  by_cases hi : i = w.count
  · simp [hi]
  · simp [hi, Function.update_of_ne]

@[simp] theorem Children.exit_alive {w : Children} {child i : Nat} :
    (w.exit child).alive i = true ↔ i ≠ child ∧ w.alive i = true := by
  show Function.update w.alive child false i = true ↔ _
  by_cases hi : i = child
  · simp [hi]
  · simp [hi, Function.update_of_ne]

/-- The answer tells that this child is dead. -/
def reportsDead : (q : ProcReq) → ProcRep q → Option Nat
  | .returncode child, some _ => some child
  | .waitFor child _, true => some child
  | .wait child, _ => some child
  | _, _ => none

/-- The answer is a new child of this owner. -/
def launched : (q : ProcReq) → ProcRep q → Option (Loopback × Nat)
  | .launch owner _, .ok child => some (owner, child)
  | .processFactory owner, .ok process => some (owner, process.child)
  | _, _ => none

/-- The children as a world: a launch adds the next child, a child that is alive is not reported
    dead, and every child exits when it likes. -/
def childWorld : World ProcReq ProcRep Children Nat where
  answer w q a :=
    match launched q a with
    | some (owner, child) => if child = w.count then some (w.born owner) else none
    | none => if (reportsDead q a).any w.alive then none else some w
  drift w child := some (w.exit child)

/-- Programs of an owner with the fields `σ`; an error is the text of an exception. -/
abbrev Child (σ α : Type) := Coro ProcReq ProcRep σ String α

namespace Child

variable {σ : Type}

/-- `asyncio.create_subprocess_exec`. -/
def launch (owner : Loopback) (argv : List String) : Child σ (Except String Nat) :=
  ask (ProcReq.launch owner argv)

/-- `process_factory()`. -/
def processFactory (owner : Loopback) : Child σ (Except String PlaybackProcess) :=
  ask (ProcReq.processFactory owner)

/-- `process.returncode`. -/
def returncode (child : Nat) : Child σ (Option Int) := ask (ProcReq.returncode child)

/-- `process.terminate()`. -/
def terminate (child : Nat) : Child σ Unit := ask (ProcReq.terminate child)

/-- `process.kill()`. -/
def kill (child : Nat) : Child σ Unit := ask (ProcReq.kill child)

/-- `asyncio.wait_for(process.wait(), timeout)`; `false` when it times out. -/
def waitFor (child : Nat) (timeout : ℚ) : Child σ Bool := ask (ProcReq.waitFor child timeout)

/-- `process.wait()`. -/
def wait (child : Nat) : Child σ Unit := ask (ProcReq.wait child)

/-- `process.stdin.close()`. -/
def closeStdin (child : Nat) : Child σ Unit := ask (ProcReq.closeStdin child)

/-- `pump_task.done()`. -/
def pumpDone : Child σ Bool := ask ProcReq.pumpDone

/-- `pump_task.cancel()`, awaited. -/
def cancelPump : Child σ Unit := ask ProcReq.cancelPump

/-- `event_sink.emit`. -/
def emit (event : ProcessEvent) : Child σ Unit := ask (ProcReq.emit event)

/-- `time.monotonic()`. -/
def monotonic : Child σ ℚ := ask ProcReq.monotonic

/-- Terminate a child that has no return code yet, and kill it, with an event of the owner's, when
    it does not exit in time. -/
def terminateOrKill (child : Nat) (timeout : ℚ) (killed : Option ProcessEvent) : Child σ Unit := do
  let returncode ← Child.returncode child
  when returncode.isNone do
    terminate child
    let exited ← waitFor child timeout
    when (!exited) do
      kill child
      wait child
      match killed with
      | some event => emit event
      | none => pure ()

end Child

/-! ## `ManagedProcess` -/

/-- A command; an empty one is refused. -/
structure ProcessSpec where
  name : String
  argv : List String
  stopTimeoutSeconds : ℚ := 3
  argv_ne : argv ≠ []

/-- `ManagedProcess`: the child it has launched, and the wait after failures. -/
structure ManagedProcess where
  spec : ProcessSpec
  process : Option Nat := none
  nextRetryAt : ℚ := 0
  retrySeconds : ℚ := 1 / 2

namespace ManagedProcess

/-- `running`. -/
def running : Child ManagedProcess Bool := do
  let m ← get
  match m.process with
  | some child => do
    let returncode ← Child.returncode child
    pure returncode.isNone
  | none => pure false

/-- The next start waits for the restart backoff, which doubles up to 30 s. -/
def backoff (now : ℚ) (m : ManagedProcess) : ManagedProcess :=
  { m with nextRetryAt := now + m.retrySeconds, retrySeconds := min (m.retrySeconds * 2) 30 }

/-- A recorded child that is not running has exited. -/
def forgetExited : Child ManagedProcess Unit := do
  let m ← get
  match m.process with
  | some child => do
    let returncode ← Child.returncode child
    Child.emit (.exited m.spec.name returncode)
    modify ({ · with process := none })
    let now ← Child.monotonic
    modify (backoff now)
  | none => pure ()

/-- The launch of `start`: a child that comes up ends the wait, another failure doubles it. -/
def launch (owner : Loopback) : Child ManagedProcess Unit := do
  let m ← get
  let result ← Child.launch owner m.spec.argv
  match result with
  | .ok child => do
    modify ({ · with process := some child, nextRetryAt := 0, retrySeconds := 1 / 2 })
    Child.emit (.started m.spec.name)
  | .error error => do
    let now ← Child.monotonic
    modify (backoff now)
    Child.emit (.startFailed m.spec.name error)
    throw error

/-- `start`: nothing while a child runs, and no launch before the wait is over. -/
def start (owner : Loopback) : Child ManagedProcess Unit := do
  if ← running then pure ()
  else do
    forgetExited
    let m ← get
    let now ← Child.monotonic
    if now < m.nextRetryAt then throw (m.spec.name ++ " unavailable; restart backoff active")
    else launch owner

/-- `stop`: `terminate`, and `kill` for a child that does not end. -/
def stop : Child ManagedProcess Unit := do
  let m ← get
  match m.process with
  | some child => do
    Child.terminateOrKill child m.spec.stopTimeoutSeconds (some (.killed m.spec.name))
    let returncode ← Child.returncode child
    Child.emit (.stopped m.spec.name returncode)
    modify ({ · with process := none, nextRetryAt := 0, retrySeconds := 1 / 2 })
  | none => pure ()

end ManagedProcess

/-! ## `TimestampedLocalPlayback` -/

/-- `TimestampedLocalPlayback`: its child and its pump. -/
structure TimestampedLocalPlayback where
  process : Option PlaybackProcess := none
  pumpTask : Bool := false

namespace TimestampedLocalPlayback

/-- `running`: the child has not exited and the pump is at work. -/
def running : Child TimestampedLocalPlayback Bool := do
  let t ← get
  match t.process with
  | some process => do
    let returncode ← Child.returncode process.child
    if returncode.isNone && t.pumpTask then do
      let done ← Child.pumpDone
      pure !done
    else pure false
  | none => pure false

/-- The child of a stopped output loses its input, and ends. -/
def endProcess (process : Option PlaybackProcess) : Child TimestampedLocalPlayback Unit :=
  match process with
  | some process => do
    when process.stdin (Child.closeStdin process.child)
    Child.terminateOrKill process.child 3 none
    let returncode ← Child.returncode process.child
    Child.emit (.stopped "timestamped_bluetooth_playback" returncode)
  | none => pure ()

/-- `stop`: the pump first, then the child. -/
def stop : Child TimestampedLocalPlayback Unit := do
  let t ← get
  modify ({ · with pumpTask := false })
  when t.pumpTask Child.cancelPump
  modify ({ · with process := none })
  endProcess t.process

/-- The launch of `start`; a child without a standard input is dropped. -/
def launch (owner : Loopback) : Child TimestampedLocalPlayback Unit := do
  let result ← Child.processFactory owner
  match result with
  | .ok process =>
    if process.stdin then do
      modify fun _ => { process := some process, pumpTask := true }
      Child.emit (.started "timestamped_bluetooth_playback")
    else do
      modify ({ · with process := none })
      throw "local playback process has no PCM input"
  | .error error => throw error

/-- `start`: nothing while child and pump run. -/
def start (owner : Loopback) : Child TimestampedLocalPlayback Unit := do
  if ← running then pure ()
  else do
    let t ← get
    -- a dead or stalled output is replaced, not abandoned
    when (t.pumpTask || t.process.isSome) stop
    launch owner

end TimestampedLocalPlayback

/-! ## What the owners do to the children -/

/-- The children after some of them have exited. -/
structure Shrinks (w w' : Children) : Prop where
  count : w'.count = w.count
  owner : w'.owner = w.owner
  alive : ∀ i, w'.alive i = true → w.alive i = true

theorem Shrinks.refl (w : Children) : Shrinks w w := ⟨rfl, rfl, fun _ h => h⟩

/-- One exit after another. -/
theorem Shrinks.trans {w w₁ w₂ : Children} (h : Shrinks w w₁) (h' : Shrinks w₁ w₂) :
    Shrinks w w₂ :=
  ⟨h'.count.trans h.count, h'.owner.trans h.owner, fun i hi => h.alive i (h'.alive i hi)⟩

theorem Shrinks.dead {w w' : Children} (h : Shrinks w w') {i : Nat} (hi : w.alive i = false) :
    w'.alive i = false := by
  by_contra hno
  rw [h.alive i (Bool.eq_true_of_not_eq_false hno)] at hi
  exact nomatch hi

/-- What the children do by themselves is to exit. -/
theorem Shrinks.drifts {w w' : Children} (h : childWorld.Drifts w w') : Shrinks w w' := by
  induction h with
  | refl => exact .refl w
  | move _ hd ih =>
    rename_i w₁ w₂ child _
    obtain rfl := Option.some.inj hd
    exact ih.trans ⟨rfl, rfl, fun i hi => (Children.exit_alive.mp hi).2⟩

/-- At most one child is alive, and it has been launched. -/
structure Exclusive (w : Children) : Prop where
  launched : ∀ i, w.alive i = true → i < w.count
  unique : ∀ i j, w.alive i = true → w.alive j = true → i = j

theorem Exclusive.shrinks {w w' : Children} (h : Exclusive w) (hs : Shrinks w w') : Exclusive w' where
  launched i hi := by
    rw [hs.count]
    exact h.launched i (hs.alive i hi)
  unique i j hi hj := h.unique i j (hs.alive i hi) (hs.alive j hj)

/-- No child is alive but the one that this owner has recorded. -/
def Holds (owner : Loopback) (process : Option Nat) (w : Children) : Prop :=
  ∀ i, w.alive i = true → w.owner i = owner ∧ process = some i

theorem Holds.shrinks {owner : Loopback} {process : Option Nat} {w w' : Children}
    (h : Holds owner process w) (hs : Shrinks w w') : Holds owner process w' := fun i hi => by
  rw [hs.owner]
  exact h i (hs.alive i hi)

/-- No child is alive. -/
def Silent (w : Children) : Prop := ∀ i, w.alive i = false

/-- Nobody alive, nothing to hold. -/
theorem Silent.holds {owner : Loopback} {process : Option Nat} {w : Children} (h : Silent w) :
    Holds owner process w := fun i hi => nomatch (h i).symm.trans hi

theorem Silent.exclusive {w : Children} (h : Silent w) : Exclusive w where
  launched i hi := nomatch (h i).symm.trans hi
  unique i _ hi _ := nomatch (h i).symm.trans hi

/-- An owner of a dead child is surrounded by silence. -/
theorem Holds.silent {owner : Loopback} {process : Option Nat} {w : Children}
    (h : Holds owner process w) (hdead : ∀ child, process = some child → w.alive child = false) :
    Silent w := fun i => by
  by_contra hno
  have hi := Bool.eq_true_of_not_eq_false hno
  rw [hdead i (h i hi).2] at hi
  exact nomatch hi

/-- After a launch into silence the new child is the only one. -/
theorem Silent.born {w : Children} (h : Silent w) (owner : Loopback) :
    Holds owner (some w.count) (w.born owner) ∧ Exclusive (w.born owner) := by
  have honly : ∀ i, (w.born owner).alive i = true → i = w.count := by
    intro i hi
    rcases Children.born_alive.mp hi with hnew | hold
    · exact hnew
    · exact nomatch (h i).symm.trans hold
  refine ⟨fun i hi => ?_, fun i hi => ?_, fun i j hi hj => (honly i hi).trans (honly j hj).symm⟩
  · rw [honly i hi]
    exact ⟨Function.update_self _ _ _, rfl⟩
  · rw [honly i hi]
    exact Nat.lt_succ_self _

/-! ## Rules for the children's world -/

/-- A child that `process_factory` returns has a standard input: what the default `_start_aplay`
    returns, which asks for a pipe, and what is asked of any other factory. -/
def hasInput : (q : ProcReq) → ProcRep q → Bool
  | .processFactory _, .ok process => process.stdin
  | _, _ => true

/-- The same, as a condition on answers. -/
abbrev HasInput (q : ProcReq) (a : ProcRep q) : Prop := hasInput q a = true

/-- Whatever happens, at most one child is alive, and the program ends with `Q`. -/
abbrev Keeps {σ α : Type} (p : Child σ α) (Q : Except String α → σ → Children → Prop) (s : σ)
    (w : Children) : Prop :=
  p.Safe childWorld HasInput Exclusive Q s w

section Rules

variable {σ β : Type} {s : σ} {w : Children} {Q : Except String β → σ → Children → Prop}

/-- A program that has ended. -/
theorem keeps_pure {r : Except String β} (h : ∀ w', Shrinks w w' → Q r s w') :
    Keeps (.done r) Q s w := fun w' hw' => h w' (.drifts hw')

/-- A change of the owner's own fields. -/
theorem keeps_modify {f : σ → σ} {Q : Except String Unit → σ → Children → Prop}
    (h : ∀ w', Shrinks w w' → Q (.ok ()) (f s) w') : Keeps (modify f) Q s w :=
  fun w' hw' => h w' (.drifts hw')

/-- A request that launches nothing: the answer may tell that a child is dead. -/
theorem keeps_ask {q : ProcReq} {f : ProcRep q → Child σ β} (hq : ∀ a, launched q a = none)
    (hw : Exclusive w)
    (hf : ∀ a w', Shrinks w w' → (∀ child, reportsDead q a = some child → w'.alive child = false) →
      Keeps (f a) Q s w') : Keeps (ask q >>= f) Q s w := by
  intro w₁ h₁ a w₂ _ hans
  have hshrinks := Shrinks.drifts h₁
  simp only [childWorld, hq a] at hans
  split at hans
  · exact nomatch hans
  · rename_i hdead
    obtain rfl := Option.some.inj hans
    refine ⟨hw.shrinks hshrinks, hf a w₁ hshrinks fun child hchild => ?_⟩
    rw [hchild, Option.any_some] at hdead
    exact Bool.eq_false_of_not_eq_true hdead

/-- A launch into silence. -/
theorem keeps_launch {q : ProcReq} {f : ProcRep q → Child σ β} (hw : Silent w)
    (hf : ∀ a w', HasInput q a → (launched q a = none → Silent w') →
      (∀ owner child, launched q a = some (owner, child) → Holds owner (some child) w') →
      Exclusive w' → Keeps (f a) Q s w') : Keeps (ask q >>= f) Q s w := by
  intro w₁ h₁ a w₂ ha hans
  have hsilent : Silent w₁ := fun i => (Shrinks.drifts h₁).dead (hw i)
  simp only [childWorld] at hans
  split at hans
  · rename_i owner child hlaunched
    split at hans
    · rename_i hchild
      obtain rfl := Option.some.inj hans
      obtain ⟨hholds, hexclusive⟩ := hsilent.born owner
      refine ⟨hexclusive, hf a _ ha (fun hno => nomatch hlaunched.symm.trans hno) ?_ hexclusive⟩
      intro owner' child' hl
      obtain ⟨rfl, rfl⟩ := Prod.mk.inj (Option.some.inj (hlaunched.symm.trans hl))
      rw [hchild]
      exact hholds
    · exact nomatch hans
  · rename_i hnone
    split at hans
    · exact nomatch hans
    · obtain rfl := Option.some.inj hans
      exact ⟨hsilent.exclusive, hf a w₁ ha (fun _ => hsilent)
        (fun owner child hl => nomatch hnone.symm.trans hl) hsilent.exclusive⟩

end Rules

/-! ## Stops and starts -/

/-- **Terminate, wait, kill**: the child is dead at the end, and no other one was born. -/
theorem Child.terminateOrKill_keeps {σ : Type} {s : σ} {w : Children} (hw : Exclusive w)
    (child : Nat) (timeout : ℚ) (killed : Option ProcessEvent) :
    Keeps (Child.terminateOrKill child timeout killed)
      (fun r s' w' => r = .ok () ∧ s' = s ∧ Shrinks w w' ∧ w'.alive child = false) s w := by
  refine keeps_ask (fun _ => rfl) hw fun returncode w₁ h₁ hdead₁ => ?_
  cases returncode with
  | some code =>
    -- it has exited already
    exact keeps_pure fun w' hw' => ⟨rfl, rfl, h₁.trans hw', hw'.dead (hdead₁ child rfl)⟩
  | none =>
    refine keeps_ask (fun _ => rfl) (hw.shrinks h₁) fun _ w₂ h₂ _ => ?_
    have h₂ := h₁.trans h₂
    refine keeps_ask (fun _ => rfl) (hw.shrinks h₂) fun exited w₃ h₃ hdead₃ => ?_
    have h₃ := h₂.trans h₃
    cases exited with
    | true =>
      exact keeps_pure fun w' hw' => ⟨rfl, rfl, h₃.trans hw', hw'.dead (hdead₃ child rfl)⟩
    | false =>
      -- it ignores `terminate`
      refine keeps_ask (fun _ => rfl) (hw.shrinks h₃) fun _ w₄ h₄ _ => ?_
      have h₄ := h₃.trans h₄
      refine keeps_ask (fun _ => rfl) (hw.shrinks h₄) fun _ w₅ h₅ hdead₅ => ?_
      have h₅ := h₄.trans h₅
      have hend : ∀ w', Shrinks w₅ w' →
          (Except.ok () : Except String Unit) = .ok () ∧ s = s ∧ Shrinks w w' ∧
            w'.alive child = false :=
        fun w' hw' => ⟨rfl, rfl, h₅.trans hw', hw'.dead (hdead₅ child rfl)⟩
      cases killed with
      | none => exact keeps_pure hend
      | some event =>
        exact keeps_ask (fun _ => rfl) (hw.shrinks h₅) fun _ w₆ h₆ _ =>
          keeps_pure fun w' hw' => hend w' (h₆.trans hw')

namespace ManagedProcess

variable {m : ManagedProcess} {w : Children}

/-- A stop returns and leaves the owner without a child, its child dead; it launches none. -/
theorem stop_safe (hw : Exclusive w) :
    Keeps stop (fun r m' w' => r = .ok () ∧ m'.process = none ∧ Shrinks w w' ∧
      ∀ child, m.process = some child → w'.alive child = false) m w := by
  unfold stop
  refine safe_get_bind ?_
  cases hm : m.process with
  | none => exact keeps_pure fun w' hw' => ⟨rfl, hm, hw', fun _ h => nomatch h⟩
  | some child =>
    refine Safe.bind (Child.terminateOrKill_keeps hw child _ _) ?_ fun _ _ _ h => nomatch h.1
    rintro _ m₁ w₁ ⟨-, rfl, h₁, hdead⟩
    refine keeps_ask (fun _ => rfl) (hw.shrinks h₁) fun _ w₂ h₂ _ => ?_
    have h₂' := h₁.trans h₂
    refine keeps_ask (fun _ => rfl) (hw.shrinks h₂') fun _ w₃ h₃ _ => ?_
    refine keeps_modify fun w' hw' => ⟨rfl, rfl, (h₂'.trans h₃).trans hw', fun c hc => ?_⟩
    obtain rfl := Option.some.inj hc
    exact hw'.dead (h₃.dead (h₂.dead hdead))

/-- `running` tells the truth: without it the child is dead. -/
theorem running_safe (hw : Exclusive w) :
    Keeps running (fun r m' w' => m' = m ∧ Shrinks w w' ∧ ∃ b, r = .ok b ∧
      (b = false → ∀ child, m.process = some child → w'.alive child = false)) m w := by
  unfold running
  refine safe_get_bind ?_
  cases hm : m.process with
  | none => exact keeps_pure fun w' hw' => ⟨rfl, hw', false, rfl, fun _ _ h => nomatch h⟩
  | some child =>
    refine keeps_ask (fun _ => rfl) hw fun returncode w₁ h₁ hdead => ?_
    refine keeps_pure fun w' hw' => ⟨rfl, h₁.trans hw', returncode.isNone, rfl, fun hb c hc => ?_⟩
    obtain rfl := Option.some.inj hc
    cases returncode with
    | none => exact nomatch hb
    | some code => exact hw'.dead (hdead child rfl)

/-- An exited child is forgotten. -/
theorem forgetExited_safe (hw : Silent w) :
    Keeps forgetExited (fun r _ w' => r = .ok () ∧ Silent w') m w := by
  unfold forgetExited
  refine safe_get_bind ?_
  cases m.process with
  | none => exact keeps_pure fun w' hw' => ⟨rfl, fun i => hw'.dead (hw i)⟩
  | some child =>
    refine keeps_ask (fun _ => rfl) hw.exclusive fun _ w₁ h₁ _ => ?_
    refine keeps_ask (fun _ => rfl) (hw.exclusive.shrinks h₁) fun _ w₂ h₂ _ => ?_
    have h₂ := h₁.trans h₂
    refine keeps_ask (fun _ => rfl) (hw.exclusive.shrinks h₂) fun _ w₃ h₃ _ => ?_
    have h₃ := h₂.trans h₃
    exact keeps_modify fun w' hw' => ⟨rfl, fun i => (h₃.trans hw').dead (hw i)⟩

/-- A launch into silence leaves one child at most, which the owner remembers. -/
theorem launch_safe (owner : Loopback) (hw : Silent w) :
    Keeps (launch owner) (fun _ m' w' => Holds owner m'.process w') m w := by
  refine keeps_launch (q := .launch owner m.spec.argv) hw fun result w₁ _ hsilent hborn hw₁ => ?_
  cases result with
  | error error =>
    have hsilent := hsilent rfl
    refine keeps_ask (fun _ => rfl) hw₁ fun _ w₂ h₂ _ => ?_
    refine keeps_ask (fun _ => rfl) (hw₁.shrinks h₂) fun _ w₃ h₃ _ => ?_
    exact keeps_pure fun w' hw' =>
      Silent.holds fun i => ((h₂.trans h₃).trans hw').dead (hsilent i)
  | ok child =>
    refine keeps_ask (fun _ => rfl) hw₁ fun _ w₂ h₂ _ => ?_
    exact keeps_pure fun w' hw' => (hborn owner child rfl).shrinks (h₂.trans hw')

/-- **A start** of the owner of the only child there may be. -/
theorem start_safe (owner : Loopback) (hw : Exclusive w) (hholds : Holds owner m.process w) :
    Keeps (start owner) (fun _ m' w' => Holds owner m'.process w') m w := by
  refine Safe.bind (running_safe hw) ?_ fun _ _ _ h => by obtain ⟨-, -, b, hb, -⟩ := h; exact nomatch hb
  rintro b _ w₁ ⟨rfl, h₁, _, hb, hdead⟩
  obtain rfl := Except.ok.inj hb
  cases b with
  | true => exact keeps_pure fun w' hw' => hholds.shrinks (h₁.trans hw')
  | false =>
    have hsilent : Silent w₁ := (hholds.shrinks h₁).silent (hdead rfl)
    refine Safe.bind (forgetExited_safe hsilent) ?_ fun _ _ _ h => nomatch h.1
    rintro _ m₁ w₂ ⟨-, hw₂⟩
    refine keeps_ask (fun _ => rfl) hw₂.exclusive fun now w₃ h₃ _ => ?_
    have hw₃ : Silent w₃ := fun i => h₃.dead (hw₂ i)
    show Keeps (if now < m₁.nextRetryAt then _ else _) _ m₁ w₃
    split
    · exact keeps_pure fun w' hw' => Silent.holds fun i => hw'.dead (hw₃ i)
    · exact launch_safe owner hw₃

end ManagedProcess

namespace TimestampedLocalPlayback

variable {t : TimestampedLocalPlayback} {w : Children}

/-- The name of the recorded child. -/
def child (t : TimestampedLocalPlayback) : Option Nat := t.process.map PlaybackProcess.child

/-- The end of a child: it is dead afterwards. -/
theorem endProcess_safe (hw : Exclusive w) (process : Option PlaybackProcess) :
    Keeps (endProcess process) (fun r t' w' => r = .ok () ∧ t' = t ∧ Shrinks w w' ∧
      ∀ p, process = some p → w'.alive p.child = false) t w := by
  cases process with
  | none => exact keeps_pure fun w' hw' => ⟨rfl, rfl, hw', fun _ h => nomatch h⟩
  | some process =>
    have hend : ∀ w₁, Shrinks w w₁ →
        Keeps (do
          Child.terminateOrKill process.child 3 none
          let returncode ← Child.returncode process.child
          Child.emit (.stopped "timestamped_bluetooth_playback" returncode))
        (fun r t' w' => r = .ok () ∧ t' = t ∧ Shrinks w w' ∧
          ∀ p, some process = some p → w'.alive p.child = false) t w₁ := by
      intro w₁ h₁
      refine Safe.bind (Child.terminateOrKill_keeps (hw.shrinks h₁) _ _ _) ?_
        fun _ _ _ h => nomatch h.1
      rintro _ _ w₂ ⟨-, rfl, h₂, hdead⟩
      have hw₂ := (hw.shrinks h₁).shrinks h₂
      refine keeps_ask (fun _ => rfl) hw₂ fun _ w₃ h₃ _ => ?_
      refine keeps_ask (fun _ => rfl) (hw₂.shrinks h₃) fun _ w₄ h₄ _ => ?_
      have h₄ := h₃.trans h₄
      refine keeps_pure fun w' hw' =>
        ⟨rfl, rfl, ((h₁.trans h₂).trans h₄).trans hw', fun p hp => ?_⟩
      obtain rfl := Option.some.inj hp
      exact hw'.dead (h₄.dead hdead)
    exact safe_when_bind
      (fun _ => keeps_ask (q := .closeStdin process.child) (fun _ => rfl) hw
        fun _ w₁ h₁ _ => hend w₁ h₁)
      fun _ => hend w (.refl w)

/-- A stop returns, and the child is dead. -/
theorem stop_safe (hw : Exclusive w) :
    Keeps stop (fun r t' w' => r = .ok () ∧ t'.process = none ∧ Shrinks w w' ∧
      ∀ p, t.process = some p → w'.alive p.child = false) t w := by
  have hend : ∀ w₁, Shrinks w w₁ →
      Keeps (endProcess t.process) (fun r t' w' => r = .ok () ∧ t'.process = none ∧ Shrinks w w' ∧
        ∀ p, t.process = some p → w'.alive p.child = false) { t with pumpTask := false, process := none } w₁ := by
    intro w₁ h₁
    refine (endProcess_safe (hw.shrinks h₁) t.process).mono ?_
    rintro r _ w' ⟨hr, rfl, h', hdead⟩
    exact ⟨hr, rfl, h₁.trans h', hdead⟩
  exact safe_when_bind
    (fun _ => keeps_ask (q := .cancelPump) (fun _ => rfl) hw fun _ w₁ h₁ _ => hend w₁ h₁)
    fun _ => hend w (.refl w)

/-- `running` launches nothing. -/
theorem running_safe (hw : Exclusive w) :
    Keeps running (fun r t' w' => t' = t ∧ Shrinks w w' ∧ ∃ b, r = .ok b) t w := by
  unfold running
  refine safe_get_bind ?_
  cases t.process with
  | none => exact keeps_pure fun w' hw' => ⟨rfl, hw', false, rfl⟩
  | some process =>
    refine keeps_ask (fun _ => rfl) hw fun returncode w₁ h₁ _ => ?_
    show Keeps (if _ then _ else _) _ t w₁
    split
    · refine keeps_ask (fun _ => rfl) (hw.shrinks h₁) fun done w₂ h₂ _ => ?_
      exact keeps_pure fun w' hw' => ⟨rfl, (h₁.trans h₂).trans hw', _, rfl⟩
    · exact keeps_pure fun w' hw' => ⟨rfl, h₁.trans hw', false, rfl⟩

/-- A launch into silence leaves one child at most, which the playback remembers. -/
theorem launch_safe (owner : Loopback) (hw : Silent w) :
    Keeps (launch owner) (fun _ t' w' => Holds owner t'.child w') t w := by
  refine keeps_launch (q := .processFactory owner) hw fun result w₁ hinput hsilent hborn hw₁ => ?_
  cases result with
  | error error => exact keeps_pure fun w' hw' => Silent.holds fun i => hw'.dead (hsilent rfl i)
  | ok process =>
    have hstdin : process.stdin = true := hinput
    show Keeps (if process.stdin then _ else _) _ t w₁
    rw [if_pos hstdin]
    refine keeps_ask (fun _ => rfl) hw₁ fun _ w₂ h₂ _ => ?_
    exact keeps_pure fun w' hw' => (hborn owner process.child rfl).shrinks (h₂.trans hw')

/-- **A start** of the owner of the only child there may be: whatever is left of its last output
    is stopped first. -/
theorem start_safe (owner : Loopback) (hw : Exclusive w) (hholds : Holds owner t.child w) :
    Keeps (start owner) (fun _ t' w' => Holds owner t'.child w') t w := by
  refine Safe.bind (running_safe hw) ?_ fun _ _ _ h => by obtain ⟨-, -, b, hb⟩ := h; exact nomatch hb
  rintro b t₁ w₁ ⟨rfl, h₁, _, hb⟩
  obtain rfl := Except.ok.inj hb
  have hw₁ := hw.shrinks h₁
  have hholds₁ := hholds.shrinks h₁
  cases b with
  | true => exact keeps_pure fun w' hw' => hholds₁.shrinks hw'
  | false =>
    refine safe_when_bind (fun _ => ?_) fun hnothing => launch_safe owner (hholds₁.silent ?_)
    · refine Safe.bind (stop_safe hw₁) ?_ fun _ _ _ h => nomatch h.1
      rintro _ t₂ w₂ ⟨-, -, h₂, hdead⟩
      refine launch_safe owner ((hholds₁.shrinks h₂).silent fun child hchild => ?_)
      obtain ⟨p, hp, rfl⟩ := Option.map_eq_some_iff.mp hchild
      exact hdead p hp
    · -- nothing recorded, nothing alive
      intro child hchild
      obtain ⟨p, hp, -⟩ := Option.map_eq_some_iff.mp hchild
      simp [hp] at hnothing

end TimestampedLocalPlayback

end PhonoConsole
