/-
  THE PAIRING WINDOW IS TIME LIMITED, unless an `open_pairing` fails that nobody covers for.

  `open_pairing` sets the flag first and makes the close task last; the two commands in between may
  raise.  Then the flag stays set, and only a close task of an earlier call, or another call of
  `open_pairing` that is still in progress, can clear it in time.  The agent's prompts are
  answered from the flag at any later time, also those of another agent.

  The manager runs beside the time at which the latest `open_pairing` ended (`paired`).

  * `Guarded`  — the condition: a failing `open_pairing` is covered for, and a yes that has had to
    wait for the agent's input goes out while the window is still open;
  * `Timed`    — the invariant of the close tasks: `_pairing_task` is not cancelled, and closes
    the window within the window's seconds of the latest `open_pairing`; none is overdue;
  * `Covered`  — while the flag is set there is a close task, or an `open_pairing` in progress.

  Most moves do nothing to the window but close it (`Passes`).
-/
import PhonoConsole.Bluetooth
import Mathlib.Tactic.Linarith

namespace PhonoConsole

namespace BluetoothManager

/-! ## Calls of `open_pairing` -/

/-- The line is one that opens the window. -/
def Sending.opens : Sending → Bool
  | .pairableOn | .discoverableOn => true
  | _ => false

/-- The task is in `open_pairing`. -/
def Pc.opening : Pc → Bool
  | .writeLock _ (.command c) | .draining _ (.command c) => c.opens
  | _ => false

/-- Some `open_pairing` is in progress. -/
def Opening (s : BluetoothManager) : Prop :=
  ∃ n ∈ List.range s.nextTask, (s.pc (.call n)).opening = true

/-- Some `open_pairing` other than that of the task `t` is in progress. -/
def OpeningBeside (s : BluetoothManager) (t : TaskId) : Prop :=
  ∃ n ∈ List.range s.nextTask, TaskId.call n ≠ t ∧ (s.pc (.call n)).opening = true

/-- Whether the move ends an `open_pairing`: it returns, or it raises. -/
def openEnds (s : BluetoothManager) : Move → Option Bool
  | .openPairing => if s.agent.isSome then none else some false
  | .resume t .ok =>
    match s.pc t with
    | .draining _ (.command .pairableOn) => if s.agent.isSome then none else some false
    | .draining _ (.command .discoverableOn) => some true
    | _ => none
  | .resume t .raised =>
    match s.pc t with
    | .draining _ (.command c) => if c.opens then some false else none
    | _ => none
  | _ => none

/-- The time at which the latest `open_pairing` ended. -/
def recordOpened (s : BluetoothManager) (m : Move) (opened : Option ℚ) : Option ℚ :=
  if (s.openEnds m).isSome then some s.now else opened

/-- The manager beside the end of the latest `open_pairing`. -/
def paired : Machine (BluetoothManager × Option ℚ) Move := machine.recording none recordOpened

/-! ## The condition -/

/-- An `open_pairing` that raises leaves the flag cleared, a close task pending, or another
    `open_pairing` in progress; a yes that has waited for the write lock finds the flag set. -/
def Guarded (s : BluetoothManager) (m : Move) : Prop :=
  match m with
  | .openPairing => s.openEnds m = some false → s.pairingTask.isSome = true ∨ s.Opening
  | .resume t reply =>
    (s.openEnds m = some false →
      s.pairingActive = false ∨ s.pairingTask.isSome = true ∨ s.OpeningBeside t) ∧
    match s.pc t, reply with
    | .writeLock _ (.answer true), .ok => s.pairingActive = true
    | _, _ => True
  | _ => True

instance (s : BluetoothManager) : Decidable s.Opening := by
  unfold Opening
  exact inferInstance

instance (s : BluetoothManager) (t : TaskId) : Decidable (s.OpeningBeside t) := by
  unfold OpeningBeside
  exact inferInstance

instance (s : BluetoothManager) (m : Move) : Decidable (Guarded s m) := by
  unfold Guarded
  split
  · exact inferInstance
  · refine @instDecidableAnd _ _ inferInstance ?_
    split <;> exact inferInstance
  · exact inferInstance

/-! ## The invariant -/

/-- A close task that has not closed the window yet. -/
def Pc.sleeps : Pc → Bool
  | .timerNew | .timerSleeping _ => true
  | _ => false

/-- When the close task `n` closes the window. -/
def closesAt (s : BluetoothManager) (n : Nat) : Option ℚ :=
  match s.pc (.timer n) with
  | .timerNew => some (s.now + s.pairingWindowSeconds)
  | .timerSleeping due => some due
  | _ => none

/-- A close task is pending that closes the window at most the window's seconds after the end of
    the latest `open_pairing`, and it is not overdue. -/
def ClosesInTime (x : BluetoothManager × Option ℚ) : Prop :=
  ∃ opened n due, x.2 = some opened ∧ x.1.pairingTask = some n ∧
    x.1.cancelled (.timer n) = false ∧ x.1.closesAt n = some due ∧
    due ≤ opened + x.1.pairingWindowSeconds ∧ x.1.now ≤ due

/-- The timers of the window: the pending one is due in time, none is overdue. -/
structure Timed (s : BluetoothManager) (opened : Option ℚ) : Prop where
  pending : ∀ n, s.pairingTask = some n → s.cancelled (.timer n) = false ∧
    ∃ ended due, opened = some ended ∧ s.closesAt n = some due ∧ due ≤ ended + s.pairingWindowSeconds
  urgent : ∀ n due, s.cancelled (.timer n) = false → s.pc (.timer n) = .timerSleeping due →
    s.now ≤ due
  past : ∀ ended, opened = some ended → ended ≤ s.now
  fresh : ∀ n, s.nextTask ≤ n → s.pc (.call n) = .done ∧ s.pc (.timer n) = .done
  spared : ∀ n, s.cancelled (.call n) = false

/-- An active pairing has a close task, or is still being opened. -/
def Covered (s : BluetoothManager) : Prop :=
  s.pairingActive = true → s.pairingTask.isSome = true ∨ s.Opening

/-! ## What leaves the window alone -/

/-- From `s` to `q` only the task `t` has moved, and the window stays as it is or is closed. -/
structure Passes (s q : BluetoothManager) (t : TaskId) : Prop where
  calls : ∀ n, .call n ≠ t → q.pc (.call n) = s.pc (.call n)
  timers : ∀ n, .timer n ≠ t → q.pc (.timer n) = s.pc (.timer n)
  cancelled : ∀ n, q.cancelled (.timer n) = false → s.cancelled (.timer n) = false
  spared : ∀ n, q.cancelled (.call n) = s.cancelled (.call n)
  task : ∀ n, q.pairingTask = some n →
    s.pairingTask = some n ∧ q.cancelled (.timer n) = s.cancelled (.timer n)
  active : q.pairingActive = true → s.pairingActive = true ∧ q.pairingTask = s.pairingTask
  now : q.now = s.now
  window : q.pairingWindowSeconds = s.pairingWindowSeconds
  next : s.nextTask ≤ q.nextTask

/-- ... and the task `t` is not left as a pending close task. -/
structure Steps (s q : BluetoothManager) (t : TaskId) : Prop extends Passes s q t where
  own : (q.pc t).sleeps = false

section Passes

variable {s q r : BluetoothManager} {t : TaskId} {pc : Pc}

@[simp]
theorem suspend_pc (s : BluetoothManager) (t : TaskId) (pc : Pc) : (s.suspend t pc).pc t = pc :=
  Function.update_self ..

theorem cancel_self (s : BluetoothManager) (t : TaskId) : (s.cancel t).cancelled t = true :=
  Function.update_self ..

theorem cancel_of_ne (s : BluetoothManager) {u : TaskId} (h : u ≠ t) :
    (s.cancel t).cancelled u = s.cancelled u :=
  Function.update_of_ne h ..

/-- One part of a step after another. -/
theorem Passes.trans (h : Passes s r t) (h' : Passes r q t) : Passes s q t where
  calls n hn := (h'.calls n hn).trans (h.calls n hn)
  timers n hn := (h'.timers n hn).trans (h.timers n hn)
  cancelled n hn := h.cancelled n (h'.cancelled n hn)
  spared n := (h'.spared n).trans (h.spared n)
  task n hn := by
    obtain ⟨hr, hc⟩ := h'.task n hn
    obtain ⟨hs, hc'⟩ := h.task n hr
    exact ⟨hs, hc.trans hc'⟩
  active ha := by
    obtain ⟨hr, htask⟩ := h'.active ha
    obtain ⟨hs, htask'⟩ := h.active hr
    exact ⟨hs, htask.trans htask'⟩
  now := h'.now.trans h.now
  window := h'.window.trans h.window
  next := Nat.le_trans h.next h'.next

theorem Passes.steps (h : Passes s r t) (h' : Steps r q t) : Steps s q t :=
  ⟨h.trans h'.toPasses, h'.own⟩

/-- Nothing of the window, the calls and the close tasks has changed. -/
theorem Passes.of_eq (hpc : q.pc = s.pc) (hcancelled : q.cancelled = s.cancelled)
    (htask : q.pairingTask = s.pairingTask) (hactive : q.pairingActive = s.pairingActive)
    (hnow : q.now = s.now) (hwindow : q.pairingWindowSeconds = s.pairingWindowSeconds)
    (hnext : s.nextTask ≤ q.nextTask) : Passes s q t where
  calls _ _ := by rw [hpc]
  timers _ _ := by rw [hpc]
  cancelled _ h := by rwa [← hcancelled]
  spared _ := by rw [hcancelled]
  task _ h := ⟨htask ▸ h, by rw [hcancelled]⟩
  active h := ⟨hactive ▸ h, htask⟩
  now := hnow
  window := hwindow
  next := hnext

/-- The window has been closed. -/
theorem Passes.of_closed (hpc : q.pc = s.pc)
    (hcancelled : ∀ n, q.cancelled (.timer n) = false → s.cancelled (.timer n) = false)
    (hspared : ∀ n, q.cancelled (.call n) = s.cancelled (.call n))
    (htask : q.pairingTask = none ∨
      q.pairingTask = s.pairingTask ∧ ∀ n, q.cancelled (.timer n) = s.cancelled (.timer n))
    (hactive : q.pairingActive = false) (hnow : q.now = s.now)
    (hwindow : q.pairingWindowSeconds = s.pairingWindowSeconds) (hnext : s.nextTask ≤ q.nextTask) :
    Passes s q t where
  calls _ _ := by rw [hpc]
  timers _ _ := by rw [hpc]
  cancelled := hcancelled
  spared := hspared
  task n hn := by
    rcases htask with hnone | ⟨hsame, hc⟩
    · exact nomatch hnone.symm.trans hn
    · exact ⟨hsame ▸ hn, hc n⟩
  active h := nomatch hactive.symm.trans h
  now := hnow
  window := hwindow
  next := hnext

/-- A task that is suspended. -/
theorem suspend_passes (s : BluetoothManager) (t : TaskId) (pc : Pc) :
    Passes s (s.suspend t pc) t where
  calls _ hn := Function.update_of_ne hn ..
  timers _ hn := Function.update_of_ne hn ..
  cancelled _ h := h
  spared _ := rfl
  task _ h := ⟨h, rfl⟩
  active h := ⟨h, rfl⟩
  now := rfl
  window := rfl
  next := Nat.le_refl _

theorem suspend_steps (s : BluetoothManager) (t : TaskId) (hpc : pc.sleeps = false) :
    Steps s (s.suspend t pc) t :=
  ⟨suspend_passes s t pc, by rw [suspend_pc]; exact hpc⟩

theorem lock_steps {l : FifoLock TaskId} (hpc : pc.sleeps = false) :
    Steps s ({ s with writeLock := l }.suspend t pc) t :=
  Passes.steps (r := { s with writeLock := l })
    (.of_eq rfl rfl rfl rfl rfl rfl (Nat.le_refl _)) (suspend_steps _ t hpc)

/-- A cancelled task unwinds. -/
theorem unwind_steps (s : BluetoothManager) (t : TaskId) : Steps s (s.unwind t) t := by
  unfold unwind
  split
  · exact lock_steps rfl
  · exact lock_steps rfl
  · exact suspend_steps s t rfl

theorem write_steps (s : BluetoothManager) (t : TaskId) (p : Nat) (w : Write) :
    Steps s (s.write t p w) t := by
  refine Passes.steps (r := { s with stdin := s.stdin ++ [(p, w.line)] }) ?_ (suspend_steps _ t rfl)
  exact .of_eq rfl rfl rfl rfl rfl rfl (Nat.le_refl _)

/-- A write under the write lock. -/
theorem lockedWrite_steps (s : BluetoothManager) (t : TaskId) (p : Nat) (w : Write) :
    Steps s (s.lockedWrite t p w) t := by
  simp only [lockedWrite]
  split
  · exact Passes.steps (r := { s with writeLock := s.writeLock.acquire t })
      (.of_eq rfl rfl rfl rfl rfl rfl (Nat.le_refl _)) (write_steps _ t p w)
  · exact lock_steps rfl

theorem answerAgentPrompt_steps (s : BluetoothManager) (t : TaskId) (accepted : Bool) :
    Steps s (s.answerAgentPrompt t accepted) t := by
  unfold answerAgentPrompt
  split
  · exact lockedWrite_steps ..
  · exact suspend_steps s t rfl

theorem agentStopped_steps (s : BluetoothManager) (t : TaskId) (k : StopCaller) :
    Steps s (s.agentStopped t k) t := by
  cases k <;> exact suspend_steps s t rfl

theorem joinReader_steps (s : BluetoothManager) (t : TaskId) (k : StopCaller) :
    Steps s (s.joinReader t k) t := by
  unfold joinReader
  split
  · rename_i r _
    refine Passes.steps (r := { s with readerTask := none }.cancel (.reader r)) ?_
      (suspend_steps _ t rfl)
    exact {
      calls := fun _ _ => rfl
      timers := fun _ _ => rfl
      cancelled := fun n h => by simpa [cancel] using h
      spared := fun n => by simp [cancel]
      task := fun n h => ⟨h, by simp [cancel]⟩
      active := fun h => ⟨h, rfl⟩
      now := rfl
      window := rfl
      next := Nat.le_refl _ }
  · exact agentStopped_steps s t k

/-- The agent is stopped, the flag cleared. -/
theorem Passes.stopAgent (h : Passes s { r with process := none, pairingActive := false } t)
    (k : StopCaller) : Steps s (r.stopAgent t k) t := by
  simp only [BluetoothManager.stopAgent]
  split
  · exact h.steps (suspend_steps _ t rfl)
  · exact h.steps (joinReader_steps _ t k)

/-- The agent is stopped. -/
theorem stopAgent_steps (s : BluetoothManager) (t : TaskId) (k : StopCaller) :
    Steps s (s.stopAgent t k) t := by
  refine Passes.stopAgent (r := s) ?_ k
  exact .of_closed rfl (fun _ h => h) (fun _ => rfl) (.inr ⟨rfl, fun _ => rfl⟩) rfl rfl rfl
    (Nat.le_refl _)

theorem sendFailed_steps (s : BluetoothManager) (t : TaskId) (c : Sending) :
    Steps s (s.sendFailed t c) t := by
  cases c with
  | setup => exact stopAgent_steps s t .failed
  | _ => exact suspend_steps s t rfl

/-- A command is sent, or waits for the lock. -/
theorem send_steps (s : BluetoothManager) (t : TaskId) (c : Sending) : Steps s (s.send t c) t := by
  unfold send
  split
  · exact lockedWrite_steps ..
  · exact sendFailed_steps s t c

theorem setup_steps (s : BluetoothManager) (t : TaskId) (l : List (List String)) :
    Steps s (s.setup t l) t := by
  cases l with
  | nil => exact suspend_steps s t rfl
  | cons command rest => exact send_steps s t _

/-- A close task that is not cancelled now has not been before. -/
theorem cancel_monotone {u : TaskId} (h : (s.cancel u).cancelled t = false) :
    s.cancelled t = false := by
  by_cases htu : t = u
  · rw [htu] at h
    exact nomatch (cancel_self s u).symm.trans h
  · exact (cancel_of_ne s htu).symm.trans h

/-- The window is closed, with both commands. -/
theorem close_steps (s : BluetoothManager) (t : TaskId) : Steps s (s.close t) t := by
  unfold close
  split
  · rename_i n _
    refine Passes.stopAgent ?_ .closing
    exact .of_closed rfl (fun _ h => cancel_monotone (s := s) h)
      (fun _ => by simp [cancel]) (.inl rfl) rfl rfl rfl (Nat.le_refl _)
  · exact stopAgent_steps s t .closing

theorem closePairing_steps (s : BluetoothManager) (t : TaskId) : Steps s (s.closePairing t) t := by
  have hclosed : Passes s { s with pairingActive := false, pairingTask := none } t :=
    .of_closed rfl (fun _ h => h) (fun _ => rfl) (.inl rfl) rfl rfl rfl (Nat.le_refl _)
  simp only [closePairing]
  split
  · rename_i n _
    split
    · exact hclosed.steps (send_steps _ t _)
    · refine Passes.steps (r := { s with pairingActive := false, pairingTask := none }.cancel (.timer n))
        ?_ (send_steps _ t _)
      exact .of_closed rfl (fun _ h => cancel_monotone (s := s) h)
        (fun _ => by simp [cancel]) (.inl rfl) rfl rfl rfl (Nat.le_refl _)
  · exact hclosed.steps (send_steps _ t _)

/-- A closed window has no close task. -/
theorem closePairing_pairingTask (s : BluetoothManager) (t : TaskId) :
    (s.closePairing t).pairingTask = none := by
  have hnone {r : BluetoothManager} (hr : r.pairingTask = none) :
      (r.send t .discoverableOff).pairingTask = none := by
    refine Option.eq_none_iff_forall_ne_some.mpr fun n hn => ?_
    exact nomatch hr.symm.trans ((send_steps r t _).task n hn).1
  simp only [closePairing]
  split
  · split <;> exact hnone rfl
  · exact hnone rfl

end Passes

/-! ## What a resumed task does -/

/-- All that can come of a resumption. -/
inductive Resumed (s : BluetoothManager) (t : TaskId) : Reply → BluetoothManager → Prop
  | passes {reply : Reply} {q : BluetoothManager} (hsteps : Steps s q t)
      (hpc : s.cancelled t = true ∨ (s.pc t).sleeps = false ∨ q.pairingTask = none)
      (hopen : s.cancelled t = true ∨ ((s.pc t).opening = true → (q.pc t).opening = true ∨
        s.openEnds (.resume t reply) = some false)) : Resumed s t reply q
  | starts (hcancelled : s.cancelled t = false) (hpc : s.pc t = .timerNew) :
    Resumed s t .ok (s.suspend t (.timerSleeping (s.now + s.pairingWindowSeconds)))
  | opened {p : Nat} (hpc : s.pc t = .draining p (.command .discoverableOn)) :
    Resumed s t .ok (s.releaseWriteLock.opened t)

section Resumed

variable {s q : BluetoothManager} {t : TaskId} {reply : Reply} {last : Option ℚ}

/-- A task that is neither a pending close task nor in `open_pairing` goes on. -/
theorem Resumed.of_pc {pc : Pc} (hsteps : Steps s q t) (hat : s.pc t = pc)
    (hsleeps : pc.sleeps = false) (hopening : pc.opening = false) : Resumed s t reply q := by
  refine .passes hsteps (.inr (.inl (hat ▸ hsleeps))) (.inr fun hyes => ?_)
  rw [hat, hopening] at hyes
  exact nomatch hyes

theorem release_steps (h : Steps s.releaseWriteLock q t) : Steps s q t :=
  Passes.steps (r := s.releaseWriteLock) (.of_eq rfl rfl rfl rfl rfl rfl (Nat.le_refl _)) h

/-- While an agent is running a command is on its way. -/
theorem send_opening {c : Sending} {p : Nat} (hagent : s.agent = some p) (hc : c.opens = true) :
    ((s.send t c).pc t).opening = true := by
  simp only [send, hagent, lockedWrite, write]
  split <;> simpa [Pc.opening] using hc

/-- A command of `open_pairing` or `close_pairing` has gone through. -/
theorem sent_resumed {p : Nat} {c : Sending} (hat : s.pc t = .draining p (.command c)) :
    Resumed s t .ok (s.releaseWriteLock.sent t c) := by
  cases c with
  | pairableOn =>
    refine .passes (release_steps (send_steps ..)) (.inr (.inl (by rw [hat]; rfl))) (.inr fun _ => ?_)
    cases hagent : s.agent with
    | some q => exact .inl (send_opening (s := s.releaseWriteLock) hagent rfl)
    | none =>
      refine .inr ?_
      simp [openEnds, hat, hagent]
  | discoverableOn => exact .opened hat
  | discoverableOff => exact .of_pc (release_steps (send_steps ..)) hat rfl rfl
  | pairableOff => exact .of_pc (release_steps (suspend_steps _ t rfl)) hat rfl rfl
  | setup command rest => exact .of_pc (release_steps (setup_steps ..)) hat rfl rfl

/-- A command has failed. -/
theorem sendFailed_resumed {p : Nat} {c : Sending} (hat : s.pc t = .draining p (.command c)) :
    Resumed s t .raised (s.releaseWriteLock.sendFailed t c) := by
  refine .passes (release_steps (sendFailed_steps ..)) (.inr (.inl (by rw [hat]; rfl)))
    (.inr fun hopening => .inr ?_)
  rw [hat] at hopening
  have hopens : c.opens = true := hopening
  simp [openEnds, hat, hopens]

/-- A new agent has been launched. -/
theorem launched_steps (s : BluetoothManager) (t : TaskId) :
    Steps s ({ s.spawn (.reader s.nextTask) .readerNew with
      process := some s.nextTask
      readerTask := some s.nextTask }.suspend t .awaitingReady) t := by
  refine Passes.steps (r := { s.spawn (.reader s.nextTask) .readerNew with
    process := some s.nextTask
    readerTask := some s.nextTask }) ?_ (suspend_steps _ t rfl)
  exact {
    calls := fun n _ => by simp [spawn]
    timers := fun n _ => by simp [spawn]
    cancelled := fun n h => by simpa [spawn] using h
    spared := fun n => by simp [spawn]
    task := fun n h => ⟨h, by simp [spawn]⟩
    active := fun h => ⟨h, rfl⟩
    now := rfl
    window := rfl
    next := Nat.le_succ _ }

/-- How a task that is not cancelled goes on from where it is suspended. -/
inductive Proceeded (s : BluetoothManager) (t : TaskId) : Pc → Reply → BluetoothManager → Prop
  | write (p : Nat) (w : Write) (h : s.writeLock.holder = some t) :
    Proceeded s t (.writeLock p w) .ok (s.write t p w)
  | sent (p : Nat) (c : Sending) :
    Proceeded s t (.draining p (.command c)) .ok (s.releaseWriteLock.sent t c)
  | sendFailed (p : Nat) (c : Sending) :
    Proceeded s t (.draining p (.command c)) .raised (s.releaseWriteLock.sendFailed t c)
  | answered (p : Nat) (a : Bool) :
    Proceeded s t (.draining p (.answer a)) .ok (s.releaseWriteLock.suspend t .reading)
  | answerFailed (p : Nat) (a : Bool) :
    Proceeded s t (.draining p (.answer a)) .raised (s.releaseWriteLock.suspend t .raised)
  | trusted : Proceeded s t .trusting .ok (s.suspend t .done)
  | trustFailed : Proceeded s t .trusting .raised (s.suspend t .raised)
  | timerBegin : Proceeded s t .timerNew .ok
    (s.suspend t (.timerSleeping (s.now + s.pairingWindowSeconds)))
  | timeout (due : ℚ) (h : due ≤ s.now) :
    Proceeded s t (.timerSleeping due) .ok (s.closePairing t)
  | readerBegin : Proceeded s t .readerNew .ok
    (s.suspend t (if s.process.isSome then .reading else .done))
  | readerEnd : Proceeded s t .reading .ok (s.suspend t .done)
  | chunk : Proceeded s t .reading .chunk (s.suspend t .reading)
  | prompt : Proceeded s t .reading .prompt (s.answerAgentPrompt t s.pairingActive)
  | launched : Proceeded s t .launching .ok
    ({ s.spawn (.reader s.nextTask) .readerNew with
      process := some s.nextTask
      readerTask := some s.nextTask }.suspend t .awaitingReady)
  | launchFailed : Proceeded s t .launching .raised (s.stopAgent t .failed)
  | readyFailed : Proceeded s t .awaitingReady .raised (s.stopAgent t .failed)
  | ready : Proceeded s t .awaitingReady .ok (s.setup t s.setupCommands)
  | exited (h : s.agent = none) : Proceeded s t .watching .ok (s.suspend t .pausing)
  | watchStopped : Proceeded s t .watching .stopped (s.suspend t .joiningMedia)
  | pauseStopped : Proceeded s t .pausing .stopped (s.suspend t .joiningMedia)
  | paused : Proceeded s t .pausing .ok (s.suspend t .launching)
  | mediaJoined : Proceeded s t .joiningMedia .ok (s.close t)
  | terminated (k : StopCaller) (p : Nat) (h : s.exited p = true) :
    Proceeded s t (.terminating k p) .ok (s.joinReader t k)
  | terminateFailed (k : StopCaller) (p : Nat) : Proceeded s t (.terminating k p) .raised
    (if s.exited p then s.joinReader t k else s.suspend t (.killing k p))
  | killed (k : StopCaller) (p : Nat) (h : s.exited p = true) :
    Proceeded s t (.killing k p) .ok (s.joinReader t k)
  | readerJoined (k : StopCaller) (r : Nat) (h : s.pc (.reader r) = .done) :
    Proceeded s t (.joiningReader k r) .ok (s.agentStopped t k)
  | readerRaised (k : StopCaller) (r : Nat) (h : s.pc (.reader r) = .raised) :
    Proceeded s t (.joiningReader k r) .raised (s.suspend t .raised)

/-- Every answer to a task that is not cancelled is one of these. -/
theorem proceed_cases (h : s.proceed t reply = some q) : Proceeded s t (s.pc t) reply q := by
  unfold proceed at h
  generalize s.pc t = pc at h ⊢
  split at h <;>
    simp only [Option.ite_none_right_eq_some, Option.some.injEq, reduceCtorEq] at h
  all_goals first
    | (subst h
       constructor)
    | (obtain ⟨h, rfl⟩ := h
       constructor
       exact h)

/-- A task that was not cancelled goes on. -/
theorem proceed_resumed (hc : s.cancelled t = false) (h : s.proceed t reply = some q) :
    Resumed s t reply q := by
  have hproceeded := proceed_cases h
  generalize hat : s.pc t = pc at hproceeded
  cases hproceeded with
  | write p w hlock =>
    refine .passes (write_steps s t p w) (.inr (.inl (by rw [hat]; rfl))) (.inr fun hopening => .inl ?_)
    rw [hat] at hopening
    simp only [BluetoothManager.write, suspend_pc]
    cases w <;> exact hopening
  | sent p c => exact sent_resumed hat
  | sendFailed p c => exact sendFailed_resumed hat
  | answered p a | answerFailed p a =>
    exact .of_pc (release_steps (suspend_steps _ t rfl)) hat rfl rfl
  | timerBegin => exact .starts hc hat
  | timeout due hdue =>
    refine .passes (closePairing_steps s t) (.inr (.inr (closePairing_pairingTask s t)))
      (.inr fun hopening => ?_)
    rw [hat] at hopening
    exact nomatch hopening
  | readerBegin =>
    refine .of_pc (suspend_steps s t ?_) hat rfl rfl
    split <;> rfl
  | prompt => exact .of_pc (answerAgentPrompt_steps s t _) hat rfl rfl
  | launched => exact .of_pc (launched_steps s t) hat rfl rfl
  | launchFailed | readyFailed => exact .of_pc (stopAgent_steps s t .failed) hat rfl rfl
  | ready => exact .of_pc (setup_steps s t _) hat rfl rfl
  | mediaJoined => exact .of_pc (close_steps s t) hat rfl rfl
  | terminated k p hexited | killed k p hexited =>
    exact .of_pc (joinReader_steps s t k) hat rfl rfl
  | terminateFailed k p =>
    split
    · exact .of_pc (joinReader_steps s t k) hat rfl rfl
    · exact .of_pc (suspend_steps s t rfl) hat rfl rfl
  | readerJoined k r hdone => exact .of_pc (agentStopped_steps s t k) hat rfl rfl
  | trusted | trustFailed | readerEnd | chunk | exited | watchStopped | pauseStopped | paused
  | readerRaised => exact .of_pc (suspend_steps s t rfl) hat rfl rfl

/-- A suspended task goes on. -/
theorem resume_resumed (h : s.resume t reply = some q) : Resumed s t reply q := by
  unfold resume at h
  split at h
  · rename_i hc
    split at h
    · cases h
      exact .passes (unwind_steps s t) (.inl hc) (.inl hc)
    · exact nomatch h
  · rename_i hc
    exact proceed_resumed (Bool.eq_false_iff.mpr hc) h

/-- Only a task that has not ended is resumed. -/
theorem resume_ne_done (h : s.resume t reply = some q) : s.pc t ≠ .done := by
  intro hdone
  unfold resume at h
  split at h
  · simp [hdone] at h
  · have hproceeded := proceed_cases h
    rw [hdone] at hproceeded
    cases hproceeded

/-! ## The close tasks -/

/-- The close task of the window is pending. -/
theorem Timed.sleeps (h : Timed s last) {n : Nat} (hn : s.pairingTask = some n) :
    (s.pc (.timer n)).sleeps = true := by
  obtain ⟨-, ended, due, -, hdue, -⟩ := h.pending n hn
  unfold closesAt at hdue
  split at hdue
  · rename_i hat
    rw [hat]
    rfl
  · rename_i hat
    rw [hat]
    rfl
  · exact nomatch hdue

/-- A later end of an `open_pairing` moves the limit. -/
theorem Timed.later (h : Timed s last) : Timed s (some s.now) where
  pending n hn := by
    obtain ⟨hc, ended, due, hopened, hdue, hle⟩ := h.pending n hn
    have hpast := h.past ended hopened
    exact ⟨hc, s.now, due, rfl, hdue, by linarith⟩
  urgent := h.urgent
  past _ hat := (Option.some.inj hat).symm.le
  fresh := h.fresh
  spared := h.spared

theorem closesAt_congr {n : Nat} (hpc : q.pc (.timer n) = s.pc (.timer n)) (hnow : q.now = s.now)
    (hwindow : q.pairingWindowSeconds = s.pairingWindowSeconds) : q.closesAt n = s.closesAt n := by
  simp only [closesAt, hpc, hnow, hwindow]

/-- The task has been created. -/
def TaskId.below (k : Nat) : TaskId → Prop
  | .call n | .timer n => n < k
  | .reader _ | .run => True

theorem Timed.below (h : Timed s last) (hpc : s.pc t ≠ .done) : t.below s.nextTask := by
  cases t with
  | call n => exact Nat.lt_of_not_le fun hn => hpc (h.fresh n hn).1
  | timer n => exact Nat.lt_of_not_le fun hn => hpc (h.fresh n hn).2
  | reader | run => trivial

/-- A step of a task keeps the timers of the window, unless it sleeps in one. -/
theorem Timed.steps (h : Timed s last) (hsteps : Steps s q t) (hbelow : t.below s.nextTask)
    (hpc : s.cancelled t = true ∨ (s.pc t).sleeps = false ∨ q.pairingTask = none) :
    Timed q last where
  pending n hn := by
    obtain ⟨hold, hsame⟩ := hsteps.task n hn
    obtain ⟨hc, ended, due, hopened, hdue, hle⟩ := h.pending n hold
    have ht : .timer n ≠ t := by
      rintro rfl
      rcases hpc with hyes | hawake | hnone
      · exact nomatch hc.symm.trans hyes
      · exact nomatch hawake.symm.trans (h.sleeps hold)
      · exact nomatch hnone.symm.trans hn
    refine ⟨hsame.trans hc, ended, due, hopened, ?_, hsteps.window ▸ hle⟩
    rw [closesAt_congr (hsteps.timers n ht) hsteps.now hsteps.window]
    exact hdue
  urgent n due hc hat := by
    by_cases ht : .timer n = t
    · have hown := hsteps.own
      rw [← ht, hat] at hown
      exact nomatch hown
    · rw [hsteps.timers n ht] at hat
      rw [hsteps.now]
      exact h.urgent n due (hsteps.cancelled n hc) hat
  past ended hat := hsteps.now ▸ h.past ended hat
  fresh n hn := by
    obtain ⟨hcall, htimer⟩ := h.fresh n (Nat.le_trans hsteps.next hn)
    have hlt := Nat.le_trans hsteps.next hn
    refine ⟨?_, ?_⟩
    · refine (hsteps.calls n ?_).trans hcall
      rintro rfl
      exact absurd hbelow (Nat.not_lt.mpr hlt)
    · refine (hsteps.timers n ?_).trans htimer
      rintro rfl
      exact absurd hbelow (Nat.not_lt.mpr hlt)
  spared n := (hsteps.spared n).trans (h.spared n)

/-- A close task begins to sleep. -/
theorem Timed.starts (h : Timed s last) (hat : s.pc t = .timerNew) :
    Timed (s.suspend t (.timerSleeping (s.now + s.pairingWindowSeconds))) last := by
  have hbelow : t.below s.nextTask := h.below (by rw [hat]; exact nofun)
  have hother {u : TaskId} (hu : u ≠ t) :
      (s.suspend t (.timerSleeping (s.now + s.pairingWindowSeconds))).pc u = s.pc u :=
    Function.update_of_ne hu ..
  refine ⟨?_, ?_, h.past, ?_, h.spared⟩
  · intro n hn
    obtain ⟨hc, ended, due, hopened, hdue, hle⟩ := h.pending n hn
    refine ⟨hc, ended, due, hopened, ?_, hle⟩
    by_cases ht : .timer n = t
    · subst ht
      rw [closesAt, hat] at hdue
      rw [closesAt, suspend_pc]
      exact hdue
    · exact (closesAt_congr (hother ht) rfl rfl).trans hdue
  · intro n due hc hn
    by_cases ht : .timer n = t
    · rw [ht, suspend_pc] at hn
      cases hn
      have hwindow : (0 : ℚ) ≤ s.pairingWindowSeconds := Nat.cast_nonneg _
      show s.now ≤ _
      linarith
    · exact h.urgent n due hc (hother ht ▸ hn)
  · intro n hn
    obtain ⟨hcall, htimer⟩ := h.fresh n hn
    refine ⟨(hother ?_).trans hcall, (hother ?_).trans htimer⟩
    · rintro rfl
      exact absurd hbelow (Nat.not_lt.mpr hn)
    · rintro rfl
      exact absurd hbelow (Nat.not_lt.mpr hn)

/-- What the end of `open_pairing` leaves of the cancellations. -/
theorem opened_eq (s : BluetoothManager) (t : TaskId) : ∃ cancelled : TaskId → Bool,
    (∀ n, cancelled (.call n) = s.cancelled (.call n)) ∧
    (∀ n, cancelled (.timer n) = false → s.cancelled (.timer n) = false) ∧
    s.opened t = { { s with cancelled := cancelled }.spawn (.timer s.nextTask) .timerNew with
      pairingTask := some s.nextTask }.suspend t .done := by
  simp only [BluetoothManager.opened]
  split
  · rename_i n _
    exact ⟨(s.cancel (.timer n)).cancelled, fun _ => by simp [cancel],
      fun _ h => cancel_monotone (s := s) h, rfl⟩
  · exact ⟨s.cancelled, fun _ => rfl, fun _ h => h, rfl⟩

/-- An `open_pairing` returns: the window has a new close task. -/
theorem Timed.opened (h : Timed s last) (hbelow : t.below s.nextTask) :
    Timed (s.opened t) (some s.now) := by
  obtain ⟨cancelled, hcalls, hold, heq⟩ := s.opened_eq t
  rw [heq]
  have ht : t ≠ .timer s.nextTask := by
    rintro rfl
    exact Nat.lt_irrefl _ hbelow
  -- all but the task itself and the new close task stay where they are
  have hother {u : TaskId} (hu : u ≠ t) (hnew : u ≠ .timer s.nextTask) :
      Function.update (Function.update s.pc (.timer s.nextTask) .timerNew) t .done u = s.pc u := by
    rw [Function.update_of_ne hu, Function.update_of_ne hnew]
  have hself : Function.update (Function.update s.pc (.timer s.nextTask) .timerNew) t .done
      (.timer s.nextTask) = .timerNew := by
    rw [Function.update_of_ne (Ne.symm ht), Function.update_self]
  refine ⟨?_, ?_, ?_, ?_, ?_⟩
  · intro n hn
    obtain rfl : s.nextTask = n := Option.some.inj hn
    refine ⟨Function.update_self .., s.now, s.now + s.pairingWindowSeconds, rfl, ?_, le_refl _⟩
    show (match Function.update (Function.update s.pc _ .timerNew) t .done (.timer s.nextTask) with
      | .timerNew => some (s.now + (s.pairingWindowSeconds : ℚ))
      | .timerSleeping due => some due
      | _ => none) = _
    rw [hself]
  · intro n due hc hat
    change Function.update cancelled _ false (.timer n) = false at hc
    change Function.update (Function.update s.pc _ .timerNew) t .done (.timer n) = _ at hat
    by_cases hn : n = s.nextTask
    · rw [hn, hself] at hat
      exact nomatch hat
    · have hnew : TaskId.timer n ≠ .timer s.nextTask := by
        rintro ⟨⟩
        exact hn rfl
      have hnt : TaskId.timer n ≠ t := by
        rintro rfl
        rw [Function.update_self] at hat
        exact nomatch hat
      rw [hother hnt hnew] at hat
      rw [Function.update_of_ne hnew] at hc
      exact h.urgent n due (hold n hc) hat
  · exact fun ended hat => (Option.some.inj hat).symm.le
  · intro n hn
    have hlt : s.nextTask < n := hn
    obtain ⟨hcall, htimer⟩ := h.fresh n hlt.le
    refine ⟨(hother (u := .call n) ?_ nofun).trans hcall,
      (hother (u := .timer n) ?_ ?_).trans htimer⟩
    · rintro rfl
      exact absurd hbelow (Nat.not_lt.mpr hlt.le)
    · rintro rfl
      exact absurd hbelow (Nat.not_lt.mpr hlt.le)
    · intro heq
      exact hlt.ne' (TaskId.timer.inj heq)
  · intro n
    show Function.update cancelled (.timer s.nextTask) false (.call n) = false
    simpa using (hcalls n).trans (h.spared n)

/-- Time goes on. -/
theorem Timed.tick (h : Timed s last) {d : ℚ} (hd : 0 ≤ d)
    (hwaits : ∀ n ∈ List.range s.nextTask, s.waits d n = true) :
    Timed { s with now := s.now + d } last where
  pending n hn := by
    obtain ⟨hc, ended, due, hopened, hdue, hle⟩ := h.pending n hn
    have hbelow : TaskId.below s.nextTask (.timer n) := h.below fun hdone => by
      have hsleeps := h.sleeps hn
      rw [hdone] at hsleeps
      exact nomatch hsleeps
    have hwait := hwaits n (List.mem_range.mpr hbelow)
    refine ⟨hc, ended, due, hopened, ?_, hle⟩
    unfold closesAt at hdue ⊢
    cases hat : s.pc (.timer n) with
    | timerNew => simp [waits, hc, hat] at hwait
    | _ =>
      rw [hat] at hdue
      exact hdue
  urgent n due hc hat := by
    change s.pc (.timer n) = _ at hat
    have hbelow : TaskId.below s.nextTask (.timer n) := h.below (by rw [hat]; exact nofun)
    have hwait := hwaits n (List.mem_range.mpr hbelow)
    have hclear : s.cancelled (.timer n) = false := hc
    simpa [waits, hclear, hat] using hwait
  past ended hat := by
    have hpast := h.past ended hat
    show ended ≤ s.now + d
    linarith
  fresh := h.fresh
  spared := h.spared

/-! ## The flag -/

/-- The flag stays covered, if the call that moves stays in `open_pairing` or is covered for. -/
theorem Covered.passes (h : Covered s) (hpasses : Passes s q t)
    (hopen : ∀ n, t = .call n → (s.pc t).opening = true → (q.pc t).opening = true ∨
      s.pairingActive = false ∨ s.pairingTask.isSome = true ∨ s.OpeningBeside t) : Covered q := by
  have hbeside : s.OpeningBeside t → q.Opening := by
    rintro ⟨n, hmem, hne, hn⟩
    have hlt := Nat.lt_of_lt_of_le (List.mem_range.mp hmem) hpasses.next
    exact ⟨n, List.mem_range.mpr hlt, (hpasses.calls n hne).symm ▸ hn⟩
  intro hactive
  obtain ⟨hbefore, htask⟩ := hpasses.active hactive
  rw [htask]
  rcases h hbefore with hsome | ⟨n, hmem, hn⟩
  · exact .inl hsome
  · by_cases ht : TaskId.call n = t
    · rcases hopen n ht.symm (ht ▸ hn) with hstill | hclosed | hsome | hother
      · have hlt := Nat.lt_of_lt_of_le (List.mem_range.mp hmem) hpasses.next
        exact .inr ⟨n, List.mem_range.mpr hlt, ht ▸ hstill⟩
      · exact nomatch hclosed.symm.trans hbefore
      · exact .inl hsome
      · exact .inr (hbeside hother)
    · exact .inr (hbeside ⟨n, hmem, ht, hn⟩)

theorem Covered.call (h : Covered s) : Covered s.call := by
  intro hactive
  refine (h hactive).imp id ?_
  rintro ⟨n, hmem, hn⟩
  exact ⟨n, List.mem_range.mpr (Nat.lt_succ_of_lt (List.mem_range.mp hmem)), hn⟩

theorem Timed.call (h : Timed s last) : Timed s.call last where
  pending := h.pending
  urgent := h.urgent
  past := h.past
  fresh n hn := h.fresh n (Nat.le_of_succ_le hn)
  spared := h.spared

/-! ## Runs -/

/-- Both parts of the invariant. -/
def Limited (x : BluetoothManager × Option ℚ) : Prop := Timed x.1 x.2 ∧ Covered x.1

/-- The record may have moved to the present. -/
theorem Timed.recorded {m : Move} (h : Timed q last) (hnow : q.now = s.now) :
    Timed q (recordOpened s m last) := by
  unfold recordOpened
  split
  · exact hnow ▸ h.later
  · exact h

/-- A task goes on: the window stays timed, and covered. -/
theorem resume_limited (ht : Timed s last) (hc : Covered s) (hok : Guarded s (.resume t reply))
    (h : s.resume t reply = some q) :
    Timed q (recordOpened s (.resume t reply) last) ∧ Covered q := by
  cases resume_resumed h with
  | passes hsteps hpc hopen =>
    have hbelow := ht.below (resume_ne_done h)
    refine ⟨(ht.steps hsteps hbelow hpc).recorded hsteps.now, hc.passes hsteps.toPasses ?_⟩
    rintro n rfl hopening
    rcases hopen with hcancelled | hopen
    · exact nomatch (ht.spared n).symm.trans hcancelled
    · rcases hopen hopening with hstill | hfails
      · exact .inl hstill
      · exact .inr (hok.1 hfails)
  | starts hcancelled hat =>
    have hnone : recordOpened s (.resume t .ok) last = last := by
      simp [recordOpened, openEnds, hat]
    rw [hnone]
    refine ⟨ht.starts hat, hc.passes (suspend_passes s t _) ?_⟩
    intro n _ hopening
    rw [hat] at hopening
    exact nomatch hopening
  | @opened p hat =>
    have hsome : recordOpened s (.resume t .ok) last = some s.now := by
      simp [recordOpened, openEnds, hat]
    rw [hsome]
    have hrelease : Timed s.releaseWriteLock last :=
      ⟨ht.pending, ht.urgent, ht.past, ht.fresh, ht.spared⟩
    refine ⟨hrelease.opened (ht.below (by rw [hat]; exact nofun)), fun _ => .inl ?_⟩
    obtain ⟨cancelled, -, -, heq⟩ := s.releaseWriteLock.opened_eq t
    rw [heq]
    rfl

/-- A call of `open_pairing` that the condition admits. -/
theorem openPairing_limited (ht : Timed s last) (hok : Guarded s .openPairing) :
    Timed (s.call.openPairing (.call s.nextTask)) (recordOpened s .openPairing last) ∧
      Covered (s.call.openPairing (.call s.nextTask)) := by
  have hsteps := send_steps { s.call with pairingActive := true } (.call s.nextTask) .pairableOn
  have hopened : Timed { s.call with pairingActive := true } last :=
    ⟨ht.call.pending, ht.call.urgent, ht.call.past, ht.call.fresh, ht.call.spared⟩
  have hnew : s.pc (.call s.nextTask) = .done := (ht.fresh s.nextTask (Nat.le_refl _)).1
  refine ⟨(hopened.steps hsteps (Nat.lt_succ_self _) (.inr (.inl ?_))).recorded hsteps.now, ?_⟩
  · show (s.pc (.call s.nextTask)).sleeps = false
    rw [hnew]
    rfl
  · intro hactive
    cases hagent : s.agent with
    | some p =>
      refine .inr ⟨s.nextTask, List.mem_range.mpr ?_, ?_⟩
      · exact Nat.lt_of_lt_of_le (Nat.lt_succ_self _) hsteps.next
      · exact send_opening (s := { s.call with pairingActive := true }) hagent rfl
    | none =>
      have hfails : s.openEnds .openPairing = some false := by simp [openEnds, hagent]
      rcases hok hfails with hsome | ⟨n, hmem, hn⟩
      · exact .inl ((hsteps.active hactive).2 ▸ hsome)
      · have hlt := List.mem_range.mp hmem
        refine .inr ⟨n, List.mem_range.mpr ?_, ?_⟩
        · exact Nat.lt_of_lt_of_le (Nat.lt_succ_of_lt hlt) hsteps.next
        · have hne : TaskId.call n ≠ .call s.nextTask := by
            intro heq
            exact hlt.ne (TaskId.call.inj heq)
          exact (hsteps.calls n hne).symm ▸ hn

/-- A call of `close_pairing`. -/
theorem closePairing_limited (ht : Timed s last) (hc : Covered s) :
    Timed (s.call.closePairing (.call s.nextTask)) last ∧
      Covered (s.call.closePairing (.call s.nextTask)) := by
  have hsteps := closePairing_steps s.call (.call s.nextTask)
  refine ⟨ht.call.steps hsteps (Nat.lt_succ_self _) (.inr (.inr (closePairing_pairingTask ..))),
    hc.call.passes hsteps.toPasses ?_⟩
  intro n _ hopening
  rw [show s.call.pc (.call s.nextTask) = .done from (ht.fresh s.nextTask (Nat.le_refl _)).1]
    at hopening
  exact nomatch hopening

/-! ## Answers -/

/-- At most a command has been written. -/
def NoAnswer (s q : BluetoothManager) : Prop :=
  q.stdin = s.stdin ∨ ∃ p words, q.stdin = s.stdin ++ [(p, .command words)]

/-- A step that writes no answer has not written one. -/
theorem NoAnswer.ne_answer {p : Nat} {accepted : Bool} (h : NoAnswer s q) :
    q.stdin ≠ s.stdin ++ [(p, .answer accepted)] := by
  intro hyes
  rcases h with hsame | ⟨p', words, hcommand⟩
  · have hlength := congrArg List.length (hsame.symm.trans hyes)
    simp at hlength
  · have hlast := List.append_cancel_left (hcommand.symm.trans hyes)
    simp at hlast

theorem joinReader_stdin (s : BluetoothManager) (t : TaskId) (k : StopCaller) :
    (s.joinReader t k).stdin = s.stdin := by
  unfold joinReader
  split
  · rfl
  · cases k <;> rfl

theorem stopAgent_stdin (s : BluetoothManager) (t : TaskId) (k : StopCaller) :
    (s.stopAgent t k).stdin = s.stdin := by
  simp only [stopAgent]
  split
  · rfl
  · exact joinReader_stdin _ t k

theorem close_stdin (s : BluetoothManager) (t : TaskId) : (s.close t).stdin = s.stdin := by
  unfold close
  split
  · exact stopAgent_stdin ..
  · exact stopAgent_stdin ..

theorem sendFailed_stdin (s : BluetoothManager) (t : TaskId) (c : Sending) :
    (s.sendFailed t c).stdin = s.stdin := by
  cases c with
  | setup => exact stopAgent_stdin ..
  | _ => rfl

/-- What goes through the write lock is written at once, or not yet. -/
theorem lockedWrite_stdin (s : BluetoothManager) (t : TaskId) (p : Nat) (w : Write) :
    (s.lockedWrite t p w).stdin = s.stdin ∨
      (s.lockedWrite t p w).stdin = s.stdin ++ [(p, w.line)] := by
  simp only [lockedWrite]
  split
  · exact .inr rfl
  · exact .inl rfl

/-- Sending writes a command at most. -/
theorem send_noAnswer (s : BluetoothManager) (t : TaskId) (c : Sending) :
    NoAnswer s (s.send t c) := by
  unfold send
  split
  · rename_i p _
    exact (lockedWrite_stdin s t p (.command c)).imp id fun h => ⟨p, c.words, h⟩
  · exact .inl (sendFailed_stdin s t c)

theorem setup_noAnswer (s : BluetoothManager) (t : TaskId) (l : List (List String)) :
    NoAnswer s (s.setup t l) := by
  cases l with
  | nil => exact .inl rfl
  | cons command rest => exact send_noAnswer s t _

theorem sent_noAnswer (s : BluetoothManager) (t : TaskId) (c : Sending) :
    NoAnswer s (s.sent t c) := by
  cases c with
  | discoverableOn =>
    obtain ⟨cancelled, -, -, heq⟩ := s.opened_eq t
    exact .inl (by rw [sent, heq]; rfl)
  | setup command rest => exact setup_noAnswer s t rest
  | pairableOff => exact .inl rfl
  | _ => exact send_noAnswer s t _

/-- Closing the window answers nobody. -/
theorem closePairing_noAnswer (s : BluetoothManager) (t : TaskId) :
    NoAnswer s (s.closePairing t) := by
  simp only [closePairing]
  split
  · split <;> exact send_noAnswer _ t _
  · exact send_noAnswer _ t _

/-- A yes is decided from the flag as it is written, or it has waited for the write lock. -/
theorem proceed_answers {p : Nat} (h : s.proceed t reply = some q)
    (hyes : q.stdin = s.stdin ++ [(p, .answer true)]) :
    s.pairingActive = true ∨ reply = .ok ∧ ∃ p', s.pc t = .writeLock p' (.answer true) := by
  have hproceeded := proceed_cases h
  generalize s.pc t = pc at hproceeded ⊢
  have hquiet (hr : NoAnswer s q) :
      s.pairingActive = true ∨ reply = .ok ∧ ∃ p', pc = .writeLock p' (.answer true) :=
    absurd hyes hr.ne_answer
  cases hproceeded with
  | write p' w hlock =>
    have hlast := List.append_cancel_left hyes
    cases w with
    | command c => simp [Write.line] at hlast
    | answer accepted =>
      have haccepted : p' = p ∧ accepted = true := by
        simpa [Write.line] using (List.cons.inj hlast).1
      exact .inr ⟨rfl, p', by rw [haccepted.2]⟩
  | prompt =>
    -- the prompt is read: the flag decides
    refine .inl ?_
    unfold answerAgentPrompt at hyes
    split at hyes
    · rename_i p' _
      rcases lockedWrite_stdin s t p' (.answer s.pairingActive) with hsame | hwritten
      · exact absurd hyes (NoAnswer.ne_answer (.inl hsame))
      · have hlast := List.append_cancel_left (hwritten.symm.trans hyes)
        have haccepted : p' = p ∧ s.pairingActive = true := by
          simpa [Write.line] using (List.cons.inj hlast).1
        exact haccepted.2
    · exact absurd hyes (NoAnswer.ne_answer (.inl rfl))
  | sent p' c => exact hquiet (sent_noAnswer s.releaseWriteLock t c)
  | sendFailed p' c => exact hquiet (.inl (sendFailed_stdin s.releaseWriteLock t c))
  | timeout => exact hquiet (closePairing_noAnswer s t)
  | launchFailed | readyFailed => exact hquiet (.inl (stopAgent_stdin s t .failed))
  | ready => exact hquiet (setup_noAnswer s t _)
  | mediaJoined => exact hquiet (.inl (close_stdin s t))
  | terminated k | killed k => exact hquiet (.inl (joinReader_stdin s t k))
  | terminateFailed k p' =>
    refine hquiet (.inl ?_)
    split
    · exact joinReader_stdin s t k
    · rfl
  | readerJoined k =>
    refine hquiet (.inl ?_)
    cases k <;> rfl
  | _ => exact hquiet (.inl rfl)

/-- A yes is decided from the flag as it is written, or it has waited for the write lock. -/
theorem next_answers {m : Move} {p : Nat} (h : s.next m = some q)
    (hyes : q.stdin = s.stdin ++ [(p, .answer true)]) :
    s.pairingActive = true ∨ ∃ t p', m = .resume t .ok ∧ s.pc t = .writeLock p' (.answer true) := by
  cases m with
  | tick d =>
    simp only [next] at h
    split at h
    · cases h
      exact absurd hyes (NoAnswer.ne_answer (.inl rfl))
    · exact nomatch h
  | openPairing =>
    cases h
    have hsend := send_noAnswer { s.call with pairingActive := true } (.call s.nextTask) .pairableOn
    exact absurd hyes (NoAnswer.ne_answer (s := s) hsend)
  | closePairing =>
    cases h
    exact absurd hyes (NoAnswer.ne_answer (s := s) (closePairing_noAnswer s.call _))
  | exit p' =>
    cases h
    exact absurd hyes (NoAnswer.ne_answer (.inl rfl))
  | resume t reply =>
    simp only [next, resume] at h
    split at h
    · split at h
      · cases h
        have hsame : (s.unwind t).stdin = s.stdin := by
          unfold unwind
          split <;> rfl
        exact absurd hyes (NoAnswer.ne_answer (.inl hsame))
      · exact nomatch h
    · refine (proceed_answers h hyes).imp id ?_
      rintro ⟨rfl, p', hat⟩
      exact ⟨t, p', rfl, hat⟩

/-- Every admitted move keeps the invariant. -/
theorem next_limited {x x' : BluetoothManager × Option ℚ} {m : Move} (h : Limited x)
    (hok : Guarded x.1 m) (hnext : paired.next x m = some x') : Limited x' := by
  obtain ⟨s, last⟩ := x
  obtain ⟨q, last'⟩ := x'
  obtain ⟨hmove, hrecord⟩ := Machine.recording_next hnext
  change last' = recordOpened s m last at hrecord
  change s.next m = some q at hmove
  obtain ⟨ht, hc⟩ := h
  subst hrecord
  cases m with
  | tick d =>
    simp only [next] at hmove
    split at hmove
    · rename_i hwaits
      cases hmove
      exact ⟨ht.tick hwaits.1 hwaits.2, hc⟩
    · exact nomatch hmove
  | openPairing =>
    cases hmove
    exact openPairing_limited ht hok
  | closePairing =>
    cases hmove
    exact closePairing_limited ht hc
  | exit p =>
    cases hmove
    exact ⟨⟨ht.pending, ht.urgent, ht.past, ht.fresh, ht.spared⟩, hc⟩
  | resume t reply => exact resume_limited ht hc hok hmove

/-- So it holds of every state reached. -/
theorem reach_limited {x : BluetoothManager × Option ℚ}
    (h : paired.Reach (fun x m => Guarded x.1 m) x) : Limited x := by
  refine h.invariant ?_ fun y m y' hy hok hnext => next_limited hy hok hnext
  rintro ⟨s, last⟩ ⟨⟨name, seconds, rfl⟩, rfl⟩
  refine ⟨⟨nofun, ?_, nofun, fun n _ => ⟨rfl, rfl⟩, fun n => rfl⟩, nofun⟩
  intro n due _ hat
  exact nomatch hat

/-- While the flag is set and no `open_pairing` is in progress, the window is about to close. -/
theorem Limited.closesInTime {x : BluetoothManager × Option ℚ} (h : Limited x)
    (hquiet : ¬ x.1.Opening) (hactive : x.1.pairingActive = true) : ClosesInTime x := by
  obtain ⟨ht, hc⟩ := h
  obtain ⟨n, hn⟩ := Option.isSome_iff_exists.mp ((hc hactive).resolve_right hquiet)
  obtain ⟨hclear, ended, due, hopened, hdue, hle⟩ := ht.pending n hn
  refine ⟨ended, n, due, hopened, hn, hclear, hdue, hle, ?_⟩
  unfold closesAt at hdue
  split at hdue
  · have hwindow : (0 : ℚ) ≤ x.1.pairingWindowSeconds := Nat.cast_nonneg _
    have hnow := Option.some.inj hdue
    linarith
  · rename_i due' hat
    exact Option.some.inj hdue ▸ ht.urgent n due' hclear hat
  · exact nomatch hdue

/-- **The pairing window is time limited**: while the flag is set and no `open_pairing` is in
    progress, a close task is pending that closes the window in time; and no yes is written to
    an agent later than that. -/
theorem pairing_limited {x : BluetoothManager × Option ℚ}
    (h : paired.Reach (fun x m => Guarded x.1 m) x) :
    (¬ x.1.Opening → x.1.pairingActive = true → ClosesInTime x) ∧
    ∀ m x' p, Guarded x.1 m → paired.next x m = some x' →
      x'.1.stdin = x.1.stdin ++ [(p, .answer true)] → ¬ x.1.Opening →
      ∃ ended, x.2 = some ended ∧ x.1.now ≤ ended + x.1.pairingWindowSeconds := by
  have hlimited := reach_limited h
  refine ⟨hlimited.closesInTime, ?_⟩
  intro m x' p hok hnext hyes hquiet
  have hactive : x.1.pairingActive = true := by
    rcases next_answers (Machine.recording_next hnext).1 hyes with hactive | ⟨t, p', rfl, hat⟩
    · exact hactive
    · simpa only [hat] using hok.2
  obtain ⟨ended, n, due, hopened, -, -, -, hle, hnow⟩ := hlimited.closesInTime hquiet hactive
  exact ⟨ended, hopened, by linarith⟩

end Resumed

/-! ## The example configuration -/

/-- The default window, and no agent yet. -/
def example120 : BluetoothManager := created "PhonoConsole" 120

theorem example120_paired : paired.init (example120, none) := ⟨⟨_, _, rfl⟩, rfl⟩

/-- `run` launches the agent `n` and sets it up. -/
def launches (n : Nat) : List Move :=
  .resume .run .ok :: .resume (.reader n) .ok :: List.replicate 6 (.resume .run .ok)

/-- The move writes a yes. -/
def AnswersYes (x : BluetoothManager × Option ℚ) (m : Move) : Prop :=
  (paired.next x m).any fun x' => x.1.process.any fun p =>
    x'.1.stdin = x.1.stdin ++ [(p, .answer true)]

instance (x : BluetoothManager × Option ℚ) (m : Move) : Decidable (AnswersYes x m) := by
  unfold AnswersYes
  exact inferInstance

theorem AnswersYes.elim {x : BluetoothManager × Option ℚ} {m : Move} (h : AnswersYes x m) :
    ∃ x' p, paired.next x m = some x' ∧ x'.1.stdin = x.1.stdin ++ [(p, .answer true)] := by
  obtain ⟨x', hnext, hyes⟩ := (Option.any_eq_true _ _).mp h
  obtain ⟨p, -, hp⟩ := (Option.any_eq_true _ _).mp hyes
  exact ⟨x', p, hnext, of_decide_eq_true hp⟩

/-- A minute after the window has been opened a prompt is answered yes. -/
theorem pairing_limited_minute : ∃ x : BluetoothManager × Option ℚ, x.1.now = 60 ∧
    ClosesInTime x ∧ ∃ ended, x.2 = some ended ∧ x.1.now ≤ ended + x.1.pairingWindowSeconds := by
  obtain ⟨x, hx, hquiet, hactive, hnow, hok, hyes⟩ := Machine.exists_reach
    (m := paired.guarded fun x m => Guarded x.1 m)
    (l := List.flatten [launches 0, [.openPairing, .resume (.call 1) .ok, .resume (.call 1) .ok,
      .resume (.timer 2) .ok, .tick 60]])
    (fun x => ¬ x.1.Opening ∧ x.1.pairingActive = true ∧ x.1.now = 60 ∧
      Guarded x.1 (.resume (.reader 0) .prompt) ∧ AnswersYes x (.resume (.reader 0) .prompt))
    example120_paired (by decide +kernel)
  obtain ⟨hcloses, hanswers⟩ := pairing_limited (.of_guarded hx)
  obtain ⟨x', p, hnext, hline⟩ := hyes.elim
  exact ⟨x, hnow, hcloses hquiet hactive, hanswers _ x' p hok hnext hline hquiet⟩

/-- `open_pairing` is called before the agent has been launched, and raises.  An hour later the
    flag is still set, without a close task, and a prompt is answered yes. -/
theorem pairing_unlimited :
    (¬ ∀ x, paired.Reach Machine.anyMove x → ¬ x.1.Opening → x.1.pairingActive = true →
      ClosesInTime x) ∧
    ¬ ∀ x, paired.Reach Machine.anyMove x → ∀ m x' p, paired.next x m = some x' →
      x'.1.stdin = x.1.stdin ++ [(p, .answer true)] → ¬ x.1.Opening →
      ∃ ended, x.2 = some ended ∧ x.1.now ≤ ended + x.1.pairingWindowSeconds := by
  obtain ⟨x, hx, hquiet, hactive, htask, hopened, hnow, hwindow, hyes⟩ := Machine.exists_reach
    (m := paired) (l := List.flatten [[.openPairing], launches 1, [.tick 3600]])
    (fun x => ¬ x.1.Opening ∧ x.1.pairingActive = true ∧ x.1.pairingTask = none ∧ x.2 = some 0 ∧
      x.1.now = 3600 ∧ x.1.pairingWindowSeconds = 120 ∧
      AnswersYes x (.resume (.reader 1) .prompt))
    example120_paired (by decide +kernel)
  constructor
  · intro hall
    obtain ⟨-, n, -, -, hn, -⟩ := hall x hx hquiet hactive
    exact nomatch htask.symm.trans hn
  · intro hall
    obtain ⟨x', p, hnext, hline⟩ := hyes.elim
    obtain ⟨ended, hat, hle⟩ := hall x hx _ x' p hnext hline hquiet
    obtain rfl : 0 = ended := Option.some.inj (hopened.symm.trans hat)
    rw [hnow, hwindow] at hle
    norm_num at hle

end BluetoothManager

end PhonoConsole
