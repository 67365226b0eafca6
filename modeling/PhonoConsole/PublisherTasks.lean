/-
  THE TASKS OF THE PUBLISHER: what a move does to them.

  The proofs about the publisher ask the same questions of every point of the program: where are
  the tasks afterwards, which of them are cancelled, and is the stream another one?  They are
  answered here, once for each point:

  * `advance_advanced` — the running task goes on or is suspended, and all others stay where they
    are, new ones apart (`Plain`, `advance_pc_other`);
  * `advance_cancelled` — no other task loses a cancellation;
  * `advance_sameStream` — only four points move the stream (`Point.movesStream`);
  * `wakes_cases` — the points at which a suspended task goes on, one by one;
  * `next_moved`  — the moves;
  * `Placed`      — in every state reached only created tasks are anywhere, and the running one is
    suspended nowhere.
-/
import PhonoConsole.Publisher

namespace PhonoConsole

namespace Publisher

/-! ## What two helpers change -/

theorem cancelPhonoStop_eq (s : Publisher) : ∃ cancelled,
    s.cancelPhonoStop = { s with cancelled := cancelled, phonoStopTask := none } := by
  unfold cancelPhonoStop
  split
  · exact ⟨_, rfl⟩
  · rename_i hnone
    exact ⟨s.cancelled, by rw [← hnone]⟩

theorem scheduleStreamRetry_eq (s : Publisher) : ∃ pc cancelled nextTask streamRetryTask,
    s.scheduleStreamRetry = { s with
      pc := pc
      cancelled := cancelled
      nextTask := nextTask
      streamRetryTask := streamRetryTask } := by
  unfold scheduleStreamRetry
  split
  · exact ⟨s.pc, s.cancelled, s.nextTask, s.streamRetryTask, rfl⟩
  · exact ⟨_, _, _, _, rfl⟩

/-! ## Tasks and their places -/

/-- The task is `run`, or has been created. -/
def Used (s : Publisher) : TaskId → Prop
  | .op n | .pump n | .retry n | .phonoStop n => n < s.nextTask
  | .run => True

/-- The tasks that were created. -/
theorem mem_tasks {s : Publisher} {t : TaskId} : t ∈ s.tasks ↔ s.Used t := by
  cases t <;> simp [tasks, Used]

/-- A task that has been created and not started. -/
def Pc.isNew : Pc → Bool
  | .pumpNew | .retryNew | .phonoStopNew | .commandLock _ => true
  | _ => false

/-- The places of the tasks are in order: only created tasks are anywhere, and the running one
    is suspended nowhere. -/
structure Placed (s : Publisher) : Prop where
  used : ∀ t, s.pc t ≠ .done → s.Used t
  running : ∀ t p, s.active = some (t, p) → s.pc t = .running

/-- From `s` to `q` no task moves, but new ones may be created. -/
structure Plain (s q : Publisher) : Prop where
  next : s.nextTask ≤ q.nextTask
  pc : ∀ u, q.pc u = s.pc u ∨ ¬ s.Used u ∧ q.Used u ∧ (q.pc u).isNew = true

section Plain

variable {s q : Publisher} {t : TaskId}

theorem Used.mono (h : s.Used t) (hn : s.nextTask ≤ q.nextTask) : q.Used t := by
  cases t with
  | run => trivial
  | op n | pump n | retry n | phonoStop n => exact Nat.lt_of_lt_of_le h hn

theorem Plain.of_eq (hpc : q.pc = s.pc) (hn : q.nextTask = s.nextTask) : Plain s q where
  next := Nat.le_of_eq hn.symm
  pc u := .inl (by rw [hpc])

theorem Plain.refl (s : Publisher) : Plain s s := .of_eq rfl rfl

theorem Plain.trans {r : Publisher} (h : Plain s q) (h' : Plain q r) : Plain s r where
  next := Nat.le_trans h.next h'.next
  pc u := by
    rcases h'.pc u with hsame | ⟨hnot, hused, hnew⟩
    · rw [hsame]
      rcases h.pc u with hsame' | ⟨hnot', hused', hnew'⟩
      · exact .inl hsame'
      · exact .inr ⟨hnot', hused'.mono h'.next, hnew'⟩
    · exact .inr ⟨fun hu => hnot (hu.mono h.next), hused, hnew⟩

/-- A task with the next number is created. -/
theorem plain_spawn (pc : Pc) (hused : ¬ s.Used t) (hnew : pc.isNew = true)
    (ht : (s.spawn t pc).Used t) : Plain s (s.spawn t pc) where
  next := Nat.le_succ _
  pc u := by
    by_cases hu : u = t
    · subst hu
      exact .inr ⟨hused, ht, by simpa [spawn] using hnew⟩
    · exact .inl (Function.update_of_ne hu ..)

theorem plain_cancelPhonoStop (s : Publisher) : Plain s s.cancelPhonoStop := by
  unfold cancelPhonoStop
  split <;> exact .of_eq rfl rfl

theorem plain_scheduleStreamRetry (s : Publisher) : Plain s s.scheduleStreamRetry := by
  unfold scheduleStreamRetry
  split
  · exact .refl s
  · exact (plain_spawn .retryNew (t := .retry s.nextTask) (Nat.lt_irrefl _) rfl (Nat.lt_succ_self _)).trans
      (.of_eq rfl rfl)

end Plain

/-- What a step does to the places: the running task goes on, or is suspended. -/
inductive Advanced (s : Publisher) (t : TaskId) : Publisher → Prop
  | goto {q : Publisher} (h : Plain s q) (p : Point) : Advanced s t (q.goto t p)
  | suspend {q : Publisher} (h : Plain s q) (pc : Pc) (hpc : pc ≠ .running) :
    Advanced s t (q.suspend t pc)

/-- What a step does to the program counters and the tasks. -/
theorem advance_advanced (s : Publisher) (t : TaskId) (p : Point) : Advanced s t (s.advance t p) := by
  cases p with
  | handle command =>
    cases command with
    | start =>
      simp only [advance, handle]
      split
      · exact .goto (.refl s) _
      · split
        · exact .suspend (.refl s) _ nofun
        · exact .goto (plain_cancelPhonoStop s) _
    | stop => exact .goto (.refl s) _
  | mediaDone => exact .goto (plain_cancelPhonoStop s) _
  | afterStop k =>
    cases k with
    | setter => exact .goto (.refl s) _
    | select => refine .goto (.of_eq ?_ ?_) _ <;> rfl
    | ignoredStart => refine .suspend (.of_eq ?_ ?_) _ nofun <;> rfl
    | disconnect => exact .suspend (.refl s) _ nofun
    | stopCommand =>
      simp only [advance, afterStop]
      split
      · have hspawn := plain_spawn .phonoStopNew (s := s.cancelPhonoStop)
          (t := .phonoStop s.cancelPhonoStop.nextTask) (Nat.lt_irrefl _) rfl (Nat.lt_succ_self _)
        refine .suspend (((plain_cancelPhonoStop s).trans hspawn).trans (.of_eq ?_ ?_)) _ nofun <;> rfl
      · refine .suspend (.of_eq ?_ ?_) _ nofun <;> rfl
  | captured k failed =>
    simp only [advance, captured]
    split
    · refine .goto (((Plain.of_eq ?_ ?_).trans (plain_scheduleStreamRetry s.publishState)).trans
        (.of_eq ?_ ?_)) _ <;> rfl
    · have hspawn := plain_spawn .pumpNew (s := s) (t := .pump s.nextTask) (Nat.lt_irrefl _)
        rfl (Nat.lt_succ_self _)
      refine .goto (hspawn.trans (.of_eq ?_ ?_)) _ <;> rfl
  | pumpEnd failed =>
    simp only [advance, pumpEnd]
    split
    · have hended : ∀ q : Publisher, Plain s q →
          Plain s (if failed && s.streamRequested then q.scheduleStreamRetry else q) := fun q hq => by
        split
        · exact hq.trans (plain_scheduleStreamRetry q)
        · exact hq
      refine .suspend (hended _ ?_) _ nofun
      split <;> exact .of_eq rfl rfl
    · exact .suspend (.refl s) _ nofun
  | started k =>
    cases k with
    | command => refine .suspend (.of_eq ?_ ?_) _ nofun <;> rfl
    | select => exact .goto (.refl s) _
    | retry => exact .goto (.refl s) _
  | _ =>
    simp only [advance]
    repeat' split
    all_goals first
      | (refine .goto (.of_eq ?_ ?_) _ <;> rfl)
      | (refine .suspend (.of_eq ?_ ?_) _ ?_ <;> first | rfl | nofun)

theorem advance_nextTask (s : Publisher) (t : TaskId) (p : Point) :
    s.nextTask ≤ (s.advance t p).nextTask := by
  have hadv := advance_advanced s t p
  generalize s.advance t p = q at hadv ⊢
  cases hadv with
  | goto h p' => exact h.next
  | suspend h pc hpc => exact h.next

/-- All moves. -/
inductive Moved (s : Publisher) : Move → Publisher → Prop
  | step {t : TaskId} {p : Point} (ha : s.active = some (t, p)) : Moved s .step (s.advance t p)
  | resume {t : TaskId} {reply : Reply} {p : Point} (ha : s.active = none)
      (hw : s.wakes t reply = some p) : Moved s (.resume t reply) (s.activate t p)
  | serverCommand (ha : s.active = none) (command : Command) :
    Moved s (.serverCommand command) (s.onServerCommand command)
  | selectSource (ha : s.active = none) (source : Source) :
    Moved s (.selectSource source) (s.call (.selectSource source))
  | setDistributionEnabled (ha : s.active = none) (enabled : Bool) :
    Moved s (.setDistributionEnabled enabled) (s.call (.setDistributionEnabled enabled))
  | setSourceDistributionEnabled (ha : s.active = none) (source : Source) (enabled : Bool) :
    Moved s (.setSourceDistributionEnabled source enabled)
      (s.call (.setSourceDistributionEnabled source enabled))

/-- Every move is one of these. -/
theorem next_moved {s s' : Publisher} {m : Move} (h : s.next m = some s') : Moved s m s' := by
  unfold next at h
  split at h
  case h_1 ha => exact Option.some.inj h ▸ .step ha
  case h_2 ha =>
    obtain ⟨p, hw, rfl⟩ := Option.map_eq_some_iff.mp h
    exact .resume ha hw
  case h_3 command ha => exact Option.some.inj h ▸ .serverCommand ha command
  case h_4 source ha => exact Option.some.inj h ▸ .selectSource ha source
  case h_5 enabled ha => exact Option.some.inj h ▸ .setDistributionEnabled ha enabled
  case h_6 source enabled ha =>
    exact Option.some.inj h ▸ .setSourceDistributionEnabled ha source enabled
  case h_7 => exact nomatch h

/-- What a resumption needs and does: where the task is suspended, the reply it gets, and the point
    at which it goes on. -/
inductive Woken (s : Publisher) (t : TaskId) : Pc → Reply → Point → Prop
  | handle {command : Command} (h : s.commandLock.holder = some t) :
    Woken s t (.commandLock command) .ok (.handle command)
  | mediaDone {reply : Reply} (h : reply = .ok ∨ reply = .raised) :
    Woken s t .mediaCommand reply .mediaDone
  | stop {k : StopCaller} {reply : Reply} (h : reply = .ok ∨ reply = .raised) :
    Woken s t (.sendSignal k) reply (.stop k)
  | stopAcquire {k : StopCaller} {r : Nat} (h : s.pc (.retry r) = .done) :
    Woken s t (.joinRetry k r) .ok (.stopAcquire k)
  | take {k : StopCaller} (h : s.streamLock.holder = some (.stop t)) :
    Woken s t (.stopLock k) .ok (.take k)
  | stopped {k : StopCaller} {n : Nat} {wasStreaming : Bool} (h : s.pc (.pump n) = .done) :
    Woken s t (.joinPump k n wasStreaming) .ok (.stopped k wasStreaming)
  | startOwned {k : StartCaller}
    (h : s.streamLock.holder = some (.start t) ∧ s.cancelled t = false) :
    Woken s t (.startLock k) .ok (.startOwned k)
  | retryLeave (h : s.cancelled t = true) : Woken s t (.startLock .retry) .cancelled .retryLeave
  | captured {k : StartCaller} (h : s.cancelled t = false) :
    Woken s t (.capturing k) .ok (.captured k false)
  | captureFailed {k : StartCaller} (h : s.cancelled t = false) :
    Woken s t (.capturing k) .raised (.captured k true)
  | retryAbort (h : s.cancelled t = true) : Woken s t (.capturing .retry) .cancelled .retryAbort
  | pumpOpen (h : s.cancelled t = false) : Woken s t .pumpNew .ok .pumpOpen
  | pumpUnborn (h : s.cancelled t = true) : Woken s t .pumpNew .cancelled .ended
  | pumpFed {source : Source} {activityChanged : Bool} (h : s.cancelled t = false) :
    Woken s t (.pumping source) (.fed activityChanged) (.pumpFed source activityChanged)
  | pumpFailed {source : Source} (h : s.cancelled t = false) :
    Woken s t (.pumping source) .raised .pumpFailed
  | pumpCancelled {source : Source} (h : s.cancelled t = true) :
    Woken s t (.pumping source) .cancelled .pumpCancelled
  | pumpEnd {failed : Bool} (h : s.cancelled t = false) :
    Woken s t (.pumpClosing failed) .ok (.pumpEnd failed)
  | pumpGone {failed : Bool} (h : s.cancelled t = true) :
    Woken s t (.pumpClosing failed) .cancelled .ended
  | retryLoop (h : s.cancelled t = false) : Woken s t .retryNew .ok .retryLoop
  | retryUnborn (h : s.cancelled t = true) : Woken s t .retryNew .cancelled .ended
  | retryWoke (h : s.cancelled t = false) : Woken s t .retrySleep .ok .retryWoke
  | retryEnd (h : s.cancelled t = true) : Woken s t .retrySleep .cancelled .retryEnd
  | phonoStopBegin (h : s.cancelled t = false) : Woken s t .phonoStopNew .ok .phonoStopBegin
  | phonoStopUnborn (h : s.cancelled t = true) : Woken s t .phonoStopNew .cancelled .ended
  | phonoStopSlept (h : s.cancelled t = false) : Woken s t .phonoStopSleep .ok .phonoStopSlept
  | phonoStopAwoken (h : s.cancelled t = true) :
    Woken s t .phonoStopSleep .cancelled .phonoStopEnd
  | phonoStopEnd {reply : Reply}
    (h : reply = .cancelled ∧ s.cancelled t = true ∨
      (reply = .ok ∨ reply = .raised) ∧ s.cancelled t = false) :
    Woken s t .phonoStopAction reply .phonoStopEnd
  | newClient : Woken s t .runWaiting .ok .newClient
  | connected : Woken s t .runConnecting .ok .connected
  | connectFailed : Woken s t .runConnecting .raised .connectFailed
  | abandoned {reply : Reply} (h : reply = .ok ∨ reply = .raised) :
    Woken s t .runAbandoning reply .abandoned
  | dropped : Woken s t .runConnected .ok .dropped
  | toreDown {reply : Reply} (h : reply = .ok ∨ reply = .raised) :
    Woken s t .runTearingDown reply .toreDown

/-- Every resumption is one of these. -/
theorem wakes_cases {s : Publisher} {t : TaskId} {reply : Reply} {p : Point}
    (hw : s.wakes t reply = some p) : Woken s t (s.pc t) reply p := by
  unfold wakes at hw
  generalize s.pc t = pc at hw ⊢
  split at hw <;>
    simp only [Option.ite_none_right_eq_some, Option.ite_none_left_eq_some, Option.some.injEq,
      Bool.not_eq_true, reduceCtorEq] at hw
  all_goals first
    | (subst hw
       constructor
       done)
    | (subst hw
       constructor
       simp)
    | (obtain ⟨h, rfl⟩ := hw
       constructor
       simp [h])

/-- Only a task that is suspended somewhere is resumed. -/
theorem wakes_suspended {s : Publisher} {t : TaskId} {reply : Reply} {p : Point}
    (h : s.wakes t reply = some p) : s.pc t ≠ .done ∧ s.pc t ≠ .running := by
  have hwoken := wakes_cases h
  constructor
  · intro hpc
    rw [hpc] at hwoken
    cases hwoken
  · intro hpc
    rw [hpc] at hwoken
    cases hwoken

section Placed

variable {s s' q : Publisher} {t : TaskId} {p : Point}

/-- A task that is somewhere is not one that a step creates. -/
theorem Plain.pc_used (h : Plain s q) (hu : s.Used t) : q.pc t = s.pc t := by
  rcases h.pc t with hsame | ⟨hnot, _⟩
  · exact hsame
  · exact absurd hu hnot

theorem Plain.used (h : Plain s q) (hs : Placed s) (hpc : q.pc t ≠ .done) : q.Used t := by
  rcases h.pc t with hsame | ⟨_, hused, _⟩
  · exact (hs.used t (hsame ▸ hpc)).mono h.next
  · exact hused

/-- The running task's step leaves the places of the other tasks, and creates new tasks at most. -/
theorem Advanced.others (h : Advanced s t s') {u : TaskId} (hu : u ≠ t) :
    s'.pc u = s.pc u ∨ ¬ s.Used u ∧ (s'.pc u).isNew = true := by
  cases h with
  | goto h p => exact (h.pc u).imp id fun hn => ⟨hn.1, hn.2.2⟩
  | suspend h pc hpc =>
    have hsame : ∀ q : Publisher, (q.suspend t pc).pc u = q.pc u := fun q =>
      Function.update_of_ne hu ..
    rw [hsame]
    exact (h.pc u).imp id fun hn => ⟨hn.1, hn.2.2⟩

/-- A step keeps the tasks in their places. -/
theorem advance_placed (hs : Placed s) (ha : s.active = some (t, p)) : Placed (s.advance t p) := by
  have hrun := hs.running t p ha
  have ht : s.Used t := hs.used t (by rw [hrun]; exact nofun)
  have hadv := advance_advanced s t p
  generalize s.advance t p = s' at hadv ⊢
  cases hadv with
  | goto h p' =>
    refine ⟨fun u hu => h.used hs hu, ?_⟩
    intro u p'' hactive
    have htu : t = u := congrArg Prod.fst (Option.some.inj hactive)
    rw [← htu]
    exact (h.pc_used ht).trans hrun
  | suspend h pc hpc =>
    refine ⟨?_, fun u p'' hactive => (nomatch hactive)⟩
    intro u hu
    by_cases hut : u = t
    · rw [hut]
      exact ht.mono h.next
    · refine h.used hs fun hdone => hu ?_
      exact (Function.update_of_ne hut ..).trans hdone

/-- Every move does. -/
theorem next_placed {m : Move} (hs : Placed s) (h : s.next m = some s') : Placed s' := by
  cases next_moved h with
  | step ha => exact advance_placed hs ha
  | @resume t _ p ha hw =>
    refine ⟨?_, ?_⟩
    · intro u hu
      by_cases hut : u = t
      · exact hs.used u (hut ▸ (wakes_suspended hw).1)
      · refine hs.used u fun hdone => hu ?_
        exact (Function.update_of_ne hut ..).trans hdone
    · intro u p' hactive
      have htu : t = u := congrArg Prod.fst (Option.some.inj hactive)
      rw [← htu]
      exact Function.update_self ..
  | serverCommand ha command =>
    have hspawn := plain_spawn (.commandLock command) (s := s) (t := .op s.nextTask)
      (Nat.lt_irrefl _) rfl (Nat.lt_succ_self _)
    exact ⟨fun u hu => hspawn.used hs hu, fun u p hactive => (nomatch ha.symm.trans hactive)⟩
  | selectSource | setDistributionEnabled | setSourceDistributionEnabled =>
    refine ⟨?_, ?_⟩
    · intro u hu
      by_cases hut : u = .op s.nextTask
      · rw [hut]
        exact Nat.lt_succ_self _
      · refine (hs.used u fun hdone => hu ?_).mono (Nat.le_succ _)
        exact (Function.update_of_ne hut ..).trans hdone
    · intro u p' hactive
      have htu : TaskId.op s.nextTask = u := congrArg Prod.fst (Option.some.inj hactive)
      rw [← htu]
      exact Function.update_self ..

theorem reach_placed {ok : Publisher → Move → Prop} (h : machine.Reach ok s) : Placed s := by
  refine h.invariant (I := Placed) ?_ fun _ _ _ hs _ hn => next_placed hs hn
  intro q hq
  obtain ⟨enabled, devices, media, rfl⟩ := hq
  refine ⟨?_, fun t p ha => (nomatch ha)⟩
  intro t ht
  cases t with
  | run => trivial
  | op | pump | retry | phonoStop => exact absurd rfl ht

/-- While no operation is in progress no task at all is in the middle of one. -/
theorem Idle.all (hidle : s.Idle) (hs : Placed s) (t : TaskId) :
    (s.pc t).busy = false ∧ (s.cancelled t = true → s.pc t = .done) := by
  by_cases ht : s.pc t = .done
  · exact ⟨by rw [ht]; rfl, fun _ => ht⟩
  · exact hidle.2 t (mem_tasks.mpr (hs.used t ht))

/-- The step of another task leaves a task that is suspended somewhere where it is. -/
theorem advance_pc_other (hs : Placed s) {u : TaskId} (hu : u ≠ t) (hpc : s.pc u ≠ .done) :
    (s.advance t p).pc u = s.pc u := by
  rcases (advance_advanced s t p).others hu with hsame | ⟨hnot, -⟩
  · exact hsame
  · exact absurd (hs.used u hpc) hnot

end Placed

/-! ## Where a task is -/

/-- A task is suspended, or it is the one that runs. -/
inductive Place
  | suspended (pc : Pc)
  | running (p : Point)

/-- Where the task `t` is: at a point of the running task, or suspended. -/
def place (s : Publisher) (t : TaskId) : Place :=
  match s.active with
  | some (u, p) => if u = t then .running p else .suspended (s.pc t)
  | none => .suspended (s.pc t)

/-- Some task is at a place of the kind `f`. -/
def Somewhere (s : Publisher) (f : Place → Bool) : Prop := ∃ t ∈ s.tasks, f (s.place t) = true

instance (s : Publisher) (f : Place → Bool) : Decidable (s.Somewhere f) := by
  unfold Somewhere
  exact inferInstance

section Place

variable {s s' q : Publisher} {t u : TaskId} {p : Point} {f : Place → Bool}

/-- The running task is at its point. -/
theorem place_active (ha : s.active = some (t, p)) : s.place t = .running p := by
  simp [place, ha]

theorem place_of_not_active (ha : ∀ p, s.active ≠ some (u, p)) :
    s.place u = .suspended (s.pc u) := by
  unfold place
  split
  · rename_i v p hv
    refine if_neg ?_
    rintro rfl
    exact ha p hv
  · rfl

/-- The other tasks are suspended where they are. -/
theorem place_other (ha : s.active = some (t, p)) (hu : u ≠ t) :
    s.place u = .suspended (s.pc u) :=
  place_of_not_active fun _ hp => hu (congrArg Prod.fst (Option.some.inj (hp.symm.trans ha)))

theorem place_idle (ha : s.active = none) : s.place u = .suspended (s.pc u) :=
  place_of_not_active fun _ hp => (nomatch ha.symm.trans hp)

@[simp]
theorem place_goto (s : Publisher) (t : TaskId) (p : Point) : (s.goto t p).place t = .running p :=
  place_active rfl

@[simp]
theorem place_suspend (s : Publisher) (t : TaskId) (pc : Pc) :
    (s.suspend t pc).place t = .suspended pc := by
  rw [place_idle rfl, show (s.suspend t pc).pc t = pc from Function.update_self ..]

@[simp]
theorem place_activate (s : Publisher) (t : TaskId) (p : Point) :
    (s.activate t p).place t = .running p :=
  place_active rfl

theorem place_activate_of_ne (hu : u ≠ t) (ha : s.active = none) :
    (s.activate t p).place u = s.place u := by
  rw [place_other rfl hu, place_idle ha,
    show (s.activate t p).pc u = s.pc u from Function.update_of_ne hu ..]

/-- The step of a task leaves another one where it is, or has just created it. -/
theorem advance_place_cases (ha : s.active = some (t, p)) (hu : u ≠ t) :
    (s.advance t p).place u = s.place u ∨
      s.place u = .suspended (s.pc u) ∧ ¬ s.Used u ∧
        ∃ pc, pc.isNew = true ∧ (s.advance t p).place u = .suspended pc := by
  have hadv := advance_advanced s t p
  have hactive : ∀ p', (s.advance t p).active ≠ some (u, p') := by
    generalize s.advance t p = q at hadv ⊢
    cases hadv with
    | goto h p'' => exact fun _ hp => hu (congrArg Prod.fst (Option.some.inj hp)).symm
    | suspend h pc hpc => exact nofun
  rw [place_of_not_active hactive, place_other ha hu]
  rcases hadv.others hu with hsame | ⟨hnot, hnew⟩
  · exact .inl (by rw [hsame])
  · exact .inr ⟨rfl, hnot, _, hnew, rfl⟩

/-- The step of a task leaves another one that is anywhere where it is. -/
theorem advance_place_other (hs : Placed s) (ha : s.active = some (t, p)) (hu : u ≠ t)
    (hne : s.place u ≠ .suspended .done) : (s.advance t p).place u = s.place u := by
  rcases advance_place_cases ha hu with hsame | ⟨hplace, hnot, -⟩
  · exact hsame
  · refine absurd (hs.used u fun hdone => hne ?_) hnot
    rw [hplace, hdone]

/-- A task that is anywhere has been created. -/
theorem Placed.place_used (hs : Placed s) (hne : s.place u ≠ .suspended .done) : s.Used u := by
  refine hs.used u ?_
  intro hdone
  by_cases hu : ∃ p, s.active = some (u, p)
  · obtain ⟨p, hp⟩ := hu
    exact nomatch (hs.running u p hp).symm.trans hdone
  · exact hne (by rw [place_of_not_active fun p hp => hu ⟨p, hp⟩, hdone])

theorem Somewhere.of_place (hu : s.Used u) (h : f (s.place u) = true) : s.Somewhere f :=
  ⟨u, mem_tasks.mpr hu, h⟩

theorem Placed.active_used (hs : Placed s) (ha : s.active = some (t, p)) : s.Used t :=
  hs.place_used (by rw [place_active ha]; exact nofun)

/-- A task at a place of the kind `f` stays there, unless it is the one that takes the step. -/
theorem Somewhere.advance (hs : Placed s) (ha : s.active = some (t, p))
    (hdone : f (.suspended .done) = false) (hp : f (.running p) = false) (h : s.Somewhere f) :
    (s.advance t p).Somewhere f := by
  obtain ⟨u, hmem, hu⟩ := h
  have hut : u ≠ t := by
    rintro rfl
    rw [place_active ha, hp] at hu
    exact nomatch hu
  have hplace := advance_place_other hs ha hut fun hd => by
    rw [hd, hdone] at hu
    exact nomatch hu
  exact .of_place ((mem_tasks.mp hmem).mono (advance_nextTask s t p)) (hplace ▸ hu)

/-- A resumed task stays at a place of the kind `f`, and so do all others. -/
theorem Somewhere.activate (ha : s.active = none)
    (hp : f (.suspended (s.pc t)) = true → f (.running p) = true) (h : s.Somewhere f) :
    (s.activate t p).Somewhere f := by
  obtain ⟨u, hmem, hu⟩ := h
  refine ⟨u, hmem, ?_⟩
  by_cases hut : u = t
  · subst hut
    rw [place_idle ha] at hu
    exact (place_activate s u p).symm ▸ hp hu
  · exact (place_activate_of_ne hut ha).symm ▸ hu

theorem place_call (s : Publisher) (p : Point) : (s.call p).place (.op s.nextTask) = .running p :=
  place_active rfl

theorem place_call_of_ne (ha : s.active = none) (hu : u ≠ .op s.nextTask) :
    (s.call p).place u = s.place u := by
  rw [place_other rfl hu, place_idle ha,
    show (s.call p).pc u = s.pc u from Function.update_of_ne hu ..]

/-- A command of the server is a new task, which waits for the command lock. -/
theorem place_onServerCommand (ha : s.active = none) (command : Command) :
    (s.onServerCommand command).place (.op s.nextTask) = .suspended (.commandLock command) := by
  have hactive : (s.onServerCommand command).active = none := ha
  rw [place_idle hactive, show (s.onServerCommand command).pc (.op s.nextTask) =
    .commandLock command from Function.update_self ..]

theorem place_onServerCommand_of_ne (ha : s.active = none) (command : Command)
    (hu : u ≠ .op s.nextTask) : (s.onServerCommand command).place u = s.place u := by
  have hactive : (s.onServerCommand command).active = none := ha
  rw [place_idle hactive, place_idle ha,
    show (s.onServerCommand command).pc u = s.pc u from Function.update_of_ne hu ..]

/-- A task that was created is not the next one. -/
theorem Used.ne_new (hu : s.Used u) : u ≠ .op s.nextTask := by
  rintro rfl
  exact Nat.lt_irrefl _ hu

/-- A new operation leaves all tasks where they are. -/
theorem Somewhere.called (hn : q.nextTask = s.nextTask + 1)
    (hplace : ∀ u, u ≠ .op s.nextTask → q.place u = s.place u) (h : s.Somewhere f) :
    q.Somewhere f := by
  obtain ⟨u, hmem, hu⟩ := h
  have hused := mem_tasks.mp hmem
  exact .of_place (hused.mono (by omega)) (hplace u hused.ne_new ▸ hu)

end Place

/-! ## Ways to a start -/

/-- What comes before a start of the stream. -/
def StartsFrom (s : Publisher) (p : Point) : StartCaller → Prop
  | .command => p = .handle .start ∧ s.distributionAllowed = true ∨ p = .mediaDone
  | .select => ∃ source, p = .afterStop (.select source true)
  | .retry => p = .retryWoke ∧ s.streamRequested = true

section Starts

variable {s : Publisher} {t u : TaskId} {p : Point} {k : StartCaller}

theorem advance_starts (h : (s.advance t p).active = some (u, .start k)) : StartsFrom s p k := by
  cases p with
  | handle command =>
    cases command with
    | start =>
      simp only [advance, handle] at h
      split at h
      · exact nomatch h
      · rename_i hallowed
        split at h
        · exact nomatch h
        · cases h
          exact .inl ⟨rfl, by simpa using hallowed⟩
    | stop => exact nomatch h
  | mediaDone =>
    cases h
    exact .inr rfl
  | retryWoke =>
    simp only [advance] at h
    split at h
    · rename_i hgo
      cases h
      exact ⟨rfl, ((Bool.and_eq_true ..).mp hgo).1⟩
    · exact nomatch h
  | afterStop k' =>
    cases k' with
    | stopCommand =>
      simp only [advance, afterStop] at h
      split at h <;> exact nomatch h
    | select source wasRequested =>
      cases wasRequested with
      | true =>
        cases h
        exact ⟨source, rfl⟩
      | false => exact nomatch h
    | _ => exact nomatch h
  | captured k' failed =>
    simp only [advance, captured] at h
    split at h <;> exact nomatch h
  | started k' =>
    cases k' with
    | retry =>
      simp only [advance, started] at h
      split at h <;> exact nomatch h
    | _ => exact nomatch h
  | pumpEnd failed =>
    simp only [advance, pumpEnd] at h
    split at h <;> exact nomatch h
  | _ =>
    simp only [advance] at h
    repeat' split at h
    all_goals exact nomatch h

/-- No task is suspended right before a start. -/
theorem wakes_ne_start {reply : Reply} (hw : s.wakes t reply = some (.start k)) :
    False := by
  have hwoken := wakes_cases hw
  generalize s.pc t = pc at hwoken
  cases hwoken

end Starts

/-! ## Cancellations -/

section Cancelled

variable {s : Publisher} {t u : TaskId} {p : Point}

theorem cancel_cancelled (h : s.cancelled u = true) :
    (s.cancel t).cancelled u = true := by
  by_cases hu : u = t
  · rw [hu]
    exact Function.update_self ..
  · exact (Function.update_of_ne hu ..).trans h

theorem cancelPhonoStop_cancelled (h : s.cancelled u = true) :
    s.cancelPhonoStop.cancelled u = true := by
  unfold cancelPhonoStop
  split
  · exact cancel_cancelled h
  · exact h

theorem scheduleStreamRetry_cancelled (hu : s.Used u)
    (h : s.cancelled u = true) : s.scheduleStreamRetry.cancelled u = true := by
  unfold scheduleStreamRetry
  split
  · exact h
  · refine (Function.update_of_ne ?_ ..).trans h
    rintro rfl
    exact Nat.lt_irrefl _ hu

/-- A step forgets nobody's cancellation but its own. -/
theorem advance_cancelled (hne : u ≠ t) (hu : s.Used u)
    (h : s.cancelled u = true) :
    (s.advance t p).cancelled u = true := by
  cases p with
  | handle command =>
    cases command with
    | start =>
      simp only [advance, handle]
      split
      · exact h
      · split
        · exact h
        · exact cancelPhonoStop_cancelled h
    | stop => exact h
  | mediaDone => exact cancelPhonoStop_cancelled h
  | stop k =>
    simp only [advance]
    split
    · exact cancel_cancelled (s := { s with streamRequested := false, streamRetryTask := none }) h
    · exact h
  | take k =>
    simp only [advance]
    split
    · exact cancel_cancelled (s := { s with streamTask := none, streaming := false }) h
    · exact h
  | afterStop k =>
    cases k with
    | stopCommand =>
      simp only [advance, afterStop]
      split
      · refine (Function.update_of_ne ?_ ..).trans (cancelPhonoStop_cancelled h)
        rintro rfl
        obtain ⟨c, hcancel⟩ := s.cancelPhonoStop_eq
        rw [hcancel] at hu
        exact Nat.lt_irrefl _ hu
      · exact h
    | _ => exact h
  | captured k failed =>
    simp only [advance, captured]
    split
    · exact scheduleStreamRetry_cancelled (s := s.publishState) hu h
    · refine (Function.update_of_ne ?_ ..).trans h
      rintro rfl
      exact Nat.lt_irrefl _ hu
  | pumpCancelled => exact (Function.update_of_ne hne ..).trans h
  | pumpEnd failed =>
    have hend : ∀ q : Publisher, q.Used u → q.cancelled u = true →
        (if failed && s.streamRequested then q.scheduleStreamRetry else q).cancelled u = true := by
      intro q hq hc
      split
      · exact scheduleStreamRetry_cancelled hq hc
      · exact hc
    simp only [advance, pumpEnd]
    split
    · refine hend _ ?_ ?_
      · split <;> exact hu.mono (Nat.le_refl _)
      · split <;> exact h
    · exact h
  | started k => cases k <;> exact h
  | _ =>
    simp only [advance]
    repeat' split
    all_goals exact h

end Cancelled

/-! ## The steps that move the stream -/

/-- The points that change the stream task, the streaming flag or the selected source. -/
def Point.movesStream : Point → Bool
  | .take _ | .captured _ false | .pumpEnd _ | .afterStop (.select _ _) => true
  | _ => false

/-- From `s` to `q` the stream stays as it is; only the task `t` may have lost a cancellation. -/
structure SameStream (s q : Publisher) (t : TaskId) : Prop where
  task : q.streamTask = s.streamTask
  streaming : q.streaming = s.streaming
  source : q.selectedSource = s.selectedSource
  cancelled : ∀ n, t ≠ .pump n → q.cancelled (.pump n) = s.cancelled (.pump n)

section SameStream

variable {s q r : Publisher} {t : TaskId} {p : Point}

theorem SameStream.of_eq (htask : q.streamTask = s.streamTask) (hstreaming : q.streaming = s.streaming)
    (hsource : q.selectedSource = s.selectedSource)
    (hcancelled : ∀ n, q.cancelled (.pump n) = s.cancelled (.pump n)) : SameStream s q t :=
  ⟨htask, hstreaming, hsource, fun n _ => hcancelled n⟩

theorem SameStream.trans (h : SameStream s q t) (h' : SameStream q r t) : SameStream s r t where
  task := h'.task.trans h.task
  streaming := h'.streaming.trans h.streaming
  source := h'.source.trans h.source
  cancelled n hn := (h'.cancelled n hn).trans (h.cancelled n hn)

theorem sameStream_cancelPhonoStop (s : Publisher) : SameStream s s.cancelPhonoStop t := by
  unfold cancelPhonoStop
  split
  · refine .of_eq ?_ ?_ ?_ fun n => ?_ <;> rfl
  · refine .of_eq ?_ ?_ ?_ fun n => ?_ <;> rfl

theorem sameStream_scheduleStreamRetry (s : Publisher) :
    SameStream s s.scheduleStreamRetry t := by
  unfold scheduleStreamRetry
  split
  · refine .of_eq ?_ ?_ ?_ fun n => ?_ <;> rfl
  · refine .of_eq ?_ ?_ ?_ fun n => ?_ <;> rfl

/-- A step that does not move the stream leaves it as it is. -/
theorem advance_sameStream (s : Publisher) (t : TaskId) (h : p.movesStream = false) :
    SameStream s (s.advance t p) t := by
  cases p with
  | take | pumpEnd => exact nomatch h
  | handle command =>
    cases command with
    | start =>
      simp only [advance, handle]
      split
      · refine .of_eq ?_ ?_ ?_ fun n => ?_ <;> rfl
      · split
        · refine .of_eq ?_ ?_ ?_ fun n => ?_ <;> rfl
        · refine (sameStream_cancelPhonoStop s).trans (.of_eq ?_ ?_ ?_ fun n => ?_) <;> rfl
    | stop => refine .of_eq ?_ ?_ ?_ fun n => ?_ <;> rfl
  | mediaDone => refine (sameStream_cancelPhonoStop s).trans (.of_eq ?_ ?_ ?_ fun n => ?_) <;> rfl
  | afterStop k =>
    cases k with
    | select => exact nomatch h
    | stopCommand =>
      simp only [advance, afterStop]
      split
      · refine (sameStream_cancelPhonoStop s).trans (.of_eq ?_ ?_ ?_ fun n => ?_) <;> rfl
      · refine .of_eq ?_ ?_ ?_ fun n => ?_ <;> rfl
    | setter | ignoredStart | disconnect => refine .of_eq ?_ ?_ ?_ fun n => ?_ <;> rfl
  | captured k failed =>
    cases failed with
    | true =>
      refine .trans (q := s.publishState) (.of_eq ?_ ?_ ?_ fun n => ?_)
        ((sameStream_scheduleStreamRetry s.publishState).trans (.of_eq ?_ ?_ ?_ fun n => ?_)) <;> rfl
    | false => exact nomatch h
  | started k => cases k <;> refine .of_eq ?_ ?_ ?_ fun n => ?_ <;> rfl
  | pumpCancelled =>
    exact ⟨rfl, rfl, rfl, fun n hn => Function.update_of_ne (Ne.symm hn) ..⟩
  | _ =>
    simp only [advance]
    repeat' split
    all_goals (refine .of_eq ?_ ?_ ?_ fun n => ?_ <;> rfl)

end SameStream

end Publisher

end PhonoConsole
