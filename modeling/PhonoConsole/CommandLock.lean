/-
  THE COMMAND LOCK: server commands are handled one after the other, in the order they came.

  A command's task queues for the lock when the command arrives, and owns it from its first line
  to its last.  `CommandsInOrder` says so of every run: the queue holds the tasks of the commands
  that are waiting or being handled, each once, and the one being handled is its head.

  A step does nothing to the lock, or it is the last one of the command being handled
  (`CommandStep`).
-/
import PhonoConsole.PublisherTasks

namespace PhonoConsole

namespace Publisher

/-! ## The tasks of commands -/

/-- The stop is part of the handling of a command. -/
def StopCaller.handles : StopCaller → Bool
  | .ignoredStart | .stopCommand => true
  | .setter | .select _ _ | .disconnect => false

/-- The start is one that `handle_command` makes. -/
def StartCaller.handles : StartCaller → Bool
  | .command => true
  | .select | .retry => false

/-- The task is handling a command. -/
def Place.handles : Place → Bool
  | .running (.handle _) | .suspended .mediaCommand | .running .mediaDone => true
  | .suspended (.sendSignal k) | .running (.sendSignal k) | .running (.stop k)
  | .suspended (.joinRetry k _) | .running (.stopAcquire k) | .suspended (.stopLock k)
  | .running (.take k) | .suspended (.joinPump k _ _) | .running (.stopped k _)
  | .running (.afterStop k) => k.handles
  | .running (.start k) | .suspended (.startLock k) | .running (.startOwned k)
  | .suspended (.capturing k) | .running (.captured k _) | .running (.started k) => k.handles
  | _ => false

/-- The task is handling a command, or queued to do so. -/
def Place.commands : Place → Bool
  | .suspended (.commandLock _) => true
  | pl => pl.handles

theorem Place.commands_of_handles {pl : Place} (h : pl.handles = true) : pl.commands = true := by
  unfold commands
  split
  · rfl
  · exact h

/-- The queue of the command lock is in order. -/
def CommandsInOrder (s : Publisher) : Prop :=
  s.commandLock.InOrder (fun t => (s.place t).commands) fun t => (s.place t).handles

/-- While a command is being handled the others in the queue wait. -/
theorem CommandsInOrder.waits {s : Publisher} {t u : TaskId} (h : CommandsInOrder s)
    (ht : (s.place t).handles = true) (hu : u ∈ s.commandLock.queue) (hut : u ≠ t) :
    ∃ command, s.place u = .suspended (.commandLock command) := by
  have hcommands := h.wants u hu
  unfold Place.commands at hcommands
  split at hcommands
  · rename_i command hplace
    exact ⟨command, hplace⟩
  · have hsame := (h.holder u hcommands).symm.trans (h.holder t ht)
    exact absurd (Option.some.inj hsame) hut

/-! ## What a step does to the lock -/

/-- What the step of `t` at `p` does to the command lock. -/
inductive CommandStep (s : Publisher) (t : TaskId) (p : Point) (q : Publisher) : Prop
  | keeps (hlock : q.commandLock = s.commandLock)
      (hplace : (q.place t).handles = (Place.running p).handles)
  | releases (hlock : q.commandLock = s.commandLock.release)
      (hp : (Place.running p).handles = true) (hplace : q.place t = .suspended .done)

section CommandStep

variable {s s' q : Publisher} {t : TaskId} {p : Point}

theorem CommandStep.goto {p' : Point} (hlock : q.commandLock = s.commandLock)
    (hp : (Place.running p').handles = (Place.running p).handles) :
    CommandStep s t p (q.goto t p') :=
  .keeps hlock (by rw [place_goto, hp])

theorem CommandStep.suspend {pc : Pc} (hlock : q.commandLock = s.commandLock)
    (hp : (Place.suspended pc).handles = (Place.running p).handles) :
    CommandStep s t p (q.suspend t pc) :=
  .keeps hlock (by rw [place_suspend, hp])

theorem CommandStep.done (hlock : q.commandLock = s.commandLock.release)
    (hp : (Place.running p).handles = true) : CommandStep s t p (q.suspend t .done) :=
  .releases hlock hp (place_suspend q t .done)

theorem advance_commandStep (s : Publisher) (t : TaskId) (p : Point) :
    CommandStep s t p (s.advance t p) := by
  obtain ⟨cancelled, hcancel⟩ := s.cancelPhonoStop_eq
  cases p with
  | handle command =>
    cases command with
    | start =>
      simp only [advance, handle]
      split
      · exact .goto rfl rfl
      · split
        · exact .suspend rfl rfl
        · rw [hcancel]
          exact .goto rfl rfl
    | stop => exact .goto rfl rfl
  | mediaDone =>
    simp only [advance]
    rw [hcancel]
    exact .goto rfl rfl
  | afterStop k =>
    cases k with
    | stopCommand =>
      simp only [advance, afterStop]
      split
      · rw [hcancel]
        exact .done rfl rfl
      · exact .done rfl rfl
    | ignoredStart => exact .done rfl rfl
    | select source wasRequested => cases wasRequested <;> exact .goto rfl rfl
    | setter => exact .goto rfl rfl
    | disconnect => exact .suspend rfl rfl
  | captured k failed =>
    simp only [advance, captured]
    split
    · obtain ⟨pc, c, n, r, hretry⟩ := s.publishState.scheduleStreamRetry_eq
      rw [hretry]
      exact .goto rfl rfl
    · exact .goto rfl rfl
  | started k =>
    cases k with
    | command => exact .done rfl rfl
    | select => exact .goto rfl rfl
    | retry =>
      simp only [advance, started]
      split <;> exact .goto rfl rfl
  | pumpEnd failed =>
    have hend {r : Publisher} (hr : r.commandLock = s.commandLock) :
        (if failed && s.streamRequested then r.scheduleStreamRetry else r).commandLock =
          s.commandLock := by
      split
      · obtain ⟨pc, c, n, retry, hretry⟩ := r.scheduleStreamRetry_eq
        rw [hretry]
        exact hr
      · exact hr
    simp only [advance, pumpEnd]
    split
    · refine .suspend (hend ?_) rfl
      split <;> rfl
    · exact .suspend rfl rfl
  | _ =>
    simp only [advance]
    repeat' split
    all_goals first
      | exact .goto rfl rfl
      | exact .suspend rfl rfl

/-! ## The queue stays in order -/

/-- A task that commands is somewhere. -/
theorem place_ne_done_of_commands (h : (s.place t).commands = true) :
    s.place t ≠ .suspended .done := by
  intro hdone
  rw [hdone] at h
  exact nomatch h

/-- Another task that handles a command after the step has done so before. -/
theorem handles_before (ha : s.active = some (t, p)) {u : TaskId} (hu : u ≠ t)
    (h : ((s.advance t p).place u).handles = true) : (s.place u).handles = true := by
  rcases advance_place_cases ha hu with hsame | ⟨-, -, pc, hnew, hplace⟩
  · exact hsame ▸ h
  · rw [hplace] at h
    cases pc with
    | pumpNew | retryNew | phonoStopNew | commandLock => exact nomatch h
    | _ => exact nomatch hnew

theorem advance_commandsInOrder (h : CommandsInOrder s) (hs : Placed s)
    (ha : s.active = some (t, p)) : CommandsInOrder (s.advance t p) := by
  have hplace := place_active ha
  have hother : ∀ u ∈ s.commandLock.queue, u ≠ t → ((s.advance t p).place u).commands = true := by
    intro u hu hut
    have hcommands := h.wants u hu
    rw [advance_place_other hs ha hut (place_ne_done_of_commands hcommands)]
    exact hcommands
  cases advance_commandStep s t p with
  | keeps hlock hhandles =>
    rw [← hplace] at hhandles
    unfold CommandsInOrder
    rw [hlock]
    refine h.kept ?_ ?_
    · intro u hu
      by_cases hut : u = t
      · subst hut
        have hcommands := h.wants u hu
        rw [hplace] at hcommands
        exact Place.commands_of_handles (hhandles.trans (hplace ▸ hcommands))
      · exact hother u hu hut
    · intro u hu
      by_cases hut : u = t
      · subst hut
        exact h.holder u (hhandles ▸ hu)
      · exact h.holder u (handles_before ha hut hu)
  | releases hlock hp hdone =>
    unfold CommandsInOrder
    rw [hlock]
    refine h.released (hplace ▸ hp) hother ?_
    intro u hu
    have hut : u ≠ t := by
      rintro rfl
      rw [hdone] at hu
      exact nomatch hu
    exact ⟨handles_before ha hut hu, hut⟩

/-- A task goes on with the command it handles, or begins with the one it was queued for. -/
theorem wakes_handles {reply : Reply} (hw : s.wakes t reply = some p) :
    (Place.running p).handles = (Place.suspended (s.pc t)).handles ∨
      ∃ command, s.pc t = .commandLock command ∧ p = .handle command ∧
        s.commandLock.holder = some t := by
  have hwoken := wakes_cases hw
  generalize s.pc t = pc at hwoken ⊢
  cases hwoken with
  | handle hholder => exact .inr ⟨_, rfl, rfl, hholder⟩
  | _ => exact .inl rfl

theorem activate_commandsInOrder {reply : Reply} (h : CommandsInOrder s) (ha : s.active = none)
    (hw : s.wakes t reply = some p) : CommandsInOrder (s.activate t p) := by
  refine h.kept ?_ ?_
  · intro u hu
    have hcommands := h.wants u hu
    by_cases hut : u = t
    · subst hut
      rw [place_activate]
      rw [place_idle ha] at hcommands
      rcases wakes_handles hw with hsame | ⟨command, -, rfl, -⟩
      · -- a task in the queue that is not waiting is handling
        cases hpc : s.pc u with
        | commandLock command =>
          have hwoken := wakes_cases hw
          rw [hpc] at hwoken
          cases hwoken
          rfl
        | _ =>
          rw [hpc] at hcommands hsame
          exact Place.commands_of_handles (hsame.trans hcommands)
      · rfl
    · rw [place_activate_of_ne hut ha]
      exact hcommands
  · intro u hu
    show s.commandLock.holder = some u
    by_cases hut : u = t
    · subst hut
      rw [place_activate] at hu
      rcases wakes_handles hw with hsame | ⟨command, -, -, hholder⟩
      · exact h.holder u (by rw [place_idle ha, ← hsame]; exact hu)
      · exact hholder
    · rw [place_activate_of_ne hut ha] at hu
      exact h.holder u hu

/-- A command's task is not in the queue before the command has come. -/
theorem CommandsInOrder.fresh (h : CommandsInOrder s) (hs : Placed s) :
    .op s.nextTask ∉ s.commandLock.queue := fun hmem =>
  (hs.place_used (place_ne_done_of_commands (h.wants _ hmem))).ne_new rfl

theorem next_commandsInOrder {m : Move} (h : CommandsInOrder s) (hs : Placed s)
    (hnext : s.next m = some s') : CommandsInOrder s' := by
  have hfresh := h.fresh hs
  cases next_moved hnext with
  | step ha => exact advance_commandsInOrder h hs ha
  | resume ha hw => exact activate_commandsInOrder h ha hw
  | serverCommand ha command =>
    refine h.acquired hfresh ?_ ?_
    · intro u hu
      rcases List.mem_append.mp hu with hu | hu
      · rw [place_onServerCommand_of_ne ha command fun heq => hfresh (heq ▸ hu)]
        exact h.wants u hu
      · rw [List.mem_singleton.mp hu, place_onServerCommand ha]
        rfl
    · intro u hu
      by_cases hut : u = .op s.nextTask
      · rw [hut, place_onServerCommand ha] at hu
        exact nomatch hu
      · rw [← place_onServerCommand_of_ne ha command hut]
        exact hu
  | selectSource ha | setDistributionEnabled ha | setSourceDistributionEnabled ha =>
    refine h.kept ?_ ?_
    · intro u hu
      rw [place_call_of_ne ha fun heq => hfresh (heq ▸ hu)]
      exact h.wants u hu
    · intro u hu
      have hut : u ≠ .op s.nextTask := by
        rintro rfl
        rw [place_call] at hu
        exact nomatch hu
      rw [place_call_of_ne ha hut] at hu
      exact h.holder u hu

theorem reach_commandsInOrder {ok : Publisher → Move → Prop} (h : machine.Reach ok s) :
    CommandsInOrder s := by
  refine h.invariant_of (fun q hq => reach_placed hq) ?_
    fun q m q' hplaced hq _ hn => next_commandsInOrder hq hplaced hn
  intro q hq
  obtain ⟨enabled, devices, media, rfl⟩ := hq
  refine ⟨List.nodup_nil, fun u hu => (nomatch hu), ?_⟩
  intro u hu
  rw [place_idle rfl] at hu
  cases u with
  | run => exact nomatch hu
  | op | pump | retry | phonoStop => exact nomatch hu

/-- A command that is waiting or being handled is an operation in progress. -/
theorem Pc.busy_of_commands {pc : Pc} (h : (Place.suspended pc).commands = true) :
    pc.busy = true := by
  cases pc <;> first
    | rfl
    | exact nomatch h

/-- While no operation is in progress no command is waiting. -/
theorem Idle.commandQueue (hidle : s.Idle) (hs : Placed s) (h : CommandsInOrder s) :
    s.commandLock.queue = [] := by
  refine List.eq_nil_iff_forall_not_mem.mpr ?_
  intro u hu
  have hcommands := h.wants u hu
  rw [place_idle hidle.1] at hcommands
  exact nomatch (hidle.all hs u).1.symm.trans (Pc.busy_of_commands hcommands)

end CommandStep

end Publisher

end PhonoConsole
