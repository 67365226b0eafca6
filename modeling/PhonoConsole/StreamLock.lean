/-
  THE STREAM LOCK: who is in its queue, and who owns it.

  `_stop_streaming` takes the lock to take the stream task away, `_start_streaming` to make one.
  What the code relies on is `LockInOrder`: every entry of the queue is a task that is at its
  place in one of the two, once; and a task that is past its wait is the holder.

  A step does one of four things to the lock (`LockStep`): it leaves it, queues for it, releases
  it, or takes a cancelled retry out of it.
-/
import PhonoConsole.PublisherTasks

namespace PhonoConsole

namespace Publisher

/-! ## What a task wants the lock for -/

/-- The task that holds the lock, or waits for it. -/
def LockUse.task : LockUse → TaskId
  | .stop t | .start t => t

/-- The entry of a task in the queue of the stream lock, by the place it is at. -/
def Place.lockUse (t : TaskId) : Place → Option LockUse
  | .suspended (.stopLock _) | .running (.take _) => some (.stop t)
  | .suspended (.startLock _) | .suspended (.capturing _) | .running (.startOwned _)
  | .running (.captured _ _) | .running .retryLeave | .running .retryAbort => some (.start t)
  | _ => none

/-- The places behind the wait for the lock. -/
def Place.owns : Place → Bool
  | .suspended (.capturing _) | .running (.take _) | .running (.startOwned _)
  | .running (.captured _ _) | .running .retryAbort => true
  | _ => false

theorem Place.lockUse_task {t : TaskId} {pl : Place} {e : LockUse} (h : pl.lockUse t = some e) :
    e.task = t := by
  unfold lockUse at h
  split at h
  all_goals cases h
  all_goals rfl

theorem Place.lockUse_of_owns {t : TaskId} {pl : Place} (h : pl.owns = true) :
    ∃ e, pl.lockUse t = some e := by
  unfold owns at h
  split at h
  all_goals first
    | exact ⟨_, rfl⟩
    | exact nomatch h

/-- The queue of the stream lock is in order. -/
structure LockInOrder (s : Publisher) : Prop where
  nodup : s.streamLock.queue.Nodup
  entry : ∀ e ∈ s.streamLock.queue, (s.place e.task).lockUse e.task = some e
  holder : ∀ t, (s.place t).owns = true → s.streamLock.holder = (s.place t).lockUse t

/-! ## What a step does to the lock -/

/-- What the step of `t` at `p` does to the lock. -/
inductive LockStep (s : Publisher) (t : TaskId) (p : Point) (q : Publisher) : Prop
  | keeps (hlock : q.streamLock = s.streamLock)
      (huse : (Place.running p).lockUse t = none ∨
        (q.place t).lockUse t = (Place.running p).lockUse t)
      (howns : (q.place t).owns = true → (Place.running p).owns = true)
  | acquires (e : LockUse) (hlock : q.streamLock = s.streamLock.acquire e)
      (hp : (Place.running p).lockUse t = none) (huse : (q.place t).lockUse t = some e)
      (howns : (q.place t).owns = true → s.streamLock.free = true)
      (hstart : e = .stop t ∨ ∃ k, p = .start k)
  | releases (hlock : q.streamLock = s.streamLock.release) (hp : (Place.running p).owns = true)
      (howns : (q.place t).owns = false)
  | leaves (hlock : q.streamLock = s.streamLock.leave (.start t)) (hp : p = .retryLeave)
      (howns : (q.place t).owns = false)

section LockStep

variable {s q : Publisher} {t : TaskId} {p : Point}

/-- The running task goes on at a point outside of the lock. -/
theorem LockStep.goto {p' : Point} (hlock : q.streamLock = s.streamLock)
    (hp : (Place.running p).lockUse t = none) (hp' : (Place.running p').owns = false) :
    LockStep s t p (q.goto t p') := by
  refine .keeps hlock (.inl hp) ?_
  intro h
  rw [place_goto, hp'] at h
  exact nomatch h

/-- The running task is suspended outside of the lock. -/
theorem LockStep.suspend {pc : Pc} (hlock : q.streamLock = s.streamLock)
    (hp : (Place.running p).lockUse t = none) (hpc : (Place.suspended pc).owns = false) :
    LockStep s t p (q.suspend t pc) := by
  refine .keeps hlock (.inl hp) ?_
  intro h
  rw [place_suspend, hpc] at h
  exact nomatch h

theorem LockStep.release_goto {p' : Point} (hlock : q.streamLock = s.streamLock.release)
    (hp : (Place.running p).owns = true) (hp' : (Place.running p').owns = false) :
    LockStep s t p (q.goto t p') :=
  .releases hlock hp (by rw [place_goto, hp'])

theorem LockStep.release_suspend {pc : Pc} (hlock : q.streamLock = s.streamLock.release)
    (hp : (Place.running p).owns = true) (hpc : (Place.suspended pc).owns = false) :
    LockStep s t p (q.suspend t pc) :=
  .releases hlock hp (by rw [place_suspend, hpc])

theorem advance_lockStep (s : Publisher) (t : TaskId) (p : Point) :
    LockStep s t p (s.advance t p) := by
  obtain ⟨cancelled, hcancel⟩ := s.cancelPhonoStop_eq
  cases p with
  | handle command =>
    cases command with
    | start =>
      simp only [advance, handle]
      split
      · exact .goto rfl rfl rfl
      · split
        · exact .suspend rfl rfl rfl
        · rw [hcancel]
          exact .goto rfl rfl rfl
    | stop => exact .goto rfl rfl rfl
  | mediaDone =>
    simp only [advance]
    rw [hcancel]
    exact .goto rfl rfl rfl
  | stopAcquire k =>
    simp only [advance]
    split
    · rename_i hfree
      exact .acquires (.stop t) rfl rfl (by rw [place_goto]; rfl) (fun _ => hfree) (.inl rfl)
    · refine .acquires (.stop t) rfl rfl (by rw [place_suspend]; rfl) ?_ (.inl rfl)
      intro h
      rw [place_suspend] at h
      cases h
  | start k =>
    simp only [advance]
    split
    · rename_i hfree
      exact .acquires (.start t) rfl rfl (by rw [place_goto]; rfl) (fun _ => hfree) (.inr ⟨k, rfl⟩)
    · refine .acquires (.start t) rfl rfl (by rw [place_suspend]; rfl) ?_ (.inr ⟨k, rfl⟩)
      intro h
      rw [place_suspend] at h
      cases h
  | take k =>
    simp only [advance]
    split
    · exact .release_suspend rfl rfl rfl
    · exact .release_goto rfl rfl rfl
  | afterStop k =>
    cases k with
    | stopCommand =>
      simp only [advance, afterStop]
      split
      · rw [hcancel]
        exact .suspend rfl rfl rfl
      · exact .suspend rfl rfl rfl
    | select source wasRequested => cases wasRequested <;> exact .goto rfl rfl rfl
    | setter => exact .goto rfl rfl rfl
    | ignoredStart | disconnect => exact .suspend rfl rfl rfl
  | startOwned k =>
    simp only [advance]
    split
    · exact .release_goto rfl rfl rfl
    · exact .keeps rfl (.inr (by rw [place_suspend]; rfl)) fun _ => rfl
  | captured k failed =>
    simp only [advance, captured]
    split
    · obtain ⟨pc, c, n, r, hretry⟩ := s.publishState.scheduleStreamRetry_eq
      rw [hretry]
      exact .release_goto rfl rfl rfl
    · exact .release_goto rfl rfl rfl
  | started k =>
    cases k with
    | command => exact .suspend rfl rfl rfl
    | select => exact .goto rfl rfl rfl
    | retry =>
      simp only [advance, started]
      split <;> exact .goto rfl rfl rfl
  | pumpEnd failed =>
    have hend {r : Publisher} (hr : r.streamLock = s.streamLock) :
        (if failed && s.streamRequested then r.scheduleStreamRetry else r).streamLock =
          s.streamLock := by
      split
      · obtain ⟨pc, c, n, retry, hretry⟩ := r.scheduleStreamRetry_eq
        rw [hretry]
        exact hr
      · exact hr
    simp only [advance, pumpEnd]
    split
    · refine .suspend (hend ?_) rfl rfl
      split <;> rfl
    · exact .suspend rfl rfl rfl
  | retryLeave => exact .leaves rfl rfl (by rw [advance, place_goto]; rfl)
  | retryAbort => exact .release_goto rfl rfl rfl
  | _ =>
    simp only [advance]
    repeat' split
    all_goals first
      | exact .goto rfl rfl rfl
      | exact .suspend rfl rfl rfl

/-! ## The queue stays in order -/

theorem LockInOrder.entry_ne (h : LockInOrder s) {e : LockUse} (he : e ∈ s.streamLock.queue) :
    s.place e.task ≠ .suspended .done := by
  intro hdone
  have hentry := h.entry e he
  rw [hdone] at hentry
  exact nomatch hentry

/-- Another task that owns the lock after the step has owned it before. -/
theorem owns_before (ha : s.active = some (t, p)) {u : TaskId} (hu : u ≠ t)
    (howns : ((s.advance t p).place u).owns = true) :
    (s.advance t p).place u = s.place u := by
  rcases advance_place_cases ha hu with hsame | ⟨-, -, pc, hnew, hplace⟩
  · exact hsame
  · rw [hplace] at howns
    cases pc with
    | capturing => exact nomatch hnew
    | _ => exact nomatch howns

/-- The task that owns the lock is the only one. -/
theorem LockInOrder.alone (h : LockInOrder s) {u : TaskId} (ht : (s.place t).owns = true)
    (hu : (s.place u).owns = true) : u = t := by
  obtain ⟨e, he⟩ := Place.lockUse_of_owns ht
  obtain ⟨e', he'⟩ := Place.lockUse_of_owns hu
  have hsame := (h.holder t ht).symm.trans (h.holder u hu)
  rw [he, he'] at hsame
  rw [← Place.lockUse_task he, ← Place.lockUse_task he', Option.some.inj hsame]

/-- The running task's entry is gone from the queue, and nothing else of it has changed. -/
theorem LockInOrder.without (h : LockInOrder s) (hs : Placed s) (ha : s.active = some (t, p))
    (hsub : (s.advance t p).streamLock.queue.Sublist s.streamLock.queue)
    (hgone : ∀ e ∈ (s.advance t p).streamLock.queue, e.task ≠ t)
    (howns : ((s.advance t p).place t).owns = false)
    (hholder : ∀ u, u ≠ t → (s.place u).owns = true →
      (s.advance t p).streamLock.holder = s.streamLock.holder) :
    LockInOrder (s.advance t p) where
  nodup := h.nodup.sublist hsub
  entry e he := by
    have hold := hsub.subset he
    rw [advance_place_other hs ha (hgone e he) (h.entry_ne hold)]
    exact h.entry e hold
  holder u hu := by
    have hut : u ≠ t := by
      rintro rfl
      rw [howns] at hu
      exact nomatch hu
    have hsame := owns_before ha hut hu
    rw [hsame] at hu ⊢
    exact (hholder u hut hu).trans (h.holder u hu)

/-- The lock is left alone. -/
theorem LockInOrder.kept (h : LockInOrder s) (hs : Placed s) (ha : s.active = some (t, p))
    (hlock : (s.advance t p).streamLock = s.streamLock)
    (huse : (Place.running p).lockUse t = none ∨
      ((s.advance t p).place t).lockUse t = (Place.running p).lockUse t)
    (howns : ((s.advance t p).place t).owns = true → (Place.running p).owns = true) :
    LockInOrder (s.advance t p) := by
  have hplace := place_active ha
  refine ⟨hlock ▸ h.nodup, ?_, ?_⟩
  · intro e he
    rw [hlock] at he
    by_cases het : e.task = t
    · have hentry := h.entry e he
      rw [het, hplace] at hentry
      rw [het]
      rcases huse with hnone | hsame
      · exact nomatch hnone.symm.trans hentry
      · exact hsame.trans hentry
    · rw [advance_place_other hs ha het (h.entry_ne he)]
      exact h.entry e he
  · intro u hu
    rw [hlock]
    by_cases hut : u = t
    · subst hut
      have hp := howns hu
      obtain ⟨e, he⟩ := Place.lockUse_of_owns (t := u) hp
      rw [h.holder u (hplace ▸ hp), hplace]
      rcases huse with hnone | hsame
      · exact nomatch hnone.symm.trans he
      · exact hsame.symm
    · have hsame := owns_before ha hut hu
      rw [hsame] at hu ⊢
      exact h.holder u hu

/-- The running task queues, and owns the lock at once if nobody else is there. -/
theorem LockInOrder.queued (h : LockInOrder s) (hs : Placed s) (ha : s.active = some (t, p))
    {e : LockUse} (hlock : (s.advance t p).streamLock = s.streamLock.acquire e)
    (hp : (Place.running p).lockUse t = none)
    (huse : ((s.advance t p).place t).lockUse t = some e)
    (howns : ((s.advance t p).place t).owns = true → s.streamLock.free = true) :
    LockInOrder (s.advance t p) := by
  have hplace := place_active ha
  have het := Place.lockUse_task huse
  have hother : ∀ e' ∈ s.streamLock.queue, e'.task ≠ t := by
    intro e' he' het'
    have hentry := h.entry e' he'
    rw [het', hplace, hp] at hentry
    exact nomatch hentry
  have hqueue := (congrArg FifoLock.queue hlock).trans (s.streamLock.queue_acquire e)
  refine ⟨?_, ?_, ?_⟩
  · rw [hqueue, List.nodup_append]
    refine ⟨h.nodup, List.pairwise_singleton _ e, ?_⟩
    intro e' he' e'' he''
    rw [List.mem_singleton.mp he'']
    rintro rfl
    exact hother _ he' het
  · intro e' he'
    rw [hqueue, List.mem_append, List.mem_singleton] at he'
    rcases he' with he' | rfl
    · rw [advance_place_other hs ha (hother e' he') (h.entry_ne he')]
      exact h.entry e' he'
    · rw [het]
      exact huse
  · intro u hu
    rw [← FifoLock.head?_queue, hqueue]
    by_cases hut : u = t
    · subst hut
      rw [FifoLock.free_iff.mp (howns hu), huse]
      rfl
    · have hsame := owns_before ha hut hu
      rw [hsame] at hu ⊢
      obtain ⟨e', he'⟩ := Place.lockUse_of_owns hu
      have hholder := h.holder u hu
      rw [he', ← FifoLock.head?_queue] at hholder
      rw [List.head?_append, hholder, he']
      rfl

/-- The owner is the head of the queue. -/
theorem LockInOrder.head (h : LockInOrder s) {e : LockUse} (howns : (s.place t).owns = true)
    (he : (s.place t).lockUse t = some e) : ∃ rest, s.streamLock.queue = e :: rest := by
  have hholder := h.holder t howns
  rw [he, ← FifoLock.head?_queue] at hholder
  exact List.head?_eq_some_iff.mp hholder

/-- The running task, the owner, releases the lock. -/
theorem LockInOrder.released (h : LockInOrder s) (hs : Placed s) (ha : s.active = some (t, p))
    (hlock : (s.advance t p).streamLock = s.streamLock.release)
    (hp : (Place.running p).owns = true) (howns : ((s.advance t p).place t).owns = false) :
    LockInOrder (s.advance t p) := by
  have hplace := place_active ha
  obtain ⟨e, he⟩ := Place.lockUse_of_owns (t := t) hp
  obtain ⟨rest, hrest⟩ := h.head (hplace ▸ hp) (hplace ▸ he)
  have hnodup := h.nodup
  have hqueue : (s.advance t p).streamLock.queue = rest := by
    rw [hlock, FifoLock.queue_release, hrest]
    rfl
  refine h.without hs ha ?_ ?_ howns ?_
  · rw [hqueue, hrest]
    exact List.sublist_cons_self ..
  · intro e' he' het
    rw [hqueue] at he'
    have hentry := h.entry e' (hrest ▸ List.mem_cons_of_mem _ he')
    rw [het, hplace, he] at hentry
    rw [hrest, Option.some.inj hentry] at hnodup
    exact (List.nodup_cons.mp hnodup).1 he'
  · intro u hu huowns
    exact absurd (h.alone (hplace ▸ hp) huowns) hu

/-- A retry that was cancelled while it waited leaves the queue. -/
theorem LockInOrder.left (h : LockInOrder s) (hs : Placed s) (ha : s.active = some (t, .retryLeave))
    (hlock : (s.advance t .retryLeave).streamLock = s.streamLock.leave (.start t))
    (howns : ((s.advance t .retryLeave).place t).owns = false) :
    LockInOrder (s.advance t .retryLeave) := by
  have hplace := place_active ha
  have hqueue : (s.advance t .retryLeave).streamLock.queue = _ :=
    (congrArg FifoLock.queue hlock).trans (s.streamLock.queue_leave _)
  have hsub : (s.advance t .retryLeave).streamLock.queue.Sublist s.streamLock.queue := by
    rw [hqueue]
    split
    · exact List.tail_sublist _
    · exact List.filter_sublist
  refine h.without hs ha hsub ?_ howns ?_
  · intro e he het
    -- the only entry of the retry was the one that has left
    have hentry := h.entry e (hsub.subset he)
    rw [het, hplace] at hentry
    have hstart : LockUse.start t = e := Option.some.inj hentry
    rw [hqueue, ← hstart] at he
    split at he
    · rename_i hholder
      rw [← FifoLock.head?_queue] at hholder
      obtain ⟨rest, hrest⟩ := List.head?_eq_some_iff.mp hholder
      rw [hrest] at he
      exact (List.nodup_cons.mp (hrest ▸ h.nodup)).1 he
    · simp at he
  · intro u hu huowns
    obtain ⟨e, he⟩ := Place.lockUse_of_owns huowns
    have hne : e ≠ .start t := by
      rintro rfl
      exact hu (Place.lockUse_task he).symm
    obtain ⟨rest, hrest⟩ := h.head huowns he
    have hholder := (h.holder u huowns).trans he
    rw [← FifoLock.head?_queue, hqueue, hholder, if_neg fun heq => hne (Option.some.inj heq), hrest]
    simp [hne]

theorem advance_lockInOrder (h : LockInOrder s) (hs : Placed s) (ha : s.active = some (t, p)) :
    LockInOrder (s.advance t p) := by
  cases advance_lockStep s t p with
  | keeps hlock huse howns => exact h.kept hs ha hlock huse howns
  | acquires e hlock hp huse howns _ => exact h.queued hs ha hlock hp huse howns
  | releases hlock hp howns => exact h.released hs ha hlock hp howns
  | leaves hlock hp howns =>
    subst hp
    exact h.left hs ha hlock howns

/-- A task that is resumed keeps its entry. -/
theorem wakes_lockUse {reply : Reply} {e : LockUse} (hw : s.wakes t reply = some p)
    (h : (Place.suspended (s.pc t)).lockUse t = some e) :
    (Place.running p).lockUse t = some e := by
  have hwoken := wakes_cases hw
  generalize s.pc t = pc at hwoken h
  cases hwoken with
  | take | startOwned | retryLeave | captured | captureFailed | retryAbort => exact h
  | _ => cases h

/-- A task is resumed as the owner of the lock if it was the owner, or has become the holder. -/
theorem wakes_owns {reply : Reply} (hw : s.wakes t reply = some p)
    (howns : (Place.running p).owns = true) :
    ∃ e, (Place.suspended (s.pc t)).lockUse t = some e ∧
      ((Place.suspended (s.pc t)).owns = true ∨ s.streamLock.holder = some e) := by
  have hwoken := wakes_cases hw
  generalize s.pc t = pc at hwoken ⊢
  cases hwoken with
  | take hholder => exact ⟨_, rfl, .inr hholder⟩
  | startOwned hstart => exact ⟨_, rfl, .inr hstart.1⟩
  | captured | captureFailed | retryAbort => exact ⟨_, rfl, .inl rfl⟩
  | _ => cases howns

theorem activate_lockInOrder {reply : Reply} (h : LockInOrder s) (ha : s.active = none)
    (hw : s.wakes t reply = some p) : LockInOrder (s.activate t p) := by
  refine ⟨h.nodup, ?_, ?_⟩
  · intro e he
    have hentry := h.entry e he
    by_cases het : e.task = t
    · rw [het, place_idle ha] at hentry
      rw [het, place_activate]
      exact wakes_lockUse hw hentry
    · rw [place_activate_of_ne het ha]
      exact hentry
  · intro u hu
    show s.streamLock.holder = _
    by_cases hut : u = t
    · subst hut
      rw [place_activate] at hu ⊢
      obtain ⟨e, he, hheld⟩ := wakes_owns hw hu
      have hholder : s.streamLock.holder = some e := by
        rcases hheld with howns | hholder
        · rw [h.holder u (place_idle ha ▸ howns), place_idle ha, he]
        · exact hholder
      rw [hholder, wakes_lockUse hw he]
    · rw [place_activate_of_ne hut ha] at hu ⊢
      exact h.holder u hu

theorem next_lockInOrder {s' : Publisher} {m : Move} (h : LockInOrder s) (hs : Placed s)
    (hnext : s.next m = some s') : LockInOrder s' := by
  have hcalled {q : Publisher} (hlock : q.streamLock = s.streamLock)
      (hplace : ∀ u, u ≠ .op s.nextTask → q.place u = s.place u)
      (hnew : (q.place (.op s.nextTask)).owns = false) : LockInOrder q := by
    refine ⟨hlock ▸ h.nodup, ?_, ?_⟩
    · intro e he
      rw [hlock] at he
      have hne := (hs.place_used (h.entry_ne he)).ne_new
      rw [hplace _ hne]
      exact h.entry e he
    · intro u hu
      rw [hlock]
      have hne : u ≠ .op s.nextTask := by
        rintro rfl
        rw [hnew] at hu
        exact nomatch hu
      rw [hplace u hne] at hu ⊢
      exact h.holder u hu
  cases next_moved hnext with
  | step ha => exact advance_lockInOrder h hs ha
  | resume ha hw => exact activate_lockInOrder h ha hw
  | serverCommand ha command =>
    exact hcalled rfl (fun u => place_onServerCommand_of_ne ha command)
      (by rw [place_onServerCommand ha]; rfl)
  | selectSource ha | setDistributionEnabled ha | setSourceDistributionEnabled ha =>
    exact hcalled rfl (fun u => place_call_of_ne ha) (by rw [place_call]; rfl)

theorem reach_lockInOrder {ok : Publisher → Move → Prop} (h : machine.Reach ok s) :
    LockInOrder s := by
  refine h.invariant_of (fun q hq => reach_placed hq) ?_
    fun q m q' hplaced hq _ hn => next_lockInOrder hq hplaced hn
  intro q hq
  obtain ⟨enabled, devices, media, rfl⟩ := hq
  refine ⟨List.nodup_nil, fun e he => (nomatch he), ?_⟩
  intro u hu
  rw [place_idle rfl] at hu
  cases u with
  | run => exact nomatch hu
  | op | pump | retry | phonoStop => exact nomatch hu

end LockStep

end Publisher

end PhonoConsole
