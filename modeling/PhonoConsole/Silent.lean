/-
  DISABLED MEANS SILENT, as long as what has awaited something looks at the flags again.

  Only the handler of a start command asks whether distribution is allowed, and it asks before it
  awaits the Bluetooth play command.  A change of source remembers that the stream was requested,
  awaits the end of the old one and restores the request, whatever has been disabled meanwhile.
  Both undo a choice that was made while they were suspended: `Heeds` is what they would have to
  find.

  The invariant `Silent`: distribution is allowed; or a task is about to stop the stream
  (`Place.mutes`); or the stream is switched off (`SwitchedOff`): it is not requested, nobody is
  at the start of it, and whoever is last at the stream lock takes it away.
-/
import PhonoConsole.StreamLock
import Mathlib.Data.List.Basic

namespace PhonoConsole

namespace Publisher

/-! ## The invariant -/

/-- The task is on its way to a stop, and has not withdrawn the request yet. -/
def Place.mutes : Place → Bool
  | .suspended (.sendSignal _) | .running (.sendSignal _) | .running (.stop _) => true
  | _ => false

/-- The task has withdrawn the request, and is not at the stream lock yet. -/
def Place.joins : Place → Bool
  | .suspended (.joinRetry _ _) | .running (.stopAcquire _) => true
  | _ => false

/-- The entry of a stop. -/
def LockUse.stops : LockUse → Bool
  | .stop _ => true
  | .start _ => false

/-- Whoever is last at the stream lock takes the stream away; with nobody there, there is none. -/
def StopIsLast (s : Publisher) : Prop :=
  match s.streamLock.queue.getLast? with
  | some e => e.stops = true
  | none => s.streamTask = none

/-- What stream there is, or may be made by those at the stream lock, is going to be stopped. -/
def Guarded (s : Publisher) : Prop := s.Somewhere Place.joins ∨ s.StopIsLast

/-- Nothing is requested, and no task is on its way to a stream. -/
structure SwitchedOff (s : Publisher) : Prop where
  requested : s.streamRequested = false
  start : ∀ t k, s.active ≠ some (t, .start k)
  guarded : s.Guarded

/-- The invariant: distribution is allowed, or a task is about to stop the stream, or it is off. -/
def Silent (s : Publisher) : Prop :=
  s.distributionAllowed = true ∨ s.Somewhere Place.mutes ∨ s.SwitchedOff

/-- What goes on after an await, a start or a change of source, finds distribution allowed, or a
    stop on its way; a change of source that does not restore a request may also find the stream
    switched off for good. -/
def Heeds (s : Publisher) (m : Move) : Prop :=
  match m, s.active with
  | .step, some (_, .mediaDone) => s.distributionAllowed = true ∨ s.Somewhere Place.mutes
  | .step, some (_, .afterStop (.select source wasRequested)) =>
    s.allowedFor source = true ∨ s.Somewhere Place.mutes ∨ wasRequested = false ∧ s.Guarded
  | _, _ => True

instance (s : Publisher) : Decidable s.StopIsLast := by
  unfold StopIsLast
  split <;> exact inferInstance

instance (s : Publisher) : Decidable s.Guarded := by
  unfold Guarded
  exact inferInstance

theorem heeds_iff (s : Publisher) (m : Move) : (match m, s.active with
      | .step, some (_, .mediaDone) =>
        decide (s.distributionAllowed = true ∨ s.Somewhere Place.mutes)
      | .step, some (_, .afterStop (.select source wasRequested)) =>
        decide (s.allowedFor source = true ∨ s.Somewhere Place.mutes ∨
          wasRequested = false ∧ s.Guarded)
      | _, _ => true) = true ↔ s.Heeds m := by
  unfold Heeds
  split <;> simp [*]

instance (s : Publisher) (m : Move) : Decidable (s.Heeds m) :=
  decidable_of_iff _ (heeds_iff s m)

/-! ## The stop that is last -/

section Guarded

variable {s s' q : Publisher} {t : TaskId} {p : Point}

theorem stopIsLast_append {l : List LockUse} {e : LockUse} (hl : s.streamLock.queue = l ++ [e]) :
    s.StopIsLast ↔ e.stops = true := by
  rw [StopIsLast, hl, List.getLast?_append]
  rfl

theorem stopIsLast_nil (hl : s.streamLock.queue = []) : s.StopIsLast ↔ s.streamTask = none := by
  rw [StopIsLast, hl]
  rfl

/-- No stream comes up but by a capture. -/
theorem advance_streamTask_none (hp : ∀ k, p ≠ .captured k false) (h : s.streamTask = none) :
    (s.advance t p).streamTask = none := by
  cases hmoves : p.movesStream with
  | false => exact (advance_sameStream s t hmoves).task.trans h
  | true =>
    cases p with
    | take k =>
      simp only [advance]
      split <;> rfl
    | captured k failed =>
      cases failed with
      | true => cases hmoves
      | false => exact absurd rfl (hp k)
    | pumpEnd failed =>
      simp only [advance, pumpEnd, h]
      exact h
    | afterStop k =>
      cases k with
      | select source wasRequested => exact h
      | _ => cases hmoves
    | _ => cases hmoves

/-- A stop that is last stays last until nobody is there, while no start comes in. -/
theorem StopIsLast.advance (h : s.StopIsLast) (hlock : LockInOrder s)
    (ha : s.active = some (t, p)) (hstart : ∀ k, p ≠ .start k) : (s.advance t p).StopIsLast := by
  have hplace := place_active ha
  -- a capture is made by the holder of the lock
  have hnone (hempty : s.streamLock.queue = []) : (s.advance t p).streamTask = none := by
    refine advance_streamTask_none ?_ ((stopIsLast_nil hempty).mp h)
    intro k hk
    subst hk
    have hholder := hlock.holder t (by rw [hplace]; rfl)
    rw [hplace, ← FifoLock.head?_queue, hempty] at hholder
    cases hholder
  cases advance_lockStep s t p with
  | keeps hsame =>
    rcases List.eq_nil_or_concat' s.streamLock.queue with hempty | ⟨l, e, hl⟩
    · exact (stopIsLast_nil (hsame ▸ hempty)).mpr (hnone hempty)
    · exact (stopIsLast_append (hsame ▸ hl)).mpr ((stopIsLast_append hl).mp h)
  | acquires e hacquire _ _ _ he =>
    have hqueue := (congrArg FifoLock.queue hacquire).trans (s.streamLock.queue_acquire e)
    refine (stopIsLast_append hqueue).mpr ?_
    rcases he with rfl | ⟨k, hk⟩
    · rfl
    · exact absurd hk (hstart k)
  | releases hrelease hp =>
    have hqueue := (congrArg FifoLock.queue hrelease).trans s.streamLock.queue_release
    obtain ⟨e, he⟩ := Place.lockUse_of_owns (t := t) hp
    have hholder := hlock.holder t (hplace ▸ hp)
    rw [hplace, he, ← FifoLock.head?_queue] at hholder
    obtain ⟨rest, hrest⟩ := List.head?_eq_some_iff.mp hholder
    rw [hrest, List.tail_cons] at hqueue
    rcases List.eq_nil_or_concat' rest with rfl | ⟨l, e', rfl⟩
    · -- the last one was the holder itself, a stop
      have hstops := (stopIsLast_append (l := []) hrest).mp h
      refine (stopIsLast_nil hqueue).mpr ?_
      cases p with
      | take k =>
        simp only [Publisher.advance]
        split <;> rfl
      | startOwned | captured | retryAbort =>
        cases he
        cases hstops
      | _ => cases hp
    · refine (stopIsLast_append hqueue).mpr ((stopIsLast_append (l := e :: l) ?_).mp h)
      exact hrest
  | leaves hleave hp =>
    subst hp
    have hqueue := (congrArg FifoLock.queue hleave).trans (s.streamLock.queue_leave _)
    rcases List.eq_nil_or_concat' s.streamLock.queue with hempty | ⟨l, e, hl⟩
    · refine (stopIsLast_nil ?_).mpr (hnone hempty)
      rw [hqueue, hempty]
      split <;> rfl
    · have hstops := (stopIsLast_append hl).mp h
      have hne : e ≠ .start t := by
        rintro rfl
        cases hstops
      obtain ⟨l', hl'⟩ : ∃ l', (s.advance t .retryLeave).streamLock.queue = l' ++ [e] := by
        rw [hqueue, hl]
        split
        · rename_i hholder
          rw [← FifoLock.head?_queue, hl] at hholder
          cases l with
          | nil => exact absurd (Option.some.inj hholder) hne
          | cons e' l => exact ⟨l, rfl⟩
        · exact ⟨l.filter (· ≠ .start t), by simp [hne]⟩
      exact (stopIsLast_append hl').mpr hstops

theorem Guarded.advance (h : s.Guarded) (hs : Placed s) (hlock : LockInOrder s)
    (ha : s.active = some (t, p)) (hstart : ∀ k, p ≠ .start k) : (s.advance t p).Guarded := by
  rcases h with hjoins | hlast
  · cases hp : (Place.running p).joins with
    | false => exact .inl (hjoins.advance hs ha rfl hp)
    | true =>
      -- the task comes to the stream lock
      refine .inr ?_
      cases p with
      | stopAcquire k =>
        have hqueue : (s.advance t (.stopAcquire k)).streamLock.queue =
            s.streamLock.queue ++ [.stop t] := by
          rw [← FifoLock.queue_acquire]
          simp only [Publisher.advance]
          split <;> rfl
        exact (stopIsLast_append hqueue).mpr rfl
      | _ => cases hp
  · exact .inr (hlast.advance hlock ha hstart)

/-! ## The request and the flags -/

/-- The points that change the request, the flags or the selected source. -/
def Point.changesChoice : Point → Bool
  | .stop _ | .start _ | .afterStop (.select _ _) | .setDistributionEnabled _
  | .setSourceDistributionEnabled _ _ => true
  | _ => false

/-- What the server and the console have asked for stays. -/
structure SameChoice (s q : Publisher) : Prop where
  requested : q.streamRequested = s.streamRequested
  allowed : q.distributionAllowed = s.distributionAllowed

theorem advance_sameChoice (t : TaskId) (h : p.changesChoice = false) :
    SameChoice s (s.advance t p) := by
  obtain ⟨c, hcancel⟩ := s.cancelPhonoStop_eq
  cases p with
  | stop | start | setDistributionEnabled | setSourceDistributionEnabled => cases h
  | handle command =>
    cases command with
    | start =>
      simp only [advance, handle]
      split
      · exact ⟨rfl, rfl⟩
      · split
        · exact ⟨rfl, rfl⟩
        · rw [hcancel]
          exact ⟨rfl, rfl⟩
    | stop => exact ⟨rfl, rfl⟩
  | mediaDone =>
    simp only [advance]
    rw [hcancel]
    exact ⟨rfl, rfl⟩
  | afterStop k =>
    cases k with
    | select source wasRequested => cases h
    | stopCommand =>
      simp only [advance, afterStop]
      split
      · rw [hcancel]
        exact ⟨rfl, rfl⟩
      · exact ⟨rfl, rfl⟩
    | _ => exact ⟨rfl, rfl⟩
  | captured k failed =>
    simp only [advance, captured]
    split
    · obtain ⟨pc, c', n, r, hretry⟩ := s.publishState.scheduleStreamRetry_eq
      rw [hretry]
      exact ⟨rfl, rfl⟩
    · exact ⟨rfl, rfl⟩
  | started k => cases k <;> exact ⟨rfl, rfl⟩
  | pumpEnd failed =>
    have hend {q : Publisher} (hq : SameChoice s q) :
        SameChoice s ((if failed && s.streamRequested then q.scheduleStreamRetry else q).suspend t
          .done) := by
      split
      · obtain ⟨pc, c', n, r, hretry⟩ := q.scheduleStreamRetry_eq
        rw [hretry]
        exact ⟨hq.requested, hq.allowed⟩
      · exact ⟨hq.requested, hq.allowed⟩
    simp only [advance, pumpEnd]
    split
    · refine hend ?_
      split <;> exact ⟨rfl, rfl⟩
    · exact ⟨rfl, rfl⟩
  | _ =>
    simp only [advance]
    repeat' split
    all_goals exact ⟨rfl, rfl⟩

/-- Only a start and a change of source set the request. -/
theorem advance_streamRequested (hstart : ∀ k, p ≠ .start k)
    (hselect : ∀ source, p ≠ .afterStop (.select source true)) (h : s.streamRequested = false) :
    (s.advance t p).streamRequested = false := by
  cases hchoice : p.changesChoice with
  | false => exact (advance_sameChoice t hchoice).requested.trans h
  | true =>
    cases p with
    | stop k =>
      simp only [advance]
      split <;> rfl
    | start k => exact absurd rfl (hstart k)
    | afterStop k =>
      cases k with
      | select source wasRequested =>
        cases wasRequested with
        | true => exact absurd rfl (hselect source)
        | false => rfl
      | _ => cases hchoice
    | setDistributionEnabled | setSourceDistributionEnabled => exact h
    | _ => cases hchoice

/-! ## Steps -/

theorem SwitchedOff.advance (h : SwitchedOff s) (hs : Placed s) (hlock : LockInOrder s)
    (ha : s.active = some (t, p)) (hallowed : s.distributionAllowed = false)
    (hmedia : p ≠ .mediaDone) (hselect : ∀ source, p ≠ .afterStop (.select source true)) :
    SwitchedOff (s.advance t p) := by
  have hstart : ∀ k, p ≠ .start k := fun k hk => h.start t k (hk ▸ ha)
  refine ⟨advance_streamRequested hstart hselect h.requested, ?_,
    h.guarded.advance hs hlock ha hstart⟩
  intro u k hu
  have hfrom := advance_starts hu
  cases k with
  | command =>
    rcases hfrom with ⟨-, hyes⟩ | hp
    · exact nomatch hallowed.symm.trans hyes
    · exact hmedia hp
  | select =>
    obtain ⟨source, hp⟩ := hfrom
    exact hselect source hp
  | retry => exact nomatch h.requested.symm.trans hfrom.2

/-- A task on its way to a stop goes on, until it has withdrawn the request. -/
theorem mutes_advance (hs : Placed s) (ha : s.active = some (t, p))
    (hp : (Place.running p).mutes = true) :
    (s.advance t p).Somewhere Place.mutes ∨ SwitchedOff (s.advance t p) := by
  have ht : (s.advance t p).Used t := (hs.active_used ha).mono (advance_nextTask s t p)
  cases p with
  | sendSignal k =>
    refine .inl (.of_place ht ?_)
    simp only [advance]
    split
    · rw [place_suspend]
      rfl
    · rw [place_goto]
      rfl
  | stop k =>
    refine .inr ?_
    have hjoins : (s.advance t (.stop k)).Guarded := by
      refine .inl (.of_place ht ?_)
      simp only [advance]
      split
      · rw [place_suspend]
        rfl
      · rw [place_goto]
        rfl
    refine ⟨?_, ?_, hjoins⟩
    · simp only [advance]
      split <;> rfl
    · intro u k' hu
      simp only [advance] at hu
      split at hu <;> cases hu
  | _ => cases hp

/-- A step that leaves the running task on its way to a stop. -/
theorem Silent.of_sendSignal {k : StopCaller} (hs : Placed s) (ha : s.active = some (t, p))
    (hp : (s.advance t p).active = some (t, .sendSignal k)) : Silent (s.advance t p) := by
  have ht := (hs.active_used ha).mono (advance_nextTask s t p)
  refine .inr (.inl (.of_place ht ?_))
  rw [place_active hp]
  rfl

/-- Allowed distribution stays allowed, or is disabled and a stop is on its way. -/
theorem allowed_advance (hs : Placed s) (ha : s.active = some (t, p))
    (h : s.distributionAllowed = true)
    (hselect : ∀ source wasRequested, p ≠ .afterStop (.select source wasRequested)) :
    Silent (s.advance t p) := by
  cases hchoice : p.changesChoice with
  | false => exact .inl ((advance_sameChoice t hchoice).allowed.trans h)
  | true =>
    cases p with
    | setDistributionEnabled enabled =>
      cases enabled with
      | true =>
        have hsource := ((Bool.and_eq_true ..).mp h).2
        exact .inl ((Bool.and_eq_true ..).mpr ⟨rfl, hsource⟩)
      | false => exact .of_sendSignal (k := .setter) hs ha rfl
    | setSourceDistributionEnabled source enabled =>
      by_cases hstop : source = s.selectedSource ∧ enabled = false
      · refine .of_sendSignal (k := .setter) hs ha ?_
        simp only [advance, if_pos hstop]
        rfl
      · refine .inl ?_
        obtain ⟨hglobal, hflag⟩ := (Bool.and_eq_true ..).mp h
        refine (Bool.and_eq_true ..).mpr ⟨hglobal, ?_⟩
        show (Function.update s.sourceDistributionEnabled source (some enabled)
          s.selectedSource).getD false = true
        by_cases hselected : s.selectedSource = source
        · rw [hselected, Function.update_self]
          cases enabled with
          | true => rfl
          | false => exact absurd ⟨hselected.symm, rfl⟩ hstop
        · rw [Function.update_of_ne hselected]
          exact hflag
    | stop k =>
      refine .inl ?_
      simp only [advance]
      split <;> exact h
    | start k =>
      refine .inl ?_
      simp only [advance]
      split <;> exact h
    | afterStop k =>
      cases k with
      | select source wasRequested => exact absurd rfl (hselect source wasRequested)
      | _ => cases hchoice
    | _ => cases hchoice

/-- The end of a change of source. -/
theorem select_silent {source : Source} {wasRequested : Bool} (hs : Placed s)
    (hlock : LockInOrder s) (ha : s.active = some (t, .afterStop (.select source wasRequested)))
    (hok : s.Heeds .step) : Silent (s.advance t (.afterStop (.select source wasRequested))) := by
  simp only [Heeds, ha] at hok
  obtain hallowed | hmutes | ⟨rfl, hguarded⟩ := hok
  · exact .inl hallowed
  · exact .inr (.inl (hmutes.advance hs ha rfl rfl))
  · refine .inr (.inr ⟨rfl, fun u k hu => (nomatch hu), ?_⟩)
    exact hguarded.advance hs hlock ha fun k hk => (nomatch hk)

theorem advance_silent (h : Silent s) (hs : Placed s) (hlock : LockInOrder s)
    (ha : s.active = some (t, p)) (hok : s.Heeds .step) : Silent (s.advance t p) := by
  by_cases hselect : ∃ source wasRequested, p = .afterStop (.select source wasRequested)
  · obtain ⟨source, wasRequested, rfl⟩ := hselect
    exact select_silent hs hlock ha hok
  by_cases hmutes : s.Somewhere Place.mutes
  · cases hp : (Place.running p).mutes with
    | true => exact .inr (mutes_advance hs ha hp)
    | false => exact .inr (.inl (hmutes.advance hs ha rfl hp))
  cases hallowed : s.distributionAllowed with
  | true =>
    exact allowed_advance hs ha hallowed fun source wasRequested hp =>
      hselect ⟨source, wasRequested, hp⟩
  | false =>
    have hoff : SwitchedOff s := by
      rcases h with hyes | hyes | hoff
      · exact nomatch hallowed.symm.trans hyes
      · exact absurd hyes hmutes
      · exact hoff
    refine .inr (.inr (hoff.advance hs hlock ha hallowed ?_ fun source hp => hselect ⟨source, true, hp⟩))
    rintro rfl
    simp only [Heeds, ha] at hok
    rcases hok with hyes | hyes
    · exact nomatch hallowed.symm.trans hyes
    · exact hmutes hyes

/-! ## Runs -/

/-- A task on its way to a stop, or to the stream lock, is still there when it is resumed. -/
theorem wakes_mutes {reply : Reply} (hw : s.wakes t reply = some p)
    (h : (Place.suspended (s.pc t)).mutes = true) : (Place.running p).mutes = true := by
  have hwoken := wakes_cases hw
  generalize s.pc t = pc at hwoken h
  cases hwoken with
  | stop => rfl
  | _ => cases h

theorem wakes_joins {reply : Reply} (hw : s.wakes t reply = some p)
    (h : (Place.suspended (s.pc t)).joins = true) : (Place.running p).joins = true := by
  have hwoken := wakes_cases hw
  generalize s.pc t = pc at hwoken h
  cases hwoken with
  | stopAcquire => rfl
  | _ => cases h

theorem activate_silent {reply : Reply} (h : Silent s) (ha : s.active = none)
    (hw : s.wakes t reply = some p) : Silent (s.activate t p) := by
  rcases h with hallowed | hmutes | hoff
  · exact .inl hallowed
  · exact .inr (.inl (hmutes.activate ha (wakes_mutes hw)))
  · refine .inr (.inr ⟨hoff.requested, ?_, ?_⟩)
    · intro u k hu
      cases hu
      exact wakes_ne_start hw
    · exact hoff.guarded.imp (·.activate ha (wakes_joins hw)) id

theorem next_silent {m : Move} (h : Silent s) (hs : Placed s) (hlock : LockInOrder s)
    (hok : s.Heeds m) (hnext : s.next m = some s') : Silent s' := by
  have hcalled {q : Publisher} (hplace : ∀ u, u ≠ .op s.nextTask → q.place u = s.place u)
      (hn : q.nextTask = s.nextTask + 1) (hallowed : q.distributionAllowed = s.distributionAllowed)
      (hrequested : q.streamRequested = s.streamRequested) (hlast : q.StopIsLast ↔ s.StopIsLast)
      (hstart : ∀ u k, q.active ≠ some (u, .start k)) : Silent q := by
    rcases h with hyes | hmutes | hoff
    · exact .inl (hallowed.trans hyes)
    · exact .inr (.inl (hmutes.called hn hplace))
    · exact .inr (.inr ⟨hrequested.trans hoff.requested, hstart,
        hoff.guarded.imp (·.called hn hplace) hlast.mpr⟩)
  cases next_moved hnext with
  | step ha => exact advance_silent h hs hlock ha hok
  | resume ha hw => exact activate_silent h ha hw
  | serverCommand ha command =>
    exact hcalled (fun u => place_onServerCommand_of_ne ha command) rfl rfl rfl Iff.rfl
      fun u k hu => (nomatch ha.symm.trans hu)
  | selectSource ha | setDistributionEnabled ha | setSourceDistributionEnabled ha =>
    exact hcalled (fun u => place_call_of_ne ha) rfl rfl rfl Iff.rfl fun u k hu => (nomatch hu)

theorem reach_silent (h : machine.Reach Heeds s) : Silent s := by
  refine h.invariant_of (J := fun q => Placed q ∧ LockInOrder q)
    (fun q hq => ⟨reach_placed hq, reach_lockInOrder hq⟩) ?_
    fun q m q' hall hq hok hn => next_silent hq hall.1 hall.2 hok hn
  intro q hq
  obtain ⟨enabled, devices, media, rfl⟩ := hq
  exact .inr (.inr ⟨rfl, fun u k hu => (nomatch hu), .inr rfl⟩)

/-- **Disabled means silent**: while no operation is in progress and distribution is not allowed
    for the selected source, the stream is not requested and there is no stream task. -/
theorem disabled_is_silent (h : machine.Reach Heeds s) (hidle : s.Idle)
    (hdisabled : s.distributionAllowed = false) :
    s.streamRequested = false ∧ s.streamTask = none := by
  have hbusy {f : Place → Bool} (hf : ∀ pc, f (.suspended pc) = true → pc.busy = true) :
      ¬ s.Somewhere f := by
    rintro ⟨u, hmem, hu⟩
    rw [place_idle hidle.1] at hu
    exact nomatch (hidle.2 u hmem).1.symm.trans (hf _ hu)
  rcases reach_silent h with hallowed | hmutes | hoff
  · exact nomatch hdisabled.symm.trans hallowed
  · exact absurd hmutes (hbusy fun pc hpc => by cases pc <;> first | rfl | exact nomatch hpc)
  · refine ⟨hoff.requested, ?_⟩
    have hlast := hoff.guarded.resolve_left
      (hbusy fun pc hpc => by cases pc <;> first | rfl | exact nomatch hpc)
    rcases List.eq_nil_or_concat' s.streamLock.queue with hempty | ⟨l, e, hl⟩
    · exact (stopIsLast_nil hempty).mp hlast
    · -- an entry of the queue is a task in the middle of an operation
      have hentry := (reach_lockInOrder h).entry e (by rw [hl]; simp)
      have hpc := (hidle.all (reach_placed h) e.task).1
      rw [place_idle hidle.1] at hentry
      cases hat : s.pc e.task with
      | stopLock | startLock | capturing =>
        rw [hat] at hpc
        exact nomatch hpc
      | _ =>
        rw [hat] at hentry
        exact nomatch hentry

end Guarded

/-- A record is being streamed when distribution is disabled. -/
theorem disabled_is_silent_record : ∃ s : Publisher, s.distributionAllowed = false ∧
    s.streamRequested = false ∧ s.streamTask = none := by
  obtain ⟨s, hs, hidle, hdisabled⟩ := Machine.exists_reach (m := machine.guarded Heeds)
    (l := List.flatten [connecting, startCommand 0,
      [.resume (.op 0) .ok, .step, .step, .resume (.pump 1) .ok, .step,
        .setDistributionEnabled false, .step, .step, .resume (.op 2) .ok, .step, .step, .step,
        .resume (.pump 1) .cancelled, .step, .resume (.pump 1) .ok, .step,
        .resume (.op 2) .ok, .step, .step, .step]])
    (fun s => s.Idle ∧ s.distributionAllowed = false) bothSources_initialised (by decide +kernel)
  exact ⟨s, hdisabled, disabled_is_silent (.of_guarded hs) hidle hdisabled⟩

/-- Bluetooth is selected and a start command awaits the play command.  Distribution is disabled
    meanwhile; then the start goes on and opens the capture. -/
theorem disabled_streams : ¬ ∀ s : Publisher, machine.Reach Machine.anyMove s → s.Idle →
    s.distributionAllowed = false → s.streamRequested = false ∧ s.streamTask = none := by
  intro hall
  obtain ⟨s, hs, hidle, hdisabled, hrequested⟩ := Machine.exists_reach (m := machine)
    (l := List.flatten [connecting,
      [.selectSource .bluetooth, .step, .step, .step, .step, .step, .step, .step,
        .serverCommand .start, .resume (.op 1) .ok, .step,
        .setDistributionEnabled false, .step, .step, .resume (.op 2) .ok, .step, .step, .step,
        .step, .step, .step,
        .resume (.op 1) .ok, .step, .step, .step, .resume (.op 1) .ok, .step, .step,
        .resume (.pump 3) .ok, .step]])
    (fun s => s.Idle ∧ s.distributionAllowed = false ∧ s.streamRequested = true)
    bothSources_initialised (by decide +kernel)
  exact nomatch (hall s hs hidle hdisabled).1.symm.trans hrequested

end Publisher

end PhonoConsole
