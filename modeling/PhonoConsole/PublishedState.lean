/-
  THE PUBLISHED STATE IS NEVER STALE, as long as no server command ends on a silent branch with
  something to report.

  Most operations publish at their end, whatever they did.  A server command does not: an ignored
  start and a stop publish only if they stopped a stream (or the phono is selected), and a start
  only if it comes to capture.  What they have changed by then, the request flag or the pending
  phono stop, may stay unpublished.

  * `owes`    — the task publishes before it ends, or before it waits for anything that is no
    part of an operation;
  * `Current` — the invariant: the dictionary is what it should be, or some task owes it;
  * `Reports` — the condition: what a command changes, it or somebody else will publish.

  One step of a task either publishes, or leaves the task owing, or changes nothing that is
  published (`advance_reports`).
-/
import PhonoConsole.PublisherTasks

namespace PhonoConsole

namespace Publisher

/-! ## Who is going to publish -/

/-- The dictionary last given to the state store is what it would be now. -/
def Fresh (s : Publisher) : Prop := s.published = some s.snapshot

/-- The caller of `_stop_streaming` publishes when that has returned. -/
def publishesAfter (s : Publisher) : StopCaller → Bool
  | .setter | .select _ _ | .disconnect => true
  | .ignoredStart => false
  | .stopCommand => s.selectedSource == .phono

/-- A start would come to capture without waiting. -/
def captures (s : Publisher) : Bool := s.client && s.streamTask.isNone && s.streamLock.free

/-- A suspended task that publishes before it ends. -/
def Pc.owes (s : Publisher) (t : TaskId) : Pc → Bool
  | .sendSignal k => s.publishesAfter k
  | .joinRetry k _ | .stopLock k => s.publishesAfter k || s.streaming
  | .joinPump k _ wasStreaming => s.publishesAfter k || wasStreaming
  | .startLock .select | .capturing .select | .capturing .command | .runTearingDown => true
  -- the `finally` of a phono stop that has begun
  | .phonoStopSleep | .phonoStopAction => s.cancelled t
  | _ => false

/-- A running task that publishes before it ends. -/
def Point.owes (s : Publisher) : Point → Bool
  | .sendSignal k | .stop k | .afterStop k => s.publishesAfter k
  | .stopAcquire k | .take k => s.publishesAfter k || s.streaming
  | .stopped k wasStreaming => s.publishesAfter k || wasStreaming
  | .start .command => s.captures
  | .startOwned .command => s.client && s.streamTask.isNone
  | .start .select | .startOwned .select | .captured .select _ | .captured .command _
  | .started .select | .publish | .phonoStopEnd | .toreDown => true
  | _ => false

/-- The task publishes before it ends. -/
def owes (s : Publisher) (t : TaskId) : Bool :=
  match s.place t with
  | .suspended pc => pc.owes s t
  | .running p => p.owes s

/-- Some operation in progress publishes before it ends. -/
def Owing (s : Publisher) : Prop := ∃ t ∈ s.tasks, s.owes t = true

instance (s : Publisher) : Decidable s.Owing := by
  unfold Owing
  exact inferInstance

/-- Cancelling the phono stop is reported: by the phono stop itself, which publishes if it has
    begun, by the start that follows, or by somebody else. -/
def PhonoStopReported (s : Publisher) : Prop :=
  match s.phonoStopTask with
  | some p => s.pc (.phonoStop p) = .phonoStopSleep ∨ s.pc (.phonoStop p) = .phonoStopAction ∨
      s.captures = true ∨ s.Owing
  | none => True

/-- What the step changes is reported. -/
def Reports (s : Publisher) (m : Move) : Prop :=
  match m, s.active with
  | .step, some (_, .stop _) => s.streamRequested = true → s.streaming = true ∨ s.Owing
  | .step, some (_, .start .command) => s.streamRequested = false → s.Owing
  | .step, some (_, .handle .start) | .step, some (_, .mediaDone) => s.PhonoStopReported
  | _, _ => True

/-- The invariant. -/
structure Current (s : Publisher) : Prop where
  fresh : s.Fresh ∨ s.Owing
  /-- a retry starts only what is requested -/
  retry : ∀ t, s.active = some (t, .start .retry) → s.streamRequested = true

section Owing

variable {s s' q : Publisher} {t u : TaskId} {p : Point}

theorem owes_running (ha : s.place t = .running p) : s.owes t = p.owes s := by rw [owes, ha]

theorem owes_suspended {pc : Pc} (ha : s.place t = .suspended pc) : s.owes t = pc.owes s t := by
  rw [owes, ha]

/-- A task that owes is somewhere. -/
theorem owes_place_ne (h : s.owes t = true) : s.place t ≠ .suspended .done := by
  intro hdone
  rw [owes_suspended hdone] at h
  exact nomatch h

theorem Owing.of_owes (ht : s.Used t) (h : s.owes t = true) : s.Owing := ⟨t, mem_tasks.mpr ht, h⟩

/-- What a suspended task owes depends on little else. -/
theorem Pc.owes_of_same (hstreaming : q.streaming = s.streaming)
    (hsource : q.selectedSource = s.selectedSource)
    (hcancelled : s.cancelled t = true → q.cancelled t = true) {pc : Pc}
    (h : pc.owes s t = true) : pc.owes q t = true := by
  have hafter : ∀ k, q.publishesAfter k = s.publishesAfter k := fun k => by
    cases k <;> simp [publishesAfter, hsource]
  cases pc with
  | phonoStopSleep | phonoStopAction => exact hcancelled h
  | sendSignal | joinRetry | stopLock | joinPump => simpa [owes, hafter, hstreaming] using h
  | startLock k | capturing k => cases k <;> exact h
  | runTearingDown => rfl
  | _ => exact nomatch h

/-! ## What a step publishes -/

/-- From `s` to `q` nothing that is published changes, or somebody else owes it. -/
structure Undisturbed (s q : Publisher) : Prop where
  said : q.snapshot = s.snapshot ∧ q.published = s.published ∨ s.Owing
  streaming : q.streaming = s.streaming
  source : q.selectedSource = s.selectedSource

theorem Undisturbed.of_eq (hsnapshot : q.snapshot = s.snapshot)
    (hpublished : q.published = s.published) : Undisturbed s q :=
  ⟨.inl ⟨hsnapshot, hpublished⟩, congrArg Publication.streaming hsnapshot,
    congrArg Publication.selectedSource hsnapshot⟩

/-- A step of `t` at `p` publishes, or leaves somebody owing, or disturbs nothing. -/
def Accounted (s : Publisher) (t : TaskId) (p : Point) (q : Publisher) : Prop :=
  q.Fresh ∨ q.owes t = true ∨ (∃ u, u ≠ t ∧ s.Used u ∧ q.owes u = true) ∨
    p.owes s = false ∧ Undisturbed s q

theorem Fresh.scheduleStreamRetry (h : s.Fresh) : s.scheduleStreamRetry.Fresh := by
  obtain ⟨pc, c, n, r, hretry⟩ := s.scheduleStreamRetry_eq
  rw [hretry]
  exact h

theorem owes_goto (h : p.owes s = true) : (s.goto t p).owes t = true :=
  (owes_running (place_goto s t p)).trans h

theorem owes_suspend {pc : Pc} (h : pc.owes s t = true) : (s.suspend t pc).owes t = true :=
  (owes_suspended (place_suspend s t pc)).trans h

/-- A phono stop that has begun and is cancelled publishes. -/
theorem cancelled_phonoStop_owes {n : Nat} (ht : t ≠ .phonoStop n)
    (hpc : s.pc (.phonoStop n) = .phonoStopSleep ∨ s.pc (.phonoStop n) = .phonoStopAction) :
    ({ s.cancel (.phonoStop n) with phonoStopTask := none }.goto t p).owes (.phonoStop n) = true := by
  rw [owes_suspended (place_other rfl (Ne.symm ht))]
  show (s.pc (.phonoStop n)).owes _ _ = true
  have hcancelled : Function.update s.cancelled (.phonoStop n) true (.phonoStop n) = true :=
    Function.update_self ..
  rcases hpc with hpc | hpc <;> rw [hpc] <;> exact hcancelled

/-- A start command, allowed, or through with the media command. -/
theorem startBegun_accounted (hs : Placed s) (ha : s.active = some (t, p)) (hp : p.owes s = false)
    (hok : s.PhonoStopReported) :
    Accounted s t p (s.cancelPhonoStop.goto t (.start .command)) := by
  unfold PhonoStopReported at hok
  cases htask : s.phonoStopTask with
  | none =>
    have hsame : s.cancelPhonoStop = s := by simp [cancelPhonoStop, htask]
    rw [hsame]
    exact .inr (.inr (.inr ⟨hp, .of_eq rfl rfl⟩))
  | some n =>
    have hcancel : s.cancelPhonoStop = { s.cancel (.phonoStop n) with phonoStopTask := none } := by
      simp [cancelPhonoStop, htask]
    rw [hcancel]
    simp only [htask] at hok
    have hbegun (hpc : s.pc (.phonoStop n) = .phonoStopSleep ∨
        s.pc (.phonoStop n) = .phonoStopAction) :
        ∃ u, u ≠ t ∧ s.Used u ∧ ({ s.cancel (.phonoStop n) with
          phonoStopTask := none }.goto t (.start .command)).owes u = true := by
      have ht : t ≠ .phonoStop n := by
        rintro rfl
        rcases hpc with hpc | hpc <;> exact nomatch (hs.running _ _ ha).symm.trans hpc
      refine ⟨.phonoStop n, Ne.symm ht, hs.used _ ?_, cancelled_phonoStop_owes ht hpc⟩
      rcases hpc with hpc | hpc <;> rw [hpc] <;> exact nofun
    obtain hpc | hpc | hcaptures | howing := hok
    · exact .inr (.inr (.inl (hbegun (.inl hpc))))
    · exact .inr (.inr (.inl (hbegun (.inr hpc))))
    · exact .inr (.inl (owes_goto hcaptures))
    · exact .inr (.inr (.inr ⟨hp, .inr howing, rfl, rfl⟩))

/-- The step goes on owing what it owed. -/
theorem Accounted.goto {p' : Point} (hsame : p'.owes q = p.owes s)
    (hquiet : p.owes s = false → Undisturbed s q) : Accounted s t p (q.goto t p') := by
  cases hp : p.owes s with
  | true => exact .inr (.inl (owes_goto (hsame.trans hp)))
  | false =>
    have h := hquiet hp
    exact .inr (.inr (.inr ⟨hp, h.said, h.streaming, h.source⟩))

theorem Accounted.suspend {pc : Pc} (hsame : pc.owes q t = p.owes s)
    (hquiet : p.owes s = false → Undisturbed s q) : Accounted s t p (q.suspend t pc) := by
  cases hp : p.owes s with
  | true => exact .inr (.inl (owes_suspend (hsame.trans hp)))
  | false =>
    have h := hquiet hp
    exact .inr (.inr (.inr ⟨hp, h.said, h.streaming, h.source⟩))

/-- A step that owed nothing changes nothing that is published. -/
theorem Accounted.quiet (hp : p.owes s = false) (hsnapshot : q.snapshot = s.snapshot)
    (hpublished : q.published = s.published) : Accounted s t p q :=
  .inr (.inr (.inr ⟨hp, .of_eq hsnapshot hpublished⟩))

/-- `_stop_streaming` withdraws the request. -/
theorem stop_accounted {k : StopCaller} (ha : s.active = some (t, .stop k))
    (hok : s.Reports .step) : Accounted s t (.stop k) (s.advance t (.stop k)) := by
  cases hk : s.publishesAfter k || s.streaming with
  | true =>
    simp only [advance]
    split
    · exact .inr (.inl (owes_suspend hk))
    · exact .inr (.inl (owes_goto hk))
  | false =>
    obtain ⟨hafter, hstreaming⟩ := Bool.or_eq_false_iff.mp hk
    cases hrequested : s.streamRequested with
    | false =>
      have hsnapshot : { s with streamRequested := false }.snapshot = s.snapshot := by
        simp [snapshot, hrequested]
      simp only [advance]
      split <;> exact .quiet hafter hsnapshot rfl
    | true =>
      simp only [Reports, ha] at hok
      have howing := (hok hrequested).resolve_left (by simp [hstreaming])
      simp only [advance]
      split <;> exact .inr (.inr (.inr ⟨hafter, .inr howing, rfl, rfl⟩))

/-- `_stop_streaming` takes the stream away. -/
theorem take_accounted (s : Publisher) (t : TaskId) (k : StopCaller) :
    Accounted s t (.take k) (s.advance t (.take k)) := by
  have hquiet : (Point.take k).owes s = false →
      Undisturbed s { s with streamTask := none, streaming := false } := by
    intro hk
    have hstreaming := (Bool.or_eq_false_iff.mp hk).2
    exact .of_eq (by simp [snapshot, hstreaming]) rfl
  simp only [advance]
  split
  · exact .suspend rfl fun hk => ⟨(hquiet hk).said, (hquiet hk).streaming, rfl⟩
  · exact .goto rfl fun hk => ⟨(hquiet hk).said, (hquiet hk).streaming, rfl⟩

/-- `_start_streaming` sets the request. -/
theorem start_accounted {k : StartCaller} (ha : s.active = some (t, .start k))
    (hok : s.Reports .step) (hretry : k = .retry → s.streamRequested = true) :
    Accounted s t (.start k) (s.advance t (.start k)) := by
  cases k with
  | select =>
    simp only [advance]
    split
    · exact .inr (.inl (owes_goto rfl))
    · exact .inr (.inl (owes_suspend rfl))
  | retry =>
    have hsnapshot : { s with streamRequested := true }.snapshot = s.snapshot := by
      simp [snapshot, hretry rfl]
    simp only [advance]
    split <;> exact .quiet rfl hsnapshot rfl
  | command =>
    simp only [advance]
    cases hcaptures : s.captures with
    | true =>
      obtain ⟨hcapture, hfree⟩ := (Bool.and_eq_true ..).mp hcaptures
      rw [if_pos hfree]
      exact .inr (.inl (owes_goto hcapture))
    | false =>
      cases hrequested : s.streamRequested with
      | true =>
        have hsnapshot : { s with streamRequested := true }.snapshot = s.snapshot := by
          simp [snapshot, hrequested]
        split <;> exact .quiet hcaptures hsnapshot rfl
      | false =>
        simp only [Reports, ha] at hok
        split <;> exact .inr (.inr (.inr ⟨hcaptures, .inr (hok hrequested), rfl, rfl⟩))

/-- `_start_streaming` comes to capture, or goes back. -/
theorem startOwned_accounted (s : Publisher) (t : TaskId) (k : StartCaller) :
    Accounted s t (.startOwned k) (s.advance t (.startOwned k)) := by
  cases k with
  | command =>
    simp only [advance]
    split
    · rename_i hback
      rw [Bool.or_eq_true, Bool.not_eq_true'] at hback
      refine .quiet ?_ rfl rfl
      rw [Point.owes, Bool.and_eq_false_iff, Option.isNone_eq_false_iff]
      exact hback
    · exact .inr (.inl (owes_suspend rfl))
  | select =>
    simp only [advance]
    split
    · exact .inr (.inl (owes_goto rfl))
    · exact .inr (.inl (owes_suspend rfl))
  | retry =>
    simp only [advance]
    split <;> exact .quiet rfl rfl rfl

/-- A pump that takes a stream with it publishes. -/
theorem pumpEnd_accounted (s : Publisher) (t : TaskId) (failed : Bool) :
    Accounted s t (.pumpEnd failed) (s.advance t (.pumpEnd failed)) := by
  simp only [advance, pumpEnd]
  split
  · cases hstreaming : s.streaming with
    | true =>
      rw [if_pos rfl]
      split
      · refine .inl ?_
        exact Fresh.scheduleStreamRetry (s := publishState _) rfl
      · exact .inl rfl
    | false =>
      have hsnapshot : { s with streamTask := none, streaming := false }.snapshot = s.snapshot := by
        simp [snapshot, hstreaming]
      rw [if_neg Bool.false_ne_true]
      split
      · obtain ⟨pc, c, n, r, hretry⟩ :=
          { s with streamTask := none, streaming := false }.scheduleStreamRetry_eq
        rw [hretry]
        exact .quiet rfl hsnapshot rfl
      · exact .quiet rfl hsnapshot rfl
  · exact .quiet rfl rfl rfl

theorem advance_accounted (hs : Placed s) (ha : s.active = some (t, p)) (hok : s.Reports .step)
    (hretry : p = .start .retry → s.streamRequested = true) :
    Accounted s t p (s.advance t p) := by
  cases p with
  | selectSource source =>
    simp only [advance]
    split
    · exact .quiet rfl rfl rfl
    · split
      · exact .quiet rfl rfl rfl
      · exact .inr (.inl (owes_goto rfl))
  | setDistributionEnabled enabled => cases enabled <;> exact .inr (.inl (owes_goto rfl))
  | setSourceDistributionEnabled source enabled =>
    simp only [advance]
    split <;> exact .inr (.inl (owes_goto rfl))
  | handle command =>
    cases command with
    | start =>
      simp only [Reports, ha] at hok
      simp only [advance, handle]
      split
      · exact .quiet rfl rfl rfl
      · split
        · exact .quiet rfl rfl rfl
        · exact startBegun_accounted hs ha rfl hok
    | stop => exact .quiet rfl rfl rfl
  | mediaDone =>
    simp only [Reports, ha] at hok
    exact startBegun_accounted hs ha rfl hok
  | sendSignal k =>
    simp only [advance]
    split
    · exact .suspend rfl fun _ => .of_eq rfl rfl
    · exact .goto rfl fun _ => .of_eq rfl rfl
  | stop k => exact stop_accounted ha hok
  | stopAcquire k =>
    simp only [advance]
    split
    · exact .goto rfl fun _ => .of_eq rfl rfl
    · exact .suspend rfl fun _ => .of_eq rfl rfl
  | take k => exact take_accounted s t k
  | stopped k wasStreaming =>
    cases wasStreaming with
    | true => exact .inl rfl
    | false => exact .goto (Bool.or_false _).symm fun _ => .of_eq rfl rfl
  | afterStop k =>
    cases k with
    | setter => exact .inr (.inl (owes_goto rfl))
    | select source wasRequested => cases wasRequested <;> exact .inr (.inl (owes_goto rfl))
    | ignoredStart => exact .quiet rfl rfl rfl
    | stopCommand =>
      simp only [advance, afterStop]
      split
      · exact .inl rfl
      · rename_i hselected
        exact .quiet (by simp [Point.owes, publishesAfter, hselected]) rfl rfl
    | disconnect => exact .inr (.inl (owes_suspend rfl))
  | publish | phonoStopEnd | connected | toreDown => exact .inl rfl
  | start k => exact start_accounted ha hok fun hk => hretry (hk ▸ rfl)
  | startOwned k => exact startOwned_accounted s t k
  | captured k failed =>
    simp only [advance, captured]
    split
    · refine .inl ?_
      exact Fresh.scheduleStreamRetry (s := s.publishState) rfl
    · exact .inl rfl
  | started k =>
    cases k with
    | command | retry => exact .quiet rfl rfl rfl
    | select => exact .inr (.inl (owes_goto rfl))
  | pumpFed source activityChanged =>
    simp only [advance]
    split
    · exact .inl rfl
    · exact .quiet rfl rfl rfl
  | pumpEnd failed => exact pumpEnd_accounted s t failed
  | dropped => exact .inr (.inl (owes_goto rfl))
  | _ =>
    simp only [advance]
    repeat' split
    all_goals exact .quiet rfl rfl rfl

/-! ## The invariant -/

/-- A task that owes goes on owing while another one takes its step. -/
theorem advance_owes_other (hs : Placed s) (ha : s.active = some (t, p)) (hu : u ≠ t)
    (howes : s.owes u = true) (hsame : Undisturbed s (s.advance t p)) :
    (s.advance t p).owes u = true := by
  have hne := owes_place_ne howes
  have hplace := place_other ha hu
  rw [owes_suspended ((advance_place_other hs ha hu hne).trans hplace)]
  rw [owes_suspended hplace] at howes
  exact Pc.owes_of_same hsame.streaming hsame.source (advance_cancelled hu (hs.place_used hne)) howes

theorem advance_current (h : Current s) (hs : Placed s) (ha : s.active = some (t, p))
    (hok : s.Reports .step) : Current (s.advance t p) := by
  have hretry : ∀ u, (s.advance t p).active = some (u, .start .retry) →
      (s.advance t p).streamRequested = true := by
    -- a retry goes on to a start only after it has looked at the request
    intro u hu
    obtain ⟨rfl, hrequested⟩ : p = .retryWoke ∧ s.streamRequested = true := advance_starts hu
    exact hrequested
  refine ⟨?_, hretry⟩
  have ht := hs.active_used ha
  have hnext := advance_nextTask s t p
  obtain hfresh | howes | ⟨u, -, hu, howes⟩ | ⟨hp, hsame⟩ :=
    advance_accounted hs ha hok fun hp => h.retry t (hp ▸ ha)
  · exact .inl hfresh
  · exact .inr (.of_owes (ht.mono hnext) howes)
  · exact .inr (.of_owes (hu.mono hnext) howes)
  · have hothers (howing : s.Owing) : (s.advance t p).Owing := by
      obtain ⟨u, hmem, howes⟩ := howing
      have hu : u ≠ t := by
        rintro rfl
        rw [owes_running (place_active ha), hp] at howes
        exact nomatch howes
      exact .of_owes ((mem_tasks.mp hmem).mono hnext) (advance_owes_other hs ha hu howes hsame)
    obtain hfresh | howing := h.fresh
    · obtain ⟨hsnapshot, hpublished⟩ | howing := hsame.said
      · exact .inl (hpublished.trans (hfresh.trans (congrArg some hsnapshot.symm)))
      · exact .inr (hothers howing)
    · exact .inr (hothers howing)

/-- A task that is resumed goes on owing. -/
theorem wakes_owes {reply : Reply} (hw : s.wakes t reply = some p)
    (h : (s.pc t).owes s t = true) : p.owes s = true := by
  have hwoken := wakes_cases hw
  generalize s.pc t = pc at hwoken h
  cases hwoken with
  | stop | stopAcquire | take | stopped | toreDown => exact h
  | @startOwned k =>
    -- of the three callers only a change of source owes already
    cases k with
    | select => rfl
    | _ => cases h
  | @captured k | @captureFailed k =>
    cases k with
    | retry => cases h
    | _ => rfl
  | phonoStopSlept hclear => cases hclear.symm.trans h
  | phonoStopAwoken => rfl
  | phonoStopEnd => rfl
  | _ => cases h

/-- A resumption publishes nothing, and the task that is resumed goes on owing. -/
theorem activate_current {reply : Reply} (h : Current s) (ha : s.active = none)
    (hw : s.wakes t reply = some p) : Current (s.activate t p) := by
  refine ⟨h.fresh.imp id ?_, ?_⟩
  · rintro ⟨u, hmem, howes⟩
    refine ⟨u, hmem, ?_⟩
    rw [owes_suspended (place_idle ha)] at howes
    by_cases hu : u = t
    · subst hu
      have hpoint : p.owes s = true := wakes_owes hw howes
      exact (owes_running (place_activate s u p)).trans hpoint
    · rw [owes_suspended ((place_activate_of_ne hu ha).trans (place_idle ha))]
      exact howes
  · intro u hu
    cases hu
    exact (wakes_ne_start hw).elim

/-- A new operation publishes nothing, and disturbs nobody. -/
theorem Current.called (h : Current s) (hsnapshot : q.snapshot = s.snapshot)
    (hpublished : q.published = s.published)
    (hcancelled : ∀ u, s.Used u → q.cancelled u = s.cancelled u)
    (hplace : ∀ u, u ≠ .op s.nextTask → q.place u = s.place u) (ha : s.active = none)
    (hnext : q.nextTask = s.nextTask + 1) (hstart : ∀ u, q.active ≠ some (u, .start .retry)) :
    Current q := by
  refine ⟨h.fresh.imp ?_ ?_, fun u hu => absurd hu (hstart u)⟩
  · intro hfresh
    exact hpublished.trans (hfresh.trans (congrArg some hsnapshot.symm))
  · rintro ⟨u, hmem, howes⟩
    have hu := mem_tasks.mp hmem
    refine .of_owes (hu.mono (by omega)) ?_
    rw [owes_suspended (place_idle ha)] at howes
    rw [owes_suspended ((hplace u hu.ne_new).trans (place_idle ha))]
    exact Pc.owes_of_same (congrArg Publication.streaming hsnapshot)
      (congrArg Publication.selectedSource hsnapshot) (fun hc => (hcancelled u hu).trans hc) howes

theorem next_current {m : Move} (h : Current s) (hs : Placed s) (hok : s.Reports m)
    (hnext : s.next m = some s') : Current s' := by
  cases next_moved hnext with
  | step ha => exact advance_current h hs ha hok
  | resume ha hw => exact activate_current h ha hw
  | serverCommand ha command =>
    exact h.called rfl rfl (fun u hu => Function.update_of_ne hu.ne_new ..)
      (fun u => place_onServerCommand_of_ne ha command) ha rfl fun u hu => (nomatch ha.symm.trans hu)
  | selectSource ha | setDistributionEnabled ha | setSourceDistributionEnabled ha =>
    exact h.called rfl rfl (fun _ _ => rfl) (fun u => place_call_of_ne ha) ha rfl
      fun u hu => (nomatch hu)

theorem reach_current (h : machine.Reach Reports s) : Current s := by
  refine h.invariant_of (fun q hq => reach_placed hq) ?_
    fun q m q' hplaced hq hok hn => next_current hq hplaced hok hn
  intro q hq
  obtain ⟨enabled, devices, media, rfl⟩ := hq
  exact ⟨.inl rfl, fun u hu => (nomatch hu)⟩

/-- A task that owes is in the middle of an operation, or has a cancellation to come. -/
theorem Idle.not_owing (hidle : s.Idle) : ¬ s.Owing := by
  rintro ⟨u, hmem, howes⟩
  rw [owes_suspended (place_idle hidle.1)] at howes
  obtain ⟨hbusy, hcancelled⟩ := hidle.2 u hmem
  cases hat : s.pc u with
  | phonoStopSleep | phonoStopAction =>
    rw [hat] at howes hcancelled
    exact nomatch hcancelled howes
  | sendSignal | joinRetry | stopLock | joinPump | startLock | capturing | runTearingDown =>
    rw [hat] at hbusy
    exact nomatch hbusy
  | _ =>
    rw [hat] at howes
    exact nomatch howes

/-- **The published state is never stale**: while no operation is in progress, the dictionary
    last given to the state store is what it would be now. -/
theorem published_fresh (h : machine.Reach Reports s) (hidle : s.Idle) : s.Fresh :=
  (reach_current h).fresh.resolve_right hidle.not_owing

end Owing

instance (s : Publisher) : Decidable s.Fresh := by
  unfold Fresh
  exact inferInstance

instance (s : Publisher) : Decidable s.PhonoStopReported := by
  unfold PhonoStopReported
  split <;> exact inferInstance

instance (s : Publisher) (m : Move) : Decidable (s.Reports m) := by
  unfold Reports
  split <;> exact inferInstance

/-- A record was streamed, and a stop command has come: its phono stop is pending. -/
theorem published_fresh_pending : ∃ s : Publisher, s.snapshot.phonoStopPending = true ∧ s.Fresh := by
  obtain ⟨s, hs, hidle, hpending⟩ := Machine.exists_reach (m := machine.guarded Reports)
    (l := List.flatten [connecting, startCommand 0,
      [.resume (.op 0) .ok, .step, .step, .resume (.pump 1) .ok, .step,
        .serverCommand .stop, .resume (.op 2) .ok, .step, .step, .step, .step,
        .resume (.pump 1) .cancelled, .step, .resume (.pump 1) .ok, .step,
        .resume (.op 2) .ok, .step, .step, .resume (.phonoStop 3) .ok, .step]])
    (fun s => s.Idle ∧ s.snapshot.phonoStopPending = true)
    bothSources_initialised (by decide +kernel)
  exact ⟨s, hpending, published_fresh (.of_guarded hs) hidle⟩

/-- Bluetooth is selected, its capture has failed and waits for a retry when a stop command comes:
    the stream goes on being published as requested. -/
theorem published_stale : ¬ ∀ s : Publisher, machine.Reach Machine.anyMove s → s.Idle → s.Fresh := by
  intro hall
  obtain ⟨s, hs, hidle, hstale⟩ := Machine.exists_reach (m := machine)
    (l := List.flatten [connecting,
      [.selectSource .bluetooth, .step, .step, .step, .step, .step, .step, .step,
        .serverCommand .start, .resume (.op 1) .ok, .step, .resume (.op 1) .ok, .step, .step, .step,
        .resume (.op 1) .raised, .step, .step, .resume (.retry 2) .ok, .step,
        .serverCommand .stop, .resume (.op 3) .ok, .step, .step,
        .resume (.retry 2) .cancelled, .step, .resume (.op 3) .ok, .step, .step, .step, .step]])
    (fun s => s.Idle ∧ ¬ s.Fresh) bothSources_initialised (by decide +kernel)
  exact hstale (hall s hs hidle)

end Publisher

end PhonoConsole
