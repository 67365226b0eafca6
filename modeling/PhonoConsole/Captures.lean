/-
  CAPTURES NEITHER OVERLAP NOR LEAK, unless a pump is left behind.

  A capture is opened by `_start_streaming` and closed by its pump alone, in the `finally` block.
  `_stop_streaming` takes the pump away and cancels it under the stream lock, but awaits its end
  without the lock, so another task may open the next capture meanwhile.  And a pump that is
  cancelled before its first step has no `finally` block yet, one that is cancelled inside of it
  leaves it: both never close their capture.

  The publisher runs beside the list of its live captures (`recordCaptures`).  A capture is known
  by its pump.  The invariant `AllHeld`: the list has one element at most, and each one is
  `Held`, by a pump that the stream or a waiting stop still knows of and that no cancellation
  will keep from closing it.

  `Neat` is the condition: a capture comes up only when the pumps that stops wait for have
  ended, and a stop takes away only a pump that has begun and is not closing.
-/
import PhonoConsole.Silent

namespace PhonoConsole

namespace Publisher

/-! ## Live captures -/

/-- The live captures after a move, by the numbers of their pumps: between a successful
    `capture.start()` and the end of `capture.stop()`. -/
def recordCaptures (s : Publisher) (m : Move) (live : List Nat) : List Nat :=
  match m with
  | .resume t .ok =>
    match s.pc t, t with
    | .capturing _, _ => s.nextTask :: live
    | .pumpClosing _, .pump n => live.filter (· ≠ n)
    | _, _ => live
  | _ => live

/-- The publisher beside its live captures. -/
def capturing : Machine (Publisher × List Nat) Move := machine.recording [] recordCaptures

/-! ## The condition -/

/-- If the task waits for a pump, then that pump has ended. -/
def joinDone (s : Publisher) (t : TaskId) : Bool :=
  match s.pc t with
  | .joinPump _ n _ => s.pc (.pump n) = .done
  | _ => true

/-- The pump has made its first step and is not closing its capture. -/
def Pc.midstream : Pc → Bool
  | .pumpNew | .pumpClosing _ => false
  | _ => true

/-- When a capture has been started, all stops that wait for a pump find it ended; when a stop
    takes the pump of the stream away, the pump is in the middle of it. -/
def Neat (s : Publisher) (m : Move) : Prop :=
  match m, s.active with
  | .resume t .ok, _ => match s.pc t with
    | .capturing _ => ∀ u ∈ s.tasks, s.joinDone u = true
    | _ => True
  | .step, some (_, .take _) => ∀ n ∈ s.streamTask, (s.pc (.pump n)).midstream = true
  | _, _ => True

theorem neat_iff (s : Publisher) (m : Move) : (match m, s.active with
      | .resume t .ok, _ => match s.pc t with
        | .capturing _ => decide (∀ u ∈ s.tasks, s.joinDone u = true)
        | _ => true
      | .step, some (_, .take _) => decide (∀ n ∈ s.streamTask, (s.pc (.pump n)).midstream = true)
      | _, _ => true) = true ↔ Neat s m := by
  unfold Neat
  split
  · split <;> simp [*]
  · simp [*]
  · simp [*]

instance (s : Publisher) (m : Move) : Decidable (Neat s m) :=
  decidable_of_iff _ (neat_iff s m)

/-! ## The invariant -/

/-- The pump has a live capture. -/
def Place.pumps : Place → Bool
  | .suspended .pumpNew | .suspended (.pumping _) | .suspended (.pumpClosing _)
  | .running .pumpOpen | .running (.pumpFed _ _) | .running .pumpFailed
  | .running .pumpCancelled => true
  | _ => false

/-- The task has a capture started, or has just got it. -/
def Place.captures : Place → Bool
  | .suspended (.capturing _) | .running (.captured _ _) => true
  | _ => false

/-- The task waits for the pump `n`. -/
def Place.joinsPump (n : Nat) : Place → Bool
  | .suspended (.joinPump _ m _) => m == n
  | _ => false

/-- Where a cancelled pump still closes its capture. -/
def Place.stoppable : Place → Bool
  | .suspended (.pumping _) | .running .pumpCancelled => true
  | _ => false

/-- The capture of the pump `n` is going to be closed. -/
structure Held (s : Publisher) (n : Nat) : Prop where
  pumps : (s.place (.pump n)).pumps = true
  kept : s.streamTask = some n ∨ s.Somewhere (Place.joinsPump n)
  cancelled : s.cancelled (.pump n) = true → (s.place (.pump n)).stoppable = true

/-- The invariant: each open capture is held by its pump, or by a start that is about to make
    one. -/
structure AllHeld (x : Publisher × List Nat) : Prop where
  flag : x.1.streaming = x.1.streamTask.isSome
  free : ∀ t, (x.1.place t).captures = true → x.1.streamTask = none
  held : ∀ n ∈ x.2, x.1.Held n ∨ n = x.1.nextTask ∧ ∃ t k, x.1.active = some (t, .captured k false)
  one : x.2.length ≤ 1

section Captures

variable {s s' q : Publisher} {t u : TaskId} {p : Point} {n : Nat} {live : List Nat}

/-! ## The stream task -/

theorem advance_flag (h : s.streaming = s.streamTask.isSome) :
    (s.advance t p).streaming = (s.advance t p).streamTask.isSome := by
  cases hmoves : p.movesStream with
  | false =>
    have hsame := advance_sameStream s t hmoves
    rw [hsame.streaming, hsame.task, h]
  | true =>
    cases p with
    | take k =>
      simp only [advance]
      split <;> rfl
    | captured k failed =>
      cases failed with
      | true => cases hmoves
      | false => rfl
    | pumpEnd failed =>
      have hend {q : Publisher} (htask : q.streamTask = none) (hflag : q.streaming = false) :
          (if failed && s.streamRequested then q.scheduleStreamRetry else q).streaming =
            (if failed && s.streamRequested then q.scheduleStreamRetry else q).streamTask.isSome := by
        split
        · have hsame := sameStream_scheduleStreamRetry (t := t) q
          rw [hsame.streaming, hsame.task, htask, hflag]
          rfl
        · rw [htask, hflag]
          rfl
      simp only [advance, pumpEnd]
      split
      · refine hend ?_ ?_
        · split <;> rfl
        · split <;> rfl
      · exact h
    | afterStop k =>
      cases k with
      | select source wasRequested => exact h
      | _ => cases hmoves
    | _ => cases hmoves

/-- Only a start that finds no stream has a capture started. -/
theorem advance_captures (h : ((s.advance t p).place t).captures = true) :
    (s.advance t p).streamTask = none := by
  obtain ⟨cancelled, hcancel⟩ := s.cancelPhonoStop_eq
  cases p with
  | startOwned k =>
    by_cases hskip : (!s.client || s.streamTask.isSome) = true
    · simp only [advance, if_pos hskip, place_goto] at h
      cases h
    · simp only [advance, if_neg hskip]
      rw [Bool.or_eq_true, not_or, Option.not_isSome_iff_eq_none] at hskip
      exact hskip.2
  | handle command =>
    cases command with
    | start =>
      simp only [advance, handle] at h
      split at h
      · simp [Place.captures] at h
      · split at h <;> simp [Place.captures] at h
    | stop => simp [advance, handle, Place.captures] at h
  | afterStop k =>
    cases k with
    | stopCommand =>
      simp only [advance, afterStop] at h
      split at h <;> simp [Place.captures] at h
    | select source wasRequested =>
      cases wasRequested <;> simp [advance, afterStop, Place.captures] at h
    | _ => simp [advance, afterStop, Place.captures] at h
  | captured k failed =>
    simp only [advance, captured] at h
    split at h <;> simp [Place.captures] at h
  | started k =>
    cases k with
    | retry =>
      simp only [advance, started] at h
      split at h <;> simp [Place.captures] at h
    | _ => simp [advance, started, Place.captures] at h
  | pumpEnd failed =>
    simp only [advance, pumpEnd] at h
    split at h <;> simp [Place.captures] at h
  | _ =>
    simp only [advance] at h
    repeat' split at h
    all_goals simp [Place.captures] at h

/-- Whoever has a capture started owns the stream lock. -/
theorem Place.owns_of_captures {pl : Place} (h : pl.captures = true) : pl.owns = true := by
  unfold captures at h
  split at h
  · rfl
  · rfl
  · exact nomatch h

theorem advance_free (h : ∀ u, (s.place u).captures = true → s.streamTask = none)
    (hlock : LockInOrder s) (ha : s.active = some (t, p))
    (hu : ((s.advance t p).place u).captures = true) : (s.advance t p).streamTask = none := by
  by_cases hut : u = t
  · subst hut
    exact advance_captures hu
  · have hsame : (s.advance t p).place u = s.place u := by
      rcases advance_place_cases ha hut with hsame | ⟨-, -, pc, hnew, hplace⟩
      · exact hsame
      · rw [hplace] at hu
        cases pc with
        | capturing => exact nomatch hnew
        | _ => exact nomatch hu
    rw [hsame] at hu
    refine advance_streamTask_none ?_ (h u hu)
    rintro k rfl
    -- two tasks would own the lock
    exact hut (hlock.alone (place_active ha ▸ rfl) (Place.owns_of_captures hu))

/-! ## Held captures -/

theorem Held.ne_done (h : s.Held n) : s.place (.pump n) ≠ .suspended .done := by
  intro hdone
  have hpumps := h.pumps
  rw [hdone] at hpumps
  exact nomatch hpumps

/-- The pump itself goes on. -/
theorem Held.advance_own (h : s.Held n) (ha : s.active = some (.pump n, p)) :
    ((s.advance (.pump n) p).place (.pump n)).pumps = true ∧
      (s.advance (.pump n) p).cancelled (.pump n) = false ∧ p.movesStream = false := by
  have hplace := place_active ha
  have hpumps := h.pumps
  have hcancelled := h.cancelled
  rw [hplace] at hpumps hcancelled
  cases p with
  | pumpOpen =>
    have hclear := Bool.eq_false_iff.mpr fun hyes => by cases hcancelled hyes
    exact ⟨by simp [advance, Place.pumps], hclear, rfl⟩
  | pumpFed source activityChanged =>
    have hclear : s.cancelled (.pump n) = false :=
      Bool.eq_false_iff.mpr fun hyes => by cases hcancelled hyes
    simp only [advance]
    refine ⟨by simp [Place.pumps], ?_, rfl⟩
    split <;> exact hclear
  | pumpFailed =>
    have hclear := Bool.eq_false_iff.mpr fun hyes => by cases hcancelled hyes
    exact ⟨by simp [advance, Place.pumps], hclear, rfl⟩
  | pumpCancelled => exact ⟨by simp [advance, Place.pumps], Function.update_self .., rfl⟩
  | _ => cases hpumps

/-- The stream's pump stays the stream's, or the task that takes it away waits for it. -/
theorem Held.advance_kept (h : s.Held n) (hs : Placed s) (ha : s.active = some (t, p))
    (hfree : (s.place t).captures = true → s.streamTask = none) :
    (s.advance t p).streamTask = some n ∨ (s.advance t p).Somewhere (Place.joinsPump n) := by
  rcases h.kept with hstream | hjoins
  · cases hmoves : p.movesStream with
    | false => exact .inl ((advance_sameStream s t hmoves).task.trans hstream)
    | true =>
      cases p with
      | take k =>
        refine .inr (.of_place ((hs.active_used ha).mono (advance_nextTask s t _)) ?_)
        simp [advance, hstream, Place.joinsPump]
      | captured k failed =>
        have hnone := hfree (by rw [place_active ha]; rfl)
        cases hnone.symm.trans hstream
      | pumpEnd failed =>
        have hother : s.streamTask.any (TaskId.pump · == t) = false := by
          rw [hstream]
          refine beq_eq_false_iff_ne.mpr ?_
          rintro rfl
          have hpumps := h.pumps
          rw [place_active ha] at hpumps
          cases hpumps
        have hidle : s.advance t (.pumpEnd failed) = s.suspend t .done := by
          simp [advance, pumpEnd, hother]
        exact .inl ((congrArg streamTask hidle).trans hstream)
      | afterStop k =>
        cases k with
        | select source wasRequested => exact .inl hstream
        | _ => cases hmoves
      | _ => cases hmoves
  · exact .inr (hjoins.advance hs ha rfl rfl)

/-- Another task's step cancels the pump only by taking it away. -/
theorem advance_pumpCancelled (hused : s.Used (.pump n)) (ht : t ≠ .pump n)
    (h : (s.advance t p).cancelled (.pump n) = true) :
    s.cancelled (.pump n) = true ∨ s.streamTask = some n ∧ ∃ k, p = .take k := by
  cases hmoves : p.movesStream with
  | false => exact .inl ((advance_sameStream s t hmoves).cancelled n ht ▸ h)
  | true =>
    cases p with
    | take k =>
      simp only [advance] at h
      split at h
      · rename_i m hm
        by_cases hmn : m = n
        · exact .inr ⟨hmn ▸ hm, k, rfl⟩
        · refine .inl ((Function.update_of_ne ?_ ..).symm.trans h)
          rintro ⟨⟩
          exact hmn rfl
      · exact .inl h
    | captured k failed =>
      cases failed with
      | true => cases hmoves
      | false =>
        refine .inl ((Function.update_of_ne ?_ ..).symm.trans h)
        rintro ⟨⟩
        exact Nat.lt_irrefl _ hused
    | pumpEnd failed =>
      have hend {q : Publisher} (hq : q.cancelled (.pump n) = s.cancelled (.pump n)) :
          (if failed && s.streamRequested then q.scheduleStreamRetry else q).cancelled (.pump n) =
            s.cancelled (.pump n) := by
        split
        · exact ((sameStream_scheduleStreamRetry (t := t) q).cancelled n ht).trans hq
        · exact hq
      simp only [advance, pumpEnd] at h
      split at h
      · refine .inl ((hend ?_).symm.trans h)
        split <;> rfl
      · exact .inl h
    | afterStop k =>
      cases k with
      | select source wasRequested => exact .inl h
      | _ => cases hmoves
    | _ => cases hmoves

theorem Held.advance (h : s.Held n) (hs : Placed s) (ha : s.active = some (t, p))
    (hfree : (s.place t).captures = true → s.streamTask = none) (hok : s.Neat .step) :
    (s.advance t p).Held n := by
  have hkept := h.advance_kept hs ha hfree
  by_cases ht : t = .pump n
  · subst ht
    obtain ⟨hpumps, hclear, -⟩ := h.advance_own ha
    exact ⟨hpumps, hkept, fun hyes => nomatch hclear.symm.trans hyes⟩
  · have hsame := advance_place_other hs ha (Ne.symm ht) h.ne_done
    refine ⟨hsame ▸ h.pumps, hkept, ?_⟩
    intro hcancelled
    rw [hsame]
    rcases advance_pumpCancelled (hs.place_used h.ne_done) ht hcancelled with hyes | ⟨hstream, k, rfl⟩
    · exact h.cancelled hyes
    · -- the pump that is taken away is in the middle of the stream
      simp only [Neat, ha] at hok
      have hmid := hok n hstream
      have hpumps := h.pumps
      rw [place_other ha (Ne.symm ht)] at hpumps ⊢
      cases hpc : s.pc (.pump n) with
      | pumpNew | pumpClosing =>
        rw [hpc] at hmid
        exact nomatch hmid
      | pumping source => rfl
      | _ =>
        rw [hpc] at hpumps
        exact nomatch hpumps

/-- A resumed pump goes on, if it does not come back from `capture.stop()`. -/
theorem Held.wakes_own {reply : Reply} (h : s.Held n) (ha : s.active = none)
    (hw : s.wakes (.pump n) reply = some p)
    (hclosed : ∀ failed, s.pc (.pump n) = .pumpClosing failed → reply ≠ .ok) :
    (Place.running p).pumps = true ∧
      (s.cancelled (.pump n) = true → (Place.running p).stoppable = true) := by
  have hpumps := h.pumps
  have hcancelled := h.cancelled
  rw [place_idle ha] at hpumps hcancelled
  have hwoken := wakes_cases hw
  generalize s.pc (.pump n) = pc at hwoken hpumps hcancelled hclosed
  cases hwoken with
  | pumpOpen hclear | pumpFed hclear | pumpFailed hclear =>
    exact ⟨rfl, fun hyes => by cases hclear.symm.trans hyes⟩
  | pumpCancelled => exact ⟨rfl, fun _ => rfl⟩
  | pumpUnborn hyes | pumpGone hyes => cases hcancelled hyes
  | pumpEnd => exact absurd rfl (hclosed _ rfl)
  | _ => cases hpumps

/-- A task that waits for a pump is not resumed before the pump has ended. -/
theorem Held.not_joined {reply : Reply} (h : s.Held n) (ha : s.active = none)
    (hw : s.wakes t reply = some p) : (Place.suspended (s.pc t)).joinsPump n = false := by
  refine Bool.eq_false_iff.mpr fun hjoins => h.ne_done ?_
  have hwoken := wakes_cases hw
  generalize s.pc t = pc at hwoken hjoins
  cases hwoken with
  | stopped hdone =>
    rw [place_idle ha, ← eq_of_beq hjoins, hdone]
  | _ => cases hjoins

theorem Held.activate {reply : Reply} (h : s.Held n) (ha : s.active = none)
    (hw : s.wakes t reply = some p)
    (hclosed : t = .pump n → ∀ failed, s.pc (.pump n) = .pumpClosing failed → reply ≠ .ok) :
    (s.activate t p).Held n := by
  have hkept : (s.activate t p).streamTask = some n ∨
      (s.activate t p).Somewhere (Place.joinsPump n) := by
    refine h.kept.imp id fun hjoins => hjoins.activate ha fun hyes => ?_
    exact nomatch (h.not_joined ha hw).symm.trans hyes
  by_cases ht : t = .pump n
  · subst ht
    obtain ⟨hpumps, hstoppable⟩ := h.wakes_own ha hw (hclosed rfl)
    exact ⟨by rwa [place_activate], hkept, fun hyes => by rw [place_activate]; exact hstoppable hyes⟩
  · have hsame := place_activate_of_ne (p := p) (Ne.symm ht) ha
    exact ⟨hsame ▸ h.pumps, hkept, fun hyes => hsame ▸ h.cancelled hyes⟩

/-- A new operation is no pump. -/
theorem Held.called (h : s.Held n) (hn : q.nextTask = s.nextTask + 1)
    (htask : q.streamTask = s.streamTask)
    (hcancelled : q.cancelled (.pump n) = s.cancelled (.pump n))
    (hplace : ∀ u, u ≠ .op s.nextTask → q.place u = s.place u) : q.Held n where
  pumps := hplace (.pump n) nofun ▸ h.pumps
  kept := h.kept.imp htask.trans (·.called hn hplace)
  cancelled hyes := hplace (.pump n) nofun ▸ h.cancelled (hcancelled ▸ hyes)

/-! ## Runs -/

theorem advance_allHeld (h : AllHeld (s, live)) (hs : Placed s) (hlock : LockInOrder s)
    (ha : s.active = some (t, p)) (hok : s.Neat .step) : AllHeld (s.advance t p, live) where
  flag := advance_flag h.flag
  free _ := advance_free h.free hlock ha
  held n hn := by
    rcases h.held n hn with hheld | ⟨rfl, u, k, hu⟩
    · exact .inl (hheld.advance hs ha (h.free t) hok)
    · -- the pump of the capture that has just come up
      obtain ⟨rfl, rfl⟩ := Prod.ext_iff.mp (Option.some.inj (hu.symm.trans ha))
      have hne : TaskId.pump s.nextTask ≠ u := by
        rintro rfl
        exact Nat.lt_irrefl _ (hs.active_used ha)
      refine .inl ⟨?_, .inl rfl, fun hyes => ?_⟩
      · rw [place_of_not_active fun p' hp' => hne (congrArg Prod.fst (Option.some.inj hp')).symm,
          show (s.advance u (.captured k false)).pc (.pump s.nextTask) = .pumpNew from
            Function.update_self ..]
        rfl
      · have hclear : (s.advance u (.captured k false)).cancelled (.pump s.nextTask) = false :=
          Function.update_self ..
        exact nomatch hclear.symm.trans hyes
  one := h.one

/-- When a capture comes up and no stop waits for a pump that has not ended, no other capture is
    live. -/
theorem AllHeld.nothing_live {k : StartCaller} (h : AllHeld (s, live)) (ha : s.active = none)
    (hpc : s.pc t = .capturing k) (hdone : ∀ u ∈ s.tasks, s.joinDone u = true) : live = [] := by
  refine List.eq_nil_iff_forall_not_mem.mpr fun n hn => ?_
  rcases h.held n hn with hheld | ⟨-, u, k', hu⟩
  · rcases hheld.kept with hstream | ⟨u, hmem, hjoins⟩
    · have hnone := h.free t (by rw [place_idle ha, hpc]; rfl)
      exact nomatch hnone.symm.trans hstream
    · refine hheld.ne_done ?_
      have hjoined := hdone u hmem
      rw [place_idle ha] at hjoins
      cases hat : s.pc u with
      | joinPump k' m wasStreaming =>
        rw [hat] at hjoins
        rw [joinDone, hat] at hjoined
        rw [place_idle ha, ← eq_of_beq hjoins, of_decide_eq_true hjoined]
      | _ =>
        rw [hat] at hjoins
        exact nomatch hjoins
  · exact nomatch ha.symm.trans hu

/-- A task that is resumed has had a capture started before. -/
theorem wakes_captures {reply : Reply} (hw : s.wakes t reply = some p)
    (h : (Place.running p).captures = true) : (Place.suspended (s.pc t)).captures = true := by
  have hwoken := wakes_cases hw
  generalize s.pc t = pc at hwoken ⊢
  cases hwoken with
  | captured | captureFailed | retryAbort => rfl
  | _ => cases h

/-- `capture.start()` has succeeded. -/
theorem wakes_captured {k : StartCaller} (hw : s.wakes t .ok = some p) (hpc : s.pc t = .capturing k) :
    p = .captured k false := by
  have hwoken := wakes_cases hw
  rw [hpc] at hwoken
  cases hwoken
  rfl

theorem activate_allHeld {reply : Reply} (h : AllHeld (s, live)) (ha : s.active = none)
    (hw : s.wakes t reply = some p) (hok : s.Neat (.resume t reply)) :
    AllHeld (s.activate t p, recordCaptures s (.resume t reply) live) := by
  have hfree : ∀ u, ((s.activate t p).place u).captures = true → s.streamTask = none := by
    intro u hu
    by_cases hut : u = t
    · subst hut
      rw [place_activate] at hu
      exact h.free u (by rw [place_idle ha]; exact wakes_captures hw hu)
    · rw [place_activate_of_ne hut ha] at hu
      exact h.free u hu
  have hheld : ∀ n ∈ live, s.Held n := fun n hn =>
    (h.held n hn).resolve_right fun ⟨_, u, k, hu⟩ => nomatch ha.symm.trans hu
  have hkeeps : (∀ failed, s.pc t = .pumpClosing failed → reply ≠ .ok) →
      AllHeld (s.activate t p, live) := fun hopen =>
    ⟨h.flag, hfree, fun n hn => .inl ((hheld n hn).activate ha hw fun heq => heq ▸ hopen), h.one⟩
  cases reply with
  | ok =>
    cases hpc : s.pc t with
    | capturing k =>
      have hempty := h.nothing_live ha hpc (by simpa only [Neat, hpc] using hok)
      have hlive : recordCaptures s (.resume t .ok) live = [s.nextTask] := by
        simp [recordCaptures, hpc, hempty]
      rw [hlive]
      refine ⟨h.flag, hfree, fun n hn => .inr ⟨List.mem_singleton.mp hn, t, k, ?_⟩, Nat.le_refl _⟩
      rw [← wakes_captured hw hpc]
      rfl
    | pumpClosing failed =>
      cases t with
      | pump m =>
        have hlive : recordCaptures s (.resume (.pump m) .ok) live = live.filter (· ≠ m) := by
          simp [recordCaptures, hpc]
        rw [hlive]
        refine ⟨h.flag, hfree, fun n hn => .inl ?_, Nat.le_trans (List.length_filter_le ..) h.one⟩
        obtain ⟨hmem, hne⟩ := List.mem_filter.mp hn
        refine (hheld n hmem).activate ha hw ?_
        rintro ⟨⟩
        exact absurd rfl (of_decide_eq_true hne)
      | op | retry | phonoStop | run =>
        simp only [recordCaptures, hpc]
        exact ⟨h.flag, hfree, fun n hn => .inl ((hheld n hn).activate ha hw nofun), h.one⟩
    | _ =>
      have hlive : recordCaptures s (.resume t .ok) live = live := by simp [recordCaptures, hpc]
      rw [hlive]
      exact hkeeps fun _ hclosing => nomatch hpc.symm.trans hclosing
  | _ => exact hkeeps fun _ _ => nofun

theorem AllHeld.called (h : AllHeld (s, live)) (ha : s.active = none)
    (hn : q.nextTask = s.nextTask + 1) (hflag : q.streaming = s.streaming)
    (htask : q.streamTask = s.streamTask)
    (hcancelled : ∀ n, q.cancelled (.pump n) = s.cancelled (.pump n))
    (hplace : ∀ u, u ≠ .op s.nextTask → q.place u = s.place u)
    (hnew : (q.place (.op s.nextTask)).captures = false) : AllHeld (q, live) where
  flag := by rw [hflag, htask, h.flag]
  free u hu := by
    have hne : u ≠ .op s.nextTask := by
      rintro rfl
      exact nomatch hnew.symm.trans hu
    rw [hplace u hne] at hu
    exact htask.trans (h.free u hu)
  held n hmem := by
    have hheld := (h.held n hmem).resolve_right fun ⟨_, u, k, hu⟩ => nomatch ha.symm.trans hu
    exact .inl (hheld.called hn htask (hcancelled n) hplace)
  one := h.one

theorem next_allHeld {x x' : Publisher × List Nat} {m : Move} (h : AllHeld x) (hs : Placed x.1)
    (hlock : LockInOrder x.1) (hok : Neat x.1 m) (hnext : capturing.next x m = some x') :
    AllHeld x' := by
  obtain ⟨s, live⟩ := x
  obtain ⟨s', live'⟩ := x'
  obtain ⟨hmove, hrecord⟩ := Machine.recording_next hnext
  change live' = recordCaptures s m live at hrecord
  change s.next m = some s' at hmove
  subst hrecord
  cases next_moved hmove with
  | step ha => exact advance_allHeld h hs hlock ha hok
  | resume ha hw => exact activate_allHeld h ha hw hok
  | serverCommand ha command =>
    exact h.called ha rfl rfl rfl (fun _ => rfl) (fun u => place_onServerCommand_of_ne ha command)
      (by rw [place_onServerCommand ha]; rfl)
  | selectSource ha | setDistributionEnabled ha | setSourceDistributionEnabled ha =>
    exact h.called ha rfl rfl rfl (fun _ => rfl) (fun u => place_call_of_ne ha)
      (by rw [place_call]; rfl)

theorem reach_allHeld {x : Publisher × List Nat} (h : capturing.Reach (fun x m => Neat x.1 m) x) :
    AllHeld x := by
  refine h.invariant_of (fun y hy => And.intro (reach_placed hy.fst) (reach_lockInOrder hy.fst)) ?_
    fun y m y' hy hheld hok hnext => next_allHeld hheld hy.1 hy.2 hok hnext
  rintro ⟨s, live⟩ ⟨⟨enabled, devices, media, rfl⟩, rfl⟩
  exact ⟨rfl, fun _ _ => rfl, fun n hn => (nomatch hn), Nat.zero_le 1⟩

/-- **Captures neither overlap nor leak**: at most one is live, and while no operation is in
    progress and the publisher is not streaming, there is none. -/
theorem captures_neat {x : Publisher × List Nat} (h : capturing.Reach (fun x m => Neat x.1 m) x) :
    x.2.length ≤ 1 ∧ (x.1.Idle → x.1.streaming = false → x.2 = []) := by
  have hall := reach_allHeld h
  refine ⟨hall.one, fun hidle hquiet => ?_⟩
  refine List.eq_nil_iff_forall_not_mem.mpr fun n hn => ?_
  rcases hall.held n hn with hheld | ⟨-, u, k, hu⟩
  · rcases hheld.kept with hstream | ⟨u, -, hjoins⟩
    · have hstreaming := hall.flag
      rw [hstream, hquiet] at hstreaming
      exact nomatch hstreaming
    · -- a stop that waits for a pump is an operation in progress
      have hbusy := (hidle.all (reach_placed h.fst) u).1
      rw [place_idle hidle.1] at hjoins
      cases hpc : x.1.pc u with
      | joinPump =>
        rw [hpc] at hbusy
        exact nomatch hbusy
      | _ =>
        rw [hpc] at hjoins
        exact nomatch hjoins
  · exact nomatch hidle.1.symm.trans hu

end Captures

theorem bothSources_capturing : capturing.init (bothSources, []) := ⟨bothSources_initialised, rfl⟩

/-- A record is streamed and stopped. -/
theorem captures_neat_stopped : ∃ x : Publisher × List Nat, x.1.nextTask = 4 ∧ x.2.length ≤ 1 ∧
    x.2 = [] := by
  obtain ⟨x, hx, hidle, hquiet, htasks⟩ := Machine.exists_reach
    (m := capturing.guarded fun x m => Neat x.1 m)
    (l := List.flatten [connecting, startCommand 0,
      [.resume (.op 0) .ok, .step, .step, .resume (.pump 1) .ok, .step,
        .serverCommand .stop, .resume (.op 2) .ok, .step, .step, .step, .step,
        .resume (.pump 1) .cancelled, .step, .resume (.pump 1) .ok, .step,
        .resume (.op 2) .ok, .step, .step, .resume (.phonoStop 3) .ok, .step]])
    (fun x => x.1.Idle ∧ x.1.streaming = false ∧ x.1.nextTask = 4)
    bothSources_capturing (by decide +kernel)
  have hneat := captures_neat (.of_guarded hx)
  exact ⟨x, htasks, hneat.1, hneat.2 hidle hquiet⟩

/-- A start command that comes while Bluetooth is being selected opens a capture beside that of
    the pump that closes.  A stop command that comes while a failed pump closes its capture
    cancels the closing: the capture stays open for good. -/
theorem captures_overlap_and_leak :
    (¬ ∀ x : Publisher × List Nat, capturing.Reach Machine.anyMove x → x.2.length ≤ 1) ∧
    ¬ ∀ x : Publisher × List Nat, capturing.Reach Machine.anyMove x → x.1.Idle →
      x.1.streaming = false → x.2 = [] := by
  constructor
  · intro hall
    obtain ⟨x, hx, htwo⟩ := Machine.exists_reach (m := capturing)
      (l := List.flatten [connecting, startCommand 0,
        [.resume (.op 0) .ok, .step, .step, .resume (.pump 1) .ok, .step,
          .selectSource .bluetooth, .step, .step, .step, .step],
        startCommand 3, [.resume (.op 3) .ok]])
      (fun x => x.2.length = 2) bothSources_capturing (by decide +kernel)
    have hone := hall x hx
    omega
  · intro hall
    obtain ⟨x, hx, hidle, hquiet, hleak⟩ := Machine.exists_reach (m := capturing)
      (l := List.flatten [connecting, startCommand 0,
        [.resume (.op 0) .ok, .step, .step, .resume (.pump 1) .ok, .step,
          .resume (.pump 1) .raised, .step,
          .serverCommand .stop, .resume (.op 2) .ok, .step, .step, .step, .step,
          .resume (.pump 1) .cancelled, .step,
          .resume (.op 2) .ok, .step, .step, .resume (.phonoStop 3) .ok, .step]])
      (fun x => x.1.Idle ∧ x.1.streaming = false ∧ x.2 ≠ []) bothSources_capturing
      (by decide +kernel)
    exact hleak (hall x hx hidle hquiet)

end Publisher

end PhonoConsole
