/-
  THE STREAM CARRIES THE SELECTED SOURCE, as long as no change of source is overtaken by a start.

  `select_source` stops the stream, waits for the old pump, and only then selects the new source
  and starts again.  It does not own the command lock, so while it waits a start command may make
  a new pump, which opens the source that is still selected.  The restart then finds a stream
  task and returns.

  The invariant `Carries` is about the pump of the current stream: it is not cancelled, and it
  has not opened yet, or has opened the selected source, or is closing.  Only four points of the
  program touch the stream (`Point.movesStream`); every other step leaves it as it is.  Of the
  four only the end of a change of source can break the invariant, and `Settled` is what it has
  to find.
-/
import PhonoConsole.PublisherTasks

namespace PhonoConsole

namespace Publisher

/-! ## The pump of the stream -/

/-- Where a pump that has opened `source`, or not opened yet, may be suspended. -/
def Pc.carries (source : Source) : Pc → Prop
  | .pumpNew | .pumpClosing _ => True
  | .pumping opened => opened = source
  | _ => False

/-- Where such a pump may be while it runs. -/
def Point.carries (source : Source) : Point → Prop
  | .pumpOpen | .pumpFailed | .pumpEnd _ => True
  | .pumpFed opened _ => opened = source
  | _ => False

/-- The pump `n` carries the selected source, or is about to. -/
def PumpCarries (s : Publisher) (n : Nat) : Prop :=
  (s.pc (.pump n)).carries s.selectedSource ∨
    ∃ p, s.active = some (.pump n, p) ∧ p.carries s.selectedSource

/-- The streaming flag tells whether there is a stream, and its pump carries the selected
    source. -/
structure Carries (s : Publisher) : Prop where
  flag : s.streaming = s.streamTask.isSome
  pump : ∀ n, s.streamTask = some n → s.cancelled (.pump n) = false ∧ s.PumpCarries n

/-- The source that the pump of the stream has opened and is reading. -/
def openedSource (s : Publisher) : Option Source :=
  s.streamTask.bind fun n =>
    match s.pc (.pump n) with
    | .pumping opened => some opened
    | _ => none

/-- When a change of source ends, the stream that may be there by then has not opened another
    source. -/
def Settled (s : Publisher) (m : Move) : Prop :=
  match m, s.active with
  | .step, some (_, .afterStop (.select source _)) => ∀ opened ∈ s.openedSource, opened = source
  | _, _ => True

theorem settled_iff (s : Publisher) (m : Move) : (match m, s.active with
      | .step, some (_, .afterStop (.select source _)) =>
        decide (∀ opened ∈ s.openedSource, opened = source)
      | _, _ => true) = true ↔ s.Settled m := by
  unfold Settled
  split <;> simp [*]

instance (s : Publisher) (m : Move) : Decidable (s.Settled m) :=
  decidable_of_iff _ (settled_iff s m)

section Carries

variable {s s' q : Publisher} {t : TaskId} {p : Point} {n : Nat}

/-- A pump that carries the selected source and does not run is suspended. -/
theorem PumpCarries.suspended (h : s.PumpCarries n) (ha : ∀ p, s.active ≠ some (.pump n, p)) :
    (s.pc (.pump n)).carries s.selectedSource := by
  obtain hpc | ⟨p, hp, -⟩ := h
  · exact hpc
  · exact absurd hp (ha p)

/-- A running pump that carries the selected source is at such a point. -/
theorem PumpCarries.point (h : s.PumpCarries n) (hs : Placed s) (ha : s.active = some (.pump n, p)) :
    p.carries s.selectedSource := by
  obtain hpc | ⟨p', hp, hcarries⟩ := h
  · rw [hs.running _ _ ha] at hpc
    exact hpc.elim
  · rw [ha] at hp
    cases hp
    exact hcarries

theorem Pc.carries.ne_done {pc : Pc} {source : Source} (h : pc.carries source) : pc ≠ .done := by
  rintro rfl
  exact h

/-- The stream's own pump goes on. -/
theorem advance_pump (hp : p.carries s.selectedSource) (hmoves : p.movesStream = false) :
    (s.advance (.pump n) p).cancelled (.pump n) = s.cancelled (.pump n) ∧
      ((s.advance (.pump n) p).pc (.pump n)).carries s.selectedSource := by
  cases p with
  | pumpOpen =>
    refine ⟨rfl, ?_⟩
    rw [show (s.advance (.pump n) .pumpOpen).pc (.pump n) = .pumping s.selectedSource from
      Function.update_self ..]
    exact rfl
  | pumpFed opened activityChanged =>
    simp only [advance]
    refine ⟨?_, ?_⟩
    · split <;> rfl
    · rw [show ∀ q : Publisher, (q.suspend (.pump n) (.pumping opened)).pc (.pump n) =
        .pumping opened from fun q => Function.update_self ..]
      exact hp
  | pumpFailed =>
    refine ⟨rfl, ?_⟩
    rw [show (s.advance (.pump n) .pumpFailed).pc (.pump n) = .pumpClosing true from
      Function.update_self ..]
    exact trivial
  | pumpEnd => cases hmoves
  | _ => exact hp.elim

/-- A step that leaves the stream alone keeps the invariant, whether it is another task's or the
    pump's own. -/
theorem Carries.of_sameStream (h : Carries s) (hs : Placed s) (ha : s.active = some (t, p))
    (hsame : SameStream s (s.advance t p) t)
    (hown : ∀ n, s.streamTask = some n → t = .pump n → p.movesStream = false) :
    Carries (s.advance t p) := by
  refine ⟨?_, ?_⟩
  · rw [hsame.streaming, hsame.task]
    exact h.flag
  · intro n hn
    rw [hsame.task] at hn
    obtain ⟨hcancelled, hcarries⟩ := h.pump n hn
    rw [PumpCarries, hsame.source]
    by_cases ht : t = .pump n
    · subst ht
      obtain ⟨hc, hpc⟩ := advance_pump (hcarries.point hs ha) (hown n hn rfl)
      exact ⟨hc.trans hcancelled, .inl hpc⟩
    · have hpc := hcarries.suspended fun p' hp' =>
        ht (congrArg Prod.fst (Option.some.inj (ha.symm.trans hp')))
      rw [hsame.cancelled n ht, advance_pc_other hs (Ne.symm ht) hpc.ne_done]
      exact ⟨hcancelled, .inl hpc⟩

/-- Without a stream there is nothing to carry. -/
theorem Carries.of_none (htask : s.streamTask = none) (hflag : s.streaming = false) : Carries s where
  flag := by rw [htask, hflag]; rfl
  pump n hn := absurd (htask.symm.trans hn) nofun

/-- A pump that has ended takes the stream with it if it was the stream's. -/
theorem pumpEnd_carries (failed : Bool) (h : Carries s) (hs : Placed s)
    (ha : s.active = some (t, .pumpEnd failed)) : Carries (s.advance t (.pumpEnd failed)) := by
  by_cases hown : s.streamTask.any (TaskId.pump · == t) = true
  · have hend : ∀ q : Publisher, q.streamTask = none → q.streaming = false →
        Carries ((if failed && s.streamRequested then q.scheduleStreamRetry else q).suspend t .done) := by
      intro q htask hflag
      split
      · have hsame := sameStream_scheduleStreamRetry (t := t) q
        exact .of_none (hsame.task.trans htask) (hsame.streaming.trans hflag)
      · exact .of_none htask hflag
    simp only [advance, pumpEnd, if_pos hown]
    refine hend _ ?_ ?_
    · split <;> rfl
    · split <;> rfl
  · have hidle : s.advance t (.pumpEnd failed) = s.suspend t .done := if_neg hown
    refine h.of_sameStream hs ha ?_ fun n hn ht => absurd ?_ hown
    · rw [hidle]
      exact .of_eq rfl rfl rfl fun _ => rfl
    · simp [hn, ht]

/-- The end of a change of source. -/
theorem select_carries {source : Source} {wasRequested : Bool} (h : Carries s) (hs : Placed s)
    (ha : s.active = some (t, .afterStop (.select source wasRequested))) (hok : s.Settled .step) :
    Carries (s.advance t (.afterStop (.select source wasRequested))) := by
  refine ⟨h.flag, ?_⟩
  intro n hn
  change s.streamTask = some n at hn
  obtain ⟨hcancelled, hcarries⟩ := h.pump n hn
  refine ⟨hcancelled, .inl ?_⟩
  have ht : ∀ p, s.active ≠ some (.pump n, p) := by
    intro p' hp'
    have hpoint := hcarries.point hs hp'
    rw [ha] at hp'
    cases hp'
    exact hpoint
  have hpc := hcarries.suspended ht
  show (s.pc (.pump n)).carries source
  cases hat : s.pc (.pump n) with
  | pumping opened =>
    have hopened : s.openedSource = some opened := by simp [openedSource, hn, hat]
    simp only [Settled, ha] at hok
    exact hok opened hopened
  | pumpNew | pumpClosing => exact trivial
  | _ =>
    rw [hat] at hpc
    exact hpc.elim

theorem advance_carries (h : Carries s) (hs : Placed s) (ha : s.active = some (t, p))
    (hok : s.Settled .step) : Carries (s.advance t p) := by
  cases hmoves : p.movesStream with
  | false => exact h.of_sameStream hs ha (advance_sameStream s t hmoves) fun _ _ _ => hmoves
  | true =>
    cases p with
    | take k =>
      simp only [advance]
      split
      · exact .of_none rfl rfl
      · exact .of_none rfl rfl
    | captured k failed =>
      cases failed with
      | true => cases hmoves
      | false =>
        refine ⟨rfl, fun n hn => ⟨?_, .inl ?_⟩⟩
        · cases hn
          exact Function.update_self ..
        · cases hn
          rw [show (s.advance t (.captured k false)).pc (.pump s.nextTask) = .pumpNew from
            Function.update_self ..]
          exact trivial
    | pumpEnd failed => exact pumpEnd_carries failed h hs ha
    | afterStop k =>
      cases k with
      | select source wasRequested => exact select_carries h hs ha hok
      | _ => cases hmoves
    | _ => cases hmoves

/-- A resumed pump goes on where it was suspended. -/
theorem wakes_pump {reply : Reply} {source : Source} (hw : s.wakes (.pump n) reply = some p)
    (hcancelled : s.cancelled (.pump n) = false) (hpc : (s.pc (.pump n)).carries source) :
    p.carries source := by
  have hwoken := wakes_cases hw
  generalize s.pc (.pump n) = pc at hwoken hpc
  cases hwoken with
  | pumpOpen | pumpFailed | pumpEnd => trivial
  | pumpFed => exact hpc
  | pumpUnborn hyes | pumpCancelled hyes | pumpGone hyes => cases hcancelled.symm.trans hyes
  | _ => exact hpc.elim

theorem activate_carries {reply : Reply} (h : Carries s) (ha : s.active = none)
    (hw : s.wakes t reply = some p) : Carries (s.activate t p) := by
  refine ⟨h.flag, ?_⟩
  intro n hn
  obtain ⟨hcancelled, hcarries⟩ := h.pump n hn
  refine ⟨hcancelled, ?_⟩
  have hpc := hcarries.suspended fun p' hp' => (nomatch ha.symm.trans hp')
  by_cases ht : t = .pump n
  · subst ht
    exact .inr ⟨p, rfl, wakes_pump hw hcancelled hpc⟩
  · refine .inl ?_
    rw [show (s.activate t p).pc (.pump n) = s.pc (.pump n) from
      Function.update_of_ne (Ne.symm ht) ..]
    exact hpc

/-- A new operation is no pump. -/
theorem Carries.of_op (h : Carries s) (ha : s.active = none) (hflag : q.streaming = s.streaming)
    (htask : q.streamTask = s.streamTask) (hsource : q.selectedSource = s.selectedSource)
    (hcancelled : ∀ n, q.cancelled (.pump n) = s.cancelled (.pump n))
    (hpc : ∀ n, q.pc (.pump n) = s.pc (.pump n)) : Carries q := by
  refine ⟨by rw [hflag, htask, h.flag], ?_⟩
  intro n hn
  obtain ⟨hc, hcarries⟩ := h.pump n (htask ▸ hn)
  refine ⟨(hcancelled n).trans hc, .inl ?_⟩
  rw [hpc, hsource]
  exact hcarries.suspended fun p' hp' => (nomatch ha.symm.trans hp')

theorem next_carries {m : Move} (h : Carries s) (hs : Placed s) (hok : s.Settled m)
    (hnext : s.next m = some s') : Carries s' := by
  cases next_moved hnext with
  | step ha => exact advance_carries h hs ha hok
  | resume ha hw => exact activate_carries h ha hw
  | serverCommand ha | selectSource ha | setDistributionEnabled ha
  | setSourceDistributionEnabled ha =>
    refine h.of_op ha ?_ ?_ ?_ (fun n => ?_) fun n => ?_ <;> rfl

theorem reach_carries (h : machine.Reach Settled s) : Carries s := by
  refine h.invariant_of (fun q hq => reach_placed hq) ?_
    fun q m q' hplaced hq hok hn => next_carries hq hplaced hok hn
  intro q hq
  obtain ⟨enabled, devices, media, rfl⟩ := hq
  exact .of_none rfl rfl

/-- **The stream carries the selected source**: while no operation is in progress and the
    publisher is streaming, its pump reads the source that is selected. -/
theorem stream_carries_selected (h : machine.Reach Settled s) (hidle : s.Idle)
    (hstreaming : s.streaming = true) : s.openedSource = some s.selectedSource := by
  have hcarries := reach_carries h
  obtain ⟨n, hn⟩ := Option.isSome_iff_exists.mp (hcarries.flag.symm.trans hstreaming)
  have hpc := (hcarries.pump n hn).2.suspended fun p hp => (nomatch hidle.1.symm.trans hp)
  have hbusy := (hidle.all (reach_placed h) (.pump n)).1
  cases hat : s.pc (.pump n) with
  | pumping opened =>
    rw [hat] at hpc
    have hopened : opened = s.selectedSource := hpc
    simp [openedSource, hn, hat, hopened]
  | pumpNew | pumpClosing =>
    rw [hat] at hbusy
    exact nomatch hbusy
  | _ =>
    rw [hat] at hpc
    exact hpc.elim

end Carries

/-- A record is being streamed when Bluetooth is selected, and nothing comes in between. -/
theorem stream_carries_selected_bluetooth : ∃ s : Publisher, s.selectedSource = .bluetooth ∧
    s.streaming = true ∧ s.openedSource = some s.selectedSource := by
  obtain ⟨s, hs, hidle, hselected, hstreaming⟩ := Machine.exists_reach (m := machine.guarded Settled)
    (l := List.flatten [connecting, startCommand 0,
      [.resume (.op 0) .ok, .step, .step, .resume (.pump 1) .ok, .step,
        .selectSource .bluetooth, .step, .step, .step, .step,
        .resume (.pump 1) .cancelled, .step, .resume (.pump 1) .ok, .step,
        .resume (.op 2) .ok, .step, .step, .step, .step,
        .resume (.op 2) .ok, .step, .step, .step, .resume (.pump 3) .ok, .step]])
    (fun s => s.Idle ∧ s.selectedSource = .bluetooth ∧ s.streaming = true)
    bothSources_initialised (by decide +kernel)
  exact ⟨s, hselected, hstreaming, stream_carries_selected (.of_guarded hs) hidle hstreaming⟩

/-- Bluetooth is selected while a record is being streamed.  A start command comes while the old
    pump closes: Bluetooth is selected and the new pump plays the record. -/
theorem stream_carries_other : ¬ ∀ s : Publisher, machine.Reach Machine.anyMove s → s.Idle →
    s.streaming = true → s.openedSource = some s.selectedSource := by
  intro hall
  obtain ⟨s, hs, hidle, hstreaming, hother⟩ := Machine.exists_reach (m := machine)
    (l := List.flatten [connecting, startCommand 0,
      [.resume (.op 0) .ok, .step, .step, .resume (.pump 1) .ok, .step,
        .selectSource .bluetooth, .step, .step, .step, .step],
      startCommand 3,
      [.resume (.op 3) .ok, .step, .step, .resume (.pump 4) .ok, .step,
        .resume (.pump 1) .cancelled, .step, .resume (.pump 1) .ok, .step,
        .resume (.op 2) .ok, .step, .step, .step, .step, .step, .step]])
    (fun s => s.Idle ∧ s.streaming = true ∧ s.openedSource ≠ some s.selectedSource)
    bothSources_initialised (by decide +kernel)
  exact hother (hall s hs hidle hstreaming)

end Publisher

end PhonoConsole
