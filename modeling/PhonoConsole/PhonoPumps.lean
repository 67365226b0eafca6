/-
  WHAT THE PUMPS READ while phono is selected.

  Which source a pump reads was settled when it opened; which one is selected may have changed
  since.  `select_source` waits for the old pump before it changes the source, and a start command
  that comes meanwhile makes a new pump of the old source, which goes on reading when phono is
  selected.

  * `readSource`   — the source that a pump reads, as long as it is not cancelled;
  * `PhonoSettled` — a change to phono that leaves no pump of another source;
  * `HearsPhono`   — the invariant: while phono is selected, only phono is read;
  * `advance_readSource`, `activate_readSource` — a pump that reads after a move has read before,
    or has just opened the selected source;
  * `hears_phono`  — the invariant in every run of settled changes.
-/
import PhonoConsole.PublisherTasks

namespace PhonoConsole

namespace Publisher

/-! ## What the pumps read -/

/-- The source that a pump at this place has opened and is reading. -/
def Place.reads : Place → Option Source
  | .suspended (.pumping opened) | .running (.pumpFed opened _) => some opened
  | _ => none

/-- The source that the pump `n` reads, unless it is cancelled. -/
def readSource (s : Publisher) (n : Nat) : Option Source :=
  if s.cancelled (.pump n) then none else (s.place (.pump n)).reads

/-- While phono is selected no pump reads another source. -/
def HearsPhono (s : Publisher) : Prop :=
  s.selectedSource = .phono → ∀ n opened, s.readSource n = some opened → opened = .phono

/-- A change of source to phono finds, when it has waited for the old pump, no pump that reads
    another source. -/
def PhonoSettled (s : Publisher) (m : Move) : Prop :=
  match m, s.active with
  | .step, some (_, .afterStop (.select .phono _)) =>
    ∀ n < s.nextTask, ∀ opened ∈ s.readSource n, opened = .phono
  | _, _ => True

theorem phonoSettled_iff (s : Publisher) (m : Move) : (match m, s.active with
      | .step, some (_, .afterStop (.select .phono _)) =>
        decide (∀ n < s.nextTask, ∀ opened ∈ s.readSource n, opened = .phono)
      | _, _ => true) = true ↔ s.PhonoSettled m := by
  unfold PhonoSettled
  split <;> simp [*]

instance decidablePhonoSettled (s : Publisher) (m : Move) : Decidable (s.PhonoSettled m) :=
  decidable_of_iff _ (phonoSettled_iff s m)

section HearsPhono

variable {s s' : Publisher} {t : TaskId} {p : Point} {n : Nat} {opened : Source}

theorem reads_of_isNew {pc : Pc} (h : pc.isNew = true) : (Place.suspended pc).reads = none := by
  cases pc <;> first | rfl | cases h

theorem readSource_eq : s.readSource n = some opened ↔
    s.cancelled (.pump n) = false ∧ (s.place (.pump n)).reads = some opened := by
  unfold readSource
  split
  · rename_i hcancelled
    simp [hcancelled]
  · rename_i hcancelled
    simp [hcancelled]

/-- A pump that reads has been created. -/
theorem readSource_used (hs : Placed s) (h : s.readSource n = some opened) : s.Used (.pump n) := by
  refine hs.place_used fun hdone => ?_
  have hreads := (readSource_eq.mp h).2
  rw [hdone] at hreads
  cases hreads

/-- A running task reads on, or has just opened the selected source. -/
theorem advance_reads (h : ((s.advance t p).place t).reads = some opened) :
    p = .pumpOpen ∧ opened = s.selectedSource ∨ ∃ changed, p = .pumpFed opened changed := by
  have hgoto (q : Publisher) (p' : Point) (hp' : (Place.running p').reads = none) :
      ((q.goto t p').place t).reads ≠ some opened := by
    rw [place_goto, hp']
    exact nofun
  have hsuspend (q : Publisher) (pc : Pc) (hpc : (Place.suspended pc).reads = none) :
      ((q.suspend t pc).place t).reads ≠ some opened := by
    rw [place_suspend, hpc]
    exact nofun
  cases p with
  | pumpOpen =>
    simp only [advance, place_suspend, Place.reads, Option.some.injEq] at h
    exact .inl ⟨rfl, h.symm⟩
  | pumpFed source changed =>
    simp only [advance, place_suspend, Place.reads, Option.some.injEq] at h
    exact .inr ⟨changed, by rw [h]⟩
  | handle command =>
    cases command with
    | start =>
      simp only [advance, handle] at h
      split at h
      · exact absurd h (hgoto _ _ rfl)
      · split at h
        · exact absurd h (hsuspend _ _ rfl)
        · exact absurd h (hgoto _ _ rfl)
    | stop => exact absurd h (hgoto _ _ rfl)
  | afterStop k =>
    cases k with
    | select source wasRequested => cases wasRequested <;> exact absurd h (hgoto _ _ rfl)
    | setter => exact absurd h (hgoto _ _ rfl)
    | stopCommand =>
      simp only [advance, afterStop] at h
      split at h <;> exact absurd h (hsuspend _ _ rfl)
    | ignoredStart | disconnect => exact absurd h (hsuspend _ _ rfl)
  | captured k failed => cases failed <;> exact absurd h (hgoto _ _ rfl)
  | started k =>
    cases k with
    | command => exact absurd h (hsuspend _ _ rfl)
    | select => exact absurd h (hgoto _ _ rfl)
    | retry =>
      simp only [advance, started] at h
      split at h <;> exact absurd h (hgoto _ _ rfl)
  | pumpEnd failed =>
    simp only [advance, pumpEnd] at h
    split at h <;> exact absurd h (hsuspend _ _ rfl)
  | _ =>
    -- every other point goes to one that reads nothing, whatever it finds
    simp only [advance] at h
    repeat' split at h
    all_goals first
      | exact absurd h (hgoto _ _ rfl)
      | exact absurd h (hsuspend _ _ rfl)

/-- Only the end of a change of source selects another one. -/
theorem advance_selectedSource (hp : ∀ source w, p ≠ .afterStop (.select source w)) :
    (s.advance t p).selectedSource = s.selectedSource := by
  cases hmoves : p.movesStream with
  | false => exact (advance_sameStream s t hmoves).source
  | true =>
    cases p with
    | take k =>
      simp only [advance]
      split <;> rfl
    | captured k failed =>
      cases failed with
      | true => cases hmoves
      | false => rfl
    | pumpEnd failed =>
      simp only [advance, pumpEnd]
      have hretry (q : Publisher) : (if failed && s.streamRequested then q.scheduleStreamRetry
          else q).selectedSource = q.selectedSource := by
        split
        · exact (sameStream_scheduleStreamRetry (t := t) q).source
        · rfl
      split
      · refine (hretry _).trans ?_
        split <;> rfl
      · rfl
    | afterStop k =>
      cases k with
      | select source w => exact absurd rfl (hp source w)
      | _ => cases hmoves
    | _ => cases hmoves

/-- A pump that reads after a step has read before, or has just opened the selected source. -/
theorem advance_readSource (hs : Placed s) (ha : s.active = some (t, p))
    (h : (s.advance t p).readSource n = some opened) :
    s.readSource n = some opened ∨ p = .pumpOpen ∧ opened = s.selectedSource := by
  have hs' := advance_placed hs ha
  obtain ⟨hcancelled, hreads⟩ := readSource_eq.mp h
  by_cases ht : .pump n = t
  · subst ht
    rcases advance_reads hreads with hopen | ⟨changed, rfl⟩
    · exact .inr hopen
    · refine .inl (readSource_eq.mpr ⟨?_, by rw [place_active ha]; rfl⟩)
      simp only [advance] at hcancelled
      split at hcancelled <;> exact hcancelled
  · rcases advance_place_cases ha ht with hsame | ⟨-, -, pc, hnew, hpc⟩
    · rw [hsame] at hreads
      have hused : s.Used (.pump n) := hs.place_used fun hdone => by
        rw [hdone] at hreads
        cases hreads
      refine .inl (readSource_eq.mpr ⟨?_, hreads⟩)
      by_contra hyes
      rw [advance_cancelled ht hused (by simpa using hyes)] at hcancelled
      cases hcancelled
    · rw [hpc, reads_of_isNew hnew] at hreads
      cases hreads

/-- A pump that is resumed with a block reads it already. -/
theorem activate_readSource {reply : Reply} (ha : s.active = none)
    (hw : s.wakes t reply = some p) (h : (s.activate t p).readSource n = some opened) :
    s.readSource n = some opened := by
  obtain ⟨hcancelled, hreads⟩ := readSource_eq.mp h
  refine readSource_eq.mpr ⟨hcancelled, ?_⟩
  by_cases ht : .pump n = t
  · subst ht
    rw [place_activate] at hreads
    rw [place_idle ha]
    have hwoken := wakes_cases hw
    generalize s.pc (.pump n) = pc at hwoken
    cases hwoken with
    | pumpFed => exact hreads
    | _ => cases hreads
  · rwa [place_activate_of_ne ht ha] at hreads

theorem HearsPhono.next {m : Move} (h : s.HearsPhono) (hs : Placed s) (hok : s.PhonoSettled m)
    (hnext : s.next m = some s') : s'.HearsPhono := by
  cases next_moved hnext with
  | @step t p ha =>
    intro hselected n opened hreads
    rcases advance_readSource hs ha hreads with hread | ⟨rfl, rfl⟩
    · by_cases hp : ∃ source w, p = .afterStop (.select source w)
      · -- the change to phono itself, settled if no pump reads anything else
        obtain ⟨source, w, rfl⟩ := hp
        obtain rfl : source = .phono := hselected
        simp only [PhonoSettled, ha] at hok
        exact hok n (readSource_used hs hread) opened hread
      · refine h ?_ n opened hread
        rw [← hselected]
        exact (advance_selectedSource fun source w hp' => hp ⟨source, w, hp'⟩).symm
    · rw [← hselected]
      exact (advance_selectedSource fun _ _ hp => by cases hp).symm
  | resume ha hw =>
    intro hselected n opened hreads
    exact h hselected n opened (activate_readSource ha hw hreads)
  | serverCommand ha command =>
    intro hselected n opened hreads
    refine h hselected n opened (readSource_eq.mpr ?_)
    obtain ⟨hcancelled, hplace⟩ := readSource_eq.mp hreads
    rw [place_onServerCommand_of_ne ha command (fun hop => by cases hop)] at hplace
    exact ⟨hcancelled, hplace⟩
  | selectSource ha | setDistributionEnabled ha | setSourceDistributionEnabled ha =>
    intro hselected n opened hreads
    refine h hselected n opened (readSource_eq.mpr ?_)
    obtain ⟨hcancelled, hplace⟩ := readSource_eq.mp hreads
    rw [place_call_of_ne ha (fun hop => by cases hop)] at hplace
    exact ⟨hcancelled, hplace⟩

/-- While phono is selected only phono is read, in every run of settled changes. -/
theorem hears_phono (h : machine.Reach PhonoSettled s) : s.HearsPhono := by
  refine h.invariant_of (fun q hq => reach_placed hq) ?_
    fun q m q' hplaced hq hok hn => hq.next hplaced hok hn
  intro q hq _ n opened hreads
  obtain ⟨enabled, devices, media, rfl⟩ := hq
  cases (readSource_eq.mp hreads).2

end HearsPhono

end Publisher

end PhonoConsole
