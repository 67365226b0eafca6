/-
  THE LAST SERVER COMMAND WINS, unless a change of source writes an older one back.

  Commands are handled one after the other, but `select_source` does not wait for them.  It
  remembers whether the stream is requested, withdraws the request, awaits the end of the old
  stream and writes what it has remembered back.  A command that is handled meanwhile is lost
  when the two differ, in either direction.

  The publisher runs beside a record of its commands (`Commands`): the last one received and the
  last one heeded, which is the last one that has set or withdrawn the request.  The invariant
  `LastWins` has two parts:

  * `request`  — the request is what the last command heeded has asked for, or some change of
    source has still to write its remembered request back;
  * `received` — the last command received is the last one in the queue of the command lock that
    has still to be heeded, or else the last one heeded.

  `Timely` is what the write-back has to find for the first to hold again once no other change of
  source is left.  The premises are `Steady`: distribution stays enabled and the connection up.
-/
import PhonoConsole.CommandLock
import PhonoConsole.Silent

namespace PhonoConsole

namespace Publisher

/-! ## The record of the commands -/

/-- The last command received, and the last one that has set or withdrawn the request. -/
structure Commands where
  received : Option Command := none
  heeded : Option Command := none
deriving DecidableEq, Repr

/-- The server has asked for the stream. -/
def Commands.asked (r : Commands) : Bool := r.heeded == some .start

/-- The command whose handler sets or withdraws the request here. -/
def Point.heeds : Point → Option Command
  | .start .command => some .start
  | .stop .stopCommand => some .stop
  | _ => none

/-- The record beside a move: a command received, or heeded. -/
def Commands.write (s : Publisher) (m : Move) (r : Commands) : Commands :=
  match m, s.active with
  | .serverCommand command, _ => { r with received := some command }
  | .step, some (_, p) => { r with heeded := p.heeds.or r.heeded }
  | _, _ => r

/-- The publisher beside the record of its commands. -/
def commanded : Machine (Publisher × Commands) Move := machine.recording {} Commands.write

theorem bothSources_commanded : commanded.init (bothSources, {}) := ⟨bothSources_initialised, rfl⟩

/-! ## The condition -/

/-- Distribution is enabled, and `run` does not lose the connection. -/
def Steady (s : Publisher) (m : Move) : Prop :=
  s.distributionAllowed = true ∧
    match m, s.active with
    | .step, some (_, .dropped) => False
    | _, _ => True

/-- The stop is part of a change of source. -/
def StopCaller.selects : StopCaller → Bool
  | .select _ _ => true
  | _ => false

/-- The task is changing the source: it has remembered the request, and has still to write it
    back. -/
def Place.remembers : Place → Bool
  | .running (.stop k) | .suspended (.joinRetry k _) | .running (.stopAcquire k)
  | .suspended (.stopLock k) | .running (.take k) | .suspended (.joinPump k _ _)
  | .running (.stopped k _) | .running (.afterStop k) => k.selects
  | _ => false

/-- A change of source that writes the request back, while no other one has still to do so, has
    remembered what the last command heeded by now has asked for. -/
def Timely (x : Publisher × Commands) (m : Move) : Prop :=
  match m, x.1.active with
  | .step, some (t, .afterStop (.select _ wasRequested)) =>
    (∃ u ∈ x.1.tasks, u ≠ t ∧ (x.1.place u).remembers = true) ∨ wasRequested = x.2.asked
  | _, _ => True

/-- Both conditions on the moves. -/
def Orderly (x : Publisher × Commands) (m : Move) : Prop := Steady x.1 m ∧ Timely x m

theorem steady_iff (s : Publisher) (m : Move) : (s.distributionAllowed && match m, s.active with
      | .step, some (_, .dropped) => false
      | _, _ => true) = true ↔ Steady s m := by
  unfold Steady
  rw [Bool.and_eq_true]
  split <;> simp [*]

instance (s : Publisher) (m : Move) : Decidable (Steady s m) :=
  decidable_of_iff _ (steady_iff s m)

theorem timely_iff (x : Publisher × Commands) (m : Move) : (match m, x.1.active with
      | .step, some (t, .afterStop (.select _ wasRequested)) =>
        decide ((∃ u ∈ x.1.tasks, u ≠ t ∧ (x.1.place u).remembers = true) ∨
          wasRequested = x.2.asked)
      | _, _ => true) = true ↔ Timely x m := by
  unfold Timely
  split <;> simp [*]

instance (x : Publisher × Commands) (m : Move) : Decidable (Timely x m) :=
  decidable_of_iff _ (timely_iff x m)

instance (x : Publisher × Commands) (m : Move) : Decidable (Orderly x m) :=
  inferInstanceAs (Decidable (_ ∧ _))

/-! ## The invariant -/

/-- The task is about to withdraw the request for another reason than a stop command or a change
    of source. -/
def Place.withdraws : Place → Bool
  | .suspended (.sendSignal _) | .running (.sendSignal _) | .running (.stop .setter)
  | .running (.stop .ignoredStart) | .running (.stop .disconnect) => true
  | _ => false

/-- The command that the task has still to heed. -/
def Place.unheeded : Place → Option Command
  | .suspended (.commandLock command) | .running (.handle command) => some command
  | .suspended .mediaCommand | .running .mediaDone | .running (.start .command) => some .start
  | .running (.stop .stopCommand) => some .stop
  | _ => none

/-- The command that the last in the queue of the command lock has still to heed. -/
def unheeded (s : Publisher) : Option Command :=
  s.commandLock.queue.getLast?.bind fun t => (s.place t).unheeded

/-- The invariant: who may still write the request, and that the last command is its source. -/
structure LastWins (x : Publisher × Commands) : Prop where
  calm : ∀ t, (x.1.place t).withdraws = false
  starts : ∀ t k, x.1.active = some (t, .start k) → k = .command ∨ x.1.streamRequested = true
  request : x.1.Somewhere Place.remembers ∨ x.1.streamRequested = x.2.asked
  received : x.2.received = x.1.unheeded.or x.2.heeded

section LastWins

variable {s s' : Publisher} {t u : TaskId} {p : Point} {r : Commands}

/-! ## Nobody else withdraws the request -/

theorem advance_calm (h : ∀ u, (s.place u).withdraws = false) (ha : s.active = some (t, p))
    (hok : Steady s .step) (hallowed : (s.advance t p).distributionAllowed = true) (u : TaskId) :
    ((s.advance t p).place u).withdraws = false := by
  by_cases hut : u = t
  · subst hut
    have hp := h u
    rw [place_active ha] at hp
    obtain ⟨hbefore, hup⟩ := hok
    rw [ha] at hup
    obtain ⟨cancelled, hcancel⟩ := s.cancelPhonoStop_eq
    cases p with
    | dropped => exact hup.elim
    | sendSignal => cases hp
    | setDistributionEnabled enabled =>
      cases enabled with
      | true => simp [advance, Place.withdraws]
      | false => cases hallowed
    | setSourceDistributionEnabled source enabled =>
      by_cases hstop : source = s.selectedSource ∧ enabled = false
      · obtain ⟨rfl, rfl⟩ := hstop
        simp [advance, distributionAllowed, allowedFor, goto] at hallowed
      · simp [advance, if_neg hstop, Place.withdraws]
    | handle command =>
      cases command with
      | start =>
        simp only [advance, handle, hbefore, hcancel]
        simp only [Bool.not_true, Bool.false_eq_true, if_false]
        split <;> simp [Place.withdraws]
      | stop => simp [advance, handle, Place.withdraws]
    | afterStop k =>
      cases k with
      | stopCommand =>
        simp only [advance, afterStop]
        split <;> simp [Place.withdraws]
      | select source wasRequested => cases wasRequested <;> simp [advance, afterStop, Place.withdraws]
      | _ => simp [advance, afterStop, Place.withdraws]
    | captured k failed =>
      simp only [advance, captured]
      split <;> simp [Place.withdraws]
    | started k =>
      cases k with
      | retry =>
        simp only [advance, started]
        split <;> simp [Place.withdraws]
      | _ => simp [advance, started, Place.withdraws]
    | pumpEnd failed =>
      simp only [advance, pumpEnd]
      split <;> simp [Place.withdraws]
    | _ =>
      simp only [advance]
      repeat' split
      all_goals simp [Place.withdraws]
  · rcases advance_place_cases ha hut with hsame | ⟨-, -, pc, hnew, hplace⟩
    · exact hsame ▸ h u
    · rw [hplace]
      cases pc with
      | sendSignal => cases hnew
      | _ => rfl

theorem wakes_calm {reply : Reply} (hw : s.wakes t reply = some p)
    (h : (Place.suspended (s.pc t)).withdraws = false) : (Place.running p).withdraws = false := by
  have hwoken := wakes_cases hw
  generalize s.pc t = pc at hwoken h
  cases hwoken with
  | stop => cases h
  | _ => rfl

/-! ## The request -/

/-- A change of source goes on until it writes the request back. -/
theorem advance_remembers (h : (Place.running p).remembers = true)
    (hselect : ∀ source wasRequested, p ≠ .afterStop (.select source wasRequested)) :
    ((s.advance t p).place t).remembers = true := by
  cases p with
  | stop k | stopAcquire k | take k =>
    simp only [advance]
    split <;> simpa [Place.remembers] using h
  | stopped k wasStreaming => simpa [advance, Place.remembers] using h
  | afterStop k =>
    cases k with
    | select source wasRequested => exact absurd rfl (hselect source wasRequested)
    | _ => cases h
  | _ => cases h

theorem wakes_remembers {reply : Reply} (hw : s.wakes t reply = some p)
    (h : (Place.suspended (s.pc t)).remembers = true) : (Place.running p).remembers = true := by
  have hwoken := wakes_cases hw
  generalize s.pc t = pc at hwoken h
  cases hwoken with
  | stopAcquire | take | stopped => exact h
  | _ => cases h

/-- Outside of a change of source only a command changes the request. -/
theorem advance_requested (hrem : (Place.running p).remembers = false)
    (hcalm : (Place.running p).withdraws = false)
    (hstarts : ∀ k, p = .start k → k = .command ∨ s.streamRequested = true)
    (h : s.streamRequested = r.asked) :
    (s.advance t p).streamRequested = (p.heeds.or r.heeded == some .start) := by
  have hkept : p.heeds = none → (s.advance t p).streamRequested = s.streamRequested →
      (s.advance t p).streamRequested = (p.heeds.or r.heeded == some .start) := by
    intro hheeds hsame
    rw [hsame, hheeds, h]
    rfl
  cases hchoice : p.changesChoice with
  | false =>
    refine hkept ?_ (advance_sameChoice t hchoice).requested
    cases p with
    | start | stop => cases hchoice
    | _ => rfl
  | true =>
    cases p with
    | stop k =>
      cases k with
      | stopCommand =>
        simp only [advance]
        split <;> rfl
      | select => cases hrem
      | _ => cases hcalm
    | start k =>
      have hset : (s.advance t (.start k)).streamRequested = true := by
        simp only [advance]
        split <;> rfl
      cases k with
      | command => exact hset
      | _ => exact hkept rfl (hset.trans ((hstarts _ rfl).resolve_left (by simp)).symm)
    | afterStop k =>
      cases k with
      | select => cases hrem
      | _ => cases hchoice
    | setDistributionEnabled | setSourceDistributionEnabled => exact hkept rfl rfl
    | _ => cases hchoice

theorem advance_request (h : LastWins (s, r)) (hs : Placed s) (ha : s.active = some (t, p))
    (hok : Timely (s, r) .step) : (s.advance t p).Somewhere Place.remembers ∨
      (s.advance t p).streamRequested = (p.heeds.or r.heeded == some .start) := by
  by_cases hselect : ∃ source wasRequested, p = .afterStop (.select source wasRequested)
  · obtain ⟨source, wasRequested, rfl⟩ := hselect
    simp only [Timely, ha] at hok
    rcases hok with ⟨u, hmem, hut, hu⟩ | hasked
    · refine .inl (.of_place ((mem_tasks.mp hmem).mono (advance_nextTask s t _)) ?_)
      rw [advance_place_other hs ha hut fun hdone => by rw [hdone] at hu; exact nomatch hu]
      exact hu
    · exact .inr hasked
  cases hrem : (Place.running p).remembers with
  | true =>
    have ht := (hs.active_used ha).mono (advance_nextTask s t p)
    refine .inl (.of_place ht (advance_remembers hrem ?_))
    intro source wasRequested hp
    exact hselect ⟨source, wasRequested, hp⟩
  | false =>
    rcases h.request with hsome | hasked
    · exact .inl (hsome.advance hs ha rfl hrem)
    · have hcalm := h.calm t
      rw [place_active ha] at hcalm
      refine .inr (advance_requested hrem hcalm ?_ hasked)
      rintro k rfl
      exact h.starts t k ha

/-- A start that is no command's finds the stream requested. -/
theorem advance_startsRequested {k : StartCaller}
    (hstart : (s.advance t p).active = some (u, .start k)) :
    k = .command ∨ (s.advance t p).streamRequested = true := by
  have hfrom := advance_starts hstart
  cases k with
  | command => exact .inl rfl
  | select =>
    obtain ⟨source, rfl⟩ := hfrom
    exact .inr rfl
  | retry =>
    obtain ⟨rfl, hrequested⟩ := hfrom
    exact .inr ((advance_sameChoice t rfl).requested.trans hrequested)

/-! ## The queue of commands -/

/-- The running task heeds its command, or keeps it in mind. -/
theorem advance_place_unheeded (hcalm : (Place.running p).withdraws = false)
    (hallowed : s.distributionAllowed = true) : ((s.advance t p).place t).unheeded =
      if p.heeds.isSome then none else (Place.running p).unheeded := by
  obtain ⟨cancelled, hcancel⟩ := s.cancelPhonoStop_eq
  cases p with
  | sendSignal => exact nomatch hcalm
  | handle command =>
    cases command with
    | start =>
      simp only [advance, handle, hallowed, hcancel]
      simp only [Bool.not_true, Bool.false_eq_true, if_false]
      split <;> simp [Place.unheeded, Point.heeds]
    | stop => simp [advance, handle, Place.unheeded, Point.heeds]
  | mediaDone => simp [advance, Place.unheeded, Point.heeds]
  | stop k =>
    cases k <;> simp only [advance] <;> split <;> simp [Place.unheeded, Point.heeds]
  | start k =>
    cases k <;> simp only [advance] <;> split <;> simp [Place.unheeded, Point.heeds]
  | afterStop k =>
    cases k with
    | stopCommand =>
      simp only [advance, afterStop]
      split <;> simp [Place.unheeded, Point.heeds]
    | select source wasRequested =>
      cases wasRequested <;> simp [advance, afterStop, Place.unheeded, Point.heeds]
    | _ => simp [advance, afterStop, Place.unheeded, Point.heeds]
  | captured k failed =>
    simp only [advance, captured]
    split <;> simp [Place.unheeded, Point.heeds]
  | started k =>
    cases k with
    | retry =>
      simp only [advance, started]
      split <;> simp [Place.unheeded, Point.heeds]
    | _ => simp [advance, started, Place.unheeded, Point.heeds]
  | pumpEnd failed =>
    simp only [advance, pumpEnd]
    split <;> simp [Place.unheeded, Point.heeds]
  | setSourceDistributionEnabled source enabled =>
    simp only [advance]
    split <;> simp [Place.unheeded, Point.heeds]
  | setDistributionEnabled enabled =>
    cases enabled <;> simp [advance, Place.unheeded, Point.heeds]
  | _ =>
    simp only [advance, Point.heeds]
    repeat' split
    all_goals simp [Place.unheeded]

theorem wakes_unheeded {reply : Reply} (hw : s.wakes t reply = some p)
    (h : (Place.suspended (s.pc t)).withdraws = false) :
    (Place.running p).unheeded = (Place.suspended (s.pc t)).unheeded := by
  have hwoken := wakes_cases hw
  generalize s.pc t = pc at hwoken h ⊢
  cases hwoken with
  | stop => cases h
  | _ => rfl

/-- Who heeds a command is handling it. -/
theorem heeds_handles {command : Command} (h : p.heeds = some command) :
    (Place.running p).handles = true ∧ (Place.running p).unheeded = some command := by
  unfold Point.heeds at h
  split at h
  · exact ⟨rfl, h⟩
  · exact ⟨rfl, h⟩
  · exact nomatch h

/-- The step that heeds a command is not the last one of its handler. -/
theorem heeds_not_done {command : Command} (h : p.heeds = some command) :
    (s.advance t p).place t ≠ .suspended .done := by
  unfold Point.heeds at h
  split at h
  · simp only [advance]
    split <;> simp
  · simp only [advance]
    split <;> simp
  · cases h

theorem unheeded_of_last (h : s.commandLock.queue.getLast? = some u) :
    s.unheeded = (s.place u).unheeded := by
  rw [unheeded, h]
  rfl

theorem unheeded_of_empty (h : s.commandLock.queue = []) : s.unheeded = none := by
  rw [unheeded, h]
  rfl

/-- The lock is left alone: a command may be heeded. -/
theorem unheeded_kept (h : CommandsInOrder s) (hs : Placed s) (ha : s.active = some (t, p))
    (hcalm : (Place.running p).withdraws = false) (hallowed : s.distributionAllowed = true)
    (hlock : (s.advance t p).commandLock = s.commandLock) :
    (s.advance t p).unheeded.or (p.heeds.or r.heeded) = s.unheeded.or r.heeded := by
  have hplace := place_active ha
  have hown := advance_place_unheeded (t := t) hcalm hallowed
  cases hlast : s.commandLock.queue.getLast? with
  | none =>
    have hempty := List.getLast?_eq_none_iff.mp hlast
    have hheeds : p.heeds = none := by
      refine Option.eq_none_iff_forall_not_mem.mpr fun command hcommand => ?_
      have hholder := h.holder t (hplace ▸ (heeds_handles hcommand).1)
      rw [← FifoLock.head?_queue, hempty] at hholder
      exact nomatch hholder
    rw [unheeded_of_empty hempty, unheeded_of_empty (hlock ▸ hempty), hheeds]
    rfl
  | some u =>
    rw [unheeded_of_last hlast, unheeded_of_last (hlock ▸ hlast)]
    have hmem := List.mem_of_getLast? hlast
    by_cases hut : u = t
    · subst hut
      rw [hown, hplace]
      cases hheeds : p.heeds with
      | none => rfl
      | some command => rw [(heeds_handles hheeds).2]; rfl
    · have hsame := advance_place_other hs ha hut (place_ne_done_of_commands (h.wants u hmem))
      rw [hsame]
      cases hheeds : p.heeds with
      | none => rfl
      | some command =>
        -- the last command is still waiting behind this one
        obtain ⟨last, hwaits⟩ := h.waits (hplace ▸ (heeds_handles hheeds).1) hmem hut
        rw [hwaits]
        rfl

/-- The handler of a command that has been heeded lets the lock go. -/
theorem unheeded_released (h : CommandsInOrder s) (hs : Placed s) (ha : s.active = some (t, p))
    (hcalm : (Place.running p).withdraws = false) (hallowed : s.distributionAllowed = true)
    (hlock : (s.advance t p).commandLock = s.commandLock.release)
    (hp : (Place.running p).handles = true) (hdone : (s.advance t p).place t = .suspended .done) :
    (s.advance t p).unheeded.or (p.heeds.or r.heeded) = s.unheeded.or r.heeded := by
  have hplace := place_active ha
  have hheeds : p.heeds = none :=
    Option.eq_none_iff_forall_not_mem.mpr fun command hcommand => heeds_not_done hcommand hdone
  have hown := advance_place_unheeded (t := t) hcalm hallowed
  rw [hdone, hheeds] at hown
  have hnone : (Place.running p).unheeded = none := hown.symm
  rw [hheeds]
  obtain ⟨rest, hrest, hout⟩ := h.head (i := t) (hplace ▸ hp)
  have hqueue : (s.advance t p).commandLock.queue = rest := by
    rw [hlock, FifoLock.queue_release, hrest]
    rfl
  cases hlast : rest.getLast? with
  | none =>
    have hempty := List.getLast?_eq_none_iff.mp hlast
    rw [unheeded_of_empty (hqueue.trans hempty), unheeded_of_last (u := t) (by rw [hrest, hempty]; rfl),
      hplace, hnone]
    rfl
  | some u =>
    have hmem := List.mem_of_getLast? hlast
    have hut : u ≠ t := by
      rintro rfl
      exact hout hmem
    have hold : s.commandLock.queue.getLast? = some u := by
      rw [hrest, List.getLast?_cons, hlast]
      rfl
    have hwants := h.wants u (hrest ▸ List.mem_cons_of_mem t hmem)
    rw [unheeded_of_last hold, unheeded_of_last (hqueue ▸ hlast),
      advance_place_other hs ha hut (place_ne_done_of_commands hwants)]
    rfl

theorem advance_received (h : LastWins (s, r)) (horder : CommandsInOrder s) (hs : Placed s)
    (ha : s.active = some (t, p)) (hallowed : s.distributionAllowed = true) :
    r.received = (s.advance t p).unheeded.or (p.heeds.or r.heeded) := by
  have hcalm := h.calm t
  rw [place_active ha] at hcalm
  refine h.received.trans (Eq.symm ?_)
  cases advance_commandStep s t p with
  | keeps hlock _ => exact unheeded_kept horder hs ha hcalm hallowed hlock
  | releases hlock hp hdone => exact unheeded_released horder hs ha hcalm hallowed hlock hp hdone

/-! ## Runs -/

theorem advance_lastWins (h : LastWins (s, r)) (horder : CommandsInOrder s) (hs : Placed s)
    (ha : s.active = some (t, p)) (hok : Orderly (s, r) .step)
    (hallowed : (s.advance t p).distributionAllowed = true) :
    LastWins (s.advance t p, { r with heeded := p.heeds.or r.heeded }) where
  calm := advance_calm h.calm ha hok.1 hallowed
  starts _ _ := advance_startsRequested
  request := advance_request h hs ha hok.2
  received := advance_received h horder hs ha hok.1.1

theorem activate_lastWins {reply : Reply} (h : LastWins (s, r)) (ha : s.active = none)
    (hw : s.wakes t reply = some p) : LastWins (s.activate t p, r) := by
  have hcalm := h.calm t
  rw [place_idle ha] at hcalm
  refine ⟨?_, ?_, ?_, ?_⟩
  · intro u
    by_cases hut : u = t
    · rw [hut, place_activate]
      exact wakes_calm hw hcalm
    · exact (congrArg Place.withdraws (place_activate_of_ne hut ha)).trans (h.calm u)
  · intro u k hu
    have hpoint : p = .start k := congrArg Prod.snd (Option.some.inj hu)
    exact (wakes_ne_start (hpoint ▸ hw)).elim
  · exact h.request.imp (·.activate ha (wakes_remembers hw)) id
  · have hsame : (s.activate t p).unheeded = s.unheeded := by
      show (s.commandLock.queue.getLast?.bind fun u => ((s.activate t p).place u).unheeded) = _
      refine congrArg (Option.bind _) (funext fun u => ?_)
      by_cases hut : u = t
      · rw [hut, place_activate, place_idle ha]
        exact wakes_unheeded hw hcalm
      · rw [place_activate_of_ne hut ha]
    rw [hsame]
    exact h.received

/-- A new operation that is no command. -/
theorem call_lastWins (h : LastWins (s, r)) (horder : CommandsInOrder s) (hs : Placed s)
    (ha : s.active = none) (hp : (Place.running p).withdraws = false)
    (hstart : ∀ k, p ≠ .start k) : LastWins (s.call p, r) where
  calm u := by
    by_cases hu : u = .op s.nextTask
    · exact hu ▸ (congrArg Place.withdraws (place_call s p)).trans hp
    · exact (congrArg Place.withdraws (place_call_of_ne ha hu)).trans (h.calm u)
  starts u k hu := absurd (congrArg Prod.snd (Option.some.inj hu)) (hstart k)
  request := h.request.imp (·.called rfl fun u hu => place_call_of_ne ha hu) id
  received := by
    refine h.received.trans (congrArg (Option.or · r.heeded) ?_)
    show s.unheeded = s.commandLock.queue.getLast?.bind fun u => ((s.call p).place u).unheeded
    refine Option.bind_congr fun u hu => ?_
    have hne : u ≠ .op s.nextTask := by
      rintro rfl
      exact horder.fresh hs (List.mem_of_getLast? hu)
    rw [place_call_of_ne ha hne]

theorem serverCommand_lastWins (h : LastWins (s, r)) (ha : s.active = none) (command : Command) :
    LastWins (s.onServerCommand command, { r with received := some command }) where
  calm u := by
    by_cases hu : u = .op s.nextTask
    · exact hu ▸ congrArg Place.withdraws (place_onServerCommand ha command)
    · exact (congrArg Place.withdraws (place_onServerCommand_of_ne ha command hu)).trans (h.calm u)
  starts u k hu := nomatch ha.symm.trans hu
  request := h.request.imp (·.called rfl fun u hu => place_onServerCommand_of_ne ha command hu) id
  received := by
    have hlast : (s.onServerCommand command).commandLock.queue.getLast? = some (.op s.nextTask) := by
      rw [show (s.onServerCommand command).commandLock = s.commandLock.acquire (.op s.nextTask) from
        rfl, FifoLock.queue_acquire, List.getLast?_concat]
    rw [unheeded_of_last hlast, place_onServerCommand ha]
    rfl

theorem write_step (ha : s.active = some (t, p)) :
    Commands.write s .step r = { r with heeded := p.heeds.or r.heeded } := by
  simp only [Commands.write, ha]

theorem next_lastWins {x x' : Publisher × Commands} {m : Move} (h : LastWins x)
    (horder : CommandsInOrder x.1) (hs : Placed x.1) (hok : Orderly x m)
    (hallowed : x'.1.distributionAllowed = true) (hnext : commanded.next x m = some x') :
    LastWins x' := by
  obtain ⟨s, r⟩ := x
  obtain ⟨s', r'⟩ := x'
  obtain ⟨hmove, hrecord⟩ := Machine.recording_next hnext
  change r' = Commands.write s m r at hrecord
  change s.next m = some s' at hmove
  subst hrecord
  cases next_moved hmove with
  | @step t p ha =>
    rw [write_step ha]
    exact advance_lastWins h horder hs ha hok hallowed
  | resume ha hw => exact activate_lastWins h ha hw
  | serverCommand ha command => exact serverCommand_lastWins h ha command
  | selectSource ha | setDistributionEnabled ha | setSourceDistributionEnabled ha =>
    exact call_lastWins h horder hs ha rfl nofun

/-- Over whole runs. -/
theorem reach_lastWins {x : Publisher × Commands} (h : commanded.Reach Orderly x)
    (hallowed : x.1.distributionAllowed = true) : LastWins x := by
  refine h.invariant_of (I := fun x => x.1.distributionAllowed = true → LastWins x)
    (fun y hy => And.intro (reach_placed hy.fst) (reach_commandsInOrder hy.fst)) ?_ ?_ hallowed
  · rintro ⟨s, r⟩ ⟨⟨enabled, devices, media, rfl⟩, rfl⟩ -
    refine ⟨?_, fun t k ha => (nomatch ha), .inr rfl, rfl⟩
    intro t
    show ((initial enabled devices media).place t).withdraws = false
    rw [place_idle rfl]
    cases t with
    | run => rfl
    | op | pump | retry | phonoStop => rfl
  · intro y m y' ⟨hs, horder⟩ hy hok hnext hallowed'
    exact next_lastWins (hy hok.1.1) horder hs hok hallowed' hnext

/-- **The last server command wins**: once all operations have completed, the stream is requested
    exactly when the last command received was a start. -/
theorem last_command_wins {x : Publisher × Commands} (h : commanded.Reach Orderly x)
    (hidle : x.1.Idle) (hallowed : x.1.distributionAllowed = true) :
    x.1.streamRequested = true ↔ x.2.received = some .start := by
  have hs := reach_placed h.fst
  have hlast := reach_lastWins h hallowed
  have hrequest : x.1.streamRequested = x.2.asked := by
    refine hlast.request.resolve_left ?_
    rintro ⟨u, -, hu⟩
    have hbusy := (hidle.all hs u).1
    rw [place_idle hidle.1] at hu
    cases hpc : x.1.pc u with
    | joinRetry | stopLock | joinPump =>
      rw [hpc] at hbusy
      exact nomatch hbusy
    | _ =>
      rw [hpc] at hu
      exact nomatch hu
  have hreceived : x.2.received = x.2.heeded := by
    rw [hlast.received, unheeded_of_empty (hidle.commandQueue hs (reach_commandsInOrder h.fst))]
    rfl
  rw [hrequest, hreceived, Commands.asked]
  exact beq_iff_eq

end LastWins

/-- A start command comes while Bluetooth is being selected, which remembers that the stream is
    requested: the two agree. -/
theorem last_command_wins_select : ∃ x : Publisher × Commands,
    x.1.selectedSource = .bluetooth ∧ (x.1.streamRequested = true ↔ x.2.received = some .start) := by
  obtain ⟨x, hx, hidle, hallowed, hselected⟩ := Machine.exists_reach (m := commanded.guarded Orderly)
    (l := List.flatten [connecting, startCommand 0,
      [.resume (.op 0) .ok, .step, .step, .resume (.pump 1) .ok, .step,
        .selectSource .bluetooth, .step, .step, .step, .step],
      startCommand 3,
      [.resume (.op 3) .ok, .step, .step, .resume (.pump 4) .ok, .step,
        .resume (.pump 1) .cancelled, .step, .resume (.pump 1) .ok, .step,
        .resume (.op 2) .ok, .step, .step, .step, .step, .step, .step]])
    (fun x => x.1.Idle ∧ x.1.distributionAllowed = true ∧ x.1.selectedSource = .bluetooth)
    bothSources_commanded (by decide +kernel)
  exact ⟨x, hselected, last_command_wins (.of_guarded hx) hidle hallowed⟩

/-- Bluetooth is selected while a record is being streamed.  A stop command comes while the old
    pump closes; the change of source writes the request back that it has remembered. -/
theorem stop_command_lost : ¬ ∀ x : Publisher × Commands,
    commanded.Reach (fun x m => Steady x.1 m) x → x.1.Idle → x.1.distributionAllowed = true →
    (x.1.streamRequested = true ↔ x.2.received = some .start) := by
  intro hall
  obtain ⟨x, hx, hidle, hallowed, hrequested, hstop⟩ := Machine.exists_reach
    (m := commanded.guarded fun x m => Steady x.1 m)
    (l := List.flatten [connecting, startCommand 0,
      [.resume (.op 0) .ok, .step, .step, .resume (.pump 1) .ok, .step,
        .selectSource .bluetooth, .step, .step, .step, .step,
        .serverCommand .stop, .resume (.op 3) .ok, .step, .step, .step, .step, .step, .step,
        .resume (.phonoStop 4) .ok, .step,
        .resume (.pump 1) .cancelled, .step, .resume (.pump 1) .ok, .step,
        .resume (.op 2) .ok, .step, .step, .step, .step,
        .resume (.op 2) .ok, .step, .step, .step, .resume (.pump 5) .ok, .step]])
    (fun x => x.1.Idle ∧ x.1.distributionAllowed = true ∧ x.1.streamRequested = true ∧
      x.2.received = some .stop)
    bothSources_commanded (by decide +kernel)
  exact nomatch hstop.symm.trans ((hall x (.of_guarded hx) hidle hallowed).mp hrequested)

end Publisher

end PhonoConsole
