/-
  THE RESTART BACKOFF of a `ManagedProcess`, over all its starts.

  A start may find its child dead, report that, and launch another one; a launch may fail.  Beside
  the children the world keeps a ledger of what the owner did and when: it knows nothing of the
  owner's fields, and counts failures by what was asked and answered.

  * `Ledger`, `supervision` — the children with their return codes, the clock, and the ledger;
  * `backoff`       — the wait that the consecutive failures so far ask for;
  * `Punctual`      — every launch was attempted in time: no failure before it, or that wait over;
  * `Idle`          — between two calls: the owner's fields are those of the ledger, only its child
    is alive, and every other child has been reported once, in order, with its code;
  * `Failing`       — a failure that waits for the clock; `Failing.observed` leads back to `Idle`;
  * `start_supervised`, `stop_supervised` — every call keeps `Idle`;
  * `no_restart_storms` — so in every run, and a start inside the backoff raises and does nothing.
-/
import PhonoConsole.Processes
import Mathlib.Algebra.Order.Field.Basic
import Mathlib.Tactic.Linarith
import Mathlib.Tactic.NormNum
import Mathlib.Tactic.Ring

namespace PhonoConsole

open Coro World

/-! ## The ledger -/

/-- A launch: when it was attempted, how many failures there had been since the last one that
    succeeded, and when the last of these was observed. -/
structure LaunchAttempt where
  time : ℚ
  failures : Nat
  observed : Option ℚ
deriving DecidableEq

/-- What has been asked of the system and answered by it.  A failure, a launch that fails or an exit
    that is reported, is observed when the clock is read next. -/
structure Ledger where
  now : ℚ
  failures : Nat := 0
  awaiting : Bool := false
  observed : Option ℚ := none
  attempts : List LaunchAttempt := []
  reports : List (Option Int) := []

namespace Ledger

/-- A reading of the clock. -/
def read (l : Ledger) (t : ℚ) : Ledger :=
  { l with now := t, observed := if l.awaiting then some t else l.observed, awaiting := false }

/-- A launch is attempted at the time that was read last; a failure may not have been observed. -/
def attempt (l : Ledger) : LaunchAttempt where
  time := l.now
  failures := l.failures
  observed := if l.awaiting then none else l.observed

/-- A launch that came up: the failures are over. -/
def launched (l : Ledger) : Ledger :=
  { l with
    attempts := l.attempts ++ [l.attempt], failures := 0, awaiting := false, observed := none }

/-- A launch that did not. -/
def launchFailed (l : Ledger) : Ledger :=
  { l with attempts := l.attempts ++ [l.attempt], failures := l.failures + 1, awaiting := true }

/-- An exit that was noticed. -/
def reported (l : Ledger) (returncode : Option Int) : Ledger :=
  { l with reports := l.reports ++ [returncode], failures := l.failures + 1, awaiting := true }

end Ledger

/-- The children of one owner, their return codes as far as the loop has collected them, and the
    ledger. -/
structure Supervision where
  children : Children := {}
  status : Nat → Option Int := fun _ => none
  ledger : Ledger

/-- A child ends, and later its return code is collected. -/
inductive ChildMove
  | exits (child : Nat)
  | collected (child : Nat) (returncode : Int)
deriving DecidableEq

/-- The children, the clock and the ledger as a world.  Time does not go back. -/
def supervision : World ProcReq ProcRep Supervision ChildMove where
  answer w q a :=
    match q, a with
    | .launch owner _, .ok child =>
        if child = w.children.count then
          some { w with children := w.children.born owner, ledger := w.ledger.launched }
        else none
    | .launch _ _, .error _ => some { w with ledger := w.ledger.launchFailed }
    | .returncode child, returncode => if returncode = w.status child then some w else none
    | .emit (.exited _ returncode), _ => some { w with ledger := w.ledger.reported returncode }
    | .monotonic, t => if w.ledger.now ≤ t then some { w with ledger := w.ledger.read t } else none
    | _, _ => some w
  drift w
    | .exits child => some { w with children := w.children.exit child }
    | .collected child returncode =>
        if child < w.children.count ∧ w.children.alive child = false ∧ w.status child = none then
          some { w with status := Function.update w.status child (some returncode) }
        else none

/-- The wait after so many failures: half a second after the first, doubled by each further one, and
    never more than 30 s. -/
def backoff : Nat → ℚ
  | 0 => 0
  | n + 1 => min (2 ^ n / 2) 30

theorem backoff_one : backoff 1 = 1 / 2 := by norm_num [backoff]

theorem backoff_succ (n : Nat) : min (backoff (n + 1) * 2) 30 = backoff (n + 2) := by
  unfold backoff
  rw [min_mul_of_nonneg _ _ (by norm_num), min_assoc]
  norm_num
  ring_nf

/-- The launch comes after no failure, or when the wait since the last one was observed is over. -/
def LaunchAttempt.InTime (a : LaunchAttempt) : Prop :=
  0 < a.failures → ∃ t, a.observed = some t ∧ t + backoff a.failures ≤ a.time

/-- Every launch was attempted in time. -/
def Punctual (l : Ledger) : Prop := ∀ a ∈ l.attempts, a.InTime

/-- One more launch, when the wait is over. -/
theorem Punctual.attempt {l : Ledger} (h : Punctual l) (hover : l.attempt.InTime) :
    Punctual { l with attempts := l.attempts ++ [l.attempt] } := by
  intro a ha
  rcases List.mem_append.mp ha with hold | hnew
  · exact h a hold
  · obtain rfl := List.mem_singleton.mp hnew
    exact hover

/-! ## Meanwhile -/

/-- What children do by themselves: they end, and their return codes are collected for good. -/
structure Later (w w' : Supervision) : Prop where
  count : w'.children.count = w.children.count
  alive : ∀ i, w'.children.alive i = true → w.children.alive i = true
  status : ∀ i c, w.status i = some c → w'.status i = some c
  dead : ∀ i c, w'.status i = some c → w.status i = some c ∨
    i < w.children.count ∧ w'.children.alive i = false
  ledger : w'.ledger = w.ledger

theorem Later.refl (w : Supervision) : Later w w :=
  ⟨rfl, fun _ h => h, fun _ _ h => h, fun _ _ h => .inl h, rfl⟩

theorem Later.drifts {w w' : Supervision} (h : supervision.Drifts w w') : Later w w' := by
  induction h with
  | refl => exact .refl w
  | @move w₁ w₂ d _ hd ih =>
    cases d with
    | exits child =>
      obtain rfl := Option.some.inj hd
      have halive : ∀ i, (w₁.children.exit child).alive i = true → w₁.children.alive i = true :=
        fun i hi => (Children.exit_alive.mp hi).2
      refine ⟨ih.count, fun i hi => ih.alive i (halive i hi), ih.status, fun i c hc => ?_,
        ih.ledger⟩
      refine (ih.dead i c hc).imp_right fun h => ⟨h.1, Bool.eq_false_iff.mpr fun hi => ?_⟩
      rw [halive i hi] at h
      cases h.2
    | collected child returncode =>
      simp only [supervision] at hd
      split at hd
      · rename_i hcollected
        obtain rfl := Option.some.inj hd
        obtain ⟨hlaunched, hdead, hnone⟩ := hcollected
        refine ⟨ih.count, ih.alive, fun i c hc => ?_, fun i c hc => ?_, ih.ledger⟩
        · have hi : i ≠ child := by
            rintro rfl
            rw [ih.status i c hc] at hnone
            cases hnone
          exact (Function.update_of_ne hi _ _).trans (ih.status i c hc)
        · by_cases hi : i = child
          · subst hi
            exact .inr ⟨ih.count ▸ hlaunched, hdead⟩
          · exact ih.dead i c ((Function.update_of_ne hi _ _).symm.trans hc)
      · cases hd

theorem Later.silent {w w' : Supervision} (h : Later w w') (hw : Silent w.children) :
    Silent w'.children := fun i => Bool.eq_false_iff.mpr fun hi =>
  Bool.false_ne_true ((hw i).symm.trans (h.alive i hi))

/-- The children of an owner that has recorded `process`: the recorded child is the last one
    launched, and the only one that may be alive; all others have been reported, in order, each
    with its code. -/
structure Accounted (process : Option Nat) (w : Supervision) : Prop where
  alone : ∀ i, w.children.alive i = true → process = some i
  last : ∀ c, process = some c → w.children.count = c + 1
  dead : ∀ i c, w.status i = some c → i < w.children.count ∧ w.children.alive i = false
  reports : w.ledger.reports =
    (List.range (w.children.count - process.toList.length)).map w.status
  known : ∀ i < w.children.count - process.toList.length, (w.status i).isSome = true

theorem Accounted.later {process : Option Nat} {w w' : Supervision} (h : Accounted process w)
    (hl : Later w w') : Accounted process w' where
  alone i hi := h.alone i (hl.alive i hi)
  last c hc := hl.count.trans (h.last c hc)
  dead i c hc := by
    rw [hl.count]
    rcases hl.dead i c hc with hold | hnew
    · obtain ⟨hi, hdead⟩ := h.dead i c hold
      refine ⟨hi, Bool.eq_false_iff.mpr fun halive => ?_⟩
      rw [hl.alive i halive] at hdead
      cases hdead
    · exact hnew
  reports := by
    rw [hl.ledger, hl.count, h.reports]
    refine List.map_congr_left fun i hi => ?_
    obtain ⟨c, hc⟩ := Option.isSome_iff_exists.mp (h.known i (List.mem_range.mp hi))
    rw [hc, hl.status i c hc]
  known i hi := by
    rw [hl.count] at hi
    obtain ⟨c, hc⟩ := Option.isSome_iff_exists.mp (h.known i hi)
    rw [hl.status i c hc]
    rfl

/-- Of the ledger only the reports are looked at. -/
theorem Accounted.ledger {process : Option Nat} {w : Supervision} (h : Accounted process w)
    {l : Ledger} (hl : l.reports = w.ledger.reports) : Accounted process { w with ledger := l } :=
  ⟨h.alone, h.last, h.dead, hl.trans h.reports, h.known⟩

theorem Accounted.silent {w : Supervision} (h : Accounted none w) : Silent w.children :=
  fun i => Bool.eq_false_iff.mpr fun hi => nomatch h.alone i hi

/-- The recorded child is reported and forgotten. -/
theorem Accounted.reported {child : Nat} {w : Supervision} (h : Accounted (some child) w)
    (hexited : (w.status child).isSome = true) :
    Accounted none { w with ledger := w.ledger.reported (w.status child) } := by
  have hcount : w.children.count = child + 1 := h.last child rfl
  refine ⟨fun i hi => ?_, fun _ hc => (nomatch hc), h.dead, ?_, fun i hi => ?_⟩
  · -- only the recorded child could be alive, and it has exited
    obtain rfl := Option.some.inj (h.alone i hi)
    obtain ⟨c, hc⟩ := Option.isSome_iff_exists.mp hexited
    exact nomatch (h.dead _ c hc).2.symm.trans hi
  · have hreports : w.ledger.reports = (List.range child).map w.status := by
      simpa [hcount] using h.reports
    simp [Ledger.reported, hreports, hcount, List.range_succ]
  · have hi : i < child + 1 := by simpa [hcount] using hi
    rcases Nat.lt_succ_iff_lt_or_eq.mp hi with hlt | rfl
    · exact h.known i (by simpa [hcount] using hlt)
    · exact hexited

/-- A new child is recorded. -/
theorem Accounted.born {w : Supervision} (h : Accounted none w) (owner : Loopback) :
    Accounted (some w.children.count)
      { w with children := w.children.born owner, ledger := w.ledger.launched } := by
  refine ⟨fun i hi => ?_, fun c hc => ?_, fun i c hc => ?_, ?_, fun i hi => ?_⟩
  · rcases Children.born_alive.mp hi with rfl | hold
    · rfl
    · exact nomatch h.alone i hold
  · obtain rfl := Option.some.inj hc
    rfl
  · obtain ⟨hi, hdead⟩ := h.dead i c hc
    refine ⟨Nat.lt_succ_of_lt hi, ?_⟩
    exact (Function.update_of_ne hi.ne _ _).trans hdead
  · simpa [Ledger.launched, Children.born] using h.reports
  · exact h.known i (by simpa [Children.born] using hi)

/-- The owner's fields are those of the ledger, in which no failure waits for the clock. -/
structure Paced (m : ManagedProcess) (l : Ledger) : Prop where
  settled : l.awaiting = false
  retrySeconds : m.retrySeconds = backoff (l.failures + 1)
  nextRetryAt : m.nextRetryAt = (l.observed.map (· + backoff l.failures)).getD 0
  observed : 0 < l.failures → l.observed.isSome = true

/-- Between two calls. -/
structure Idle (m : ManagedProcess) (w : Supervision) : Prop where
  accounted : Accounted m.process w
  paced : Paced m w.ledger
  punctual : Punctual w.ledger

theorem Idle.later {m : ManagedProcess} {w w' : Supervision} (h : Idle m w) (hl : Later w w') :
    Idle m w' where
  accounted := h.accounted.later hl
  paced := hl.ledger ▸ h.paced
  punctual := hl.ledger ▸ h.punctual

/-- Reading the clock when no failure waits for it changes nothing but the time. -/
theorem Paced.read {m : ManagedProcess} {l : Ledger} (h : Paced m l) (t : ℚ) :
    Paced m (l.read t) := by
  have hread : (l.read t).observed = l.observed := by simp [Ledger.read, h.settled]
  refine ⟨rfl, h.retrySeconds, ?_, ?_⟩
  · rw [hread]
    exact h.nextRetryAt
  · rw [hread]
    exact h.observed

/-- When the owner's wait is over, a launch is in time. -/
theorem Paced.inTime {m : ManagedProcess} {l : Ledger} (h : Paced m l)
    (hover : m.nextRetryAt ≤ l.now) : l.attempt.InTime := by
  intro hfailed
  obtain ⟨t, ht⟩ := Option.isSome_iff_exists.mp (h.observed hfailed)
  rw [h.nextRetryAt, ht] at hover
  exact ⟨t, by simp [Ledger.attempt, h.settled, ht], hover⟩

/-- A failure that waits for the clock: the owner's wait is the one that it asks for. -/
structure Failing (m : ManagedProcess) (w : Supervision) : Prop where
  accounted : Accounted m.process w
  awaiting : w.ledger.awaiting = true
  failed : ∃ n, w.ledger.failures = n + 1 ∧ m.retrySeconds = backoff (n + 1)
  punctual : Punctual w.ledger

/-- The failure is observed: the wait counts from now, and the next one is twice as long. -/
theorem Failing.observed {m : ManagedProcess} {w w' : Supervision} (h : Failing m w)
    (hl : Later w w') (t : ℚ) :
    Idle (m.backoff t) { w' with ledger := w'.ledger.read t } := by
  obtain ⟨n, hfailures, hretry⟩ := h.failed
  have hawaiting := h.awaiting
  rw [← hl.ledger] at hfailures hawaiting
  refine ⟨(h.accounted.later hl).ledger rfl, ⟨rfl, ?_, ?_, fun _ => ?_⟩, ?_⟩
  · show min (m.retrySeconds * 2) 30 = backoff (w'.ledger.failures + 1)
    rw [hretry, hfailures, backoff_succ]
  · show t + m.retrySeconds = _
    simp [Ledger.read, hawaiting, hfailures, hretry]
  · simp [Ledger.read, hawaiting]
  · rw [hl.ledger]
    exact h.punctual

/-! ## Rules for the supervised world -/

/-- What holds at every moment: at most one child is alive, and no launch came too soon. -/
structure Calm (w : Supervision) : Prop where
  unique : ∀ i j, w.children.alive i = true → w.children.alive j = true → i = j
  punctual : Punctual w.ledger

theorem Calm.later {w w' : Supervision} (h : Calm w) (hl : Later w w') : Calm w' where
  unique i j hi hj := h.unique i j (hl.alive i hi) (hl.alive j hj)
  punctual := hl.ledger ▸ h.punctual

theorem Accounted.unique {process : Option Nat} {w : Supervision} (h : Accounted process w)
    (i j : Nat) (hi : w.children.alive i = true) (hj : w.children.alive j = true) : i = j :=
  Option.some.inj ((h.alone i hi).symm.trans (h.alone j hj))

theorem Idle.calm {m : ManagedProcess} {w : Supervision} (h : Idle m w) : Calm w :=
  ⟨h.accounted.unique, h.punctual⟩

theorem Failing.calm {m : ManagedProcess} {w : Supervision} (h : Failing m w) : Calm w :=
  ⟨h.accounted.unique, h.punctual⟩

/-- At every answer the world is calm, and the program ends with `Q`. -/
abbrev Supervised {α : Type} (p : Child ManagedProcess α)
    (Q : Except String α → ManagedProcess → Supervision → Prop) (m : ManagedProcess)
    (w : Supervision) : Prop :=
  p.Safe supervision (fun _ _ => True) Calm Q m w

section Rules

variable {β : Type} {m : ManagedProcess} {w : Supervision}
  {Q : Except String β → ManagedProcess → Supervision → Prop}

theorem supervised_done {r : Except String β} (h : ∀ w', Later w w' → Q r m w') :
    Supervised (.done r) Q m w := fun w' hw' => h w' (.drifts hw')

theorem supervised_modify {f : ManagedProcess → ManagedProcess}
    {Q : Except String Unit → ManagedProcess → Supervision → Prop}
    (h : ∀ w', Later w w' → Q (.ok ()) (f m) w') : Supervised (modify f) Q m w :=
  fun w' hw' => h w' (.drifts hw')

theorem supervised_returncode {child : Nat} {f : Option Int → Child ManagedProcess β}
    (hw : Calm w) (hf : ∀ w', Later w w' → Supervised (f (w'.status child)) Q m w') :
    Supervised (Child.returncode child >>= f) Q m w := by
  intro w₁ h₁ returncode w₂ _ hans
  have h₁ := Later.drifts h₁
  simp only [supervision] at hans
  split at hans
  · rename_i hstatus
    obtain rfl := Option.some.inj hans
    rw [hstatus]
    exact ⟨hw.later h₁, hf w₁ h₁⟩
  · cases hans

theorem supervised_monotonic {f : ℚ → Child ManagedProcess β} (hw : Calm w)
    (hf : ∀ t w', Later w w' → w'.ledger.now ≤ t →
      Supervised (f t) Q m { w' with ledger := w'.ledger.read t }) :
    Supervised (Child.monotonic >>= f) Q m w := by
  intro w₁ h₁ t w₂ _ hans
  have h₁ := Later.drifts h₁
  have hw₁ := hw.later h₁
  simp only [supervision] at hans
  split at hans
  · rename_i htime
    obtain rfl := Option.some.inj hans
    exact ⟨⟨hw₁.unique, hw₁.punctual⟩, hf t w₁ h₁ htime⟩
  · cases hans

/-- An exit is entered in the ledger. -/
theorem supervised_exited {name : String} {returncode : Option Int}
    {f : Unit → Child ManagedProcess β} (hw : Calm w)
    (hf : ∀ w', Later w w' →
      Supervised (f ()) Q m { w' with ledger := w'.ledger.reported returncode }) :
    Supervised (Child.emit (.exited name returncode) >>= f) Q m w := by
  intro w₁ h₁ _ w₂ _ hans
  have h₁ := Later.drifts h₁
  have hw₁ := hw.later h₁
  obtain rfl := Option.some.inj hans
  exact ⟨⟨hw₁.unique, hw₁.punctual⟩, hf w₁ h₁⟩

/-- The other events are not. -/
theorem supervised_emit {event : ProcessEvent} {f : Unit → Child ManagedProcess β}
    (hevent : ∀ name returncode, event ≠ .exited name returncode) (hw : Calm w)
    (hf : ∀ w', Later w w' → Supervised (f ()) Q m w') :
    Supervised (Child.emit event >>= f) Q m w := by
  intro w₁ h₁ _ w₂ _ hans
  have h₁ := Later.drifts h₁
  have hsame : supervision.answer w₁ (.emit event) () = some w₁ := by
    cases event with
    | exited name returncode => exact absurd rfl (hevent name returncode)
    | startFailed | started | killed | stopped => rfl
  obtain rfl := Option.some.inj (hsame.symm.trans hans)
  exact ⟨hw.later h₁, hf w₁ h₁⟩

/-- A launch when no child is alive and the wait is over. -/
theorem supervised_launch {owner : Loopback} {argv : List String}
    {f : Except String Nat → Child ManagedProcess β} (hsilent : Silent w.children)
    (hpunctual : Punctual w.ledger)
    (hover : w.ledger.attempt.InTime)
    (hok : ∀ w', Later w w' → Supervised (f (.ok w'.children.count)) Q m
      { w' with children := w'.children.born owner, ledger := w'.ledger.launched })
    (herr : ∀ error w', Later w w' → Supervised (f (.error error)) Q m
      { w' with ledger := w'.ledger.launchFailed }) :
    Supervised (Child.launch owner argv >>= f) Q m w := by
  intro w₁ h₁ result w₂ _ hans
  have h₁ := Later.drifts h₁
  have hsilent₁ := h₁.silent hsilent
  rw [← h₁.ledger] at hpunctual hover
  have hattempt := hpunctual.attempt hover
  cases result with
  | ok child =>
    simp only [supervision] at hans
    split at hans
    · rename_i hchild
      obtain rfl := Option.some.inj hans
      rw [hchild]
      exact ⟨⟨(hsilent₁.born owner).2.unique, hattempt⟩, hok w₁ h₁⟩
    · cases hans
  | error error =>
    obtain rfl := Option.some.inj hans
    exact ⟨⟨hsilent₁.exclusive.unique, hattempt⟩, herr error w₁ h₁⟩

end Rules

/-! ## A start -/

namespace ManagedProcess

variable {m : ManagedProcess} {w : Supervision}

/-- A recorded child that is not running has been collected. -/
theorem running_supervised (h : Idle m w) :
    Supervised running (fun r m' w' => ∃ b, r = .ok b ∧ m' = m ∧ Idle m w' ∧
      (b = false → ∀ child, m.process = some child → (w'.status child).isSome = true)) m w := by
  unfold running
  refine safe_get_bind ?_
  cases hm : m.process with
  | none =>
    exact supervised_done fun w' hw' => ⟨false, rfl, rfl, h.later hw', fun _ _ hc => nomatch hc⟩
  | some child =>
    refine supervised_returncode h.calm fun w₁ h₁ => ?_
    refine supervised_done fun w' hw' => ⟨_, rfl, rfl, (h.later h₁).later hw', fun hb c hc => ?_⟩
    obtain rfl := Option.some.inj hc
    obtain ⟨code, hcode⟩ : ∃ code, w₁.status child = some code := by
      simpa [Option.isSome_iff_exists, Option.ne_none_iff_exists'] using hb
    rw [hw'.status child code hcode]
    rfl

/-- A child that has exited is reported once, and the backoff begins. -/
theorem forgetExited_supervised (h : Idle m w)
    (hexited : ∀ child, m.process = some child → (w.status child).isSome = true) :
    Supervised forgetExited (fun r m' w' => r = .ok () ∧ Idle m' w' ∧ m'.process = none) m w := by
  unfold forgetExited
  refine safe_get_bind ?_
  cases hm : m.process with
  | none => exact supervised_done fun w' hw' => ⟨rfl, h.later hw', hm⟩
  | some child =>
    have haccounted : Accounted (some child) w := hm ▸ h.accounted
    refine supervised_returncode h.calm fun w₁ h₁ => ?_
    obtain ⟨code, hcode⟩ := Option.isSome_iff_exists.mp (hexited child hm)
    have hcode₁ : w₁.status child = some code := h₁.status child code hcode
    rw [hcode₁]
    have hw₁ := h.later h₁
    refine supervised_exited hw₁.calm fun w₂ h₂ => ?_
    have hw₂ := hw₁.later h₂
    have hfailing : Failing { m with process := none }
        { w₂ with ledger := w₂.ledger.reported (some code) } := by
      have hcode₂ := h₂.status child code hcode₁
      have hreported := ((haccounted.later h₁).later h₂).reported (hcode₂ ▸ rfl)
      rw [hcode₂] at hreported
      exact ⟨hreported, rfl, ⟨_, rfl, hw₂.paced.retrySeconds⟩, hw₂.punctual⟩
    refine supervised_monotonic hfailing.calm fun t w₃ h₃ _ => ?_
    exact supervised_modify fun w' hw' => ⟨rfl, (hfailing.observed h₃ t).later hw', rfl⟩

theorem launch_supervised (owner : Loopback) (h : Idle m w) (hnone : m.process = none)
    (hover : m.nextRetryAt ≤ w.ledger.now) :
    Supervised (launch owner) (fun _ m' w' => Idle m' w') m w := by
  have haccounted : Accounted none w := hnone ▸ h.accounted
  have hover := h.paced.inTime hover
  have hattempt := h.punctual.attempt hover
  refine supervised_launch haccounted.silent h.punctual hover ?_ ?_
  · -- the new child is recorded, and the backoff is the shortest again
    intro w₁ h₁
    have hborn := (haccounted.later h₁).born owner
    have hw₁ := h.later h₁
    have hidle : Idle
        { m with process := some w₁.children.count, nextRetryAt := 0, retrySeconds := 1 / 2 }
        { w₁ with children := w₁.children.born owner, ledger := w₁.ledger.launched } :=
      ⟨hborn, ⟨rfl, backoff_one.symm, rfl, nofun⟩, h₁.ledger ▸ hattempt⟩
    refine supervised_emit (fun _ _ => nofun) hidle.calm fun w₂ h₂ => ?_
    exact supervised_done fun w' hw' => (hidle.later h₂).later hw'
  · -- the launch has failed
    intro error w₁ h₁
    have hw₁ := h.later h₁
    have hfailing : Failing m { w₁ with ledger := w₁.ledger.launchFailed } :=
      ⟨hw₁.accounted.ledger rfl, rfl, ⟨_, rfl, hw₁.paced.retrySeconds⟩, h₁.ledger ▸ hattempt⟩
    refine supervised_monotonic hfailing.calm fun t w₂ h₂ _ => ?_
    have hidle := hfailing.observed h₂ t
    refine supervised_emit (fun _ _ => nofun) hidle.calm fun w₃ h₃ => ?_
    exact supervised_done fun w' hw' => (hidle.later h₃).later hw'

/-- **A start** keeps the books. -/
theorem start_supervised (owner : Loopback) (h : Idle m w) :
    Supervised (start owner) (fun _ m' w' => Idle m' w') m w := by
  refine Safe.bind (running_supervised h) ?_ fun _ _ _ ⟨_, hb, _⟩ => nomatch hb
  rintro b _ w₁ ⟨_, hb, rfl, hw₁, hexited⟩
  obtain rfl := Except.ok.inj hb
  cases b with
  | true => exact supervised_done fun w' hw' => hw₁.later hw'
  | false =>
    refine Safe.bind (forgetExited_supervised hw₁ (hexited rfl)) ?_ fun _ _ _ h => nomatch h.1
    rintro _ m₁ w₂ ⟨-, hw₂, hnone⟩
    refine supervised_monotonic hw₂.calm fun now w₃ h₃ _ => ?_
    have hw₃ := hw₂.later h₃
    have hread : Idle m₁ { w₃ with ledger := w₃.ledger.read now } :=
      ⟨hw₃.accounted.ledger rfl, hw₃.paced.read now, hw₃.punctual⟩
    show Supervised (if now < m₁.nextRetryAt then _ else _) _ m₁ _
    split
    · exact supervised_done fun w' hw' => hread.later hw'
    · rename_i hover
      exact launch_supervised owner hread hnone (not_lt.mp hover)

/-- With no child recorded there is nothing to stop. -/
theorem stop_supervised (h : Idle m w) (hnone : m.process = none) :
    Supervised stop (fun _ m' w' => Idle m' w') m w := by
  unfold stop
  refine safe_get_bind ?_
  rw [hnone]
  exact supervised_done fun w' hw' => h.later hw'

/-- A start inside the backoff raises, asks for nothing but the time, and changes no field. -/
theorem start_waits {owner : Loopback} {o : (q : ProcReq) → ProcRep q} (hnone : m.process = none)
    (hwait : o .monotonic < m.nextRetryAt) :
    eval o (start owner) m =
      (.error (m.spec.name ++ " unavailable; restart backoff active"), m, [.monotonic]) := by
  simp [start, running, forgetExited, eval_bind, hnone, Child.monotonic, hwait]

/-- A start that finds the return code of its child reports it. -/
theorem start_reports {owner : Loopback} {o : (q : ProcReq) → ProcRep q} {child : Nat} {code : Int}
    (hchild : m.process = some child) (hcode : o (.returncode child) = some code) :
    .emit (.exited m.spec.name (some code)) ∈ (eval o (start owner) m).2.2 := by
  simp [start, running, forgetExited, eval_bind, hchild, Child.returncode, Child.emit,
    Child.monotonic, hcode]

end ManagedProcess

/-! ## Every run -/

/-- What is asked of the owner: starts, and the stops of the idle fallback. -/
inductive RestartCall
  | start
  | stop
deriving DecidableEq

/-- The program of a call. -/
def RestartCall.program (owner : Loopback) : RestartCall → Child ManagedProcess Unit
  | .start => ManagedProcess.start owner
  | .stop => ManagedProcess.stop

/-- Any sequence of calls of an owner that has just been constructed. -/
def restarts (spec : ProcessSpec) (owner : Loopback) :
    Machine (Serving ProcReq ProcRep ManagedProcess String Supervision RestartCall)
      (ServeMove ProcReq ProcRep ChildMove RestartCall) :=
  supervision.serve (RestartCall.program owner)
    fun own w => own = { spec := spec } ∧ ∃ now, w = { ledger := { now := now } }

/-- Only an owner that has no child recorded is stopped. -/
def Unrecorded (s : Serving ProcReq ProcRep ManagedProcess String Supervision RestartCall) :
    ServeMove ProcReq ProcRep ChildMove RestartCall → Prop
  | .begin .stop => s.own.process = none
  | _ => True

instance (s m) : Decidable (Unrecorded s m) :=
  match m with
  | .begin .stop => inferInstanceAs (Decidable (_ = _))
  | .begin .start | .answer _ _ | .drift _ => .isTrue trivial

theorem idle_init {spec : ProcessSpec} {m : ManagedProcess} {w : Supervision}
    (h : m = { spec := spec } ∧ ∃ now, w = { ledger := { now := now } }) : Idle m w := by
  obtain ⟨rfl, now, rfl⟩ := h
  refine ⟨⟨fun _ hi => (nomatch hi), fun _ hc => (nomatch hc), fun _ _ hc => (nomatch hc), rfl,
    fun i hi => (nomatch hi)⟩, ⟨rfl, backoff_one.symm, rfl, nofun⟩, fun _ ha => (nomatch ha)⟩

/-- **No restart storms.**  Whatever fails or exits, and whenever: at most one child is alive, and
    no launch has come before the backoff was over.  Between the calls every child but the recorded
    one has been reported once, with its return code; a start reports the recorded one as soon as
    it finds its return code; and a start inside the backoff raises and does nothing. -/
theorem no_restart_storms (spec : ProcessSpec) (owner : Loopback)
    {s : Serving ProcReq ProcRep ManagedProcess String Supervision RestartCall}
    (h : (restarts spec owner).Reach Unrecorded s) :
    (∀ i j, s.world.children.alive i = true → s.world.children.alive j = true → i = j) ∧
    (∀ a ∈ s.world.ledger.attempts, 0 < a.failures →
      ∃ t, a.observed = some t ∧ t + backoff a.failures ≤ a.time) ∧
    ∀ r, s.program = .done r →
      s.world.ledger.reports = (List.range
        (s.world.children.count - s.own.process.toList.length)).map s.world.status ∧
      (∀ code ∈ s.world.ledger.reports, code.isSome = true) ∧
      (∀ child, s.own.process = some child → s.world.children.count = child + 1) ∧
      (∀ o child code, s.own.process = some child → o (.returncode child) = some code →
        .emit (.exited s.own.spec.name (some code)) ∈
          (eval o (ManagedProcess.start owner) s.own).2.2) ∧
      ∀ o t, s.own.process = none → s.world.ledger.observed = some t →
        o .monotonic < t + backoff s.world.ledger.failures →
        eval o (ManagedProcess.start owner) s.own =
          (.error (s.own.spec.name ++ " unavailable; restart backoff active"), s.own,
            [.monotonic]) := by
  have hbegin : ∀ s call, Unrecorded s (.begin call) → call = .stop → s.own.process = none := by
    rintro s call hm rfl
    exact hm
  have hcall : ∀ (call : RestartCall) (m : ManagedProcess) w, (call = .stop → m.process = none) →
      Idle m w → (call.program owner).Safe (supervision.guarded fun _ _ _ => True) (fun _ _ => True)
        Calm (fun _ m w => Idle m w ∧ True) m w := by
    intro call m w hstop hm
    cases call with
    | start =>
      have hsafe := ManagedProcess.start_supervised owner hm
      exact (hsafe.mono fun _ _ _ hend => ⟨hend, trivial⟩).guard
    | stop =>
      have hsafe := ManagedProcess.stop_supervised hm (hstop rfl)
      exact (hsafe.mono fun _ _ _ hend => ⟨hend, trivial⟩).guard
  have hstable : ∀ m, supervision.Stable (Idle m) := fun m w d w' hw hd =>
    hw.later (.drifts (.move .refl hd))
  have hcalm : supervision.Stable Calm := fun w d w' hw hd => hw.later (.drifts (.move .refl hd))
  obtain ⟨hnow, hdone⟩ := serve_invariant_begun hbegin (fun _ _ _ _ _ _ => trivial) hcalm hstable
    (fun _ _ => idle_init) (fun _ _ => Idle.calm) hcall h
  refine ⟨hnow.unique, hnow.punctual, fun r hr => ?_⟩
  obtain ⟨hidle, -⟩ := hdone r hr
  refine ⟨hidle.accounted.reports, fun code hcode => ?_, hidle.accounted.last,
    fun o child code hchild hcode => ManagedProcess.start_reports hchild hcode,
    fun o t hnone ht hwait => ?_⟩
  · rw [hidle.accounted.reports] at hcode
    obtain ⟨i, hi, rfl⟩ := List.mem_map.mp hcode
    exact hidle.accounted.known i (List.mem_range.mp hi)
  · refine ManagedProcess.start_waits hnone ?_
    rw [hidle.paced.nextRetryAt, ht]
    exact hwait

/-- A player that crashes, cannot be launched half a second later, and is launched again after a
    further second; the start in between raises, and the stop in between finds no child. -/
theorem no_restart_storms_crash : ∃ s : Serving ProcReq ProcRep ManagedProcess String Supervision
      RestartCall, s.world.children.count = 2 ∧ s.world.ledger.reports = [some 1] ∧
    s.world.ledger.attempts = [⟨0, 0, none⟩, ⟨21 / 2, 1, some 10⟩, ⟨58 / 5, 2, some (53 / 5)⟩] ∧
    ∀ a ∈ s.world.ledger.attempts, 0 < a.failures →
      ∃ t, a.observed = some t ∧ t + backoff a.failures ≤ a.time := by
  obtain ⟨s, hs, hP⟩ := Machine.exists_reach
    (m := (restarts ⟨"ma", ["squeezelite"], 3, by decide⟩ .ma).guarded Unrecorded)
    (l := [.begin .start, .answer .monotonic (0 : ℚ), .answer (.launch .ma ["squeezelite"]) (.ok 0),
      .answer (.emit (.started "ma")) (), .drift (.exits 0), .drift (.collected 0 1),
      .begin .start, .answer (.returncode 0) (some 1), .answer (.returncode 0) (some 1),
      .answer (.emit (.exited "ma" (some 1))) (), .answer .monotonic (10 : ℚ),
      .answer .monotonic (10 : ℚ), .begin .stop, .begin .start, .answer .monotonic (51 / 5 : ℚ),
      .begin .start, .answer .monotonic (21 / 2 : ℚ),
      .answer (.launch .ma ["squeezelite"]) (.error "not found"),
      .answer .monotonic (53 / 5 : ℚ), .answer (.emit (.startFailed "ma" "not found")) (),
      .begin .start, .answer .monotonic (58 / 5 : ℚ),
      .answer (.launch .ma ["squeezelite"]) (.ok 1), .answer (.emit (.started "ma")) ()])
    (fun s => s.world.children.count = 2 ∧ s.world.ledger.reports = [some 1] ∧
      s.world.ledger.attempts = [⟨0, 0, none⟩, ⟨21 / 2, 1, some 10⟩, ⟨58 / 5, 2, some (53 / 5)⟩])
    (s := ⟨.done (.ok ()), { spec := ⟨"ma", ["squeezelite"], 3, by decide⟩ },
      { ledger := { now := 0 } }, none⟩)
    ⟨rfl, rfl, rfl, 0, rfl⟩ (by decide +kernel)
  obtain ⟨hcount, hreports, hattempts⟩ := hP
  exact ⟨s, hcount, hreports, hattempts, (no_restart_storms _ _ hs.of_guarded).2.1⟩

end PhonoConsole
