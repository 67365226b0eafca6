/-
  ROLLBACK UNDER CONCURRENCY: which target overlapping API requests leave behind.

  A request captures the target it finds on arrival, and restores that when its action fails
  while its generation is the newest.  Two recursions over the generations say what this should
  amount to and what it does amount to:

  * `lastCommitted` — the target of the newest committed request: Console, or a Downstairs whose
    action returned; the initial target when there is none;
  * `lastLive`      — the same, counting also the Downstairs requests that are still pending.
    This is what `output_target` IS, at every moment.

  The two differ while a Downstairs request is unconfirmed behind a committed Console.  A second
  Downstairs request that arrives just then captures the unconfirmed target.  Where the two agree
  they go on agreeing, whatever becomes of the pending requests (`settles`), so a target captured
  there is the right one to restore.
-/
import PhonoConsole.Intents

namespace PhonoConsole

/-- A request whose choice stands: Console, or Downstairs whose action returned. -/
def IntentTask.committed (t : IntentTask) : Bool :=
  t.target == .console || t.pc == .done .returned

/-- A request whose choice stands or may still stand. -/
def IntentTask.live (t : IntentTask) : Bool :=
  t.target == .console || !(t.pc == .done .raised || t.pc == .done .superseded)

namespace Hub

variable {s s' : Hub} {g n : Nat}

/-- The target of the newest committed request up to generation `n`. -/
def lastCommitted (s : Hub) : Nat → OutputTarget
  | 0 => s.initial
  | n + 1 => if (s.task (n + 1)).committed then (s.task (n + 1)).target else s.lastCommitted n

/-- The target of the newest request up to generation `n` that has not failed. -/
def lastLive (s : Hub) : Nat → OutputTarget
  | 0 => s.initial
  | n + 1 => if (s.task (n + 1)).live then (s.task (n + 1)).target else s.lastLive n

/-! ## The two recursions -/

theorem IntentTask.live_of_committed {t : IntentTask} (h : t.committed = true) :
    t.live = true := by
  unfold IntentTask.committed at h
  unfold IntentTask.live
  cases htarget : t.target with
  | console => rfl
  | downstairs =>
    rw [htarget] at h
    have hpc : t.pc = .done .returned := by simpa using h
    rw [hpc]
    rfl

/-- A request that is live without being committed is a pending Downstairs. -/
theorem IntentTask.downstairs_of_live {t : IntentTask} (hc : t.committed = false) :
    t.target = .downstairs := by
  cases htarget : t.target with
  | downstairs => rfl
  | console =>
    rw [IntentTask.committed, htarget] at hc
    exact nomatch hc

theorem IntentTask.live_of_pending {t : IntentTask} (h : t.pc.isDone = false) : t.live = true := by
  cases hpc : t.pc with
  | done =>
    rw [hpc] at h
    exact nomatch h
  | apiLock | transitionLock | disabling | stopping | selecting | playing =>
    rw [IntentTask.live, hpc]
    cases t.target <;> rfl

/-- A committed Downstairs is never hidden: what is pending above it is Downstairs too. -/
theorem lastLive_of_lastCommitted (h : s.lastCommitted n = .downstairs) :
    s.lastLive n = .downstairs := by
  induction n with
  | zero => exact h
  | succ n ih =>
    unfold lastCommitted at h
    unfold lastLive
    cases hc : (s.task (n + 1)).committed with
    | true =>
      rw [hc] at h
      rw [IntentTask.live_of_committed hc]
      exact h
    | false =>
      rw [hc] at h
      cases hl : (s.task (n + 1)).live with
      | true => exact IntentTask.downstairs_of_live hc
      | false => exact ih h

/-- Once everything is done the two agree. -/
theorem lastLive_of_done (hdone : ∀ g, (s.task g).pc.isDone = true) :
    s.lastLive n = s.lastCommitted n := by
  induction n with
  | zero => rfl
  | succ n ih =>
    have hsame : (s.task (n + 1)).live = (s.task (n + 1)).committed := by
      have hpc := hdone (n + 1)
      unfold IntentTask.live IntentTask.committed
      generalize (s.task (n + 1)).pc = pc at hpc ⊢
      cases pc with
      | done o => cases o <;> rfl
      | apiLock | transitionLock | disabling | stopping | selecting | playing => exact nomatch hpc
    unfold lastLive lastCommitted
    rw [hsame, ih]

/-- The task of `g`, pending until now, moves on. -/
structure Advances (s : Hub) (g : Nat) (s' : Hub) : Prop extends Framed s g s' where
  pending : (s.task g).pc.isDone = false

/-- Where the two recursions agree they go on agreeing, on the same target, whatever becomes of a
    pending request. -/
theorem Advances.settles (ha : Advances s g s') (h : s.lastCommitted n = s.lastLive n) :
    s'.lastCommitted n = s.lastCommitted n ∧ s'.lastLive n = s.lastLive n := by
  -- induction over the generations; at `g` itself the target is Downstairs or was committed before
  induction n with
  | zero => exact ⟨ha.initial, ha.initial⟩
  | succ n ih =>
    unfold lastCommitted lastLive at h ⊢
    -- below a pending Downstairs, agreement on Downstairs is all there is
    have hbelow : s.lastCommitted n = .downstairs →
        s'.lastCommitted n = .downstairs ∧ s'.lastLive n = .downstairs := fun hd => by
      have hl := lastLive_of_lastCommitted hd
      have hih := ih (hd.trans hl.symm)
      exact ⟨hih.1.trans hd, hih.2.trans hl⟩
    by_cases hg : n + 1 = g
    · subst hg
      have hlive := IntentTask.live_of_pending ha.pending
      rw [hlive] at h ⊢
      cases hc : (s.task (n + 1)).committed with
      | true =>
        -- pending and committed: Console, which stays committed
        have hconsole : (s.task (n + 1)).target = .console := by
          have hpc := ha.pending
          rw [IntentTask.committed] at hc
          cases htarget : (s.task (n + 1)).target with
          | console => rfl
          | downstairs =>
            rw [htarget] at hc
            have hret : (s.task (n + 1)).pc = .done .returned := by simpa using hc
            rw [hret] at hpc
            exact nomatch hpc
        simp [IntentTask.committed, IntentTask.live, ha.target, hconsole]
      | false =>
        have hdown := IntentTask.downstairs_of_live hc
        rw [hc, hdown] at h
        obtain ⟨hlc, hll⟩ := hbelow h
        simp only [ha.target, hdown, hlc, hll, ite_self, if_true]
        exact ⟨h.symm, trivial⟩
    · rw [ha.others _ hg]
      cases hl : (s.task (n + 1)).live with
      | true =>
        cases hc : (s.task (n + 1)).committed with
        | true => exact ⟨rfl, rfl⟩
        | false =>
          rw [hl, hc, IntentTask.downstairs_of_live hc] at h
          exact ⟨(hbelow h).1.trans h.symm, rfl⟩
      | false =>
        have hc : (s.task (n + 1)).committed = false := by
          by_contra hno
          have hlive := IntentTask.live_of_committed (by simpa using hno)
          rw [hl] at hlive
          exact nomatch hlive
        rw [hl, hc] at h
        rw [hc]
        exact ih h

theorem lastCommitted_congr (hinit : s'.initial = s.initial)
    (htask : ∀ m, m ≤ n → s'.task m = s.task m) : s'.lastCommitted n = s.lastCommitted n := by
  induction n with
  | zero => exact hinit
  | succ n ih =>
    unfold lastCommitted
    rw [htask (n + 1) (Nat.le_refl _), ih fun m hm => htask m (Nat.le_succ_of_le hm)]

theorem lastLive_congr (hinit : s'.initial = s.initial)
    (htask : ∀ m, m ≤ n → s'.task m = s.task m) : s'.lastLive n = s.lastLive n := by
  induction n with
  | zero => exact hinit
  | succ n ih =>
    unfold lastLive
    rw [htask (n + 1) (Nat.le_refl _), ih fun m hm => htask m (Nat.le_succ_of_le hm)]

/-! ## The invariant -/

/-- The target is the newest live request's, and every Downstairs request has captured what was
    both committed and live below it. -/
structure Restorable (s : Hub) : Prop where
  current : s.outputTarget = s.lastLive s.routingGeneration
  captured : ∀ n, n < s.routingGeneration → (s.task (n + 1)).target = .downstairs →
    ∃ previous, (s.task (n + 1)).caller = .api previous ∧
      s.lastCommitted n = previous ∧ s.lastLive n = previous

/-- Only the API records intents, and a Downstairs request that finds Downstairs requested finds
    it committed. -/
def Confirmed (s : Hub) : HubMove → Prop
  | .request target => target = .downstairs → s.outputTarget = .downstairs →
    s.lastCommitted s.routingGeneration = .downstairs
  | .press _ => False
  | .resume _ _ | .identify | .sense _ _ | .disk _ => True

instance (s : Hub) (m : HubMove) : Decidable (Confirmed s m) := by
  cases m <;> unfold Confirmed <;> exact inferInstance

/-- Locks, flags and surroundings do not matter. -/
theorem Restorable.congr (h : Restorable s) (hinit : s'.initial = s.initial)
    (hout : s'.outputTarget = s.outputTarget) (hgen : s'.routingGeneration = s.routingGeneration)
    (htask : s'.task = s.task) : Restorable s' where
  current := by
    rw [hout, hgen, h.current, lastLive_congr hinit fun m _ => by rw [htask]]
  captured n hn htarget := by
    rw [hgen] at hn
    rw [htask] at htarget ⊢
    rw [lastCommitted_congr hinit fun m _ => by rw [htask],
      lastLive_congr hinit fun m _ => by rw [htask]]
    exact h.captured n hn htarget

/-- The task of `g` moves on; the target goes with it, if it is rolled back. -/
theorem Restorable.advanced (h : Restorable s) (ha : Advances s g s')
    (hcurrent : s'.outputTarget = s'.lastLive s'.routingGeneration) : Restorable s' where
  current := hcurrent
  captured n hn htarget := by
    rw [ha.generation] at hn
    have hsame : (s'.task (n + 1)).target = (s.task (n + 1)).target ∧
        (s'.task (n + 1)).caller = (s.task (n + 1)).caller := by
      by_cases hg : n + 1 = g
      · exact hg ▸ ⟨ha.target, ha.caller⟩
      · rw [ha.others _ hg]
        exact ⟨rfl, rfl⟩
    obtain ⟨previous, hc, hlc, hll⟩ := h.captured n hn (hsame.1.symm.trans htarget)
    have hset := ha.settles (hlc.trans hll.symm)
    exact ⟨previous, hsame.2.trans hc, hset.1.trans hlc, hset.2.trans hll⟩

/-- A target that is not rolled back stays the newest live one: the newest request is still live,
    or another request moves. -/
theorem Restorable.current_kept (h : Restorable s) (ha : Advances s g s')
    (hg : 0 < g ∧ g ≤ s.routingGeneration) (hout : s'.outputTarget = s.outputTarget)
    (hlive : g = s.routingGeneration → (s'.task g).live = true) :
    s'.outputTarget = s'.lastLive s'.routingGeneration := by
  obtain ⟨n, hn⟩ : ∃ n, s.routingGeneration = n + 1 := ⟨s.routingGeneration - 1, by omega⟩
  rw [ha.generation, hout, h.current, hn]
  by_cases hnewest : g = n + 1
  · have hl := hlive (hnewest.trans hn.symm)
    unfold lastLive
    rw [← hnewest, hl, IntentTask.live_of_pending ha.pending, ha.target]
    rfl
  · cases hl : (s.task (n + 1)).live with
    | true =>
      unfold lastLive
      rw [ha.others _ (Ne.symm hnewest), hl]
      rfl
    | false =>
      -- the newest has failed: what lies below it was in agreement when it arrived
      have hdown : (s.task (n + 1)).target = .downstairs := by
        cases htarget : (s.task (n + 1)).target with
        | downstairs => rfl
        | console =>
          rw [IntentTask.live, htarget] at hl
          exact nomatch hl
      obtain ⟨previous, _, hlc, hll⟩ := h.captured n (by omega) hdown
      have hset := ha.settles (hlc.trans hll.symm)
      unfold lastLive
      rw [ha.others _ (Ne.symm hnewest), hl]
      exact hset.2.symm

/-- A task that moves without failing keeps everything restorable. -/
theorem Restorable.moved {pc : TaskPc} (h : Restorable s) (hm : Moved s g pc s')
    (hg : 0 < g ∧ g ≤ s.routingGeneration) (hpend : (s.task g).pc.isDone = false)
    (hlive : g = s.routingGeneration → (s'.task g).live = true) : Restorable s' :=
  have ha : Advances s g s' := ⟨hm.framed, hpend⟩
  h.advanced ha (h.current_kept ha hg hm.outputTarget hlive)

theorem Moved.live {pc : TaskPc} (hm : Moved s g pc s') (hr : pc ≠ .done .raised)
    (hs : pc ≠ .done .superseded) : (s'.task g).live = true := by
  rw [IntentTask.live, hm.pc_self]
  simp [hr, hs]

theorem Starts.live {pc : TaskPc} (h : Starts n pc) (hm : Moved s g pc s') :
    (s'.task g).live = true := by
  cases h with
  | queued | returned | disabling | selecting => exact hm.live nofun nofun

/-- A failed Downstairs request that is still the newest restores what it captured. -/
theorem actionRaises_restorable (h : Restorable s) (hg : 0 < g ∧ g ≤ s.routingGeneration)
    (hpend : (s.task g).pc.isDone = false) : Restorable (s.actionRaises g) := by
  have ha : Advances s g (s.actionRaises g) := ⟨actionRaises_framed s g, hpend⟩
  by_cases hnew : (s.task g).target = .downstairs ∧ g = s.routingGeneration
  · obtain ⟨hdown, hgen⟩ := hnew
    obtain ⟨n, hn⟩ : ∃ n, g = n + 1 := ⟨g - 1, by omega⟩
    subst hn
    obtain ⟨previous, hc, hlc, hll⟩ := h.captured n (by omega) hdown
    have hraise : s.actionRaises (n + 1) =
        (s.setOutputTarget previous false).finish (n + 1) .raised := by
      unfold actionRaises
      rw [hc]
      exact if_pos ⟨hdown, hgen⟩
    refine h.advanced ha ?_
    -- the request is dead now, and what it captured is what is live below it
    have hdead : ((s.actionRaises (n + 1)).task (n + 1)).live = false := by
      rw [IntentTask.live, ha.target, hdown, hraise, (moved_finish ..).pc_self]
      rfl
    rw [ha.generation, ← hgen, lastLive, hdead]
    have hrolled : (s.actionRaises (n + 1)).outputTarget = previous := by
      rw [hraise]
      exact finish_outputTarget ..
    exact hrolled.trans ((ha.settles (hlc.trans hll.symm)).2.trans hll).symm
  · have hraise : s.actionRaises g = s.finish g .raised := by
      unfold actionRaises
      cases (s.task g).caller with
      | api previous => exact if_neg hnew
      | encoder => rfl
    rw [hraise]
    refine h.moved (moved_finish ..) hg hpend fun hgen => ?_
    -- the newest request that is not rolled back is Console
    cases htarget : (s.task g).target with
    | console =>
      rw [IntentTask.live, (moved_finish ..).target, htarget]
      rfl
    | downstairs => exact absurd ⟨htarget, hgen⟩ hnew

/-- A call of the action starts, queues or ends; or it raises at the file. -/
theorem Called.restorable (hc : Called s g s') (h : Restorable s)
    (hg : 0 < g ∧ g ≤ s.routingGeneration) (hpend : (s.task g).pc.isDone = false) :
    Restorable s' := by
  cases hc with
  | starts hm hpc => exact h.moved hm hg hpend fun _ => hpc.live hm
  | raises api transition _ hraise =>
    rw [hraise]
    exact actionRaises_restorable (h.congr rfl rfl rfl rfl) hg hpend

theorem enterApi_restorable (h : Restorable s) (hg : 0 < g ∧ g ≤ s.routingGeneration)
    (hpend : (s.task g).pc.isDone = false) : Restorable (s.enterApi g) := by
  obtain hc | ⟨hm, hold⟩ := enterApi_called s g
  · exact hc.restorable h hg hpend
  · exact h.moved hm hg hpend fun hgen => absurd hgen hold

theorem resume_restorable {reply : HubReply} (hfresh : Fresh s) (h : Restorable s)
    (hs' : s.resume g reply = some s') : Restorable s' := by
  have hresumed := resume_resumed hs'
  have hpend := hresumed.pending
  have hg := hfresh g hpend
  -- a task that goes on, or returns, is live
  have hgoes : ∀ {q : Hub} {pc : TaskPc}, Moved s g pc q → pc ≠ .done .raised →
      pc ≠ .done .superseded → Restorable q := fun hm hr hsup =>
    h.moved hm hg hpend fun _ => hm.live hr hsup
  cases hresumed with
  | entered _ _ => exact enterApi_restorable h hg hpend
  | owns _ _ => exact (beginAction_called s g).restorable h hg hpend
  | phono _ | bluetooth _ | stopping _ | playing _ =>
    exact hgoes ((moved_setPc ..).after rfl rfl rfl rfl) nofun nofun
  | stopped _ | played _ | missing _ _ r =>
    exact hgoes ((moved_finish ..).after rfl rfl rfl rfl) nofun nofun
  | raised _ _ => exact actionRaises_restorable h hg hpend

/-- A Downstairs request arrives where committed and live agree, and captures that. -/
theorem request_restorable (h : Restorable s) {target : OutputTarget}
    (hm : Confirmed s (.request target)) : Restorable (s.request target) := by
  have hagree : target = .downstairs → s.lastCommitted s.routingGeneration = s.outputTarget := by
    intro hdown
    cases hout : s.outputTarget with
    | downstairs => exact hm hdown hout
    | console =>
      cases hlc : s.lastCommitted s.routingGeneration with
      | console => rfl
      | downstairs =>
        rw [h.current, lastLive_of_lastCommitted hlc] at hout
        exact nomatch hout
  have hnew := record_self s target (.api s.outputTarget) .apiLock
  have hold : ∀ g, g ≠ s.routingGeneration + 1 →
      (s.record target (.api s.outputTarget) .apiLock).task g = s.task g := fun g hg =>
    record_other hg ..
  have hrec : Restorable (s.record target (.api s.outputTarget) .apiLock) := by
    refine ⟨?_, fun n hn htarget => ?_⟩
    · have hlive := IntentTask.live_of_pending (t := ⟨target, .api s.outputTarget, .apiLock⟩) rfl
      show target = lastLive _ (s.routingGeneration + 1)
      rw [lastLive, hnew, hlive]
      rfl
    · have hn' : n < s.routingGeneration + 1 := hn
      have hlc : (s.record target (.api s.outputTarget) .apiLock).lastCommitted n =
          s.lastCommitted n := lastCommitted_congr rfl fun m hm => hold m (by omega)
      have hll : (s.record target (.api s.outputTarget) .apiLock).lastLive n = s.lastLive n :=
        lastLive_congr rfl fun m hm => hold m (by omega)
      rw [hlc, hll]
      by_cases hg : n = s.routingGeneration
      · subst hg
        rw [hnew] at htarget ⊢
        exact ⟨s.outputTarget, rfl, hagree htarget, h.current.symm⟩
      · rw [hold (n + 1) (by omega)] at htarget ⊢
        exact h.captured n (by omega) htarget
  have hlock : Restorable { s.record target (.api s.outputTarget) .apiLock with
      apiLock := s.apiLock.acquire (s.routingGeneration + 1) } := hrec.congr rfl rfl rfl rfl
  show Restorable (if _ then _ else _)
  split
  · refine enterApi_restorable hlock ⟨Nat.succ_pos _, Nat.le_refl _⟩ ?_
    exact congrArg (fun t : IntentTask => t.pc.isDone) hnew
  · exact hlock

theorem next_restorable {m : HubMove} (hfresh : Fresh s) (h : Restorable s) (hm : Confirmed s m)
    (hnext : s.next m = some s') : Restorable s' := by
  cases m with
  | request target =>
    rw [← Option.some.inj hnext]
    exact request_restorable h hm
  | press => exact hm.elim
  | resume g reply => exact resume_restorable hfresh h hnext
  | identify | sense | disk =>
    rw [← Option.some.inj hnext]
    exact h.congr rfl rfl rfl rfl

/-- Only the API records intents. -/
def ApiOnly (_ : Hub) : HubMove → Prop
  | .press _ => False
  | .request _ | .resume _ _ | .identify | .sense _ _ | .disk _ => True

instance (s : Hub) (m : HubMove) : Decidable (ApiOnly s m) := by
  cases m <;> unfold ApiOnly <;> exact inferInstance

end Hub

end PhonoConsole
