/-
  ONE INTENT, EVERYWHERE: memory, disk and publisher agree once nothing is in flight.

  The target is recorded first and applied later, and superseded requests are dropped at two
  different checks.  What keeps the three copies together is that the NEWEST target is never
  without somebody who will still apply it.  One of three things holds in every state:

  * a task still waiting for a lock will pass its check and apply the target (`Covers`);
  * the action in progress is applying it, and has got as far as `Applied` says;
  * nobody is in an action, and the target has been applied: `Settled`.

  `Agreed` puts this together with the facts about tasks and locks that make it inductive
  (`Ordered`).  The one branch that breaks it is a Downstairs action that finds no client id and
  leaves the flags alone, which the condition `Identified` excludes.
-/
import PhonoConsole.Intents

namespace PhonoConsole

namespace Hub

variable {s s' : Hub} {g : Nat}

/-- The persisted file and the publisher's flags are those of the target. -/
def Settled (s : Hub) : Prop := s.file = s.outputTarget ∧ s.flags = Flags.for s.outputTarget

/-- The task waits for a lock, will pass its check, and will apply the current target. -/
def Covers (s : Hub) (g : Nat) : Prop :=
  (s.task g).pc = .apiLock ∧ g = s.routingGeneration ∨
    (s.task g).pc = .transitionLock ∧ (s.task g).target = s.outputTarget

/-- What the action of `g` has applied where it is suspended. -/
def Applied (s : Hub) (g : Nat) : Prop :=
  s.file = (s.task g).target ∧
    match (s.task g).pc with
    | .disabling _ .distribution => (s.task g).target = .console ∧ s.flags.distribution = false
    | .disabling _ .phono =>
      (s.task g).target = .console ∧ s.flags.distribution = false ∧ s.flags.phono = false
    | .disabling _ .bluetooth | .stopping _ =>
      (s.task g).target = .console ∧ s.flags = Flags.for .console
    | .selecting _ _ | .playing _ _ =>
      (s.task g).target = .downstairs ∧ s.flags = Flags.for .downstairs
    | _ => True

/-- The facts about tasks and locks. -/
structure Ordered (s : Hub) : Prop where
  newest : 0 < s.routingGeneration → (s.task s.routingGeneration).target = s.outputTarget
  holds : ∀ g, (s.task g).pc.inAction = true → s.transitionLock.holder = some g
  applied : ∀ g, (s.task g).pc.inAction = true → s.Applied g

/-- The current target has been applied, is being applied, or will be. -/
def Kept (s : Hub) : Prop :=
  (∃ g, s.Covers g) ∨
    (∃ g, (s.task g).pc.inAction = true ∧ (s.task g).target = s.outputTarget) ∨
    ((∀ g, (s.task g).pc.inAction = false) ∧ s.Settled)

/-- The invariant. -/
structure Agreed (s : Hub) : Prop extends Ordered s where
  kept : s.Kept

/-! ## The condition -/

/-- The move lets an action pass its target check, and write the file. -/
def persists (s : Hub) : HubMove → Bool
  | .request _ => s.apiLock.free && s.transitionLock.free
  | .press _ => s.transitionLock.free
  | .resume g .ok =>
    s.outputTarget == (s.task g).target &&
      (match (s.task g).pc with
      | .apiLock => g == s.routingGeneration && s.transitionLock.free
      | .transitionLock => true
      | _ => false)
  | _ => false

/-- No action raises, at the file or later.  (What `stop_players` raises is caught inside the
    action.) -/
def Unraised (s : Hub) : HubMove → Prop
  | .resume g .raised => ∃ generation, (s.task g).pc = .stopping generation
  | m => s.persists m = true → s.writable = true

/-- The move lets a Downstairs action pass its target check. -/
def startsDownstairs (s : Hub) : HubMove → Bool
  | .request target => target == .downstairs && s.apiLock.free && s.transitionLock.free
  | .press target => target == .downstairs && s.transitionLock.free
  | .resume g .ok =>
    (s.task g).target == .downstairs && s.outputTarget == .downstairs &&
      (match (s.task g).pc with
      | .apiLock => g == s.routingGeneration && s.transitionLock.free
      | .transitionLock => true
      | _ => false)
  | _ => false

/-- A Downstairs action finds the publisher's client id, or flags that are already enabled. -/
def Identified (s : Hub) (m : HubMove) : Prop :=
  s.startsDownstairs m = true → s.clientKnown = true ∨ s.flags = Flags.for .downstairs

instance (s : Hub) (m : HubMove) : Decidable (Unraised s m) := by
  unfold Unraised
  split
  · rename_i g
    exact decidable_of_iff ((s.task g).pc.isStopping = true) (TaskPc.isStopping_iff _)
  · exact inferInstance

instance (s : Hub) (m : HubMove) : Decidable (Identified s m) :=
  inferInstanceAs (Decidable (_ → _))

/-! ## One task moves -/

section Moved

variable {pc : TaskPc} (hm : Moved s g pc s')
include hm

/-- Other tasks cover the target as before. -/
theorem Moved.covers {g' : Nat} (hg : g' ≠ g) (h : s.Covers g') : s'.Covers g' := by
  unfold Covers at h ⊢
  rwa [hm.pc_other hg, hm.target, hm.generation, hm.outputTarget]

/-- A move of one task keeps the order, if what it claims for itself is right. -/
theorem Ordered.moved (hs : Ordered s)
    (hself : pc.inAction = true → s'.transitionLock.holder = some g ∧ s'.Applied g)
    (hothers : ∀ g', g' ≠ g → (s.task g').pc.inAction = true →
      s'.transitionLock.holder = some g' ∧ s'.Applied g') : Ordered s' where
  newest h := by
    rw [hm.generation] at h ⊢
    rw [hm.target, hm.outputTarget]
    exact hs.newest h
  holds g' h := by
    by_cases hg : g' = g
    · rw [hg, hm.pc_self] at h
      rw [hg]
      exact (hself h).1
    · rw [hm.pc_other hg] at h
      exact (hothers g' hg h).1
  applied g' h := by
    by_cases hg : g' = g
    · rw [hg, hm.pc_self] at h
      rw [hg]
      exact (hself h).2
    · rw [hm.pc_other hg] at h
      exact (hothers g' hg h).2

end Moved

/-- Whoever is in an action is the holder of the transition lock. -/
theorem Ordered.alone (hs : Ordered s) (hl : s.transitionLock.holder = some g) {g' : Nat}
    (hg : g' ≠ g) : (s.task g').pc.inAction = false := by
  by_contra hin
  have hholder := hs.holds g' (by simpa using hin)
  rw [hl] at hholder
  exact hg (Option.some.inj hholder).symm

/-- While the transition lock is free nobody is in an action. -/
theorem Ordered.nobody (hs : Ordered s) (hl : s.transitionLock.free = true) (g : Nat) :
    (s.task g).pc.inAction = false := by
  by_contra hin
  have hholder := hs.holds g (by simpa using hin)
  rw [FifoLock.free, hholder] at hl
  cases hl

/-- The holder of the transition lock moves. -/
theorem Ordered.holderMoved (hs : Ordered s) (hl : s.transitionLock.holder = some g)
    {pc : TaskPc} (hm : Moved s g pc s')
    (hself : pc.inAction = true → s'.transitionLock.holder = some g ∧ s'.Applied g) :
    Ordered s' := by
  refine hs.moved hm hself ?_
  intro g' hg hin
  rw [hs.alone hl hg] at hin
  exact nomatch hin

/-! ## The action starts -/

/-- A target that `g` itself brings, that another task covers, or that is in place already. -/
def KeptBeside (s : Hub) (g : Nat) : Prop :=
  (s.task g).target = s.outputTarget ∨ (∃ g', g' ≠ g ∧ s.Covers g') ∨ s.Settled

/-- The action of a lock holder ends without having had to do anything more. -/
theorem Ordered.ended (hs : Ordered s) (hl : s.transitionLock.holder = some g)
    {o : Outcome} (hm : Moved s g (.done o) s')
    (hkept : (∃ g', g' ≠ g ∧ s.Covers g') ∨ s'.Settled) : Agreed s' where
  toOrdered := hs.holderMoved hl hm fun h => (nomatch h)
  kept := by
    rcases hkept with ⟨g', hg, hcov⟩ | hset
    · exact .inl ⟨g', hm.covers hg hcov⟩
    · refine .inr (.inr ⟨fun g' => ?_, hset⟩)
      by_cases hg : g' = g
      · rw [hg, hm.pc_self]
        rfl
      · rw [hm.pc_other hg]
        exact hs.alone hl hg

/-- The action of a lock holder is applying the target. -/
theorem Ordered.applying (hs : Ordered s) (hl : s.transitionLock.holder = some g) {pc : TaskPc}
    (hm : Moved s g pc s') (hpc : pc.inAction = true)
    (hlock : s'.transitionLock = s.transitionLock) (happ : s'.Applied g)
    (ht : (s.task g).target = s.outputTarget) : Agreed s' where
  toOrdered := hs.holderMoved hl hm fun _ => ⟨by rw [hlock, hl], happ⟩
  kept := .inr (.inl ⟨g, by rw [hm.pc_self, hpc], by rw [hm.target, hm.outputTarget, ht]⟩)

theorem beginAction_agreed (hs : Ordered s) (hl : s.transitionLock.holder = some g)
    (hkept : s.KeptBeside g) (hw : s.outputTarget = (s.task g).target → s.writable = true)
    (hid : (s.task g).target = .downstairs → s.outputTarget = .downstairs →
      s.clientKnown = true ∨ s.flags = Flags.for .downstairs) : Agreed (s.beginAction g) := by
  have hbegan := beginAction_began s g
  generalize s.beginAction g = s' at hbegan ⊢
  cases hbegan with
  | unwanted h =>
    refine hs.ended hl (moved_finish ..) ?_
    rcases hkept with ht | hcov | hset
    · exact absurd ht.symm h
    · exact .inl hcov
    · right
      simpa [Settled] using hset
  | unwritten hout hno => exact absurd ((hw hout).symm.trans hno) Bool.false_ne_true.symm
  | console ht hout =>
    exact hs.applying hl ((moved_setPc ..).after rfl rfl rfl rfl) rfl rfl (by simp [Applied, ht]) (ht.trans hout.symm)
  | unidentified ht hout hc r =>
    -- without a client id the flags are left alone, so they must be right already
    have hflags : s.flags = Flags.for .downstairs :=
      (hid ht hout).resolve_left (by rw [hc]; exact Bool.false_ne_true)
    exact hs.ended hl ((moved_finish ..).after rfl rfl rfl rfl)
      (.inr ⟨by simp [hout], by simp [hout, hflags]⟩)
  | waiting ht hout r =>
    exact hs.ended hl ((moved_finish ..).after rfl rfl rfl rfl)
      (.inr ⟨by simp [hout], by simp [hout]⟩)
  | starting ht hout r =>
    exact hs.applying hl ((moved_setPc ..).after rfl rfl rfl rfl) rfl rfl (by simp [Applied, ht]) (ht.trans hout.symm)

/-- The newest task calls the action: it starts, or queues for the lock. -/
theorem callAction_agreed (hs : Ordered s) (hg : 0 < g) (hnew : g = s.routingGeneration)
    (hw : s.transitionLock.free = true → s.writable = true)
    (hid : s.transitionLock.free = true → (s.task g).target = .downstairs →
      s.outputTarget = .downstairs → s.clientKnown = true ∨ s.flags = Flags.for .downstairs) :
    Agreed (s.callAction g) := by
  have ht : (s.task g).target = s.outputTarget := by
    rw [hnew]
    exact hs.newest (hnew ▸ hg)
  cases hfree : s.transitionLock.free with
  | true =>
    rw [callAction_of_free hfree]
    have hnobody := hs.nobody hfree
    refine beginAction_agreed ⟨hs.newest, fun g' h => ?_, fun g' h => ?_⟩
      (FifoLock.acquire_of_free hfree) (.inl ht) (fun _ => hw hfree) (hid hfree)
    · exact absurd ((hnobody g').symm.trans h) Bool.false_ne_true
    · exact absurd ((hnobody g').symm.trans h) Bool.false_ne_true
  | false =>
    rw [callAction_of_not_free hfree]
    have hm : Moved s g .transitionLock
        ({ s with transitionLock := s.transitionLock.acquire g }.setPc g .transitionLock) :=
      (moved_setPc ..).after rfl rfl rfl rfl
    constructor
    · refine hs.moved hm (fun h => (nomatch h)) fun g' hne hin => ⟨?_, ?_⟩
      · exact ((FifoLock.acquire_of_not_free hfree).1).trans (hs.holds g' hin)
      · simpa [Applied, Function.update_of_ne hne] using hs.applied g' hin
    · exact .inl ⟨g, .inr ⟨hm.pc_self, by rw [hm.target, hm.outputTarget, ht]⟩⟩

/-! ## Every move keeps the agreement -/

theorem enterApi_agreed (h : Agreed s) (hpc : (s.task g).pc = .apiLock) (hg : 0 < g)
    (hw : g = s.routingGeneration → s.transitionLock.free = true → s.writable = true)
    (hid : g = s.routingGeneration → s.transitionLock.free = true →
      (s.task g).target = .downstairs → s.outputTarget = .downstairs →
      s.clientKnown = true ∨ s.flags = Flags.for .downstairs) : Agreed (s.enterApi g) := by
  unfold enterApi
  by_cases hnew : g = s.routingGeneration
  · rw [if_neg (not_not.mpr hnew)]
    exact callAction_agreed h.toOrdered hg hnew (hw hnew) (hid hnew)
  · -- superseded: whoever keeps the target is another task
    rw [if_pos hnew]
    have hm : Moved s g (.done .superseded)
        ({ s with apiLock := s.apiLock.release }.setPc g (.done .superseded)) :=
      (moved_setPc ..).after rfl rfl rfl rfl
    constructor
    · refine h.toOrdered.moved hm (fun h => (nomatch h)) fun g' hne hin => ⟨h.holds g' hin, ?_⟩
      simpa [Applied, Function.update_of_ne hne] using h.applied g' hin
    · rcases h.kept with ⟨g', hcov⟩ | ⟨g', hin, ht⟩ | ⟨hnobody, hset⟩
      · refine .inl ⟨g', hm.covers (fun hg => ?_) hcov⟩
        rw [hg] at hcov
        rcases hcov with ⟨_, hg'⟩ | ⟨hpc', _⟩
        · exact hnew hg'
        · rw [hpc] at hpc'
          exact nomatch hpc'
      · refine .inr (.inl ⟨g', ?_, by rw [hm.target, hm.outputTarget, ht]⟩)
        rwa [hm.pc_other]
        rintro rfl
        rw [hpc] at hin
        exact nomatch hin
      · refine .inr (.inr ⟨fun g' => ?_, hset⟩)
        by_cases hg : g' = g
        · rw [hg, hm.pc_self]
          rfl
        · rw [hm.pc_other hg]
          exact hnobody g'

/-- Recording an intent: its task waits, and so covers the new target. -/
theorem record_agreed (h : Agreed s) (target : OutputTarget) (caller : Caller) {pc : TaskPc}
    (hpc : pc = .apiLock ∨ pc = .transitionLock) : Agreed (s.record target caller pc) := by
  have hnew := record_self s target caller pc
  have hwaits : pc.inAction = false := by rcases hpc with rfl | rfl <;> rfl
  have hactive : ∀ g, ((s.record target caller pc).task g).pc.inAction = true →
      (s.record target caller pc).task g = s.task g ∧ (s.task g).pc.inAction = true := by
    intro g hin
    by_cases hg : g = s.routingGeneration + 1
    · rw [hg, hnew, hwaits] at hin
      exact nomatch hin
    · rw [record_other hg] at hin
      exact ⟨record_other hg .., hin⟩
  refine ⟨⟨fun _ => ?_, fun g hin => h.holds g (hactive g hin).2, fun g hin => ?_⟩, ?_⟩
  · exact congrArg IntentTask.target hnew
  · have happ := h.applied g (hactive g hin).2
    unfold Applied at happ ⊢
    rw [(hactive g hin).1]
    exact happ
  · refine .inl ⟨s.routingGeneration + 1, ?_⟩
    unfold Covers
    rw [hnew]
    rcases hpc with rfl | rfl
    · exact .inl ⟨rfl, rfl⟩
    · exact .inr ⟨rfl, rfl⟩

/-- The task in the action moves on: what it has applied is what it claims. -/
theorem advanced_agreed {pc : TaskPc} (h : Agreed s) (hin : (s.task g).pc.inAction = true)
    (hm : Moved s g pc s')
    (hpc : pc.inAction = true ∧ s'.transitionLock = s.transitionLock ∧ s'.Applied g ∨
      (∃ o, pc = .done o) ∧
        ((s.task g).target = s.outputTarget → s'.Settled)) : Agreed s' := by
  have hl : s.transitionLock.holder = some g := h.holds g hin
  -- a covering task waits, so it is not the one in the action
  have hcovered : (∃ g', s.Covers g') → ∃ g', g' ≠ g ∧ s.Covers g' := by
    rintro ⟨g', hcov⟩
    refine ⟨g', ?_, hcov⟩
    rintro rfl
    rcases hcov with ⟨hpc, _⟩ | ⟨hpc, _⟩ <;> rw [hpc] at hin <;> exact nomatch hin
  have hkept : (∃ g', g' ≠ g ∧ s.Covers g') ∨ (s.task g).target = s.outputTarget := by
    rcases h.kept with hcov | ⟨g', hin', ht⟩ | ⟨hnobody, _⟩
    · exact .inl (hcovered hcov)
    · have hg' : g' = g := by
        by_contra hne
        have halone := h.toOrdered.alone hl hne
        rw [hin'] at halone
        exact nomatch halone
      exact .inr (hg' ▸ ht)
    · rw [hnobody g] at hin
      exact nomatch hin
  rcases hpc with ⟨hpc, hlock, happ⟩ | ⟨⟨o, rfl⟩, hset⟩
  · rcases hkept with ⟨g', hne, hcov⟩ | ht
    · exact ⟨h.toOrdered.holderMoved hl hm fun _ => ⟨by rw [hlock, hl], happ⟩,
        .inl ⟨g', hm.covers hne hcov⟩⟩
    · exact h.toOrdered.applying hl hm hpc hlock happ ht
  · exact h.toOrdered.ended hl hm (hkept.imp id hset)

theorem request_agreed (h : Agreed s) (target : OutputTarget)
    (hquiet : Unraised s (.request target)) (hid : Identified s (.request target)) : Agreed (s.request target) := by
  have hrec : Agreed (s.record target (.api s.outputTarget) .apiLock) := record_agreed h _ _ (.inl rfl)
  have hlock : Agreed { s.record target (.api s.outputTarget) .apiLock with
      apiLock := s.apiLock.acquire (s.routingGeneration + 1) } :=
    ⟨⟨hrec.newest, hrec.holds, hrec.applied⟩, hrec.kept⟩
  show Agreed (if _ then _ else _)
  split
  · rename_i hfree
    refine enterApi_agreed hlock (congrArg IntentTask.pc (record_self s _ _ .apiLock))
      (Nat.succ_pos _) (fun _ hlock => hquiet ?_) fun _ hlock htarget _ => ?_
    · rw [persists, show s.apiLock.free = true from hfree]
      exact hlock
    have hdown : target = .downstairs := by simpa [record, setOutputTarget] using htarget
    refine hid ?_
    rw [startsDownstairs, hdown, show s.apiLock.free = true from hfree]
    exact hlock
  · exact hlock

theorem press_agreed (h : Agreed s) (target : OutputTarget)
    (hquiet : Unraised s (.press target)) (hid : Identified s (.press target)) : Agreed (s.press target) := by
  have hrec : Agreed (s.record target .encoder .transitionLock) := record_agreed h _ _ (.inr rfl)
  refine callAction_agreed hrec.toOrdered (Nat.succ_pos _) rfl hquiet fun hlock htarget _ => ?_
  have hdown : target = .downstairs := by simpa [record, setOutputTarget] using htarget
  refine hid ?_
  rw [startsDownstairs, hdown]
  exact hlock

theorem resume_agreed {reply : HubReply} (h : Agreed s) (hfresh : Fresh s)
    (hquiet : Unraised s (.resume g reply)) (hid : Identified s (.resume g reply))
    (hs' : s.resume g reply = some s') : Agreed s' := by
  have happ := h.applied g
  unfold Applied at happ
  cases resume_resumed hs' with
  | entered hpc hl =>
    have hpos := (hfresh g (by rw [hpc]; rfl)).1
    refine enterApi_agreed h hpc hpos (fun hnew hlock => hquiet ?_)
      fun hnew hlock htarget hout => hid ?_
    · have hout : s.outputTarget = (s.task g).target := by
        rw [hnew]
        exact (h.newest (hnew ▸ hpos)).symm
      simp [persists, hpc, hout, ← hnew, hlock]
    · simp [startsDownstairs, hpc, htarget, hout, ← hnew, hlock]
  | owns hpc hl =>
    refine beginAction_agreed h.toOrdered hl ?_ (fun hout => hquiet (by simp [persists, hpc, hout]))
      fun htarget hout => hid (by simp [startsDownstairs, hpc, htarget, hout])
    -- nobody is in an action, so the target is covered, by this task or beside it, or in place
    rcases h.kept with ⟨g', hcov⟩ | ⟨g', hin, _⟩ | ⟨_, hset⟩
    · by_cases hg : g' = g
      · rw [hg] at hcov
        rcases hcov with ⟨hpc', _⟩ | ⟨_, ht⟩
        · rw [hpc] at hpc'
          exact nomatch hpc'
        · exact .inl ht
      · exact .inr (.inl ⟨g', hg, hcov⟩)
    · have hne : g' ≠ g := by
        rintro rfl
        rw [hpc] at hin
        exact nomatch hin
      exact absurd (hin.symm.trans (h.toOrdered.alone hl hne)) (by decide)
    · exact .inr (.inr hset)
  | phono hpc =>
    rw [hpc] at happ
    obtain ⟨hfile, htarget, hdist⟩ := happ rfl
    exact advanced_agreed h (by rw [hpc]; rfl) ((moved_setPc ..).after rfl rfl rfl rfl)
      (.inl ⟨rfl, rfl, by simp [Applied, hfile, htarget, hdist]⟩)
  | bluetooth hpc =>
    rw [hpc] at happ
    obtain ⟨hfile, htarget, hdist, hphono⟩ := happ rfl
    refine advanced_agreed h (by rw [hpc]; rfl) ((moved_setPc ..).after rfl rfl rfl rfl) (.inl ⟨rfl, rfl, ?_⟩)
    simp [Applied, hfile, htarget, hdist, hphono, Flags.for]
  | stopping hpc =>
    rw [hpc] at happ
    exact advanced_agreed h (by rw [hpc]; rfl) ((moved_setPc ..).after rfl rfl rfl rfl)
      (.inl ⟨rfl, rfl, by simpa [Applied] using happ rfl⟩)
  | stopped hpc =>
    rw [hpc] at happ
    obtain ⟨hfile, htarget, hflags⟩ := happ rfl
    refine advanced_agreed h (by rw [hpc]; rfl) ((moved_finish ..).after rfl rfl rfl rfl)
      (.inr ⟨⟨_, rfl⟩, fun ht => ?_⟩)
    rw [htarget] at hfile ht
    exact ⟨by simp [hfile, ht], by simp [hflags, ← ht]⟩
  | playing hpc =>
    rw [hpc] at happ
    exact advanced_agreed h (by rw [hpc]; rfl) ((moved_setPc ..).after rfl rfl rfl rfl)
      (.inl ⟨rfl, rfl, by simpa [Applied] using happ rfl⟩)
  | played hpc =>
    rw [hpc] at happ
    obtain ⟨hfile, htarget, hflags⟩ := happ rfl
    refine advanced_agreed h (by rw [hpc]; rfl) ((moved_finish ..).after rfl rfl rfl rfl)
      (.inr ⟨⟨_, rfl⟩, fun ht => ?_⟩)
    rw [htarget] at hfile ht
    exact ⟨by simp [hfile, ht], by simp [hflags, ← ht]⟩
  | missing hpc hn r =>
    rw [hpc] at happ
    obtain ⟨hfile, htarget, hflags⟩ := happ rfl
    refine advanced_agreed h (by rw [hpc]; rfl) ((moved_finish ..).after rfl rfl rfl rfl)
      (.inr ⟨⟨_, rfl⟩, fun ht => ?_⟩)
    rw [htarget] at hfile ht
    exact ⟨by simp [hfile, ht], by simp [hflags, ← ht]⟩
  | raised hpc hstop =>
    obtain ⟨n, hn⟩ := hquiet
    exact absurd hn (hstop n)

theorem next_agreed {m : HubMove} (hfresh : Fresh s) (h : Agreed s) (hm : Unraised s m ∧ Identified s m)
    (hnext : s.next m = some s') : Agreed s' := by
  obtain ⟨hquiet, hid⟩ := hm
  cases m with
  | request target =>
    rw [← Option.some.inj hnext]
    exact request_agreed h target hquiet hid
  | press target =>
    rw [← Option.some.inj hnext]
    exact press_agreed h target hquiet hid
  | resume g reply => exact resume_agreed h hfresh hquiet hid hnext
  | identify | sense | disk =>
    rw [← Option.some.inj hnext]
    exact ⟨⟨h.newest, h.holds, h.applied⟩, h.kept⟩

theorem initialised_agreed (h : Initialised s) : Agreed s := by
  obtain ⟨target, rfl⟩ := h
  exact ⟨⟨fun h => absurd h (Nat.lt_irrefl 0), fun _ h => (nomatch h), fun _ h => (nomatch h)⟩, .inr (.inr ⟨fun _ => rfl, rfl, rfl⟩)⟩

/-- **One intent, everywhere**: once every task is done, the file and the flags are the target's. -/
theorem intents_applied (h : machine.Reach (fun s m => Unraised s m ∧ Identified s m) s)
    (hdone : AllDone s) : s.Settled := by
  have hagreed : Agreed s := h.invariant_of (fun _ => reach_fresh) (fun _ => initialised_agreed)
    fun _ _ _ hfresh hs hm => next_agreed hfresh hs hm
  have hall : ∀ g, (s.task g).pc.isDone = true := (reach_fresh h).done hdone
  rcases hagreed.kept with ⟨g, hcov⟩ | ⟨g, hin, _⟩ | ⟨_, hset⟩
  · have hg := hall g
    rcases hcov with ⟨hpc, _⟩ | ⟨hpc, _⟩ <;> rw [hpc] at hg <;> exact nomatch hg
  · exact absurd ((TaskPc.not_done hin).symm.trans (hall g)) Bool.false_ne_true
  · exact hset

/-- The publisher is identified, Downstairs is requested, and Console while that is starting; the
    first action returns, and the second one finds an unreachable Music Assistant. -/
theorem intents_applied_requests : ∃ s : Hub, AllDone s ∧ s.outputTarget = .console ∧ s.Settled := by
  obtain ⟨s, hs, hdone, hout⟩ := Machine.exists_reach
    (m := machine.guarded fun s m => Unraised s m ∧ Identified s m)
    (l := [.identify, .sense .phono false, .request .downstairs, .request .console, .resume 1 .ok,
      .resume 1 (.started true), .resume 2 .ok, .resume 2 .ok, .resume 2 .ok, .resume 2 .ok,
      .resume 2 .raised])
    (fun s => AllDone s ∧ s.outputTarget = .console)
    (show Initialised consoleAtStart from ⟨.console, rfl⟩) (by decide)
  exact ⟨s, hdone, hout, intents_applied (.of_guarded hs) hdone⟩

/-- Downstairs is requested before the publisher has a client id: the choice is persisted, and the
    flags stay off. -/
theorem intents_not_applied : ¬ ∀ s, machine.Reach Unraised s → AllDone s → s.Settled := by
  intro hall
  have hreach : machine.Reach Unraised (consoleAtStart.request .downstairs) :=
    .move (a := .request .downstairs) (.init ⟨.console, rfl⟩) (fun _ => rfl) rfl
  have hset := hall _ hreach (by decide)
  have hflags : Flags.for .console = Flags.for .downstairs := hset.2
  exact absurd hflags (by decide)

end Hub

end PhonoConsole
