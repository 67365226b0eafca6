/-
  HOW OFTEN DOWNSTAIRS IS STARTED: the start requests of the ticks (`Controller.tick`).

  While Downstairs is wanted but not confirmed, a tick asks `prepare_distribution` to start it, and
  remembers the source and the time of that.  The next ticks come every 100 ms.

  * `CtlReq.starts`  — the start requests among the requests of a tick;
  * `Starting`       — all that a tick can do to the pending start, however it ends;
  * `startRuns`      — runs of ticks, with the start requests on record;
  * `starts_paced`   — a start is asked for again only for another source, after the timeout, after an
    exception, or when the pending start was forgotten.
-/
import PhonoConsole.TickRuns
import Mathlib.Tactic.Linarith

namespace PhonoConsole

/-- The source a request starts Downstairs for. -/
def CtlReq.starts : CtlReq → Option Source
  | .prepareDistribution .start s => some s
  | _ => none

theorem starts_of_prepares {q : CtlReq} (h : q.prepares = none) : q.starts = none := by
  cases q <;> first | rfl | nomatch h

namespace Controller

open Coro

variable {cfg : Config} {cb : Callbacks} {now : ℚ} {o : Oracle} {c c' c₁ : Controller}
  {l : List CtlReq} {x : Observed}

/-! ## One tick -/

/-- The pending start stays. -/
def SamePending (c c' : Controller) : Prop :=
  c'.distributionPendingSource = c.distributionPendingSource ∧
    c'.distributionPendingSince = c.distributionPendingSince

theorem SamePending.refl (c : Controller) : SamePending c c := ⟨rfl, rfl⟩

theorem SamePending.trans {a b c : Controller} (h : SamePending a b) (h' : SamePending b c) :
    SamePending a c :=
  ⟨h'.1.trans h.1, h'.2.trans h.2⟩

/-- The start request was answered by an exception. -/
def startRaised (o : Oracle) (s : Source) : Bool :=
  match o (.prepareDistribution .start s) with
  | .error (.exception _) => true
  | _ => false

/-- What a tick does to the pending start: nothing, forget it, remember one that nobody is asked for, or
    remember one and ask for it. -/
inductive Starting (cfg : Config) (cb : Callbacks) (now : ℚ) (o : Oracle) (c c' : Controller)
    (starts : List Source) : Prop
  | kept : SamePending c c' → starts = [] → Starting cfg cb now o c c' starts
  | forgotten : c'.distributionPendingSource = none → starts = [] → Starting cfg cb now o c c' starts
  | noted : cb.prepareDistribution = false → starts = [] → Starting cfg cb now o c c' starts
  | asked (s : Source) : cb.prepareDistribution = true → shouldPrepare cfg c s now = true →
      c'.distributionPendingSource = some s →
      (startRaised o s = false → c'.distributionPendingSince = some now) → starts = [s] →
      Starting cfg cb now o c c' starts

theorem startDistribution_starting {capable : Bool} {r : Except Exc Unit}
    (h : eval o (startDistribution cfg cb now x capable) c = (r, c', l)) :
    Starting cfg cb now o c c' (l.filterMap CtlReq.starts) := by
  unfold startDistribution at h
  split at h
  · -- the distribution is wanted, and can be started
    rw [eval_get_bind, eval_when] at h
    split at h
    · rename_i hdue
      rw [eval_modify_bind, setRoutingState, eval_ask_bind, eval_when] at h
      split at h
      · rename_i hcb
        rw [eval_bind, eval_attempt, eval_callback] at h
        rcases hanswer : o (.prepareDistribution .start x.selected) with (_ | _) | prepared
        all_goals
          rw [hanswer] at h
          simp only [eval_when, eval_modify, Bool.not_true, Bool.not_false, Bool.false_eq_true,
            ↓reduceIte, List.append_nil, Prod.mk.injEq] at h
          obtain ⟨-, rfl, rfl⟩ := h
        · exact .asked x.selected hcb hdue rfl (by simp [startRaised, hanswer]) rfl
        · exact .asked x.selected hcb hdue rfl (fun _ => rfl) rfl
        · exact .asked x.selected hcb hdue rfl (fun _ => rfl) rfl
      · rename_i hcb
        simp only [Prod.mk.injEq] at h
        obtain ⟨-, rfl, rfl⟩ := h
        exact .noted (Bool.eq_false_iff.mpr hcb) rfl
    · simp only [Prod.mk.injEq] at h
      obtain ⟨-, rfl, rfl⟩ := h
      exact .kept (.refl _) rfl
  · split at h
    · rw [eval_setRoutingState] at h
      simp only [Prod.mk.injEq] at h
      obtain ⟨-, rfl, rfl⟩ := h
      exact .kept (.refl _) rfl
    · rw [eval_when, eval_modify] at h
      split at h
      all_goals
        simp only [Prod.mk.injEq] at h
        obtain ⟨-, rfl, rfl⟩ := h
      · exact .forgotten rfl rfl
      · exact .kept (.refl _) rfl

/-- Nothing else of a tick starts Downstairs, or touches the pending start. -/
def StartsNothing {α : Type} (p : Tick α) : Prop := p.Frame SamePending fun q => q.starts = none

theorem observe_starts : StartsNothing (observe cfg cb now) :=
  ((observe_frame sameRoute_sensing).mono fun _ _ h => h.2).weaken
    fun _ hq => starts_of_prepares (prepares_of_observation hq)

theorem applyRoute_starts (desired : Route) : StartsNothing (applyRoute cb x desired) :=
  applyRoute_frame SamePending.refl rfl rfl rfl rfl rfl

theorem publishStatus_starts (route : Route) : StartsNothing (publishStatus x route) :=
  publishStatus_frame (fun _ _ => ⟨rfl, rfl⟩) (fun _ => rfl) (fun _ => rfl) route

theorem decideRoute_starts (capable healthy : Bool) : StartsNothing (decideRoute x capable healthy) :=
  decideRoute_frame SamePending.refl (by rfl) capable healthy

theorem releaseIfLeaving_starts (desired : Route) : StartsNothing (releaseIfLeaving cb desired) :=
  releaseIfLeaving_frame SamePending.refl (by rfl) desired

theorem enterDistribution_starts (desired : Route) : StartsNothing (enterDistribution cb x desired) :=
  enterDistribution_frame SamePending.refl (fun _ => rfl) desired

theorem StartsNothing.eval {α : Type} {p : Tick α} (hp : StartsNothing p) {r : Except Exc α}
    (h : eval o p c = (r, c', l)) : SamePending c c' ∧ l.filterMap CtlReq.starts = [] := by
  have hframe := Frame.eval (o := o) SamePending.refl SamePending.trans hp c
  rw [h] at hframe
  exact ⟨hframe.1, List.filterMap_eq_nil_iff.mpr hframe.2⟩

/-- Before and after the start there is nothing to start. -/
theorem Starting.before {starts : List Source} (hsame : SamePending c c₁)
    (h : Starting cfg cb now o c₁ c' starts) : Starting cfg cb now o c c' starts := by
  cases h with
  | kept hkept hnone => exact .kept (hsame.trans hkept) hnone
  | forgotten hforgotten hnone => exact .forgotten hforgotten hnone
  | noted hcb hnone => exact .noted hcb hnone
  | asked s hcb hdue hsource hsince hstarts =>
    refine .asked s hcb ?_ hsource hsince hstarts
    rw [shouldPrepare, hsame.1, hsame.2] at hdue
    exact hdue

theorem Starting.after {starts : List Source} (h : Starting cfg cb now o c c₁ starts)
    (hsame : SamePending c₁ c') : Starting cfg cb now o c c' starts := by
  cases h with
  | kept hkept hnone => exact .kept (hkept.trans hsame) hnone
  | forgotten hforgotten hnone => exact .forgotten (hsame.1.trans hforgotten) hnone
  | noted hcb hnone => exact .noted hcb hnone
  | asked s hcb hdue hsource hsince hstarts =>
    exact .asked s hcb hdue (hsame.1.trans hsource) (fun hraised => hsame.2.trans (hsince hraised))
      hstarts

/-- A tick, however it ends. -/
theorem tick_starting {r : Except Exc Status} (h : eval o (tick cfg cb now) c = (r, c', l)) :
    Starting cfg cb now o c c' (l.filterMap CtlReq.starts) := by
  have hquiet : ∀ {α β : Type} {p : Tick α} {f : α → Tick β} {r : Except Exc β} {c c' : Controller}
      {l : List CtlReq}, StartsNothing p → eval o (p >>= f) c = (r, c', l) →
      (∀ {a : α} {c₁ : Controller} {l₂ : List CtlReq}, eval o (f a) c₁ = (r, c', l₂) →
        Starting cfg cb now o c₁ c' (l₂.filterMap CtlReq.starts)) →
      Starting cfg cb now o c c' (l.filterMap CtlReq.starts) := by
    intro α β p f r c c' l hp hbind hrest
    obtain ⟨e, -, hfails⟩ | ⟨a, c₁, l₁, l₂, hpasses, hthen, rfl⟩ := eval_bind_cases hbind
    · obtain ⟨hsame, hnone⟩ := hp.eval hfails
      exact .kept hsame hnone
    · obtain ⟨hsame, hnone⟩ := hp.eval hpasses
      rw [List.filterMap_append, hnone, List.nil_append]
      exact (hrest hthen).before hsame
  refine hquiet observe_starts h fun {x c₁ l₁} hconclude => ?_
  refine hquiet (frame_given (frame_callback rfl)) hconclude fun {capable c₂ l₂} hconclude => ?_
  refine hquiet (frame_given (frame_callback rfl)) hconclude fun {healthy c₃ l₃} hconclude => ?_
  obtain ⟨e, -, hfails⟩ | ⟨a, c₄, l₄, l₅, hstarts, hrest, rfl⟩ := eval_bind_cases hconclude
  · exact startDistribution_starting hfails
  · have hfinish : StartsNothing (do
        let decided ← decideRoute x capable healthy
        let desired ← releaseIfLeaving cb decided
        let desired ← enterDistribution cb x desired
        let route ← applyRoute cb x desired
        publishStatus x route) := by
      refine Frame.bind (decideRoute_starts _ _) fun decided => ?_
      refine Frame.bind (releaseIfLeaving_starts _) fun desired => ?_
      refine Frame.bind (enterDistribution_starts _) fun desired => ?_
      exact Frame.bind (applyRoute_starts _) fun route => publishStatus_starts _
    obtain ⟨hsame, hnone⟩ := hfinish.eval hrest
    rw [List.filterMap_append, hnone, List.append_nil]
    exact (startDistribution_starting hstarts).after hsame

end Controller

/-! ## Runs -/

/-- A start that was asked for. -/
structure StartRequest where
  time : ℚ
  source : Source
  raised : Bool
deriving DecidableEq

/-- The last start since the pending start was forgotten, and every start with the one before it. -/
structure StartRecord where
  last : Option StartRequest := none
  starts : List (StartRequest × Option StartRequest) := []
deriving DecidableEq

/-- What a tick that ends with `c'` adds to the record. -/
def StartRecord.write (now : ℚ) (o : Oracle) (c' : Controller) (r : StartRecord) :
    List Source → StartRecord
  | s :: _ =>
    let start : StartRequest := ⟨now, s, Controller.startRaised o s⟩
    ⟨some start, r.starts ++ [(start, r.last)]⟩
  | [] => if c'.distributionPendingSource = none then { r with last := none } else r

/-- Runs of ticks, with their starts. -/
def startRuns (cfg : Config) (cb : Callbacks) : Machine (Ran × StartRecord) (ℚ × Oracle) :=
  (tickRuns cfg cb).recording {} fun s a r =>
    let (_, c', l) := Coro.eval a.2 (Controller.tick cfg cb a.1) s.controller
    r.write a.1 a.2 c' (l.filterMap CtlReq.starts)

namespace StartRecord

variable {cfg : Config} {cb : Callbacks} {x x' : Ran × StartRecord} {a : ℚ × Oracle}

/-- The start before it does not hold a start back: there was none, it was for another source, it raised,
    or the timeout is over. -/
def InTime (cfg : Config) (p : StartRequest × Option StartRequest) : Prop :=
  ∀ b, p.2 = some b → b.source = p.1.source → b.raised = false →
    b.time + cfg.distributionStartTimeoutMs / 1000 ≤ p.1.time

/-- The controller remembers the last start. -/
structure Kept (cfg : Config) (cb : Callbacks) (x : Ran × StartRecord) : Prop where
  source : ∀ b, x.2.last = some b → x.1.controller.distributionPendingSource = some b.source
  since : ∀ b, x.2.last = some b → b.raised = false →
    x.1.controller.distributionPendingSince = some b.time
  called : x.2.last.isSome = true → cb.prepareDistribution = true
  inTime : ∀ p ∈ x.2.starts, InTime cfg p

/-- Nothing is to be remembered of a start that is forgotten. -/
theorem Kept.blank {ran : Ran} {starts : List (StartRequest × Option StartRequest)}
    (h : ∀ p ∈ starts, InTime cfg p) : Kept cfg cb (ran, ⟨none, starts⟩) := by
  constructor
  · simp
  · simp
  · simp
  · exact h

theorem Kept.next (h : Kept cfg cb x) (hnext : (startRuns cfg cb).next x a = some x') :
    Kept cfg cb x' := by
  obtain ⟨hmove, hwrite⟩ := Machine.recording_next hnext
  obtain ⟨s', r'⟩ := x'
  simp only [tickRuns] at hmove
  split at hmove
  · cases hmove
  rename_i outcome c' l hne heval
  obtain rfl := Option.some.inj hmove
  simp only [heval] at hwrite
  subst hwrite
  cases Controller.tick_starting heval with
  | kept hsame hnone =>
    rw [hnone]
    show Kept cfg cb (_, if c'.distributionPendingSource = none then _ else _)
    split
    · exact .blank h.inTime
    · refine ⟨fun b hb => ?_, fun b hb hraised => ?_, h.called, h.inTime⟩
      · exact hsame.1.trans (h.source b hb)
      · exact hsame.2.trans (h.since b hb hraised)
  | forgotten hforgotten hnone =>
    rw [hnone]
    show Kept cfg cb (_, if c'.distributionPendingSource = none then _ else _)
    rw [if_pos hforgotten]
    exact .blank h.inTime
  | noted hcb hnone =>
    have hlast : x.2.last = none := by
      cases hlast : x.2.last with
      | none => rfl
      | some b => exact absurd (h.called (by rw [hlast]; rfl)) (by simp [hcb])
    rw [hnone]
    show Kept cfg cb (_, if c'.distributionPendingSource = none then _ else _)
    split
    · exact .blank h.inTime
    · refine ⟨fun b hb => ?_, fun b hb => ?_, fun hsome => ?_, h.inTime⟩
      · rw [hlast] at hb
        cases hb
      · rw [hlast] at hb
        cases hb
      · rw [hlast] at hsome
        cases hsome
  | asked s hcb hdue hsource hsince hstarts =>
    rw [hstarts]
    refine ⟨fun b hb => ?_, fun b hb hraised => ?_, fun _ => hcb, fun p hp => ?_⟩
    · obtain rfl := Option.some.inj hb
      exact hsource
    · obtain rfl := Option.some.inj hb
      exact hsince hraised
    · rcases List.mem_append.mp hp with hp | hp
      · exact h.inTime p hp
      · obtain rfl := List.mem_singleton.mp hp
        intro b hb hsame hraised
        have hpending := h.source b hb
        have hwhen := h.since b hb hraised
        rw [Controller.shouldPrepare, hpending, hwhen, hsame] at hdue
        have hover : cfg.distributionStartTimeoutMs / 1000 ≤ a.1 - b.time := by simpa using hdue
        show b.time + _ ≤ a.1
        linarith

theorem Kept.reach (h : (startRuns cfg cb).Reach Machine.anyMove x) : Kept cfg cb x := by
  refine h.invariant ?_ fun x a x' hx _ hnext => hx.next hnext
  rintro ⟨s, r⟩ ⟨-, hr⟩
  obtain rfl : r = _ := hr
  exact .blank (by simp)

/-- **Starts are paced.**  In every run of ticks, at any times and however each of them ends: Downstairs is
    started again only for another source, after the start timeout, after a start that raised, or after a
    tick that forgot the pending start; and no tick starts it twice. -/
theorem starts_paced (h : (startRuns cfg cb).Reach Machine.anyMove x) :
    (∀ p ∈ x.2.starts, InTime cfg p) ∧
    ∀ t, x.1.last = some t → (t.requests.filterMap CtlReq.starts).length ≤ 1 := by
  refine ⟨(Kept.reach h).inTime, fun t ht => ?_⟩
  obtain ⟨heval, -⟩ := Ran.last_eval h.fst ht
  cases Controller.tick_starting heval with
  | kept _ hnone | forgotten _ hnone | noted _ hnone =>
    rw [hnone]
    exact Nat.zero_le 1
  | asked s _ _ _ _ hstarts =>
    rw [hstarts]
    exact le_refl 1

/-- A record is played, and Downstairs is confirmed only for a moment. -/
def playing (available : Bool) : Oracle := ({ level := -10, available } : Answers).oracle

theorem starts_paced_playing :
    ∃ x, (startRuns plainConfig {}).Reach Machine.anyMove x ∧
      x.2.starts = [(⟨0, .phono, false⟩, none), (⟨5, .phono, false⟩, some ⟨0, .phono, false⟩),
        (⟨7, .phono, false⟩, none)] ∧
      ∀ p ∈ x.2.starts, InTime plainConfig p := by
  obtain ⟨x, hx, hstarts⟩ := Machine.exists_reach (m := startRuns plainConfig {})
    (s := ({ controller := Controller.create plainConfig }, {}))
    (l := [(0, playing false), (1, playing false), (5, playing false), (6, playing true),
      (7, playing false)])
    (fun x => x.2.starts = [(⟨0, .phono, false⟩, none),
      (⟨5, .phono, false⟩, some ⟨0, .phono, false⟩), (⟨7, .phono, false⟩, none)])
    ⟨rfl, rfl⟩ (by decide +kernel)
  exact ⟨x, hx, hstarts, (starts_paced hx).1⟩

end StartRecord

end PhonoConsole
