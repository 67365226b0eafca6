/-
  WORK OF AN OLDER GENERATION: controller ticks and output actions among new intents.

  Both read the output target and the generation at one moment and write the routing fields at
  later ones.  Here the two run together: `Coordination` is the hub of the intents beside a
  controller whose tick is advanced one request at a time.

  Every request of the tick may be answered in any way, but for the store's own: the output mode and
  the generation are the store's at the moment they are given (`admits`), and the routing writes go to
  the store (`effect`).

  The condition on a run names points of suspension:

  * `InTime`     — no intent is recorded while a tick that has read its output mode is suspended where
    it may still write (`CtlReq.mayWrite`), or while a Console action stops the players; and no Console
    action goes on to stop them after a newer intent;
  * `NoneBehind` — the invariant: whoever may still write has read the current generation.  For a tick
    this rests on what its program can still do (`TickRun.Staged`, from `tick_writes`);
  * `older_work_leaves_routing` — a move of older work leaves the routing fields alone.
-/
import PhonoConsole.Intents
import PhonoConsole.RoutingWrites

namespace PhonoConsole

open Coro Controller

/-- What a tick has found when it read its output mode: the generation of the store, and the mode in
    which it goes on. -/
structure Reading where
  generation : Nat
  mode : PhonoOutputMode
deriving DecidableEq

/-- A running tick: its time, and what is left of it. -/
structure TickRun where
  now : ℚ
  program : Tick Status
  reading : Option Reading := none

/-- The hub, the controller's private state, and its tick in progress. -/
structure Coordination where
  hub : Hub
  controller : Controller
  tick : Option TickRun := none

/-- The moves: of the intents, and of the tick. -/
inductive CoordinationMove
  | hub (m : HubMove)
  | start (now : ℚ)
  /-- the request the tick is suspended at is answered; after the last one it is over -/
  | answer (oracle : Oracle)

namespace Hub

/-- The answer agrees with the store. -/
def admits (s : Hub) : (q : CtlReq) → CtlRep q → Bool
  | .phonoOutputMode, .ok mode => mode == s.outputTarget.mode
  | .phonoOutputMode, .error _ => false
  | .routingGeneration, n => n == s.routingGeneration
  | _, _ => true

/-- What a request of the tick does to the store: `_set_routing_state` stamps a session with the
    generation it finds. -/
def effect (s : Hub) : CtlReq → Hub
  | .setRoutingState _ phase sessionSource error =>
    s.setRoutingState {
      phase
      sessionGeneration := if sessionSource = .none then none else some s.routingGeneration
      sessionSource
      error }
  | _ => s

end Hub

namespace Coordination

/-- Continue the tick with `p` up to its next request, or to its end. -/
def advance (s : Coordination) (now : ℚ) (p : Tick Status) (reading : Option Reading) :
    Coordination :=
  let (program, controller) := p.settle s.controller
  { s with controller, tick := some ⟨now, program, reading⟩ }

section Moves

variable (cfg : Config) (cb : Callbacks)

/-- What the tick finds out about the output mode with this request. -/
def reads (s : Coordination) (now : ℚ) (q : CtlReq) : Option Reading :=
  if q = CtlReq.phonoOutputMode then
    some ⟨s.hub.routingGeneration, unexpired cfg now s.controller s.hub.outputTarget.mode⟩
  else none

/-- One move. -/
def next (s : Coordination) : CoordinationMove → Option Coordination
  | .hub m => (s.hub.next m).map fun hub => { s with hub }
  | .start now =>
    match s.tick with
    | none => some (s.advance now (Controller.tick cfg cb now) none)
    | some _ => none
  | .answer o =>
    match s.tick with
    | none => none
    | some ⟨_, .done _, _⟩ => some { s with tick := none }
    | some ⟨_, .state _ _, _⟩ => none
    | some ⟨now, .call q k, reading⟩ =>
      if s.hub.admits q (o q) then
        some ({ s with hub := s.hub.effect q }.advance now (k (o q))
          (reading.or (s.reads cfg now q)))
      else none

/-- The controller among the intents, from the daemon's initialised state. -/
def machine : Machine Coordination CoordinationMove where
  init s := Hub.Initialised s.hub ∧ s.controller = Controller.create cfg ∧ s.tick = none
  next := next cfg cb

end Moves

/-- The generation under which the tick or the action that moves has read its output target. -/
def readUnder (s : Coordination) : CoordinationMove → Option Nat
  | .hub (.resume g _) => (s.hub.task g).pc.generation
  | .answer _ => s.tick.bind fun t => t.reading.map Reading.generation
  | .hub _ | .start _ => none

/-! ## The condition -/

/-- The tick in progress has read its output mode, and is suspended where it may still write the
    routing state. -/
def mayWrite (s : Coordination) : Bool :=
  match s.tick with
  | some ⟨_, .call q _, some r⟩ => q.mayWrite r.mode
  | _ => false

/-- No tick and no Console action is where it may still write. -/
def Clear (s : Coordination) : Prop :=
  s.mayWrite = false ∧
    ∀ g, g ≤ s.hub.routingGeneration → (s.hub.task g).pc.isStopping = false

instance (s : Coordination) : Decidable s.Clear := by
  unfold Clear
  exact inferInstance

/-- The condition on a move. -/
def InTime (s : Coordination) : CoordinationMove → Prop
  | .hub (.request _) | .hub (.press _) => s.Clear
  | .hub (.resume g .ok) =>
    match (s.hub.task g).pc with
    | .disabling n .bluetooth => n = s.hub.routingGeneration
    | _ => True
  | _ => True

instance (s : Coordination) (m : CoordinationMove) : Decidable (s.InTime m) := by
  unfold InTime
  split
  · exact inferInstance
  · exact inferInstance
  · split <;> exact inferInstance
  · exact inferInstance

end Coordination

/-! ## The actions are up to date -/

namespace Hub

variable {s s' : Hub} {g : Nat}

/-- An action reads its target no earlier than its intent was recorded, and one that stops the
    players does so under the current generation. -/
structure UpToDate (s : Hub) : Prop where
  read : ∀ g n, (s.task g).pc.generation = some n → g ≤ n
  stopping : ∀ g n, (s.task g).pc = .stopping n → n = s.routingGeneration

theorem UpToDate.framed (h : UpToDate s) (hf : Framed s g s')
    (hread : ∀ n, (s'.task g).pc.generation = some n → g ≤ n)
    (hstop : ∀ n, (s'.task g).pc = .stopping n → n = s.routingGeneration) : UpToDate s' where
  read g' n hn := by
    by_cases hg : g' = g
    · subst hg
      exact hread n hn
    · rw [hf.others g' hg] at hn
      exact h.read g' n hn
  stopping g' n hn := by
    rw [hf.generation]
    by_cases hg : g' = g
    · subst hg
      exact hstop n hn
    · rw [hf.others g' hg] at hn
      exact h.stopping g' n hn

/-- A task that goes on with what it has read, and not to the stop of the players. -/
theorem UpToDate.moved {pc : TaskPc} (h : UpToDate s) (hm : Moved s g pc s')
    (hread : pc.generation = none ∨ pc.generation = (s.task g).pc.generation)
    (hstop : pc.isStopping = false) : UpToDate s' := by
  refine h.framed hm.framed (fun n hn => ?_) fun n hn => ?_
  · rw [hm.pc_self] at hn
    rcases hread with hnone | hsame
    · rw [hnone] at hn
      exact nomatch hn
    · exact h.read g n (hsame.symm.trans hn)
  · rw [hm.pc_self] at hn
    rw [hn] at hstop
    exact nomatch hstop

theorem Starts.upToDate {pc : TaskPc} (hpc : Starts s.routingGeneration pc) (h : UpToDate s)
    (hm : Moved s g pc s') (hg : g ≤ s.routingGeneration) : UpToDate s' := by
  refine h.framed hm.framed (fun n hn => ?_) fun n hn => ?_
  · rw [hm.pc_self] at hn
    cases hpc with
    | queued | returned => exact nomatch hn
    | disabling | selecting => exact Option.some.inj hn ▸ hg
  · rw [hm.pc_self] at hn
    cases hpc with
    | queued | returned | disabling | selecting => exact nomatch hn

/-- A raised action has read nothing any more. -/
theorem actionRaises_upToDate (h : UpToDate s) : UpToDate (s.actionRaises g) := by
  refine h.framed (actionRaises_framed s g) (fun n hn => ?_) fun n hn => ?_
  · rw [actionRaises_pc] at hn
    exact nomatch hn
  · rw [actionRaises_pc] at hn
    exact nomatch hn

theorem Called.upToDate (hc : Called s g s') (h : UpToDate s) (hg : g ≤ s.routingGeneration) :
    UpToDate s' := by
  cases hc with
  | starts hm hpc => exact hpc.upToDate h hm hg
  | raises api transition _ hraise =>
    rw [hraise]
    exact actionRaises_upToDate ⟨h.read, h.stopping⟩

theorem enterApi_upToDate (h : UpToDate s) (hg : g ≤ s.routingGeneration) :
    UpToDate (s.enterApi g) := by
  obtain hc | ⟨hm, -⟩ := enterApi_called s g
  · exact hc.upToDate h hg
  · exact h.moved hm (.inl rfl) rfl

/-- A new intent finds no action stopping the players. -/
theorem record_upToDate (h : UpToDate s) (hfresh : Fresh s)
    (hnone : ∀ g, g ≤ s.routingGeneration → (s.task g).pc.isStopping = false)
    (target : OutputTarget) (caller : Caller) (pc : TaskPc) (hpc : pc.generation = none) :
    UpToDate (s.record target caller pc) where
  read g n hn := by
    by_cases hg : g = s.routingGeneration + 1
    · rw [hg, record_self, hpc] at hn
      exact nomatch hn
    · rw [record_other hg] at hn
      exact h.read g n hn
  stopping g n hn := by
    exfalso
    by_cases hg : g = s.routingGeneration + 1
    · have hgen : pc.generation = some n := by
        rw [hg, record_self] at hn
        show pc.generation = _
        rw [show pc = .stopping n from hn]
        rfl
      rw [hpc] at hgen
      exact nomatch hgen
    · rw [record_other hg] at hn
      have hle := (hfresh g (by rw [hn]; rfl)).2
      have hno := hnone g hle
      rw [hn] at hno
      exact nomatch hno

theorem request_upToDate (h : UpToDate s) (hfresh : Fresh s)
    (hnone : ∀ g, g ≤ s.routingGeneration → (s.task g).pc.isStopping = false)
    (target : OutputTarget) : UpToDate (s.request target) := by
  have hrec := record_upToDate h hfresh hnone target (.api s.outputTarget) .apiLock rfl
  have hlock : UpToDate { s.record target (.api s.outputTarget) .apiLock with
      apiLock := s.apiLock.acquire (s.routingGeneration + 1) } := ⟨hrec.read, hrec.stopping⟩
  show UpToDate (if _ then _ else _)
  split
  · exact enterApi_upToDate hlock (Nat.le_refl _)
  · exact hlock

theorem press_upToDate (h : UpToDate s) (hfresh : Fresh s)
    (hnone : ∀ g, g ≤ s.routingGeneration → (s.task g).pc.isStopping = false)
    (target : OutputTarget) : UpToDate (s.press target) := by
  have hrec := record_upToDate h hfresh hnone target .encoder .transitionLock rfl
  have hc := callAction_called (s.record target .encoder .transitionLock) (s.routingGeneration + 1)
  exact hc.upToDate hrec (Nat.le_refl _)

theorem resume_upToDate {reply : HubReply} (h : UpToDate s) (hfresh : Fresh s)
    (hin : ∀ n, (s.task g).pc = .disabling n .bluetooth → reply = .ok → n = s.routingGeneration)
    (hs' : s.resume g reply = some s') : UpToDate s' := by
  have hresumed := resume_resumed hs'
  have hg := (hfresh g hresumed.pending).2
  cases hresumed with
  | entered _ _ => exact enterApi_upToDate h hg
  | owns _ _ => exact (beginAction_called s g).upToDate h hg
  | phono hpc | bluetooth hpc | playing hpc =>
    exact h.moved ((moved_setPc ..).after rfl rfl rfl rfl) (.inr (by rw [hpc]; rfl)) rfl
  | stopping hpc =>
    refine h.framed (moved_setPc ..).framed (fun n hn => ?_) fun n hn => ?_
    · rw [(moved_setPc ..).pc_self] at hn
      exact h.read g n (by rw [hpc]; exact hn)
    · rw [(moved_setPc ..).pc_self] at hn
      cases hn
      exact hin _ hpc rfl
  | stopped _ | played _ | missing _ _ r =>
    exact h.moved ((moved_finish ..).after rfl rfl rfl rfl) (.inl rfl) rfl
  | raised _ _ => exact actionRaises_upToDate h

/-- An action that has read an older generation leaves the routing fields alone. -/
theorem resume_routing {reply : HubReply} {n : Nat} (h : UpToDate s)
    (hs' : s.resume g reply = some s') (hread : (s.task g).pc.generation = some n)
    (hold : n < s.routingGeneration) : s'.routing = s.routing := by
  cases resume_resumed hs' with
  | entered hpc _ | owns hpc _ =>
    rw [hpc] at hread
    exact nomatch hread
  | phono _ | bluetooth _ | stopping _ | playing _ => rfl
  | played _ => exact finish_routing ..
  | stopped hpc =>
    rw [hpc] at hread
    cases hread
    exact absurd (h.stopping g n hpc) (Nat.ne_of_lt hold)
  | missing hpc hn r =>
    rw [hpc] at hread
    cases hread
    exact absurd hn (Nat.ne_of_lt hold)
  | raised _ _ =>
    obtain hend | ⟨hnewest, -⟩ := actionRaises_eq s g
    · rw [hend]
      exact finish_routing ..
    · -- a rollback is the newest intent's own
      have hle := h.read g n hread
      omega

end Hub

/-! ## The invariant -/

namespace TickRun

variable {cfg : Config}

/-- What the program of a tick can still do: nothing is known before it reads its output mode; then
    `mayWrite` says where it may still write, and if its generation is no longer the current one, it
    does not write any more. -/
def Ahead (cfg : Config) (t : TickRun) (c : Controller) (generation : Nat) : Prop :=
  match t.reading with
  | none => t.program.Upon .phonoOutputMode (FollowsMode cfg t.now) c
  | some r => Writes r.mode t.program c ∧ (r.generation = generation ∨ Closing t.program)

/-- A tick is suspended at a request, or over, and `Ahead` says what may follow. -/
structure Staged (cfg : Config) (t : TickRun) (c : Controller) (generation : Nat) : Prop where
  settled : t.program.settled = true
  ahead : t.Ahead cfg c generation

/-- A tick that is not where it may still write does not write any more. -/
theorem Staged.overtaken {t : TickRun} {c : Controller} {generation later : Nat}
    (h : t.Staged cfg c generation)
    (hmay : ∀ r q k, t = ⟨t.now, .call q k, some r⟩ → q.mayWrite r.mode = false) :
    t.Staged cfg c later := by
  obtain ⟨now, program, reading⟩ := t
  refine ⟨h.settled, ?_⟩
  have hahead := h.ahead
  cases reading with
  | none => exact hahead
  | some r =>
    obtain ⟨hwrites, -⟩ := hahead
    -- whatever the generation, what is left of the program does not write
    refine ⟨hwrites, .inr ?_⟩
    cases program with
    | done x => trivial
    | state f k => exact absurd h.settled Bool.false_ne_true
    | call q k =>
      obtain ⟨hmust | hclosing, -⟩ := hwrites
      · exact absurd ((hmay r q k rfl).symm.trans hmust) Bool.false_ne_true
      · exact hclosing

end TickRun

namespace Coordination

variable {cfg : Config} {cb : Callbacks} {s s' : Coordination} {m : CoordinationMove} {g : Nat}

/-- Whoever may still write the routing state has read the current generation. -/
structure NoneBehind (cfg : Config) (s : Coordination) : Prop where
  fresh : s.hub.Fresh
  actions : s.hub.UpToDate
  tick : ∀ t, s.tick = some t → t.Staged cfg s.controller s.hub.routingGeneration

/-- The hub moves within its generation. -/
theorem NoneBehind.hubMoved {q : Hub} (h : NoneBehind cfg s) (hfresh : q.Fresh)
    (hactions : q.UpToDate) (hgen : q.routingGeneration = s.hub.routingGeneration) :
    NoneBehind cfg { s with hub := q } where
  fresh := hfresh
  actions := hactions
  tick t ht := by
    have hstaged := h.tick t ht
    rw [← hgen] at hstaged
    exact hstaged

/-- An intent is recorded, and no tick may still write. -/
theorem NoneBehind.recorded {q : Hub} (h : NoneBehind cfg s) (hclear : s.mayWrite = false)
    (hfresh : q.Fresh) (hactions : q.UpToDate) : NoneBehind cfg { s with hub := q } where
  fresh := hfresh
  actions := hactions
  tick t ht := by
    refine (h.tick t ht).overtaken fun r p k hcall => ?_
    have hat : s.tick = some ⟨t.now, .call p k, some r⟩ := ht.trans (congrArg some hcall)
    rw [mayWrite, hat] at hclear
    exact hclear

theorem hubNext_noneBehind {q : HubMove} {hub : Hub} (h : NoneBehind cfg s)
    (hm : InTime s (.hub q)) (hnext : s.hub.next q = some hub) :
    NoneBehind cfg { s with hub } := by
  have hfresh : hub.Fresh := Hub.next_fresh h.fresh hnext
  cases q with
  | request target =>
    rw [← Option.some.inj hnext] at hfresh ⊢
    exact h.recorded hm.1 hfresh (Hub.request_upToDate h.actions h.fresh hm.2 target)
  | press target =>
    rw [← Option.some.inj hnext] at hfresh ⊢
    exact h.recorded hm.1 hfresh (Hub.press_upToDate h.actions h.fresh hm.2 target)
  | resume g reply =>
    refine h.hubMoved hfresh (Hub.resume_upToDate h.actions h.fresh (fun n hpc hok => ?_) hnext)
      (Hub.resume_resumed hnext).framed.generation
    subst hok
    simp only [InTime, hpc] at hm
    exact hm
  | identify | sense | disk =>
    rw [← Option.some.inj hnext] at hfresh ⊢
    exact h.hubMoved hfresh ⟨h.actions.read, h.actions.stopping⟩ rfl

theorem effect_generation (q : Hub) (r : CtlReq) :
    (q.effect r).routingGeneration = q.routingGeneration := by
  cases r <;> rfl

theorem effect_task (q : Hub) (r : CtlReq) : (q.effect r).task = q.task := by
  cases r <;> rfl

/-- A request that does not write the routing state leaves the store alone. -/
theorem effect_of_unwritten {q : Hub} {r : CtlReq} (h : Unwritten r) : q.effect r = q := by
  cases r <;> first | rfl | exact absurd h Bool.true_eq_false.mp

/-- The tick goes on with what its program can still do. -/
theorem advance_staged {now : ℚ} {p : Tick Status} {reading : Option Reading} {generation : Nat}
    (h : TickRun.Ahead cfg ⟨now, p, reading⟩ s.controller generation) :
    ∀ t, (s.advance now p reading).tick = some t →
      t.Staged cfg (s.advance now p reading).controller generation := by
  intro t ht
  rw [← Option.some.inj ht]
  refine ⟨settle_settled p s.controller, ?_⟩
  cases reading with
  | none => exact Upon.settle h
  | some r =>
    obtain ⟨hwrites, hgen | hclosing⟩ := h
    · exact ⟨hwrites.settle, .inl hgen⟩
    · exact ⟨hwrites.settle, .inr (hclosing.settle s.controller)⟩

/-- What an answer leaves ahead; with the output mode the tick has read the current generation. -/
theorem answer_ahead {now : ℚ} {q : CtlReq} {k : CtlRep q → Tick Status} {reading : Option Reading}
    {a : CtlRep q} (hadm : s.hub.admits q a = true)
    (h : TickRun.Ahead cfg ⟨now, .call q k, reading⟩ s.controller s.hub.routingGeneration) :
    TickRun.Ahead cfg ⟨now, k a, reading.or (s.reads cfg now q)⟩ s.controller
      s.hub.routingGeneration := by
  cases reading with
  | some r =>
    obtain ⟨⟨-, hwrites⟩, hgen | hclosing⟩ := h
    · exact ⟨hwrites a, .inl hgen⟩
    · exact ⟨hwrites a, .inr (hclosing.2 a)⟩
  | none =>
    obtain ⟨hread, hother⟩ := h
    by_cases hq : q = .phonoOutputMode
    · subst hq
      cases a with
      | error e => exact absurd hadm Bool.false_ne_true
      | ok mode =>
        -- the store has answered, so the reading is of its present generation
        have hmode : mode = s.hub.outputTarget.mode := of_decide_eq_true hadm
        exact ⟨hmode ▸ hread rfl (.ok mode) mode rfl, .inl rfl⟩
    · rw [reads, if_neg hq]
      exact hother hq a

theorem next_noneBehind (h : NoneBehind cfg s) (hm : InTime s m)
    (hnext : next cfg cb s m = some s') : NoneBehind cfg s' := by
  cases m with
  | hub q =>
    obtain ⟨hub, hhub, rfl⟩ := Option.map_eq_some_iff.mp hnext
    exact hubNext_noneBehind h hm hhub
  | start now =>
    simp only [next] at hnext
    split at hnext
    · rw [← Option.some.inj hnext]
      exact ⟨h.fresh, h.actions, advance_staged (tick_writes s.controller)⟩
    · cases hnext
  | answer o =>
    simp only [next] at hnext
    split at hnext
    · cases hnext
    · rw [← Option.some.inj hnext]
      exact ⟨h.fresh, h.actions, fun t ht => by cases ht⟩
    · cases hnext
    · rename_i now q k reading ht
      split at hnext
      · rw [← Option.some.inj hnext]
        rename_i hadm
        have hahead := answer_ahead hadm (h.tick _ ht).ahead
        refine ⟨?_, ⟨?_, ?_⟩, ?_⟩
        · show Hub.Fresh (s.hub.effect q)
          unfold Hub.Fresh
          rw [effect_task, effect_generation]
          exact h.fresh
        · show ∀ g n, ((s.hub.effect q).task g).pc.generation = some n → g ≤ n
          rw [effect_task]
          exact h.actions.read
        · show ∀ g n, ((s.hub.effect q).task g).pc = .stopping n →
            n = (s.hub.effect q).routingGeneration
          rw [effect_task, effect_generation]
          exact h.actions.stopping
        · have hgen : (s.hub.effect q).routingGeneration = s.hub.routingGeneration :=
            effect_generation _ _
          show ∀ t, _ → TickRun.Staged cfg t _ (s.hub.effect q).routingGeneration
          rw [hgen]
          exact advance_staged hahead
      · cases hnext

theorem initial_noneBehind (h : (machine cfg cb).init s) : NoneBehind cfg s := by
  obtain ⟨⟨target, hhub⟩, -, htick⟩ := h
  refine ⟨?_, ⟨?_, ?_⟩, ?_⟩
  · rw [hhub]
    exact fun _ hpc => absurd hpc Bool.true_eq_false.mp
  · rw [hhub]
    intro _ _ hn
    cases hn
  · rw [hhub]
    intro _ _ hn
    cases hn
  · rw [htick]
    intro _ ht
    cases ht

/-- **Older work leaves the routing state alone**: a tick or an action that has read its output
    target under an older generation changes none of the routing fields. -/
theorem older_work_leaves_routing (h : (machine cfg cb).Reach InTime s)
    (hnext : next cfg cb s m = some s') (hread : s.readUnder m = some g)
    (hold : g < s.hub.routingGeneration) : s'.hub.routing = s.hub.routing := by
  have hbehind : NoneBehind cfg s :=
    h.invariant (fun _ => initial_noneBehind) fun _ _ _ => next_noneBehind
  cases m with
  | hub q =>
    obtain ⟨hub, hhub, rfl⟩ := Option.map_eq_some_iff.mp hnext
    cases q with
    | resume g' reply => exact Hub.resume_routing hbehind.actions hhub hread hold
    | request | press | identify | sense | disk => cases hread
  | start => cases hread
  | answer o =>
    simp only [next] at hnext
    split at hnext
    · cases hnext
    · rw [← Option.some.inj hnext]
    · cases hnext
    · rename_i now q k reading ht
      split at hnext
      · rw [← Option.some.inj hnext]
        show (s.hub.effect q).routing = s.hub.routing
        obtain ⟨r, hr, hg⟩ : ∃ r, reading = some r ∧ r.generation = g := by
          rw [readUnder, ht] at hread
          exact Option.map_eq_some_iff.mp hread
        subst hr
        -- it has read an older generation, so its program is beyond every write
        obtain ⟨-, hgen | hclosing⟩ := (hbehind.tick _ ht).ahead
        · exact absurd (hg.symm.trans hgen) (Nat.ne_of_lt hold)
        · rw [effect_of_unwritten hclosing.1]
      · cases hnext

/-- What the callbacks of a tick answer that finds nothing playing. -/
def quietAnswers (outputMode : PhonoOutputMode) (generation : Nat) : Oracle :=
  Answers.oracle { outputMode, generation }

/-- Downstairs is chosen with nothing playing, and a tick that has read this is handing the idle route
    to the router when Console is chosen; then the router answers. -/
theorem older_work_leaves_routing_tick : ∃ s s' : Coordination,
    s.readUnder (.answer (quietAnswers .downstairs 1)) = some 1 ∧ s.hub.routingGeneration = 2 ∧
      s'.hub.routing = s.hub.routing := by
  obtain ⟨s, hs, hread, hgen, hmove⟩ := Machine.exists_reach
    (m := (machine plainConfig {}).guarded InTime)
    (l := List.flatten [[.hub .identify, .hub (.request .downstairs), .start 0],
      List.replicate 12 (.answer (quietAnswers .downstairs 1)), [.hub (.request .console)]])
    (fun s => s.readUnder (.answer (quietAnswers .downstairs 1)) = some 1 ∧
      s.hub.routingGeneration = 2 ∧
      (next plainConfig {} s (.answer (quietAnswers .downstairs 1))).isSome = true)
    (show (machine plainConfig {}).init ⟨Hub.consoleAtStart, Controller.create plainConfig, none⟩ from
      ⟨⟨.console, rfl⟩, rfl, rfl⟩) (by decide +kernel)
  obtain ⟨s', hnext⟩ := Option.isSome_iff_exists.mp hmove
  exact ⟨s, s', hread, hgen, older_work_leaves_routing (.of_guarded hs) hnext hread (by omega)⟩

/-- A tick with nothing playing has read Console and awaits the router when Downstairs is requested,
    whose action finds no client id: the tick clears the error that this newer action has left. -/
theorem older_tick_writes_routing : ¬ ∀ (s s' : Coordination) (m : CoordinationMove) (g : Nat),
    (machine plainConfig {}).Reach Machine.anyMove s → next plainConfig {} s m = some s' →
    s.readUnder m = some g → g < s.hub.routingGeneration → s'.hub.routing = s.hub.routing := by
  intro hall
  obtain ⟨s, hs, hread, hgen, hmove⟩ := Machine.exists_reach (m := machine plainConfig {})
    (l := List.flatten [[.start 0], List.replicate 12 (.answer (quietAnswers .local 0)),
      [.hub (.request .downstairs)], List.replicate 2 (.answer (quietAnswers .local 0))])
    (fun s => s.readUnder (.answer (quietAnswers .local 0)) = some 0 ∧ s.hub.routingGeneration = 1 ∧
      (next plainConfig {} s (.answer (quietAnswers .local 0))).any
        (fun s' => s'.hub.routing ≠ s.hub.routing) = true)
    (show (machine plainConfig {}).init ⟨Hub.consoleAtStart, Controller.create plainConfig, none⟩ from
      ⟨⟨.console, rfl⟩, rfl, rfl⟩) (by decide +kernel)
  obtain ⟨s', hnext, hne⟩ := (Option.any_eq_true _ _).mp hmove
  exact of_decide_eq_true hne (hall s s' _ 0 hs hnext hread (by omega))

end Coordination

end PhonoConsole
