/-
  THE STICKY MODE over runs (`Controller.tick` and its wiring in `run_daemon`).

  The tick keeps the timer of the sticky Downstairs mode, but the mode itself is the target of the
  state store, and the tick can change it only through three optional callbacks.  `run_daemon`
  passes `phono_output_mode` and none of the three.

  * `CtlReq.writesTarget`  — what the callbacks would write to `state.output_target`;
  * `stickyTicks`          — runs of wired ticks over one target, without an intent in between;
  * `tick_targetFrame`     — a tick asks for a mode callback only when it was given one;
  * `never_expires`        — so no interval of inactivity, however long, ends the mode.
-/
import PhonoConsole.Distribution

namespace PhonoConsole

open Coro

/-! ## The mode callbacks -/

/-- What the mode callbacks are there to write: the expiry ends the mode, the inheritance begins
    it, the refresh only renews its marker. -/
def CtlReq.writesTarget : CtlReq → Option OutputTarget
  | .expirePhonoOutputMode => some .console
  | .inheritDistributedPhonoMode => some .downstairs
  | _ => none

namespace Controller

variable {cfg : Config} {cb : Callbacks} {now : ℚ} {x : Observed}

/-- The frame of a phase that writes no target, whatever it does to the controller. -/
abbrev TargetFrame {α : Type} : Tick α → Prop :=
  Coro.Frame (fun _ _ => True) fun q => q.writesTarget = none

theorem preactivate_targetFrame (b : Bool) : TargetFrame (preactivate cb b) := by
  refine Frame.bind (frame_get fun _ => trivial) fun c => ?_
  split
  · refine Frame.bind (frame_attempt (frame_callback rfl)) fun applied => ?_
    split
    · split
      · exact Frame.bind (frame_attempt (frame_callback rfl)) fun _ => trivial
      · trivial
    · trivial
  · trivial

/-- Without its callback the sticky mode expires for the tick alone. -/
theorem stickyMode_targetFrame (hexpire : cb.expirePhonoOutputMode = false) (b : Bool) :
    TargetFrame (stickyMode cfg cb now b) := by
  have any : ∀ _ : Controller, True := fun _ => trivial
  refine Frame.bind (frame_callback rfl) fun mode => ?_
  refine Frame.bind (frame_get any) fun c => ?_
  split
  · split
    · refine Frame.bind (frame_modify any) fun _ => ?_
      refine Frame.bind (frame_when fun _ => ?_) fun _ => trivial
      exact Frame.bind (frame_callback rfl) fun _ => frame_modify any
    · split
      · exact Frame.bind (frame_modify any) fun _ => trivial
      · split
        · refine Frame.bind (frame_when fun hasked => ?_) fun _ => ?_
          · rw [hexpire] at hasked
            exact nomatch hasked
          · exact Frame.bind (frame_modify any) fun _ => trivial
        · trivial
  · exact Frame.bind (frame_modify any) fun _ => trivial

theorem senseBluetooth_targetFrame (signal transport : Bool) :
    TargetFrame (senseBluetooth cb now signal transport) := by
  have any : ∀ _ : Controller, True := fun _ => trivial
  unfold senseBluetooth
  split
  · refine Frame.bind (frame_exceptException
      (Frame.bind (frame_callback rfl) fun _ => trivial) trivial) fun sample => ?_
    cases sample with
    | none => exact Frame.bind (frame_modify any) fun _ => trivial
    | some level =>
      refine Frame.bind (frame_given (frame_callback rfl)) fun ready => ?_
      refine Frame.bind (frame_modify any) fun _ => ?_
      refine Frame.bind (frame_get any) fun c => ?_
      exact Frame.bind (frame_when fun _ => frame_modify any) fun _ => trivial
  · exact Frame.bind (frame_when fun _ => frame_modify any) fun _ => trivial

theorem observe_targetFrame (hexpire : cb.expirePhonoOutputMode = false)
    (hinherit : cb.inheritDistributedPhonoMode = false) : TargetFrame (observe cfg cb now) := by
  have any : ∀ _ : Controller, True := fun _ => trivial
  refine Frame.bind (frame_exceptException (Frame.bind (frame_callback rfl) fun _ => trivial)
    (Frame.bind (frame_modify any) fun _ => trivial)) fun ⟨captureOk, level⟩ => ?_
  refine Frame.bind (Frame.bind (frame_ask rfl) fun _ => trivial) fun peak => ?_
  refine Frame.bind (frame_given (frame_callback rfl)) fun transportPlaying => ?_
  refine Frame.bind (Frame.bind (frame_get any) fun c => ?_) fun ⟨phonoActive, signalPresent⟩ => ?_
  · refine Frame.bind (frame_when fun _ => frame_modify any) fun _ => ?_
    refine Frame.bind (frame_when fun _ => frame_modify any) fun _ => ?_
    exact Frame.bind (frame_get any) fun _ => trivial
  refine Frame.bind (preactivate_targetFrame _) fun ⟨_, _⟩ => ?_
  refine Frame.bind (frame_exceptException (frame_callback rfl) trivial) fun maPlaying => ?_
  refine Frame.bind (frame_callback rfl) fun wholeHouse => ?_
  refine Frame.bind (Frame.bind (frame_get any) fun c => frame_when fun hasked => ?_) fun _ => ?_
  · simp [hinherit] at hasked
  refine Frame.bind (stickyMode_targetFrame hexpire _) fun mode => ?_
  refine Frame.bind (senseBluetooth_targetFrame _ _) fun ⟨_, _, _⟩ => ?_
  exact Frame.bind (frame_given (frame_callback rfl)) fun available => trivial

theorem conclude_targetFrame : TargetFrame (conclude cfg cb now x) := by
  have any : ∀ _ : Controller, True := fun _ => trivial
  have state (site : Site) (phase : RoutingPhase) (s : Source) (error : Option String) :
      TargetFrame (setRoutingState site phase s error) := frame_ask rfl
  have call {q : CtlReq} {f : CtlRep q → Except Exc Unit} (hq : q.writesTarget = none) :
      TargetFrame (do let _ ← attempt (ask q >>= fun a => ofExcept (f a))) :=
    Frame.bind (frame_attempt (frame_callback hq)) fun _ => trivial
  refine Frame.bind (frame_given (frame_callback rfl)) fun capable => ?_
  refine Frame.bind (frame_given (frame_callback rfl)) fun healthy => ?_
  refine Frame.bind ?_ fun _ => ?_
  · unfold startDistribution
    split
    · refine Frame.bind (frame_get any) fun c => frame_when fun _ => ?_
      refine Frame.bind (frame_modify any) fun _ => ?_
      refine Frame.bind (state _ _ _ _) fun _ => frame_when fun _ => ?_
      exact Frame.bind (frame_attempt (frame_callback rfl)) fun _ =>
        frame_when fun _ => frame_modify any
    · split
      · exact state _ _ _ _
      · exact frame_when fun _ => frame_modify any
  refine Frame.bind (Frame.bind (frame_ask rfl) fun _ =>
    Frame.bind (frame_get any) fun _ => trivial) fun decided => ?_
  refine Frame.bind (Frame.bind (frame_get any) fun c => ?_) fun desired => ?_
  · split
    · exact Frame.bind (frame_when fun _ => call rfl) fun _ => trivial
    · trivial
  refine Frame.bind (Frame.bind (frame_get any) fun c => ?_) fun desired => ?_
  · split
    · refine Frame.bind (frame_exceptException (frame_callback rfl) trivial) fun prepared => ?_
      split <;> trivial
    · trivial
  refine Frame.bind (Frame.bind (frame_get any) fun c => frame_exceptException ?_ ?_)
    fun route => ?_
  · refine Frame.bind (frame_when fun _ => frame_callback rfl) fun _ => ?_
    refine Frame.bind (frame_when fun _ => frame_callback rfl) fun _ => ?_
    refine Frame.bind (frame_when fun _ => call rfl) fun _ => ?_
    exact Frame.bind (frame_when fun _ => call rfl) fun _ => trivial
  · exact Frame.bind (frame_attempt (frame_callback rfl)) fun _ => trivial
  refine Frame.bind (frame_modify any) fun _ => ?_
  refine Frame.bind (frame_when fun _ => state _ _ _ _) fun _ => ?_
  refine Frame.bind (frame_when fun _ => state _ _ _ _) fun _ => ?_
  exact Frame.bind (frame_ask rfl) fun _ => trivial

/-- **A tick writes no target** unless it was given a callback for it. -/
theorem tick_targetFrame (hexpire : cb.expirePhonoOutputMode = false)
    (hinherit : cb.inheritDistributedPhonoMode = false) : TargetFrame (tick cfg cb now) :=
  Frame.bind (observe_targetFrame hexpire hinherit) fun _ => conclude_targetFrame

end Controller

/-! ## Runs without an intent -/

/-- A tick of such a run: its time, whether the phono detector was active in it, and
    `state.output_target` when it began and when it ended. -/
structure TickRecord where
  now : ℚ
  phonoActive : Bool
  before : OutputTarget
  after : OutputTarget
deriving DecidableEq

/-- The wired controller, the target of the state store, and the ticks since the last intent,
    oldest first. -/
structure Sticky where
  wired : Wired
  outputTarget : OutputTarget
  ticks : List TickRecord := []

/-- The callbacks of a tick read the one target of the state store. -/
def WiredTick.over (a : WiredTick) (target : OutputTarget) : WiredTick :=
  { a with modeTarget := target, around := { a.around with outputTarget := target } }

/-- The target after a tick's requests. -/
def targetAfter (requests : List CtlReq) (target : OutputTarget) : OutputTarget :=
  requests.foldl (fun target q => q.writesTarget.getD target) target

/-- Ticks at nondecreasing times after the last intent, the daemon having run before it in any
    way. -/
def stickyTicks (cfg : Config) (bluetooth : Bool) : Machine Sticky WiredTick where
  init s := (wiredTicks cfg bluetooth).Reach Machine.anyMove s.wired ∧ s.ticks = []
  next s tick :=
    let a := tick.over s.outputTarget
    let oracle := a.wire s.wired.store
    let requests :=
      (eval oracle (Controller.tick cfg (daemonCallbacks bluetooth) a.now) s.wired.controller).2.2
    let after := targetAfter requests s.outputTarget
    if ∀ last ∈ s.ticks.getLast?, last.now ≤ a.now then
      ((wiredTicks cfg bluetooth).next s.wired { a with endTarget := after }).map fun wired =>
        { wired
          outputTarget := after
          ticks := s.ticks ++ [{
            now := a.now
            phonoActive :=
              Sensed.phonoActive cfg (daemonCallbacks bluetooth) a.now oracle s.wired.controller
            before := s.outputTarget
            after }] }
    else none

/-- In the run `earlier ++ first :: middle ++ last :: later`, the mode was Downstairs and the
    detector inactive at every tick from `first` to `last`, and `last` is the first tick at which
    the sticky minutes have passed since `first`. -/
structure Elapsed (cfg : Config) (ticks earlier : List TickRecord) (first : TickRecord)
    (middle : List TickRecord) (last : TickRecord) (later : List TickRecord) : Prop where
  run : ticks = earlier ++ first :: middle ++ last :: later
  inactive : ∀ r ∈ first :: middle ++ [last], r.before = .downstairs ∧ r.phonoActive = false
  waiting : ∀ r ∈ middle, r.now - first.now < cfg.phonoModeStickyMinutes * 60
  elapsed : cfg.phonoModeStickyMinutes * 60 ≤ last.now - first.now

/-- The mode expires at `last`, for good. -/
def Expires (last : TickRecord) (later : List TickRecord) : Prop :=
  last.after = .console ∧ ∀ r ∈ later, r.after = .console

variable {cfg : Config} {bluetooth : Bool} {s s' : Sticky}

/-- Requests of which none writes a target keep it. -/
theorem targetAfter_eq {requests : List CtlReq} (h : ∀ q ∈ requests, q.writesTarget = none)
    (target : OutputTarget) : targetAfter requests target = target := by
  induction requests with
  | nil => rfl
  | cons q requests ih =>
    obtain ⟨hq, hrest⟩ := List.forall_mem_cons.mp h
    have hkept : targetAfter requests target = target := ih hrest
    rw [targetAfter, List.foldl_cons, hq]
    exact hkept

/-- No request of a wired tick writes a target. -/
theorem wired_writesTarget (o : Oracle) (now : ℚ) (c : Controller) :
    ∀ q ∈ (eval o (Controller.tick cfg (daemonCallbacks bluetooth) now) c).2.2,
      q.writesTarget = none :=
  (Frame.eval (fun _ => trivial) (fun _ _ => trivial)
    (Controller.tick_targetFrame rfl rfl) c).2

/-- Every tick leaves the target as it found it. -/
theorem target_kept (h : (stickyTicks cfg bluetooth).Reach Machine.anyMove s) :
    ∀ r ∈ s.ticks, r.after = r.before := by
  refine h.invariant (I := fun s => ∀ r ∈ s.ticks, r.after = r.before) ?_ ?_
  · rintro s ⟨-, hticks⟩ r hr
    rw [hticks] at hr
    exact nomatch hr
  · intro s tick s' hs _ hnext r hr
    simp only [stickyTicks] at hnext
    split at hnext
    · obtain ⟨wired, -, rfl⟩ := Option.map_eq_some_iff.mp hnext
      rcases List.mem_append.mp hr with hr | hr
      · exact hs r hr
      · rw [List.mem_singleton.mp hr]
        exact targetAfter_eq (wired_writesTarget _ _ _) _
    · exact nomatch hnext

/-- A tick in a quiet house, at a time. -/
def quietTick (now : ℚ) : WiredTick where
  now := now
  modeTarget := .downstairs
  around := {}
  endTarget := .downstairs
  endGeneration := 0
  others := Answers.oracle {}

/-- The two ticks of the runs below, an hour apart. -/
def quietHour : List TickRecord :=
  [⟨0, false, .downstairs, .downstairs⟩, ⟨3600, false, .downstairs, .downstairs⟩]

theorem exists_quietHour :
    ∃ s, (stickyTicks plainConfig true).Reach Machine.anyMove s ∧ s.ticks = quietHour := by
  let start : Sticky :=
    { wired := { controller := Controller.create plainConfig }, outputTarget := .downstairs }
  have hinit : (stickyTicks plainConfig true).init start := ⟨.init rfl, rfl⟩
  exact Machine.exists_reach (l := [quietTick 0, quietTick 3600]) (fun s => s.ticks = quietHour)
    hinit (by decide +kernel)

theorem elapsed_quietHour :
    Elapsed plainConfig quietHour [] ⟨0, false, .downstairs, .downstairs⟩ []
      ⟨3600, false, .downstairs, .downstairs⟩ [] where
  run := rfl
  inactive := by decide
  waiting := by decide
  elapsed := by decide +kernel

/-- After an hour without phono, with the default of 60 sticky minutes, the target is still
    Downstairs. -/
theorem sticky_after_hour :
    ∃ s, (stickyTicks plainConfig true).Reach Machine.anyMove s ∧
      ∃ earlier first middle last later,
        Elapsed plainConfig s.ticks earlier first middle last later ∧ ¬ Expires last later := by
  obtain ⟨s, hreach, hticks⟩ := exists_quietHour
  refine ⟨s, hreach, [], _, [], _, [], hticks ▸ elapsed_quietHour, ?_⟩
  rintro ⟨hconsole, -⟩
  exact nomatch hconsole

/-- **The sticky mode never expires.**  In every run of wired ticks without an intent, wherever an
    interval of inactivity has lasted the sticky minutes, the target is not given up. -/
theorem never_expires (h : (stickyTicks cfg bluetooth).Reach Machine.anyMove s)
    {earlier middle later : List TickRecord} {first last : TickRecord}
    (he : Elapsed cfg s.ticks earlier first middle last later) : ¬ Expires last later := by
  rintro ⟨hconsole, -⟩
  have hlast : last ∈ s.ticks := by simp [he.run]
  have hbefore : last.before = .downstairs := (he.inactive last (by simp)).1
  have hkept : last.after = last.before := target_kept h last hlast
  rw [hconsole, hbefore] at hkept
  exact nomatch hkept

theorem never_expires_hour :
    ∃ s, (stickyTicks plainConfig true).Reach Machine.anyMove s ∧ s.ticks = quietHour ∧
      ¬ Expires ⟨3600, false, .downstairs, .downstairs⟩ [] := by
  obtain ⟨s, hreach, hticks⟩ := exists_quietHour
  exact ⟨s, hreach, hticks, never_expires hreach (hticks ▸ elapsed_quietHour)⟩

end PhonoConsole
