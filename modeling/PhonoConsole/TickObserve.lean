/-
  WHAT A TICK OBSERVES: the first half of the tick in closed form.

  Every later result about ticks starts from the same question: given what the callbacks answer,
  what does the tick take to be playing, and where does the user want it?  This file answers it
  once.

  * `Sensed.*`      — the observations of a tick as PURE FUNCTIONS of the state before it and of
    the answers (`phonoActive`, `signalPresent`, `bluetoothActive`, `selected`, …);
  * `observe_ok`    — the first half, when it succeeds, returns exactly these;
  * `observe_quiet` — it keeps the route and the pending start, and makes observation requests
    only (`CtlReq.observation`).
-/
import Mathlib.Tactic.Simps.Basic
import PhonoConsole.Controller

namespace PhonoConsole

namespace Controller

open Coro

variable {cfg : Config} {cb : Callbacks} {now : ℚ} {o : Oracle} {c c' : Controller}
  {l : List CtlReq}

/-! ## Handlers under an oracle -/

@[simp] theorem eval_ofExcept {α : Type} (r : Except Exc α) (c : Controller) :
    eval o (ofExcept r) c = (r, c, []) := rfl

/-- A request that may raise: its answer is the outcome. -/
theorem eval_callback {α : Type} (q : CtlReq) (f : CtlRep q → Except Exc α) (c : Controller) :
    eval o (ask q >>= fun a => ofExcept (f a)) c = (f (o q), c, [q]) := by
  rw [eval_bind, eval_ask]
  rfl

/-- How a handler of `Exception` comes out. -/
theorem eval_exceptException {α : Type} (p h : Tick α) (c : Controller) :
    eval o (exceptException p h) c =
      match eval o p c with
      | (.ok a, c₁, l₁) => (.ok a, c₁, l₁)
      | (.error (.exception _), c₁, l₁) =>
        ((eval o h c₁).1, (eval o h c₁).2.1, l₁ ++ (eval o h c₁).2.2)
      | (.error .cancelled, c₁, l₁) => (.error .cancelled, c₁, l₁) := by
  rw [exceptException, eval_catchError]
  rcases eval o p c with ⟨r, c₁, l₁⟩
  rcases r with e | a
  · cases e <;> simp
  · rfl

/-- `attempt` either tells whether the call went through, or is cancelled. -/
theorem eval_attempt {α : Type} (p : Tick α) (c : Controller) :
    eval o (attempt p) c =
      match eval o p c with
      | (.ok _, c₁, l₁) => (.ok true, c₁, l₁)
      | (.error (.exception _), c₁, l₁) => (.ok false, c₁, l₁)
      | (.error .cancelled, c₁, l₁) => (.error .cancelled, c₁, l₁) := by
  rw [attempt, eval_exceptException, eval_bind]
  rcases eval o p c with ⟨r, c₁, l₁⟩
  rcases r with e | a
  · cases e <;> simp
  · simp

/-- An awaited call went through. -/
def went {α : Type} (r : Except Exc α) : Bool :=
  match r with
  | .ok _ => true
  | .error _ => false

/-- An awaited call under `attempt` that was not cancelled: it is made, nothing else happens, and
    its result tells whether it went through. -/
theorem attempt_ok {α : Type} {q : CtlReq} {f : CtlRep q → Except Exc α} {b : Bool}
    (h : eval o (attempt (ask q >>= fun a => ofExcept (f a))) c = (.ok b, c', l)) :
    c = c' ∧ l = [q] ∧ b = went (f (o q)) := by
  rw [eval_attempt, eval_callback] at h
  rcases hf : f (o q) with (_ | _) | a
  all_goals
    rw [hf] at h
    simp at h
  · exact ⟨h.2.1, h.2.2.symm, h.1⟩
  · exact ⟨h.2.1, h.2.2.symm, h.1⟩

end Controller

/-! ## The observations as functions of the answers -/

namespace Sensed

variable (cfg : Config) (cb : Callbacks) (now : ℚ) (o : Oracle) (c : Controller)

/-- `capture_ok`. -/
def captureOk : Bool :=
  match o .levelDbfs with
  | .ok _ => true
  | .error _ => false

/-- `level`: the sampled level, or silence when the capture failed. -/
def level : ℚ :=
  match o .levelDbfs with
  | .ok l => l
  | .error _ => -120

/-- `peak_level`. -/
def peakLevel : ℚ :=
  match (o .latestPeaks : Option (ℚ × ℚ)) with
  | some (left, right) => max left right
  | none => -120

/-- An answered boolean callback, `false` when it raised. -/
def truth (r : Except Exc Bool) : Bool :=
  match r with
  | .ok b => b
  | .error _ => false

/-- `bluetooth_transport_playing`. -/
def transportPlaying : Bool := cb.bluetoothIsPlaying && truth (o (.bluetoothIsPlaying .sense))

/-- `ma_playing`: as reported, or assumed when the telemetry failed. -/
def maPlaying : Bool :=
  match o .consoleIsPlaying with
  | .ok b => b
  | .error _ => true

/-- `needle_drop_detected`. -/
def needleDrop : Bool :=
  Controller.needleDropDetected cfg c (captureOk o) (transportPlaying cb o) (peakLevel o)

/-- The phono detector after this tick's sample. -/
def detector : ActivityDetector :=
  if captureOk o then
    (if needleDrop cfg cb o c then c.detector.forceActive else c.detector).update (level o) now
  else c.detector.resetInactive

/-- `phono_active`. -/
def phonoActive : Bool := captureOk o && (detector cfg cb now o c).active

/-- `phono_signal_present`. -/
def signalPresent : Bool :=
  Controller.phonoSignalPresent cfg { c with detector := detector cfg cb now o c } (captureOk o)
    (needleDrop cfg cb o c) (level o)

/-- `local_audio_preactivated`. -/
def preactivated : Bool :=
  signalPresent cfg cb now o c && (c.route == none || c.route == some .idle)
    && Controller.went (o (.routerApply .preactivate .localPhono))

/-- `output_preactivated`. -/
def outputPreactivated : Bool :=
  preactivated cfg cb now o c && cb.activateOutput && Controller.went (o (.activateOutput .preactivate))

/-- The Bluetooth level, when it was sampled. -/
def bluetoothSample : Option ℚ :=
  if cb.bluetoothMonitor && !signalPresent cfg cb now o c then
    match o .bluetoothLevelDbfs with
    | .ok l => some l
    | .error _ => none
  else none

/-- `bluetooth_active`. -/
def bluetoothActive : Bool :=
  match bluetoothSample cfg cb now o c with
  | some l => transportPlaying cb o || (c.bluetoothDetector.update l now).active
  | none => transportPlaying cb o

/-- `bluetooth_pcm_ready`. -/
def bluetoothPcmReady : Bool :=
  match bluetoothSample cfg cb now o c with
  | some _ => if cb.bluetoothIsPlaying then truth (o (.bluetoothIsPlaying .monitor)) else true
  | none => false

/-- `output_mode`, after the sticky expiry. -/
def outputMode : PhonoOutputMode :=
  match o .phonoOutputMode with
  | .ok .downstairs =>
    match c.phonoModeInactiveSince with
    | some since =>
      if !phonoActive cfg cb now o c && decide (cfg.phonoModeStickyMinutes * 60 ≤ now - since) then
        .local
      else .downstairs
    | none => .downstairs
  | .ok .local | .error _ => .local

/-- `available`. -/
def available : Bool := cb.distributionAvailable && truth (o .distributionAvailable)

/-- Everything the first half of the tick establishes. -/
@[simps] def observed : Controller.Observed where
  level := level o
  phonoActive := phonoActive cfg cb now o c
  phonoSignalPresent := signalPresent cfg cb now o c
  localAudioPreactivated := preactivated cfg cb now o c
  outputPreactivated := outputPreactivated cfg cb now o c
  maPlaying := maPlaying o
  wholeHouse := truth (o .wholeHouseIsRequested)
  outputMode := outputMode cfg cb now o c
  bluetoothLevel := (bluetoothSample cfg cb now o c).getD (-120)
  bluetoothActive := bluetoothActive cfg cb now o c
  bluetoothPcmReady := bluetoothPcmReady cfg cb now o c
  available := available cb o

/-- `selected_source`. -/
def selected : Source :=
  Controller.selectedSource (signalPresent cfg cb now o c) (bluetoothActive cfg cb now o c)
    (phonoActive cfg cb now o c)

/-- `capable`, asked for the selected source. -/
def capable : Bool :=
  cb.distributionCapable && truth (o (.distributionCapable (selected cfg cb now o c)))

/-- `stream_healthy`. -/
def streamHealthy : Bool := cb.distributionStreamHealthy && truth (o .distributionStreamHealthy)

/-- `can_start_distribution`. -/
def canStart : Bool :=
  selected cfg cb now o c != .bluetooth || bluetoothPcmReady cfg cb now o c

end Sensed

/-- The requests of the first half of a tick. -/
def CtlReq.observation : CtlReq → Bool
  | .levelDbfs | .latestPeaks | .bluetoothIsPlaying _ | .consoleIsPlaying
  | .wholeHouseIsRequested | .inheritDistributedPhonoMode | .phonoOutputMode
  | .refreshPhonoOutputMode | .expirePhonoOutputMode | .bluetoothLevelDbfs
  | .distributionAvailable | .routerApply .preactivate .localPhono
  | .activateOutput .preactivate => true
  | _ => false

namespace Controller

open Coro

variable {cfg : Config} {cb : Callbacks} {now : ℚ} {o : Oracle} {c c' : Controller}
  {l : List CtlReq}

/-- What the first half leaves alone: the route and the pending start. -/
def SameRoute (c c' : Controller) : Prop :=
  c'.route = c.route ∧ c'.distributionPendingSource = c.distributionPendingSource ∧
    c'.distributionPendingSince = c.distributionPendingSince

theorem SameRoute.refl (c : Controller) : SameRoute c c := ⟨rfl, rfl, rfl⟩

/-- One part of a tick after another. -/
theorem SameRoute.trans {a b c : Controller} (h : SameRoute a b) (h' : SameRoute b c) :
    SameRoute a c :=
  ⟨h'.1.trans h.1, h'.2.1.trans h.2.1, h'.2.2.trans h.2.2⟩

/-! ## The first half, phase by phase -/

/-- The level, and the detector reset by a dead capture. -/
theorem readLevel_ok {r : Bool × ℚ} (h : eval o readLevel c = (.ok r, c', l)) :
    r = (Sensed.captureOk o, Sensed.level o) ∧
      c' = { c with detector :=
        if Sensed.captureOk o then c.detector else c.detector.resetInactive } := by
  simp only [readLevel, eval_exceptException, eval_bind, eval_ask, eval_ofExcept] at h
  unfold Sensed.captureOk Sensed.level
  revert h
  rcases o .levelDbfs with (_ | _) | lv <;> intro h <;> simp at h
  · exact ⟨h.1.symm, h.2.1.symm⟩
  · exact ⟨h.1.symm, h.2.1.symm⟩

/-- The peak. -/
theorem peakLevel_ok {r : ℚ} (h : eval o peakLevel c = (.ok r, c', l)) :
    r = Sensed.peakLevel o ∧ c = c' := by
  simp only [peakLevel, eval_bind, eval_ask, eval_pure, Prod.mk.injEq, Except.ok.injEq] at h
  exact ⟨h.1.symm, h.2.1⟩

/-- An optional boolean callback that returned. -/
theorem given_ok {b : Bool} {q : CtlReq} {f : CtlRep q → Except Exc Bool} {dflt r : Bool}
    (h : eval o (given b (ask q >>= fun a => ofExcept (f a)) dflt) c = (.ok r, c', l)) :
    r = (if b then Sensed.truth (f (o q)) else dflt) ∧ c = c' ∧ l = if b then [q] else [] := by
  unfold given at h
  cases b
  · simp only [Bool.false_eq_true, ↓reduceIte, eval_pure, Prod.mk.injEq, Except.ok.injEq] at h
    exact ⟨h.1.symm, h.2.1, h.2.2.symm⟩
  · simp only [↓reduceIte, eval_callback, Prod.mk.injEq] at h
    exact ⟨by rw [h.1]; rfl, h.2.1, h.2.2.symm⟩

/-- The Bluetooth transport. -/
theorem transport_ok {r : Bool} (h : eval o (bluetoothTransportPlaying cb) c = (.ok r, c', l)) :
    r = Sensed.transportPlaying cb o ∧ c = c' := by
  obtain ⟨hr, hc, -⟩ := given_ok (q := .bluetoothIsPlaying .sense) (f := fun a => a) h
  refine ⟨?_, hc⟩
  rw [hr, Sensed.transportPlaying]
  cases cb.bluetoothIsPlaying <;> rfl

/-- Music Assistant's answer, or the assumption in its place. -/
theorem readMaPlaying_ok {r : Bool} (h : eval o readMaPlaying c = (.ok r, c', l)) :
    r = Sensed.maPlaying o ∧ c = c' := by
  unfold readMaPlaying at h
  rw [eval_exceptException, eval_callback] at h
  unfold Sensed.maPlaying
  rcases ho : o .consoleIsPlaying with (_ | _) | b
  all_goals
    rw [ho] at h
    simp at h
  · exact ⟨h.1, h.2.1⟩
  · exact ⟨h.1.symm, h.2.1⟩

/-- The early wake-up of the local path. -/
theorem preactivate_ok {c₀ : Controller} {r : Bool × Bool} (hroute : c.route = c₀.route)
    (h : eval o (preactivate cb (Sensed.signalPresent cfg cb now o c₀)) c = (.ok r, c', l)) :
    r = (Sensed.preactivated cfg cb now o c₀, Sensed.outputPreactivated cfg cb now o c₀) := by
  obtain ⟨_, _, _, _, hget, hrest, rfl⟩ := eval_bind_ok h
  simp only [eval_get, Prod.mk.injEq, Except.ok.injEq] at hget
  obtain ⟨rfl, rfl, rfl⟩ := hget
  unfold Sensed.outputPreactivated Sensed.preactivated
  rw [hroute] at hrest
  cases hwake : Sensed.signalPresent cfg cb now o c₀ && (c₀.route == none || c₀.route == some .idle)
  · rw [hwake, if_neg Bool.false_ne_true] at hrest
    simp only [eval_pure, Prod.mk.injEq, Except.ok.injEq] at hrest
    exact hrest.1.symm
  · rw [hwake, if_pos rfl] at hrest
    obtain ⟨applied, _, _, _, happly, hwoken, rfl⟩ := eval_bind_ok hrest
    obtain ⟨rfl, rfl, rfl⟩ :=
      attempt_ok (q := .routerApply .preactivate .localPhono) (f := fun a => a) happly
    cases hgo : went (o (.routerApply .preactivate .localPhono))
    · rw [hgo, if_neg Bool.false_ne_true] at hwoken
      simp only [eval_pure, Prod.mk.injEq, Except.ok.injEq] at hwoken
      exact hwoken.1.symm
    · rw [hgo, if_pos rfl] at hwoken
      cases hcb : cb.activateOutput
      · rw [hcb, if_neg Bool.false_ne_true] at hwoken
        simp only [eval_pure, Prod.mk.injEq, Except.ok.injEq] at hwoken
        exact hwoken.1.symm
      · rw [hcb, if_pos rfl] at hwoken
        obtain ⟨activated, _, _, _, hactivate, hlast, rfl⟩ := eval_bind_ok hwoken
        obtain ⟨rfl, rfl, rfl⟩ :=
          attempt_ok (q := .activateOutput .preactivate) (f := fun a => a) hactivate
        simp only [eval_pure, Prod.mk.injEq, Except.ok.injEq] at hlast
        exact hlast.1.symm

/-- The detector step, from the state the capture result has left. -/
theorem senseActivity_ok (cb : Callbacks) {c₀ : Controller} {r : Bool × Bool}
    (hc : c = { c₀ with detector :=
      if Sensed.captureOk o then c₀.detector else c₀.detector.resetInactive })
    (h : eval o (senseActivity cfg now (Sensed.captureOk o) (Sensed.level o) (Sensed.peakLevel o)
      (Sensed.transportPlaying cb o)) c = (.ok r, c', l)) :
    r = (Sensed.phonoActive cfg cb now o c₀, Sensed.signalPresent cfg cb now o c₀) ∧
      c' = { c₀ with detector := Sensed.detector cfg cb now o c₀ } := by
  unfold Sensed.phonoActive Sensed.signalPresent Sensed.detector Sensed.needleDrop
  subst hc
  cases hok : Sensed.captureOk o
  · simp [senseActivity, hok, eval_bind, needleDropDetected] at h
    simp [needleDropDetected, ← h.1, ← h.2.1]
  · cases hn : needleDropDetected cfg c₀ true (Sensed.transportPlaying cb o) (Sensed.peakLevel o)
    all_goals
      have hn' : needleDropDetected cfg { c₀ with detector := c₀.detector } true
        (Sensed.transportPlaying cb o) (Sensed.peakLevel o) = _ := hn
      simp [senseActivity, hok, hn', eval_bind] at h
      simp [← h.1, ← h.2.1]

/-! ## Frames of the handlers -/

section Frames

variable {R : Controller → Controller → Prop} {C : CtlReq → Prop}

/-- A handler stays in the frame of both programs. -/
theorem frame_exceptException {α : Type} {p h : Tick α} (hp : p.Frame R C) (hh : h.Frame R C) :
    (exceptException p h).Frame R C := by
  refine Frame.catchError hp fun e => ?_
  cases e
  · exact hh
  · trivial

/-- So does `attempt`. -/
theorem frame_attempt {α : Type} {p : Tick α} (hp : p.Frame R C) : (attempt p).Frame R C :=
  frame_exceptException (Frame.bind hp fun _ => trivial) trivial

/-- A call makes its own request only. -/
theorem frame_callback {α : Type} {q : CtlReq} {f : CtlRep q → Except Exc α} (hq : C q) :
    (ask q >>= fun a => ofExcept (f a)).Frame R C :=
  Frame.bind (frame_ask hq) fun _ => trivial

/-- An optional call, too. -/
theorem frame_given {α : Type} {b : Bool} {p : Tick α} {a : α} (hp : p.Frame R C) :
    (given b p a).Frame R C := by
  cases b
  · trivial
  · exact hp

end Frames

/-! ## The first half leaves the route alone -/

/-- The early wake-up moves nothing. -/
theorem preactivate_frame {R : Controller → Controller → Prop} (hR : ∀ c, R c c) (b : Bool) :
    (preactivate cb b).Frame R fun q => q.observation = true := by
  refine Frame.bind (frame_get hR) fun c => ?_
  split
  · refine Frame.bind (frame_attempt (frame_callback rfl)) fun applied => ?_
    split
    · split
      · exact Frame.bind (frame_attempt (frame_callback rfl)) fun _ => trivial
      · trivial
    · trivial
  · trivial

theorem readMaPlaying_frame {R : Controller → Controller → Prop} :
    readMaPlaying.Frame R fun q => q.observation = true :=
  frame_exceptException (frame_callback rfl) trivial

theorem inheritMode_frame {R : Controller → Controller → Prop} (hR : ∀ c, R c c) (b : Bool) :
    (inheritMode cb b).Frame R fun q => q.observation = true :=
  Frame.bind (frame_get hR) fun _ => frame_when fun _ => frame_callback rfl

/-- `R` allows the private moves of the first half: of the phono detector, of the sticky mode's
    timers and of the Bluetooth detector. -/
structure AllowsSensing (now : ℚ) (R : Controller → Controller → Prop) : Prop where
  reset : ∀ c, R c { c with detector := c.detector.resetInactive }
  force : ∀ c, R c { c with detector := c.detector.forceActive }
  update : ∀ c level, R c { c with detector := c.detector.update level now }
  sticky : ∀ c since refresh,
    R c { c with phonoModeInactiveSince := since, phonoModeLastRefresh := refresh }
  bluetooth : ∀ c d, R c { c with bluetoothDetector := d }

/-- The route is none of what sensing moves. -/
theorem sameRoute_sensing : AllowsSensing now SameRoute where
  reset _ := ⟨rfl, rfl, rfl⟩
  force _ := ⟨rfl, rfl, rfl⟩
  update _ _ := ⟨rfl, rfl, rfl⟩
  sticky _ _ _ := ⟨rfl, rfl, rfl⟩
  bluetooth _ _ := ⟨rfl, rfl, rfl⟩

section Sensing

variable {R : Controller → Controller → Prop}

theorem AllowsSensing.refl (hR : AllowsSensing now R) (c : Controller) : R c c :=
  hR.bluetooth c c.bluetoothDetector

/-- The level moves the phono detector. -/
theorem readLevel_frame (hR : ∀ c, R c { c with detector := c.detector.resetInactive }) :
    readLevel.Frame R fun q => q.observation = true :=
  frame_exceptException (Frame.bind (frame_callback rfl) fun _ => trivial)
    (Frame.bind (frame_modify hR) fun _ => trivial)

/-- So does its sample. -/
theorem senseActivity_frame (hR : AllowsSensing now R) (ok : Bool) (level peak : ℚ)
    (transport : Bool) :
    (senseActivity cfg now ok level peak transport).Frame R fun q => q.observation = true := by
  refine Frame.bind (frame_get hR.refl) fun c => ?_
  refine Frame.bind (frame_when fun _ => frame_modify hR.force) fun _ => ?_
  refine Frame.bind (frame_when fun _ => frame_modify fun c => hR.update c level) fun _ => ?_
  exact Frame.bind (frame_get hR.refl) fun _ => trivial

/-- The sticky mode keeps its own timers. -/
theorem stickyMode_frame_of (hR : ∀ c since refresh,
      R c { c with phonoModeInactiveSince := since, phonoModeLastRefresh := refresh }) (b : Bool) :
    (stickyMode cfg cb now b).Frame R fun q => q.observation = true := by
  have hrefl : ∀ c, R c c := fun c => hR c c.phonoModeInactiveSince c.phonoModeLastRefresh
  have hsince : ∀ c since, R c { c with phonoModeInactiveSince := since } :=
    fun c since => hR c since c.phonoModeLastRefresh
  refine Frame.bind (frame_callback rfl) fun mode => ?_
  refine Frame.bind (frame_get hrefl) fun c => ?_
  split
  · split
    · refine Frame.bind (frame_modify fun c => hsince c _) fun _ => ?_
      refine Frame.bind (frame_when fun _ => ?_) fun _ => trivial
      exact Frame.bind (frame_callback rfl) fun _ =>
        frame_modify fun c => hR c c.phonoModeInactiveSince _
    · split
      · exact Frame.bind (frame_modify fun c => hsince c _) fun _ => trivial
      · split
        · refine Frame.bind (frame_when fun _ => frame_callback rfl) fun _ => ?_
          exact Frame.bind (frame_modify fun c => hR c _ _) fun _ => trivial
        · trivial
  · exact Frame.bind (frame_modify fun c => hR c _ _) fun _ => trivial

/-- It leaves both the route and the Bluetooth detector. -/
theorem stickyMode_frame (b : Bool) :
    (stickyMode cfg cb now b).Frame
      (fun c c' => SameRoute c c' ∧ c'.bluetoothDetector = c.bluetoothDetector)
      fun q => q.observation = true :=
  stickyMode_frame_of (fun _ _ _ => ⟨⟨rfl, rfl, rfl⟩, rfl⟩) b

/-- The Bluetooth sample moves the other detector. -/
theorem senseBluetooth_frame (hR : AllowsSensing now R) (signal transport : Bool) :
    (senseBluetooth cb now signal transport).Frame R fun q => q.observation = true := by
  unfold senseBluetooth
  split
  · refine Frame.bind (frame_exceptException
      (Frame.bind (frame_callback rfl) fun _ => trivial) trivial) fun sample => ?_
    cases sample with
    | none => exact Frame.bind (frame_modify fun c => hR.bluetooth c _) fun _ => trivial
    | some level =>
      refine Frame.bind (frame_given (frame_callback rfl)) fun ready => ?_
      refine Frame.bind (frame_modify fun c => hR.bluetooth c _) fun _ => ?_
      refine Frame.bind (frame_get hR.refl) fun c => ?_
      exact Frame.bind (frame_when fun _ => frame_modify fun c => hR.bluetooth c _) fun _ => trivial
  · exact Frame.bind (frame_when fun _ => frame_modify fun c => hR.bluetooth c _) fun _ => trivial

/-- The first half makes the moves of sensing and only observations. -/
theorem observe_frame (hR : AllowsSensing now R) :
    (observe cfg cb now).Frame R fun q => q.observation = true := by
  refine Frame.bind (readLevel_frame hR.reset) fun ⟨captureOk, level⟩ => ?_
  refine Frame.bind (Frame.bind (frame_ask rfl) fun _ => trivial) fun peak => ?_
  refine Frame.bind (frame_given (frame_callback rfl)) fun transportPlaying => ?_
  refine Frame.bind (senseActivity_frame hR _ _ _ _) fun ⟨phonoActive, signalPresent⟩ => ?_
  refine Frame.bind (preactivate_frame hR.refl _) fun ⟨_, _⟩ => ?_
  refine Frame.bind readMaPlaying_frame fun maPlaying => ?_
  refine Frame.bind (frame_callback rfl) fun wholeHouse => ?_
  refine Frame.bind (inheritMode_frame hR.refl _) fun _ => ?_
  refine Frame.bind (stickyMode_frame_of hR.sticky _) fun mode => ?_
  refine Frame.bind (senseBluetooth_frame hR _ _) fun ⟨_, _, _⟩ => ?_
  exact Frame.bind (frame_given (frame_callback rfl)) fun available => trivial

end Sensing

/-- The first half keeps the route and the pending start, and only makes observations. -/
theorem observe_quiet {r : Except Exc Observed} (h : eval o (observe cfg cb now) c = (r, c', l)) :
    SameRoute c c' ∧ ∀ q ∈ l, q.observation = true := by
  have hf := Frame.eval (p := observe cfg cb now) (o := o) SameRoute.refl SameRoute.trans
    (observe_frame sameRoute_sensing) c
  rw [h] at hf
  exact hf

/-! ## What the first half returns -/

/-- A phase that makes no private move leaves the state as it is. -/
theorem eval_frame {α : Type} {p : Tick α} {r : Except Exc α} {C : CtlReq → Prop}
    (hp : p.Frame Eq C) (h : eval o p c = (r, c', l)) : c = c' ∧ ∀ q ∈ l, C q := by
  have hf := hp.eval (o := o) (fun _ => rfl) Eq.trans c
  rw [h] at hf
  exact hf

theorem eval_same {α : Type} {p : Tick α} {r : Except Exc α} {C : CtlReq → Prop}
    (hp : p.Frame Eq C) (h : eval o p c = (r, c', l)) : c = c' :=
  (eval_frame hp h).1

/-- The output mode, when it is returned: expired, or as it was read. -/
theorem stickyMode_ok {b : Bool} {m : PhonoOutputMode}
    (h : eval o (stickyMode cfg cb now b) c = (.ok m, c', l)) :
    m = (match o .phonoOutputMode with
      | .ok .downstairs =>
        match c.phonoModeInactiveSince with
        | some since =>
          if !b && decide (cfg.phonoModeStickyMinutes * 60 ≤ now - since) then .local
          else .downstairs
        | none => .downstairs
      | .ok .local | .error _ => .local) := by
  obtain ⟨mode, c₁, l₁, l₂, hmode, hrest, -⟩ := eval_bind_ok h
  simp only [eval_bind, eval_ask, eval_ofExcept, Prod.mk.injEq] at hmode
  obtain ⟨hmode, rfl, -⟩ := hmode
  rw [hmode]
  obtain ⟨c₂, c₃, l₃, l₄, hget, hrest, -⟩ := eval_bind_ok hrest
  simp only [eval_get, Prod.mk.injEq, Except.ok.injEq] at hget
  obtain ⟨rfl, rfl, -⟩ := hget
  cases mode with
  | «local» =>
    simp [eval_bind] at hrest
    exact hrest.1.symm
  | downstairs =>
    simp only [↓reduceIte] at hrest
    cases b with
    | true =>
      simp only [↓reduceIte] at hrest
      obtain ⟨_, _, _, _, -, hrest, -⟩ := eval_bind_ok hrest
      obtain ⟨_, _, _, _, -, hrest, -⟩ := eval_bind_ok hrest
      simp only [eval_pure, Prod.mk.injEq, Except.ok.injEq] at hrest
      rw [← hrest.1]
      cases c.phonoModeInactiveSince <;> simp
    | false =>
      cases hs : c.phonoModeInactiveSince with
      | none =>
        simp [hs, eval_bind] at hrest
        simp [← hrest.1]
      | some since =>
        simp only [hs, Bool.false_eq_true, ↓reduceIte] at hrest
        split at hrest
        · rename_i hle
          obtain ⟨_, _, _, _, -, hrest, -⟩ := eval_bind_ok hrest
          obtain ⟨_, _, _, _, -, hrest, -⟩ := eval_bind_ok hrest
          simp only [eval_pure, Prod.mk.injEq, Except.ok.injEq] at hrest
          simp [← hrest.1, hle]
        · rename_i hle
          simp only [eval_pure, Prod.mk.injEq, Except.ok.injEq] at hrest
          simp [← hrest.1, hle]

/-- It leaves the Bluetooth detector alone. -/
theorem stickyMode_bluetoothDetector {b : Bool} {r : Except Exc PhonoOutputMode}
    (h : eval o (stickyMode cfg cb now b) c = (r, c', l)) :
    c'.bluetoothDetector = c.bluetoothDetector := by
  have hf := (Frame.eval (p := stickyMode cfg cb now b) (o := o)
    (fun c => ⟨SameRoute.refl c, rfl⟩) (fun h1 h2 => ⟨h1.1.trans h2.1, h2.2.trans h1.2⟩)
    (stickyMode_frame b) c).1.2
  rw [h] at hf
  exact hf

/-- The Bluetooth observations, when they are returned. -/
theorem senseBluetooth_ok {c₀ : Controller} {r : ℚ × Bool × Bool}
    (hdet : c.bluetoothDetector = c₀.bluetoothDetector)
    (h : eval o (senseBluetooth cb now (Sensed.signalPresent cfg cb now o c₀)
      (Sensed.transportPlaying cb o)) c = (.ok r, c', l)) :
    r = ((Sensed.bluetoothSample cfg cb now o c₀).getD (-120),
      Sensed.bluetoothActive cfg cb now o c₀, Sensed.bluetoothPcmReady cfg cb now o c₀) := by
  unfold Sensed.bluetoothActive Sensed.bluetoothPcmReady
  unfold senseBluetooth at h
  rw [← hdet]
  split at h
  · rename_i hmon
    obtain ⟨sample, c₁, l₁, l₂, hs, hrest, -⟩ := eval_bind_ok h
    simp only [eval_exceptException, eval_bind, eval_ask, eval_ofExcept] at hs
    have hsample : sample = Sensed.bluetoothSample cfg cb now o c₀ ∧ c₁ = c := by
      rw [Sensed.bluetoothSample, if_pos hmon]
      revert hs
      rcases o .bluetoothLevelDbfs with (_ | _) | lv <;> intro hs <;> simp at hs
      · exact ⟨hs.1.symm, hs.2.1.symm⟩
      · exact ⟨hs.1.symm, hs.2.1.symm⟩
    obtain ⟨hsample, rfl⟩ := hsample
    rw [← hsample]
    cases sample with
    | none =>
      simp [eval_bind] at hrest
      exact hrest.1.symm
    | some lv =>
      obtain ⟨ready, c₂, l₃, l₄, hready, hlast, -⟩ := eval_bind_ok hrest
      obtain ⟨hr, rfl, -⟩ :=
        given_ok (q := .bluetoothIsPlaying .monitor) (f := fun a => a) hready
      simp only [eval_bind, eval_modify, eval_get, eval_when, eval_pure] at hlast
      cases ht : Sensed.transportPlaying cb o <;> simp [ht] at hlast <;> simp [← hlast.1, ← hr]
  · rename_i hmon
    have hnone : Sensed.bluetoothSample cfg cb now o c₀ = none := if_neg hmon
    rw [hnone]
    obtain ⟨_, _, _, _, -, hrest, -⟩ := eval_bind_ok h
    simp only [eval_pure, Prod.mk.injEq, Except.ok.injEq] at hrest
    exact hrest.1.symm

/-- **The first half**: what it returns is the pure observation of its inputs. -/
theorem observe_ok {x : Observed} (h : eval o (observe cfg cb now) c = (.ok x, c', l)) :
    x = Sensed.observed cfg cb now o c := by
  obtain ⟨⟨ok, level⟩, c₁, _, _, h1, k1, -⟩ := eval_bind_ok h
  obtain ⟨hr, hc1⟩ := readLevel_ok h1
  simp only [Prod.mk.injEq] at hr
  obtain ⟨rfl, rfl⟩ := hr
  obtain ⟨peak, c₂, _, _, h2, k2, -⟩ := eval_bind_ok k1
  obtain ⟨rfl, rfl⟩ := peakLevel_ok h2
  obtain ⟨transport, c₃, _, _, h3, k3, -⟩ := eval_bind_ok k2
  obtain ⟨rfl, rfl⟩ := transport_ok h3
  obtain ⟨⟨active, signal⟩, c₄, _, _, h4, k4, -⟩ := eval_bind_ok k3
  obtain ⟨hr, hc4⟩ := senseActivity_ok cb hc1 h4
  simp only [Prod.mk.injEq] at hr
  obtain ⟨rfl, rfl⟩ := hr
  obtain ⟨⟨pre, outPre⟩, c₅, _, _, h5, k5, -⟩ := eval_bind_ok k4
  have hroute : c₄.route = c.route := by rw [hc4]
  have hr := preactivate_ok hroute h5
  simp only [Prod.mk.injEq] at hr
  obtain ⟨rfl, rfl⟩ := hr
  obtain rfl := eval_same (preactivate_frame (fun _ => rfl) _) h5
  obtain ⟨ma, c₆, _, _, h6, k6, -⟩ := eval_bind_ok k5
  obtain ⟨rfl, rfl⟩ := readMaPlaying_ok h6
  obtain ⟨wh, c₇, _, _, h7, k7, -⟩ := eval_bind_ok k6
  rw [eval_callback .wholeHouseIsRequested (fun a => a)] at h7
  simp only [Prod.mk.injEq] at h7
  obtain ⟨hwh, rfl, -⟩ := h7
  obtain ⟨_, c₈, _, _, h8, k8, -⟩ := eval_bind_ok k7
  obtain rfl := eval_same (inheritMode_frame (fun _ => rfl) _) h8
  obtain ⟨mode, c₉, _, _, h9, k9, -⟩ := eval_bind_ok k8
  have hmode := stickyMode_ok h9
  have hbt : c₉.bluetoothDetector = c.bluetoothDetector := by
    rw [stickyMode_bluetoothDetector h9, hc4]
  obtain ⟨⟨lv, bt, ready⟩, c₁₀, _, _, h10, k10, -⟩ := eval_bind_ok k9
  have hsense := senseBluetooth_ok hbt h10
  simp only [Prod.mk.injEq] at hsense
  obtain ⟨rfl, rfl, rfl⟩ := hsense
  obtain ⟨avail, c₁₁, _, _, h11, k11, -⟩ := eval_bind_ok k10
  obtain ⟨havail, -, -⟩ := given_ok (q := .distributionAvailable) (f := fun a => a) h11
  simp only [eval_pure, Prod.mk.injEq, Except.ok.injEq] at k11
  obtain ⟨rfl, -, -⟩ := k11
  rw [hc4] at hmode
  have havail' : avail = Sensed.available cb o := by
    rw [havail, Sensed.available]
    cases cb.distributionAvailable <;> rfl
  have hwh' : wh = Sensed.truth (o .wholeHouseIsRequested) := by
    rw [hwh]
    rfl
  have hmode' : mode = Sensed.outputMode cfg cb now o c := hmode
  rw [havail', hwh', hmode']
  rfl

end Controller

end PhonoConsole
