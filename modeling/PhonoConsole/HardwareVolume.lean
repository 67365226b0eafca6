/-
  THE ENCODER'S VOLUME: `hardware_volume_action` and `amplifier_volume_action`
  (`phono_console/runtime.py`).

  A detent asks for the volume the amplifier reported last, on Music Assistant's scale, plus or
  minus the step.  The request is rounded to a level of the amplifier, and the level it then has is
  rounded back for the next detent.  Where a step is shorter than a level, both roundings can meet
  at one level, and the encoder turns without effect.

  * `hardwareVolumeAction`, `amplifierVolumeAction` — the two actions, for every route;
  * `listening`      — an amplifier that obeys every key and reports its true level;
  * `setVolume_drive` — `set_volume` against it: where the level goes, and what is published;
  * `turn`           — one detent while Bluetooth plays locally;
  * `RoomUp`, `RoomDown` — the request rounds to a level further on;
  * `detent_iff`     — exactly then a detent makes progress;
  * `turns_reach`    — a long enough run of such detents reaches the end;
  * `encoder_stuck`  — with the default range and step there is a level no detent leaves upward.
-/
import PhonoConsole.SafeVolume
import PhonoConsole.Controls

namespace PhonoConsole

open Coro World

/-! ## The actions -/

/-- `volume_target`: whose volume a turn of the encoder changes. -/
inductive VolumeTarget
  | local
  | downstairs
  | none
deriving DecidableEq

/-- `volume_target_for_route`. -/
def volumeTargetForRoute : Route → VolumeTarget
  | .localPhono | .localBluetooth => .local
  | .maPlayback | .distributedPhono | .distributedBluetooth => .downstairs
  | .idle => .none

/-- The events of the two actions. -/
inductive VolumeEvent
  | musicAssistantChanged (player : String) (volume : ℤ)
  | yamahaChanged (volume : ℤ) (muted : Bool)
  | hardwareVolumeIgnored (route : Route)
  | localPhonoVolumeSaved (volume : ℤ) (source : String)
deriving DecidableEq

/-- What the actions read and await. -/
inductive VolumeReq
  /-- `state.status.route`, if there is a status -/
  | route
  /-- the volume in the amplifier's component record -/
  | reportedVolume
  | getPlayerVolume (player : String)
  | setGroupVolume (player : String) (volume : ℤ)
  | setVolume (volume : ℤ)
  /-- `local_phono_volume_path.write_text` -/
  | saveLocalPhonoVolume (volume : ℤ)
  | emit (event : VolumeEvent)
deriving DecidableEq

/-- What the callbacks of the volume answer. -/
abbrev VolumeRep : VolumeReq → Type
  | .route => Option Route
  | .reportedVolume => Option ℤ
  | .getPlayerVolume _ => Except Exc (Option ℤ)
  | .setGroupVolume _ _ => Except Exc Bool
  | .setVolume _ => Except Exc (ℤ × Bool)
  | .saveLocalPhonoVolume _ | .emit _ => Except Exc Unit

/-- A program over `local_phono_volume`. -/
abbrev Volume (α : Type) : Type := Coro VolumeReq VolumeRep ℤ Exc α

namespace Volume

/-- A request that raises or returns. -/
def perform (q : VolumeReq) {α : Type} (result : VolumeRep q → Except Exc α) : Volume α := do
  let a ← ask q
  .done (result a)

/-- `state.status.route if state.status is not None else Route.IDLE`. -/
def currentRoute : Volume Route := do
  let route ← ask VolumeReq.route
  pure (route.getD .idle)

/-- `amplifier_volume_action`. -/
def amplifierVolumeAction (volume : ℤ) (source : String) : Volume (ℤ × Bool) := do
  let result ← perform (.setVolume volume) id
  let route ← currentRoute
  when (source != "music_assistant" && route == .localPhono) do
    modify fun _ => volume
    perform (.saveLocalPhonoVolume volume) id
    perform (.emit (.localPhonoVolumeSaved volume source)) id
  pure result

/-- `max(0, min(100, current + delta))`. -/
def requested (current delta : ℤ) : ℤ := max 0 (min 100 (current + delta))

/-- `hardware_volume_action`; `player` is the configured distribution target. -/
def hardwareVolumeAction (player : String) (delta : ℤ) : Volume Unit := do
  let route ← currentRoute
  match volumeTargetForRoute route with
  | .downstairs =>
    match ← perform (.getPlayerVolume player) id with
    | none => throw (.exception ("volume unavailable for " ++ player))
    | some current =>
      let target := requested current delta
      if ← perform (.setGroupVolume player target) id then
        perform (.emit (.musicAssistantChanged player target)) id
      else throw (.exception ("player not found: " ++ player))
  | .none => perform (.emit (.hardwareVolumeIgnored route)) id
  | .local =>
    let reported ← ask VolumeReq.reportedVolume
    let saved ← get
    let current := if route = .localPhono then saved else reported.getD 50
    let (volume, muted) ← amplifierVolumeAction (requested current delta) "hardware_encoder"
    perform (.emit (.yamahaChanged volume muted)) id

end Volume

/-! ## An amplifier that reports its true level -/

/-- The amplifier, and the volume in its component record. -/
structure Sideboard where
  amplifier : Amplifier
  reported : Option ℤ
deriving DecidableEq

/-- Every command reaches the amplifier, and a status that is read is the one it has. -/
def listening (cfg : AmplifierConfig) (w : Sideboard) : (q : CecReq) → CecRep q × Sideboard
  | .running => (true, w)
  | .send frame =>
      (.written [], { w with amplifier := w.amplifier.obey cfg.logicalAddress frame })
  | .readMatch .audioStatus _ => (.matched w.amplifier.status, w)
  | .readMatch .powerStatus _ => (.matched 0, w)
  | .publish (.volume volume _ _ _) => (.ok (), { w with reported := some volume })
  | .publish (.power _ _) => (.ok (), { w with reported := none })
  | .spawn _ | .sleep _ | .emit _ | .close => (.ok (), w)

/-- The volume keys leave the mute state alone. -/
theorem Amplifier.up_muted (a : Amplifier) : a.up.muted = a.muted := by
  unfold up
  split <;> rfl

theorem Amplifier.down_muted (a : Amplifier) : a.down.muted = a.muted := rfl

theorem Amplifier.muted_iterate {f : Amplifier → Amplifier} (hf : ∀ a, (f a).muted = a.muted)
    {a : Amplifier} (n : Nat) : (f^[n] a).muted = a.muted := by
  induction n generalizing a with
  | zero => rfl
  | succ n ih => rw [Function.iterate_succ_apply, ih, hf]

namespace CecAmplifier

variable {cfg : AmplifierConfig} {s : CecAmplifier} {w : Sideboard}

/-- The amplifier after the press of a key. -/
def press (cfg : AmplifierConfig) (key : Nat) (a : Amplifier) : Amplifier :=
  a.obey cfg.logicalAddress ⟨cfg.logicalAddress, [0x44, key]⟩

theorem pressKey_drive (key : Nat) : drive (listening cfg) (pressKey cfg key) s w =
    (.ok (), s, { w with amplifier := press cfg key w.amplifier }) := by
  have hrelease : (press cfg key w.amplifier).obey cfg.logicalAddress
      ⟨cfg.logicalAddress, [0x45]⟩ = press cfg key w.amplifier := Amplifier.obey_release
  rw [← hrelease]
  rfl

/-- A loop over a volume key moves the amplifier as often as it is pressed. -/
theorem pressVolumeKey_drive (cfg : AmplifierConfig) (s : CecAmplifier) (w : Sideboard)
    (key n : Nat) : drive (listening cfg) (pressVolumeKey cfg key n) s w =
      (.ok (), s, { w with amplifier := (press cfg key)^[n] w.amplifier }) := by
  induction n generalizing w with
  | zero => rfl
  | succ n ih =>
    rw [pressVolumeKey, drive_bind (pressKey_drive key)]
    exact (drive_bind rfl).trans (ih _)

theorem openProcess_drive (cfg : AmplifierConfig) (s : CecAmplifier) (w : Sideboard) :
    ∃ s', drive (listening cfg) (openProcess cfg) s w = (.ok (), s', w) := by
  obtain ⟨process, returned⟩ := s
  cases process
  · exact ⟨_, rfl⟩
  · exact ⟨_, rfl⟩

theorem queryStatus_drive :
    drive (listening cfg) (queryStatus cfg) s w = (.ok w.amplifier.status, s, w) := by
  obtain ⟨amplifier, reported⟩ := w
  show _ = (_, s, (⟨amplifier, reported⟩ : Sideboard))
  have hquery : amplifier.obey cfg.logicalAddress ⟨cfg.logicalAddress, [0x71]⟩ = amplifier :=
    Amplifier.obey_query
  show (Except.ok (Amplifier.status (amplifier.obey _ _)), s,
    (⟨amplifier.obey _ _, reported⟩ : Sideboard)) = _
  rw [hquery]

/-- The level `set_volume` takes an unmuted amplifier to: muted where it is, or unmuted at the level
    the request stands for. -/
def Goes (cfg : AmplifierConfig) (requested : ℤ) (a a' : Amplifier) : Prop :=
  (requested = 0 → a'.volume = a.volume ∧ a'.muted = true) ∧
  (requested ≠ 0 → (a'.volume : ℤ) = logicalToCec cfg requested ∧ a'.muted = false)

theorem adjust_drive (cfg : AmplifierConfig) (s : CecAmplifier) (requested : ℤ)
    (hunmuted : w.amplifier.muted = false) :
    ∃ a', drive (listening cfg) (adjust cfg requested w.amplifier.status) s w =
      (.ok (), s, { w with amplifier := a' }) ∧ Goes cfg requested w.amplifier a' := by
  obtain ⟨hvolume, hmuted⟩ := w.amplifier.status_fields
  obtain ⟨hlow, hhigh⟩ := logicalToCec_safe cfg requested
  have hmin := cfg.nonneg
  have hmax := cfg.capped
  have hbound := w.amplifier.bounded
  simp only [adjust, hvolume, hmuted, hunmuted]
  by_cases hzero : requested = 0
  · rw [if_pos hzero]
    refine ⟨w.amplifier.toggleMute, ?_, fun _ => ⟨rfl, ?_⟩, fun h => absurd hzero h⟩
    · have hmute : press cfg 0x43 w.amplifier = w.amplifier.toggleMute := Amplifier.obey_mute
      rw [← hmute]
      exact pressKey_drive 0x43
    · simp [Amplifier.toggleMute, hunmuted]
  · rw [if_neg hzero]
    -- an amplifier that is not muted gets the volume key only
    have hskip : drive (listening cfg) (when false (pressKey cfg 0x43)) s w = (.ok (), s, w) := rfl
    have hpress := pressVolumeKey_drive cfg s w
      (if logicalToCec cfg requested > w.amplifier.volume then 0x41 else 0x42)
      (logicalToCec cfg requested - w.amplifier.volume).natAbs
    refine ⟨_, (drive_bind hskip).trans hpress, fun h => absurd h hzero, fun _ => ?_⟩
    -- the target is on the amplifier's scale, so that no press is lost at the end of it
    split
    · have hup : press cfg 0x41 = Amplifier.up := funext fun _ => Amplifier.obey_up
      rw [hup, Amplifier.up_iterate (by omega), Amplifier.muted_iterate Amplifier.up_muted]
      exact ⟨by omega, hunmuted⟩
    · have hdown : press cfg 0x42 = Amplifier.down := funext fun _ => Amplifier.obey_down
      rw [hdown, Amplifier.down_iterate, Amplifier.muted_iterate Amplifier.down_muted]
      exact ⟨by omega, hunmuted⟩

theorem report_drive (a : Amplifier) :
    drive (listening cfg) (report cfg a.status) s w =
      (.ok (if a.muted then 0 else cecToLogical cfg a.volume, a.muted), s,
        { w with reported := some (if a.muted then 0 else cecToLogical cfg a.volume) }) := by
  obtain ⟨hvolume, hmuted⟩ := a.status_fields
  simp only [report, hvolume, hmuted]
  rfl

/-- `set_volume` against such an amplifier, unmuted: it returns, and the component record holds what
    the new level is on Music Assistant's scale. -/
theorem setVolume_drive (henabled : cfg.enabled = true) (hunmuted : w.amplifier.muted = false)
    (target : ℤ) : ∃ s' a' result, drive (listening cfg) (setVolume cfg target) s w =
      (.ok result, s', ⟨a', some (if a'.muted then 0 else cecToLogical cfg a'.volume)⟩) ∧
      Goes cfg (max 0 (min 100 target)) w.amplifier a' := by
  obtain ⟨s', hopen⟩ := openProcess_drive cfg s w
  obtain ⟨a', hadjust, hgoes⟩ := adjust_drive cfg s' (max 0 (min 100 target)) hunmuted
  refine ⟨s', a', (if a'.muted then 0 else cecToLogical cfg a'.volume, a'.muted), ?_, hgoes⟩
  rw [setVolume, henabled, if_neg (by simp), drive_bind hopen]
  refine drive_catchError ?_
  rw [drive_bind queryStatus_drive, drive_bind hadjust, drive_bind queryStatus_drive]
  exact report_drive a'

end CecAmplifier

/-! ## A detent -/

/-- What the encoder's action finds while Bluetooth plays locally: the sideboard, and the session
    with it. -/
structure Cabinet where
  sideboard : Sideboard
  session : CecAmplifier
deriving DecidableEq

/-- The route stays what it is, and `amplifier.set_volume` runs against the amplifier. -/
def localBluetooth (cfg : AmplifierConfig) (w : Cabinet) : (q : VolumeReq) → VolumeRep q × Cabinet
  | .route => (some .localBluetooth, w)
  | .reportedVolume => (w.sideboard.reported, w)
  | .setVolume volume =>
      let (result, session, sideboard) :=
        drive (listening cfg) (CecAmplifier.setVolume cfg volume) w.session w.sideboard
      (result, ⟨sideboard, session⟩)
  | .emit _ => (.ok (), w)
  -- for other routes only
  | .getPlayerVolume _ => (.ok none, w)
  | .setGroupVolume _ _ => (.ok false, w)
  | .saveLocalPhonoVolume _ => (.ok (), w)

/-- A detent, one way or the other. -/
inductive Detent
  | clockwise
  | counterClockwise
deriving DecidableEq

/-- What `_handle_turn` passes to the turn action for a single detent. -/
def Detent.delta (controls : ControlsConfig) : Detent → ℤ
  | .clockwise => 1 * controls.volumeStep
  | .counterClockwise => -1 * controls.volumeStep

/-- The surroundings of a console: the configuration, the target player and the saved profile. -/
structure Console where
  amplifier : AmplifierConfig
  controls : ControlsConfig
  player : String
  localPhonoVolume : ℤ
  enabled : amplifier.enabled = true

/-- A detent's `hardware_volume_action`, and what it leaves. -/
def Console.turn (console : Console) (detent : Detent) (w : Cabinet) : Cabinet :=
  (drive (localBluetooth console.amplifier)
    (Volume.hardwareVolumeAction console.player (detent.delta console.controls))
    console.localPhonoVolume w).2.2

namespace Cabinet

/-- The amplifier's volume, in its own steps. -/
def volume (w : Cabinet) : ℤ := w.sideboard.amplifier.volume

/-- The amplifier is muted. -/
def muted (w : Cabinet) : Bool := w.sideboard.amplifier.muted

/-- The volume the next detent starts from, on Music Assistant's scale. -/
def current (w : Cabinet) : ℤ := w.sideboard.reported.getD 50

/-- Unmuted, at a level of the configured range. -/
structure InRange (cfg : AmplifierConfig) (w : Cabinet) : Prop where
  unmuted : w.muted = false
  low : cfg.volumeMin ≤ w.volume
  high : w.volume ≤ cfg.volumeMax

end Cabinet

namespace Console

variable {console : Console} {detent : Detent} {w : Cabinet}

/-- The request of a detent. -/
def request (console : Console) (detent : Detent) (w : Cabinet) : ℤ :=
  Volume.requested w.current (detent.delta console.controls)

theorem request_bounds (console : Console) (detent : Detent) (w : Cabinet) :
    0 ≤ console.request detent w ∧ console.request detent w ≤ 100 := by
  unfold request Volume.requested
  omega

/-- A detent takes the amplifier to its request, and the level it has is what is reported next. -/
theorem turn_goes (console : Console) (detent : Detent) (hunmuted : w.muted = false) :
    CecAmplifier.Goes console.amplifier (console.request detent w) w.sideboard.amplifier
      (console.turn detent w).sideboard.amplifier ∧
    (console.turn detent w).sideboard.reported =
      some (if (console.turn detent w).muted then 0
        else cecToLogical console.amplifier (console.turn detent w).volume) := by
  obtain ⟨s', a', result, hdrive, hgoes⟩ := CecAmplifier.setVolume_drive (s := w.session)
    (w := w.sideboard) console.enabled hunmuted (console.request detent w)
  obtain ⟨hlow, hhigh⟩ := console.request_bounds detent w
  rw [min_eq_right hhigh, max_eq_right hlow] at hgoes
  generalize hboard : (⟨a', _⟩ : Sideboard) = board at hdrive
  have hset : drive (localBluetooth console.amplifier)
      (Volume.perform (.setVolume (console.request detent w)) id) console.localPhonoVolume w =
      (.ok result, console.localPhonoVolume, ⟨board, s'⟩) := by
    show ((drive (listening console.amplifier) _ w.session w.sideboard).1, _, (⟨_, _⟩ : Cabinet)) = _
    rw [hdrive]
  have haction : drive (localBluetooth console.amplifier)
      (Volume.amplifierVolumeAction (console.request detent w) "hardware_encoder")
      console.localPhonoVolume w = (.ok result, console.localPhonoVolume, ⟨board, s'⟩) := by
    rw [Volume.amplifierVolumeAction, drive_bind hset]
    rfl
  have hturn : console.turn detent w = ⟨board, s'⟩ := by
    show (drive _ (Volume.amplifierVolumeAction (console.request detent w) "hardware_encoder" >>=
      fun _ => _) console.localPhonoVolume w).2.2 = _
    rw [drive_bind haction]
    rfl
  rw [hturn, ← hboard]
  exact ⟨hgoes, rfl⟩

end Console

/-! ## When a detent makes progress -/

/-- A request of Music Assistant's scale rounds to a level above `level`: it lies past the middle
    to the next level, or in the middle when the next level is even. -/
def RoomUp (cfg : AmplifierConfig) (requested level : ℤ) : Prop :=
  let span := cfg.volumeMax - cfg.volumeMin
  let middle := 99 * (2 * (level - cfg.volumeMin) + 1)
  1 ≤ requested ∧ (middle < 2 * span * (requested - 1) ∨
    (middle = 2 * span * (requested - 1) ∧ level % 2 = 1))

/-- A request mutes, or rounds to a level below `level`. -/
def RoomDown (cfg : AmplifierConfig) (requested level : ℤ) : Prop :=
  let span := cfg.volumeMax - cfg.volumeMin
  let middle := 99 * (2 * (level - cfg.volumeMin) - 1)
  requested = 0 ∨ 2 * span * (requested - 1) < middle ∨
    (2 * span * (requested - 1) = middle ∧ level % 2 = 1)

variable {cfg : AmplifierConfig} {requested level : ℤ}

theorem lt_logicalToCec_iff (hlow : 1 ≤ requested) (hhigh : requested ≤ 100) :
    level < logicalToCec cfg requested ↔ RoomUp cfg requested level := by
  have hclamp : max 1 (min 100 requested) = requested := by omega
  unfold logicalToCec RoomUp
  dsimp only
  rw [hclamp, pyRound_eq, Rounding.lt_halfEven_iff, and_iff_right hlow]
  refine or_congr ?_ (and_congr_left' ?_)
  · rw [← Int.cast_lt (R := ℚ)]
    push_cast
    constructor <;> intro h <;> linarith
  · rw [← @Int.cast_inj ℚ]
    push_cast
    constructor <;> intro h <;> linarith

theorem logicalToCec_lt_iff (hlow : 1 ≤ requested) (hhigh : requested ≤ 100) :
    logicalToCec cfg requested < level ↔ RoomDown cfg requested level := by
  have hclamp : max 1 (min 100 requested) = requested := by omega
  have hrequested : requested ≠ 0 := by omega
  unfold logicalToCec RoomDown
  dsimp only
  rw [hclamp, pyRound_eq, Rounding.halfEven_lt_iff, or_iff_right hrequested]
  refine or_congr ?_ (and_congr_left' ?_)
  · rw [← Int.cast_lt (R := ℚ)]
    push_cast
    constructor <;> intro h <;> linarith
  · rw [← @Int.cast_inj ℚ]
    push_cast
    constructor <;> intro h <;> linarith

namespace Console

variable {console : Console} {detent : Detent} {w : Cabinet}

/-- The end of the range in the direction of a detent, or mute. -/
def AtEnd (console : Console) (w : Cabinet) : Detent → Prop
  | .clockwise => w.volume = console.amplifier.volumeMax
  | .counterClockwise => w.volume = console.amplifier.volumeMin ∨ w.muted = true

/-- A clockwise detent raises the volume unless it is at the maximum; a counter-clockwise one lowers
    it or mutes unless it is at the minimum. -/
def Progresses (console : Console) (w : Cabinet) : Detent → Prop
  | .clockwise => w.volume = console.amplifier.volumeMax ∨
      w.volume < (console.turn .clockwise w).volume
  | .counterClockwise => w.volume = console.amplifier.volumeMin ∨
      (console.turn .counterClockwise w).volume < w.volume ∨
      (console.turn .counterClockwise w).muted = true

/-- The condition on the state before a detent. -/
def Room (console : Console) (w : Cabinet) : Detent → Prop
  | .clockwise => w.volume = console.amplifier.volumeMax ∨
      RoomUp console.amplifier (console.request .clockwise w) w.volume
  | .counterClockwise => w.volume = console.amplifier.volumeMin ∨
      RoomDown console.amplifier (console.request .counterClockwise w) w.volume

/-- The level a detent leaves, by its request. -/
theorem turn_level (console : Console) (detent : Detent) (hunmuted : w.muted = false) :
    (console.request detent w = 0 ∧ (console.turn detent w).volume = w.volume ∧
      (console.turn detent w).muted = true) ∨
    (1 ≤ console.request detent w ∧ (console.turn detent w).muted = false ∧
      (console.turn detent w).volume =
        logicalToCec console.amplifier (console.request detent w)) := by
  obtain ⟨⟨hmutes, hlevel⟩, -⟩ := turn_goes console detent hunmuted
  obtain ⟨hlow, -⟩ := console.request_bounds detent w
  by_cases hzero : console.request detent w = 0
  · obtain ⟨hvolume, hmuted⟩ := hmutes hzero
    exact .inl ⟨hzero, congrArg Nat.cast hvolume, hmuted⟩
  · obtain ⟨hvolume, hmuted⟩ := hlevel hzero
    exact .inr ⟨by omega, hmuted, hvolume⟩

/-- A detent makes progress exactly when there is room for it. -/
theorem detent_iff (hunmuted : w.muted = false) :
    console.Progresses w detent ↔ console.Room w detent := by
  obtain ⟨-, hhigh⟩ := console.request_bounds detent w
  cases detent with
  | clockwise =>
    refine or_congr Iff.rfl ?_
    rcases turn_level console _ hunmuted with ⟨hzero, hvolume, -⟩ | ⟨hone, -, hvolume⟩
    · rw [hvolume, hzero]
      exact iff_of_false (lt_irrefl _) fun h => absurd h.1 (by norm_num)
    · rw [hvolume]
      exact lt_logicalToCec_iff hone hhigh
  | counterClockwise =>
    refine or_congr Iff.rfl ?_
    rcases turn_level console _ hunmuted with ⟨hzero, -, hmuted⟩ | ⟨hone, hmuted, hvolume⟩
    · exact iff_of_true (.inr hmuted) (.inl hzero)
    · rw [hvolume, hmuted]
      simpa using logicalToCec_lt_iff hone hhigh

/-- How far it is to the end of the range. -/
def distance (console : Console) (w : Cabinet) : Detent → ℤ
  | .clockwise => console.amplifier.volumeMax - w.volume
  | .counterClockwise => w.volume - console.amplifier.volumeMin

/-- A detent with room for it reaches the end, or comes nearer and stays in range. -/
theorem turn_nearer (hrange : w.InRange console.amplifier) (hroom : console.Room w detent) :
    console.AtEnd w detent ∨ console.AtEnd (console.turn detent w) detent ∨
      ((console.turn detent w).InRange console.amplifier ∧
        console.distance (console.turn detent w) detent < console.distance w detent) := by
  have hprogress := (detent_iff hrange.unmuted).mpr hroom
  have hlevel := turn_level console detent hrange.unmuted
  have hkept : (console.turn detent w).muted = false →
      (console.turn detent w).InRange console.amplifier := by
    intro hunmuted
    rcases hlevel with ⟨-, -, hmuted⟩ | ⟨-, -, hvolume⟩
    · rw [hmuted] at hunmuted
      cases hunmuted
    · obtain ⟨hmin, hmax⟩ := logicalToCec_safe console.amplifier (console.request detent w)
      rw [← hvolume] at hmin hmax
      exact ⟨hunmuted, hmin, hmax⟩
  cases detent with
  | clockwise =>
    rcases hprogress with hend | hrises
    · exact .inl hend
    · rcases hlevel with ⟨-, hvolume, -⟩ | ⟨-, hunmuted, -⟩
      · omega
      · exact .inr (.inr ⟨hkept hunmuted, sub_lt_sub_left hrises _⟩)
  | counterClockwise =>
    rcases hprogress with hend | hfalls | hmuted
    · exact .inl (.inl hend)
    · rcases hlevel with ⟨-, hvolume, -⟩ | ⟨-, hunmuted, -⟩
      · omega
      · exact .inr (.inr ⟨hkept hunmuted, sub_lt_sub_right hfalls _⟩)
    · exact .inr (.inl (.inr hmuted))

/-- A run of detents, each with room for it, reaches the end within as many detents as there are
    levels to go. -/
theorem turns_reach (n : Nat) (hrange : w.InRange console.amplifier)
    (hn : console.distance w detent ≤ n)
    (hroom : ∀ k < n, console.Room ((console.turn detent)^[k] w) detent) :
    ∃ k ≤ n, console.AtEnd ((console.turn detent)^[k] w) detent := by
  induction n generalizing w with
  | zero =>
    refine ⟨0, le_rfl, ?_⟩
    have hlow := hrange.low
    have hhigh := hrange.high
    cases detent with
    | clockwise =>
      have hnear : console.amplifier.volumeMax - w.volume ≤ 0 := hn
      show w.volume = console.amplifier.volumeMax
      omega
    | counterClockwise =>
      have hnear : w.volume - console.amplifier.volumeMin ≤ 0 := hn
      have hend : w.volume = console.amplifier.volumeMin := by omega
      exact .inl hend
  | succ n ih =>
    rcases turn_nearer hrange (hroom 0 n.succ_pos) with hend | hend | ⟨hrange', hnearer⟩
    · exact ⟨0, Nat.zero_le _, hend⟩
    · exact ⟨1, by omega, hend⟩
    · obtain ⟨k, hk, hend⟩ := ih hrange' (by omega) fun k hk => by
        rw [← Function.iterate_succ_apply]
        exact hroom (k + 1) (by omega)
      rw [← Function.iterate_succ_apply] at hend
      exact ⟨k + 1, by omega, hend⟩

/-- For every range, step, level in the range and reported volume: a detent makes progress exactly
    when there is room for it; and a run of detents, each with room for it, reaches the end of the
    range. -/
theorem encoder_progress (console : Console) (detent : Detent) {w : Cabinet}
    (hrange : w.InRange console.amplifier) :
    (console.Progresses w detent ↔ console.Room w detent) ∧
    ∀ n : Nat, console.distance w detent ≤ n →
      (∀ k < n, console.Room ((console.turn detent)^[k] w) detent) →
      ∃ k ≤ n, console.AtEnd ((console.turn detent)^[k] w) detent :=
  ⟨detent_iff hrange.unmuted, fun n hn hroom => turns_reach n hrange hn hroom⟩

/-- A console with the default target and profile. -/
def household (amplifier : AmplifierConfig) (controls : ControlsConfig)
    (enabled : amplifier.enabled = true) : Console :=
  ⟨amplifier, controls, "Downstairs", 50, enabled⟩

/-- An unmuted amplifier at `level`, which has reported `volume`. -/
def cabinet (level : Nat) (bounded : level < 128) (volume : ℤ) : Cabinet :=
  ⟨⟨⟨level, false, bounded⟩, some volume⟩, {}⟩

/-- A step that is longer than a level of the default range. -/
def coarse : ControlsConfig := ⟨4, 1 / 25, by norm_num, by norm_num⟩

/-- Two such detents from two levels below the maximum. -/
theorem encoder_progress_end : ∃ k ≤ 2, AtEnd (household {} coarse rfl)
    (((household {} coarse rfl).turn .clockwise)^[k] (cabinet 43 (by decide) 93)) .clockwise := by
  refine (encoder_progress (household {} coarse rfl) .clockwise
    (w := cabinet 43 (by decide) 93) ⟨rfl, by decide, by decide⟩).2 2 (by decide) ?_
  intro k hk
  have hfirst : k = 0 ∨ k = 1 := by omega
  unfold Room RoomUp
  rcases hfirst with rfl | rfl
  · decide +kernel
  · decide +kernel

/-- With the default range and step, an amplifier at 23 reports 27; a clockwise detent asks for 29,
    which is 23 again. -/
theorem encoder_stuck : ¬ ∀ (console : Console) (detent : Detent) (w : Cabinet),
    w.InRange console.amplifier →
    w.sideboard.reported = some (cecToLogical console.amplifier w.volume) →
    console.Progresses w detent := by
  intro hall
  have hstuck := hall (household {} HardwareControls.defaultControls rfl) .clockwise
    (cabinet 23 (by norm_num) 27) ⟨rfl, by decide, by decide⟩ (by decide +kernel)
  unfold Progresses at hstuck
  revert hstuck
  decide +kernel

end Console

end PhonoConsole
