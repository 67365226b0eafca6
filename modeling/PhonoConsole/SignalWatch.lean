/-
  THE SIGNAL WATCH: the watcher of line sense beside the publisher whose streams it listens to
  (`_watch_signal`, `_observe_stream_activity` and `_reset_stream_activity` of
  `phono_console/sendspin_source.py`).

  What an iteration detects has two origins: the published status, and a detector that measures the
  blocks of PCM while phono is selected, whatever the pump that got them reads.

  * `SignalWatch`, `signalWatch` — the publisher, its detector and the watcher, with the blocks
    measured since the last reset and the iterations on record;
  * `Listening`         — the detector is active only by a block that was loud enough;
  * `PhonoChanges`      — the moves that leave no pump of another source when phono is selected;
  * `heard`             — in a run of such moves only the phono is measured;
  * `hears_of_detected` — so what an iteration detects there is the selected source.
-/
import PhonoConsole.PhonoPumps
import PhonoConsole.LineSense
import PhonoConsole.DetectorTrace

namespace PhonoConsole

/-! ## The watcher beside the publisher -/

/-- The settings of the watcher and of the detector, which there is only with a threshold. -/
structure SignalSettings where
  signalReleaseSeconds : ℚ
  phonoActivityThresholdDbfs : Option ℚ
  phonoActivityReleaseSeconds : ℚ
  phonoActivityHysteresisDb : ℚ

/-- The detector of the publisher, if a threshold is configured. -/
def SignalSettings.detector (settings : SignalSettings) : Option ActivityDetector :=
  settings.phonoActivityThresholdDbfs.map fun threshold =>
    { thresholdDbfs := threshold
      attackSeconds := 0
      releaseSeconds := settings.phonoActivityReleaseSeconds
      hysteresisDb := settings.phonoActivityHysteresisDb }

/-- A block of PCM that was measured, with the source it was read from. -/
structure Block where
  source : Source
  levelDbfs : ℚ
deriving DecidableEq

/-- An iteration of `_watch_signal`: the selected source, whether the published status reports it,
    the blocks measured since the last reset, what was detected, the two readings of the clock,
    and the signal that was sent. -/
structure Iteration where
  selectedSource : Source
  reported : Bool
  blocks : List Block
  detected : Bool
  noted : ℚ
  compared : ℚ
  sent : Option Bool
deriving DecidableEq

/-- The publisher, its detector, and the watcher's locals.  On record are the blocks measured since
    the last reset, and the iterations since one last found the connection down or the
    distribution disabled. -/
structure SignalWatch where
  publisher : Publisher
  streamActivityDetector : Option ActivityDetector
  streamActivitySeenPresent : Bool := false
  last : Option Bool := none
  absentSince : Option ℚ := none
  clock : ℚ := 0
  blocks : List Block := []
  iterations : List Iteration := []

/-- What the publisher, its pumps and the watcher do next. -/
inductive SignalMove
  /-- a move of the publisher, but for a pump that gets its next block -/
  | publisher (m : Publisher.Move)
  /-- the pump `n` gets a block and sends it -/
  | fed (n : Nat) (levelDbfs now : ℚ)
  | iterate (status : Option Status) (now compared : ℚ)

namespace SignalWatch

/-- `_reset_stream_activity`. -/
def resetStreamActivity (w : SignalWatch) : SignalWatch :=
  { w with
    streamActivityDetector := w.streamActivityDetector.map ActivityDetector.resetInactive
    streamActivitySeenPresent := false
    blocks := [] }

/-- The steps that reset the activity: a change of source, a start, and the end of the stream. -/
def resets (s : Publisher) : Bool :=
  match s.active with
  | some (_, .afterStop (.select _ _)) | some (_, .captured _ false) => true
  | some (t, .pumpEnd _) => s.streamTask.any (Publisher.TaskId.pump · == t) && s.streaming
  | _ => false

/-- `_observe_stream_activity`, and whether the activity changed. -/
def observeStreamActivity (w : SignalWatch) (block : Block) (now : ℚ) : SignalWatch × Bool :=
  match w.streamActivityDetector with
  | some detector =>
    if w.publisher.selectedSource = .phono then
      let updated := detector.update block.levelDbfs now
      ({ w with
        streamActivityDetector := some updated
        streamActivitySeenPresent := w.streamActivitySeenPresent || updated.active
        blocks := w.blocks ++ [block] }, updated.active != detector.active)
    else (w, false)
  | none => (w, false)

/-- The fields that an iteration reads, with no pause latch set. -/
def watcher (w : SignalWatch) : LineSense where
  selectedSource := w.publisher.selectedSource
  distributionEnabled := w.publisher.distributionEnabled
  sourceDistributionEnabled := w.publisher.sourceDistributionEnabled
  last := w.last
  absentSince := w.absentSince

/-- What an iteration of the watcher reads. -/
def poll (w : SignalWatch) (status : Option Status) (now compared : ℚ) : Poll where
  status
  streaming := w.publisher.streaming
  streamRequested := w.publisher.streamRequested
  streamActivity := w.streamActivityDetector.map ActivityDetector.active
  streamActivitySeenPresent := w.streamActivitySeenPresent
  now
  compared

/-- The published status reports the selected source. -/
def reported (w : SignalWatch) (status : Option Status) : Bool :=
  status.any fun status =>
    w.publisher.selectedSource == .phono && status.phonoActive
      || w.publisher.selectedSource == .bluetooth && status.bluetoothActive

/-- `active` and `absent_since` of an iteration. -/
def sense (release : ℚ) (w : SignalWatch) (status : Option Status) (now compared : ℚ) :
    Bool × Option ℚ :=
  w.watcher.sense release (w.poll status now compared)

/-- What goes on record of an iteration. -/
def iteration (release : ℚ) (w : SignalWatch) (status : Option Status) (now compared : ℚ) :
    Iteration where
  selectedSource := w.publisher.selectedSource
  reported := w.reported status
  blocks := w.blocks
  detected := w.watcher.sensed (w.poll status now compared)
  noted := now
  compared
  sent :=
    let active := (w.sense release status now compared).1
    if w.last = some active then none else some active

/-- An iteration, its send included: nobody else touches the locals. -/
def iterate (release : ℚ) (w : SignalWatch) (status : Option Status) (now compared : ℚ) :
    SignalWatch :=
  let (active, absentSince) := w.sense release status now compared
  { w with
    last := if w.publisher.connected then some active else none
    absentSince
    clock := compared
    iterations :=
      if w.publisher.connected && w.watcher.enabled
        then w.iterations ++ [w.iteration release status now compared] else [] }

/-- The publisher has moved on to `p`. -/
def moved (w : SignalWatch) (p : Publisher) : SignalWatch :=
  { (if resets w.publisher then w.resetStreamActivity else w) with publisher := p }

/-- Publisher and watcher after a move. -/
def next (release : ℚ) (w : SignalWatch) : SignalMove → Option SignalWatch
  | .publisher m =>
    match m with
    | .resume _ (.fed _) => none
    | _ => (w.publisher.next m).map w.moved
  | .fed n levelDbfs now =>
    match w.publisher.pc (.pump n) with
    | .pumping source =>
      if w.clock ≤ now then
        let (observed, changed) := w.observeStreamActivity ⟨source, levelDbfs⟩ now
        (w.publisher.next (.resume (.pump n) (.fed changed))).map fun p =>
          { observed with publisher := p, clock := now }
      else none
    | _ => none
  | .iterate status now compared =>
    if w.publisher.active = none ∧ w.clock ≤ now ∧ now ≤ compared then
      some (w.iterate release status now compared)
    else none

end SignalWatch

/-- Every interleaving of the publisher's tasks and their blocks with the iterations, at times that
    never go back; every send succeeds. -/
def signalWatch (settings : SignalSettings) : Machine SignalWatch SignalMove where
  init w := ∃ p clock, Publisher.Initialised p ∧
    w = { publisher := p, streamActivityDetector := settings.detector, clock }
  next w move := w.next settings.signalReleaseSeconds move

/-! ## What the detector has heard -/

/-- The iteration has the selected source reported, or measured and nothing else measured, and one
    of the blocks is at the threshold or above. -/
def Iteration.Hears (settings : SignalSettings) (i : Iteration) : Prop :=
  i.reported = true ∨ i.selectedSource = .phono ∧
    (∀ block ∈ i.blocks, block.source = i.selectedSource) ∧
    ∃ threshold, settings.phonoActivityThresholdDbfs = some threshold ∧
      ∃ block ∈ i.blocks, threshold ≤ block.levelDbfs

namespace SignalWatch

variable {settings : SignalSettings} {w w' : SignalWatch} {move : SignalMove} {block : Block}
  {now : ℚ}

/-- The detector is active only by a block that was loud enough. -/
structure Listening (settings : SignalSettings) (w : SignalWatch) : Prop where
  threshold : ∀ d, w.streamActivityDetector = some d →
    settings.phonoActivityThresholdDbfs = some d.thresholdDbfs
  loud : ∀ d, w.streamActivityDetector = some d → d.active = true →
    ∃ block ∈ w.blocks, d.thresholdDbfs ≤ block.levelDbfs

/-- Activity begins with a block at the threshold or above. -/
theorem loud_of_update {d : ActivityDetector} {level : ℚ} (hinactive : d.active = false)
    (hactive : (d.update level now).active = true) : d.thresholdDbfs ≤ level := by
  cases hc : d.contrary level with
  | false =>
    rw [ActivityDetector.update_agreeing hc] at hactive
    cases hinactive.symm.trans hactive
  | true => simpa [ActivityDetector.contrary, ActivityDetector.boundary, hinactive] using hc

theorem Listening.reset (h : Listening settings w) : Listening settings w.resetStreamActivity where
  threshold d hd := by
    obtain ⟨d₀, hd₀, rfl⟩ := Option.map_eq_some_iff.mp hd
    exact h.threshold d₀ hd₀
  loud d hd hactive := by
    obtain ⟨d₀, -, rfl⟩ := Option.map_eq_some_iff.mp hd
    cases hactive

theorem Listening.moved {p : Publisher} (h : Listening settings w) :
    Listening settings (w.moved p) := by
  unfold SignalWatch.moved
  split
  · exact ⟨h.reset.threshold, h.reset.loud⟩
  · exact ⟨h.threshold, h.loud⟩

theorem Listening.observe (h : Listening settings w) :
    Listening settings (w.observeStreamActivity block now).1 := by
  unfold observeStreamActivity
  split
  · rename_i detector hdetector
    split
    · refine ⟨fun d hd => ?_, fun d hd hactive => ?_⟩
      · obtain rfl := Option.some.inj hd
        rw [(ActivityDetector.update_settings detector block.levelDbfs now).threshold]
        exact h.threshold detector hdetector
      · obtain rfl := Option.some.inj hd
        rw [(ActivityDetector.update_settings detector block.levelDbfs now).threshold]
        cases hbefore : detector.active with
        | true =>
          obtain ⟨earlier, hearlier, hloud⟩ := h.loud detector hdetector hbefore
          exact ⟨earlier, List.mem_append_left _ hearlier, hloud⟩
        | false =>
          exact ⟨block, List.mem_append_right _ List.mem_cons_self, loud_of_update hbefore hactive⟩
    · exact h
  · exact h

/-! ## The moves -/

/-- All moves. -/
inductive Moved (release : ℚ) (w : SignalWatch) : SignalMove → SignalWatch → Prop
  | publisher {m : Publisher.Move} {p : Publisher} (h : w.publisher.next m = some p) :
    Moved release w (.publisher m) (w.moved p)
  | fed {n : Nat} {source : Source} {levelDbfs now : ℚ} {p : Publisher}
    (hpc : w.publisher.pc (.pump n) = .pumping source) (hnow : w.clock ≤ now)
    (h : w.publisher.next (.resume (.pump n)
      (.fed (w.observeStreamActivity ⟨source, levelDbfs⟩ now).2)) = some p) :
    Moved release w (.fed n levelDbfs now)
      { (w.observeStreamActivity ⟨source, levelDbfs⟩ now).1 with publisher := p, clock := now }
  | iterate {status : Option Status} {now compared : ℚ} (hidle : w.publisher.active = none)
    (hnow : w.clock ≤ now) (hcompared : now ≤ compared) :
    Moved release w (.iterate status now compared) (w.iterate release status now compared)

theorem next_moved {release : ℚ} (h : w.next release move = some w') :
    Moved release w move w' := by
  cases move with
  | publisher m =>
    simp only [SignalWatch.next] at h
    split at h
    · cases h
    · obtain ⟨p, hp, rfl⟩ := Option.map_eq_some_iff.mp h
      exact .publisher hp
  | fed n levelDbfs now =>
    simp only [SignalWatch.next] at h
    split at h
    · rename_i source hpc
      split at h
      · rename_i hnow
        obtain ⟨p, hp, rfl⟩ := Option.map_eq_some_iff.mp h
        exact .fed hpc hnow hp
      · cases h
    · cases h
  | iterate status now compared =>
    simp only [SignalWatch.next] at h
    split at h
    · rename_i hadmitted
      obtain rfl := Option.some.inj h
      exact .iterate hadmitted.1 hadmitted.2.1 hadmitted.2.2
    · cases h

theorem moved_blocks (p : Publisher) : ∀ block ∈ (w.moved p).blocks, block ∈ w.blocks := by
  unfold SignalWatch.moved
  split
  · exact fun _ hblock => by cases hblock
  · exact fun _ hblock => hblock

theorem listening {ok : SignalWatch → SignalMove → Prop} (h : (signalWatch settings).Reach ok w) :
    Listening settings w := by
  refine h.invariant (I := Listening settings) ?_ fun w move w' hw _ hnext => ?_
  · rintro w ⟨p, clock, -, rfl⟩
    refine ⟨fun d hd => ?_, fun d hd hactive => ?_⟩
    · obtain ⟨threshold, hthreshold, rfl⟩ := Option.map_eq_some_iff.mp hd
      exact hthreshold
    · obtain ⟨threshold, hthreshold, rfl⟩ := Option.map_eq_some_iff.mp hd
      cases hactive
  · cases next_moved hnext with
    | publisher => exact hw.moved
    | fed => exact ⟨hw.observe.threshold, hw.observe.loud⟩
    | iterate => exact ⟨hw.threshold, hw.loud⟩

/-- The publisher's changes of source to phono are settled. -/
def PhonoChanges (w : SignalWatch) : SignalMove → Prop
  | .publisher m => w.publisher.PhonoSettled m
  | .fed _ _ _ | .iterate _ _ _ => True

/-- The publisher beside the watcher runs as it does alone. -/
theorem publisher_reach (h : (signalWatch settings).Reach PhonoChanges w) :
    Publisher.machine.Reach Publisher.PhonoSettled w.publisher := by
  induction h with
  | init hw =>
    obtain ⟨p, clock, hp, rfl⟩ := hw
    exact .init hp
  | move _ hok hnext ih =>
    cases next_moved hnext with
    | publisher hp => exact .move ih hok hp
    | fed hpc hnow hp => exact .move ih (by unfold Publisher.PhonoSettled; trivial) hp
    | iterate => exact ih

/-- A pump that gets a block reads the source it has opened. -/
theorem fed_reads {s p : Publisher} {n : Nat} {source : Source} {changed : Bool}
    (hpc : s.pc (.pump n) = .pumping source)
    (h : s.next (.resume (.pump n) (.fed changed)) = some p) : s.readSource n = some source := by
  cases Publisher.next_moved h with
  | resume ha hw =>
    refine Publisher.readSource_eq.mpr ⟨?_, by rw [Publisher.place_idle ha, hpc]; rfl⟩
    have hwoken := Publisher.wakes_cases hw
    rw [hpc] at hwoken
    cases hwoken with
    | pumpFed hcancelled => exact hcancelled

/-- **Only the phono is measured**, in every run of settled changes. -/
theorem heard (h : (signalWatch settings).Reach PhonoChanges w) :
    ∀ block ∈ w.blocks, block.source = .phono := by
  refine h.invariant_of (I := fun w => ∀ block ∈ w.blocks, block.source = .phono)
    (fun w hw => Publisher.hears_phono (publisher_reach hw)) ?_ fun w move w' hhears hw _ hnext => ?_
  · rintro w ⟨p, clock, -, rfl⟩ block hblock
    cases hblock
  · cases next_moved hnext with
    | publisher => exact fun block hblock => hw block (moved_blocks _ block hblock)
    | @fed n source level now p hpc hnow hp =>
      show ∀ block ∈ (w.observeStreamActivity ⟨source, level⟩ now).1.blocks, block.source = .phono
      unfold observeStreamActivity
      split
      · split
        · rename_i hselected
          intro block hblock
          rcases List.mem_append.mp hblock with hold | hnew
          · exact hw block hold
          · obtain rfl := List.mem_singleton.mp hnew
            exact hhears hselected n source (fed_reads hpc hp)
        · exact hw
      · exact hw
    | iterate => exact hw

/-- What is detected, no pause latch being set: what is reported, or what was measured of phono. -/
theorem detected_cases {s : LineSense} {i : Poll} (h : s.detected i = true) :
    (i.status.any fun status => s.selectedSource == .phono && status.phonoActive
      || s.selectedSource == .bluetooth && status.bluetoothActive) = true ∨
    s.selectedSource = .phono ∧ i.streamActivity = some true := by
  unfold LineSense.detected at h
  split at h
  · rename_i active hactivity
    split at h
    · rename_i hauthoritative
      simp only [Bool.and_eq_true, beq_iff_eq] at hauthoritative
      exact .inr ⟨hauthoritative.1.1.1, by rw [hactivity, h]⟩
    · exact .inl h
  · exact .inl h

theorem sensed_eq (w : SignalWatch) (status : Option Status) (now compared : ℚ)
    (hsensed : w.watcher.sensed (w.poll status now compared) = true) :
    w.reported status = true ∨ w.publisher.selectedSource = .phono ∧
      ∃ d, w.streamActivityDetector = some d ∧ d.active = true := by
  have hdetected : w.watcher.detected (w.poll status now compared) = true := by
    unfold LineSense.sensed at hsensed
    exact ((Bool.and_eq_true _ _).mp hsensed).1
  rcases detected_cases hdetected with hreported | ⟨hselected, hactivity⟩
  · exact .inl hreported
  · exact .inr ⟨hselected, Option.map_eq_some_iff.mp hactivity⟩

/-- An iteration that detects the selected source hears it. -/
theorem hears_of_detected (h : (signalWatch settings).Reach PhonoChanges w) {release compared : ℚ}
    {status : Option Status}
    (hdetected : (w.iteration release status now compared).detected = true) :
    (w.iteration release status now compared).Hears settings := by
  rcases sensed_eq w status now compared hdetected with hreported | ⟨hselected, d, hd, hactive⟩
  · exact .inl hreported
  · obtain ⟨hthreshold, hloud⟩ := listening h
    refine .inr ⟨hselected, fun block hblock => ?_, _, hthreshold d hd, hloud d hd hactive⟩
    exact (heard h block hblock).trans hselected.symm

end SignalWatch

end PhonoConsole
