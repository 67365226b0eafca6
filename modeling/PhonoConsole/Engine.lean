/-
  THE NATIVE CAPTURE ENGINE (`native/src/engine.c`, `native/src/clock_estimator.c`).

  `phono_run_engine` accepts one client at a time and calls `capture_client` for it again and
  again; `capture_client` opens the device, reads blocks, and sends each as one packet whose header
  carries an epoch, a sequence number and the pending flags.  One turn of its loop is one move
  here; the answers of ALSA, of the socket and of the signals are in the move.

  * `LongDouble`      — the operations of the C type, none of whose laws is used: the clock
    arithmetic is translated over any such type, and everything proved holds for each of them;
  * `Capture`         — the local variables of `capture_client`;
  * `State`, `engine` — the serving loop, with a log of the packets built for the present client:
    their headers, what was observed when they were read, and whether they were delivered.

  Times and counts of the outside (hardware clocks, available frames) are unbounded; sequence
  numbers, sample positions and every word of a header have the widths of the source.  The epoch
  counts without a bound, and the header takes it modulo its width, as `uint32_t` does.
-/
import PhonoConsole.Lib.Machine
import PhonoConsole.Protocol
import Mathlib.Algebra.Order.Floor.Ring
import Mathlib.Data.Rat.Floor

namespace PhonoConsole.Engine

open Protocol

/-! ## Long doubles -/

/-- The C type `long double` with the operations the clock code uses. -/
class LongDouble (F : Type) extends Add F, Sub F, Mul F, Div F, Neg F, LT F, LE F, BEq F where
  ofInt : Int → F
  llroundl : F → Int
  decidableLT : DecidableLT F
  decidableLE : DecidableLE F

instance LongDouble.instDecidableLT (F : Type) [LongDouble F] : DecidableLT F :=
  LongDouble.decidableLT

instance LongDouble.instDecidableLE (F : Type) [LongDouble F] : DecidableLE F :=
  LongDouble.decidableLE

/-- Exact arithmetic, for runs that are evaluated: `llroundl` rounds halves away from zero. -/
instance : LongDouble ℚ where
  ofInt n := n
  llroundl q := if q < 0 then -⌊-q + 1 / 2⌋ else ⌊q + 1 / 2⌋
  decidableLT := inferInstance
  decidableLE := inferInstance

/-! ## The clock estimator -/

section Clock

variable {F : Type} [LongDouble F]

open LongDouble (ofInt llroundl)

/-- `struct phono_clock_observation`. -/
structure ClockObservation where
  samplePosition : UInt64 := 0
  timestampUs : Int := 0

/-- `PHONO_CLOCK_OBSERVATIONS`. -/
def clockObservations : Nat := 2048

/-- The ring of observations, read up to `count`. -/
structure ClockEstimator where
  observations : Nat → ClockObservation := fun _ => {}
  count : Nat := 0
  next : Nat := 0

/-- `struct phono_clock_fit`, less its residual. -/
structure ClockFit (F : Type) where
  usPerSample : F
  interceptUs : F
  firstSamplePosition : UInt64
  lastSamplePosition : UInt64
  observations : Nat

/-- `struct phono_clock_mapper`. -/
structure ClockMapper (F : Type) where
  anchorSample : UInt64
  anchorTimeUs : Int
  usPerSample : F
  initialized : Bool

/-- `phono_clock_reset`. -/
def phonoClockReset : ClockEstimator := {}

/-- `phono_clock_observe`: a ring of the latest observations. -/
def phonoClockObserve (estimator : ClockEstimator) (samplePosition : UInt64) (timestampUs : Int) :
    ClockEstimator where
  observations index :=
    if index = estimator.next then ⟨samplePosition, timestampUs⟩ else estimator.observations index
  next := (estimator.next + 1) % clockObservations
  count := if estimator.count < clockObservations then estimator.count + 1 else estimator.count

/-- The least-squares line through the observations; `none` where the source returns false. -/
def phonoClockFit (estimator : ClockEstimator) : Option (ClockFit F) :=
  if estimator.count < 2 then none
  else
    let items := (List.range estimator.count).map estimator.observations
    let count : F := ofInt estimator.count
    let sample (item : ClockObservation) : F := ofInt item.samplePosition.toNat
    let meanSample := items.foldl (fun sum item => sum + sample item) (ofInt 0) / count
    let meanTime := items.foldl (fun sum item => sum + ofInt item.timestampUs) (ofInt 0) / count
    let first := items.foldl (fun first item => min item.samplePosition first) 0xffffffffffffffff
    let last := items.foldl (fun last item => max item.samplePosition last) 0
    let covariance := items.foldl (fun sum item =>
      sum + (sample item - meanSample) * (ofInt item.timestampUs - meanTime)) (ofInt 0)
    let variance := items.foldl (fun sum item =>
      sum + (sample item - meanSample) * (sample item - meanSample)) (ofInt 0)
    if variance == ofInt 0 then none
    else
      let usPerSample := covariance / variance
      let fit : ClockFit F :=
        { usPerSample
          interceptUs := meanTime - usPerSample * meanSample
          firstSamplePosition := first
          lastSamplePosition := last
          observations := estimator.count }
      if ofInt 0 < usPerSample then some fit else none

/-- `phono_clock_mapper_reset`. -/
def phonoClockMapperReset : ClockMapper F where
  anchorSample := 0
  anchorTimeUs := 0
  usPerSample := ofInt 0
  initialized := false

/-- `phono_clock_mapper_init`: the nominal rate from this sample on. -/
def phonoClockMapperInit (samplePosition : UInt64) (timestampUs : Int) (nominalRateHz : Nat) :
    ClockMapper F where
  anchorSample := samplePosition
  anchorTimeUs := timestampUs
  usPerSample := ofInt 1000000 / ofInt nominalRateHz
  initialized := true

/-- `phono_clock_mapper_timestamp`: the time of a sample, to the microsecond. -/
def phonoClockMapperTimestamp (mapper : ClockMapper F) (samplePosition : UInt64) : Int :=
  let sampleDelta : F := ofInt samplePosition.toNat - ofInt mapper.anchorSample.toNat
  mapper.anchorTimeUs + llroundl (sampleDelta * mapper.usPerSample)

/-- `phono_clock_mapper_update`: re-anchored at the sample, its slope turned by a bounded step. -/
def phonoClockMapperUpdate (mapper : ClockMapper F) (fit : ClockFit F) (samplePosition : UInt64)
    (maxStepPpm : F) : ClockMapper F :=
  if ¬ mapper.initialized ∨ fit.usPerSample ≤ ofInt 0 then mapper
  else
    let limit := mapper.usPerSample * maxStepPpm / ofInt 1000000
    let change := fit.usPerSample - mapper.usPerSample
    let change := if limit < change then limit else change
    let change := if change < -limit then -limit else change
    { mapper with
      anchorSample := samplePosition
      anchorTimeUs := phonoClockMapperTimestamp mapper samplePosition
      usPerSample := mapper.usPerSample + change }

end Clock

/-! ## A capture -/

/-- `enum phono_audio_frame_flags`. -/
def flagDiscontinuity : UInt32 := (1 : UInt32) <<< 0
/-- `PHONO_AUDIO_FLAG_XRUN_RECOVERED`. -/
def flagXrunRecovered : UInt32 := (1 : UInt32) <<< 1
/-- `PHONO_AUDIO_FLAG_CLOCK_RESET`. -/
def flagClockReset : UInt32 := (1 : UInt32) <<< 2

/-- What the engine was started with, as far as packets depend on it. -/
structure Options where
  source : UInt16
  requestedChannels : Nat

/-- What `open_capture` negotiated. -/
structure Negotiated where
  rate : Nat
  period : Nat
  rate_pos : 0 < rate

/-- The variables of `capture_client`'s loop. -/
structure Capture (F : Type) where
  pcm : Negotiated
  estimator : ClockEstimator
  mapper : ClockMapper F
  samplePosition : UInt64
  sequence : UInt64
  nextFlags : UInt32
  observationsSinceFit : Nat

/-- `struct timespec`. -/
structure Timespec where
  tvSec : Int
  tvNsec : Int

/-- `timespec_us`. -/
def timespecUs (value : Timespec) : Int := value.tvSec * 1000000 + value.tvNsec.tdiv 1000

/-- What `send` answers: the whole packet taken, no room, or an error or a short count. -/
inductive Sent where
  | whole
  | again
  | gone
deriving DecidableEq

/-- One turn of the capture loop, by what ALSA and the socket answer in it. -/
inductive Turn where
  | waitTimeout
  | waitError (recovered : Bool)
  | timestampError
  | readError (recovered : Bool)
  | readNothing
  | read (available : Nat) (hardwareTime : Timespec) (frames : Nat) (sent : Sent)

section Capture

variable {F : Type} [LongDouble F]

open LongDouble (ofInt)

/-- The state in which `capture_client` enters its loop. -/
def Capture.start (pcm : Negotiated) : Capture F where
  pcm := pcm
  estimator := phonoClockReset
  mapper := phonoClockMapperReset
  samplePosition := 0
  sequence := 0
  nextFlags := flagDiscontinuity ||| flagClockReset
  observationsSinceFit := 0

/-- What a successful `snd_pcm_recover` is followed by; `(*epoch)++` is beside it. -/
def Capture.recovered (c : Capture F) : Capture F :=
  { c with
    estimator := phonoClockReset
    mapper := phonoClockMapperReset
    nextFlags := c.nextFlags ||| (flagDiscontinuity ||| flagXrunRecovered ||| flagClockReset) }

/-- The observation of a block, which feeds the fit. -/
def Capture.observe (c : Capture F) (observedFirstUs : Int) : Capture F :=
  let estimator := phonoClockObserve c.estimator c.samplePosition observedFirstUs
  let mapper :=
    if c.mapper.initialized then c.mapper
    else phonoClockMapperInit c.samplePosition observedFirstUs c.pcm.rate
  let observationsSinceFit := c.observationsSinceFit + 1
  if 50 ≤ estimator.count ∧ 50 ≤ observationsSinceFit then
    let mapper :=
      match phonoClockFit estimator with
      | some fit => phonoClockMapperUpdate mapper fit c.samplePosition (ofInt 10)
      | none => mapper
    { c with estimator, mapper, observationsSinceFit := 0 }
  else { c with estimator, mapper, observationsSinceFit }

/-- The header built for a block of the capture. -/
def Capture.header (c : Capture F) (options : Options) (epoch frames : Nat) :
    PhonoAudioFrameHeader where
  source := options.source
  flags := c.nextFlags
  sequence := c.sequence
  firstSampleTimeUs := Int64.ofInt (phonoClockMapperTimestamp c.mapper c.samplePosition)
  sourceRateHz := UInt32.ofNat c.pcm.rate
  outputRateHz := UInt32.ofNat c.pcm.rate
  channels := UInt16.ofNat options.requestedChannels
  frames := UInt16.ofNat frames
  reportedTransportDelayUs := 0
  epoch := UInt32.ofNat epoch
  pcmBytes := UInt32.ofNat (frames * options.requestedChannels * 2)

/-- The end of a turn: the flags that stay pending, the sample counter and the sequence. -/
def Capture.advance (c : Capture F) (frames : Nat) (nextFlags : UInt32) : Capture F :=
  { c with
    nextFlags
    samplePosition := c.samplePosition + UInt64.ofNat frames
    sequence := c.sequence + 1 }

end Capture

/-! ## The serving loop -/

/-- A packet built for the client: its header, the capture and the epoch it belongs to, what was
    read, and whether it was delivered. -/
structure Packet where
  header : PhonoAudioFrameHeader
  capture : Nat
  epoch : Nat
  rate : Nat
  frames : Nat
  observedFirstUs : Int
  delivered : Bool
deriving DecidableEq

/-- Where `phono_run_engine` is: at `accept`, before a call of `capture_client`, in its loop, in
    `wait_for_capture_or_disconnect`, or returned. -/
inductive Phase (F : Type) where
  | accepting
  | serving
  | capturing (c : Capture F)
  | waiting
  | ended

/-- The engine, the number of captures opened for the present client, and the packets built for
    it, oldest first. -/
structure State (F : Type) where
  running : Bool := true
  epoch : Nat := 1
  phase : Phase F := .accepting
  captures : Nat := 0
  log : List Packet := []

/-- What `accept` answers. -/
inductive Accepted where
  | client
  | interrupted
  | failed
deriving DecidableEq

/-- What can happen next.  `stopped` is a loop head that finds `running` cleared. -/
inductive Move where
  | signal
  | stopped
  | accept (answer : Accepted)
  | openCapture (answer : Option Negotiated) (allocated : Bool)
  | turn (t : Turn)
  | poll (stays : Bool)

section Engine

variable {F : Type} [LongDouble F]

/-- `close(client); epoch++`. -/
def State.closeClient (s : State F) : State F :=
  { s with epoch := s.epoch + 1, phase := .accepting }

/-- The end of an opened capture without `client_gone`: `epoch++`, then the wait. -/
def State.captureEnds (s : State F) : State F :=
  { s with epoch := s.epoch + 1, phase := .waiting }

/-- `capture_client` up to its loop. -/
def State.openCapture (s : State F) (answer : Option Negotiated) (allocated : Bool) : State F :=
  match answer with
  | none => { s with phase := .waiting }
  | some pcm =>
    -- the result -1 is true in C, and breaks the client's loop
    if 65535 < pcm.period ∨ ¬ allocated then s.closeClient
    else { s with phase := .capturing (.start pcm), captures := s.captures + 1 }

/-- A recovered xrun begins an epoch; one that is not recovered leaves the loop. -/
def State.recover (s : State F) (c : Capture F) (recovered : Bool) : State F :=
  if recovered then { s with epoch := s.epoch + 1, phase := .capturing c.recovered }
  else s.captureEnds

/-- A block read: observed, made into a packet, and sent. -/
def State.read (options : Options) (s : State F) (c : Capture F) (available : Nat)
    (hardwareTime : Timespec) (frames : Nat) (sent : Sent) : State F :=
  let observedFirstUs :=
    timespecUs hardwareTime - ((available : Int) * 1000000).tdiv c.pcm.rate
  let c := c.observe observedFirstUs
  let packet : Packet :=
    { header := c.header options s.epoch frames
      capture := s.captures
      epoch := s.epoch
      rate := c.pcm.rate
      frames
      observedFirstUs
      delivered := sent = .whole }
  let s := { s with log := s.log ++ [packet] }
  match sent with
  | .again => { s with phase := .capturing (c.advance frames (c.nextFlags ||| flagDiscontinuity)) }
  | .gone => s.closeClient
  | .whole => { s with phase := .capturing (c.advance frames 0) }

/-- One turn of `capture_client`'s loop. -/
def State.turn (options : Options) (s : State F) (c : Capture F) : Turn → State F
  | .waitTimeout => s
  | .waitError recovered => s.recover c recovered
  | .timestampError => s.captureEnds
  | .readError recovered => s.recover c recovered
  | .readNothing => s
  | .read available hardwareTime frames sent => s.read options c available hardwareTime frames sent

/-- `snd_pcm_readi` gives at most a period. -/
def Turn.within (pcm : Negotiated) : Turn → Prop
  | .read _ _ frames _ => 0 < frames ∧ frames ≤ pcm.period
  | _ => True

instance (pcm : Negotiated) : (t : Turn) → Decidable (t.within pcm)
  | .read _ _ frames _ => inferInstanceAs (Decidable (0 < frames ∧ frames ≤ pcm.period))
  | .waitTimeout | .waitError _ | .timestampError | .readError _ | .readNothing => isTrue trivial

/-- A loop head with `running` cleared: each loop in turn is left. -/
def State.stopped (s : State F) : State F :=
  match s.phase with
  | .accepting => { s with phase := .ended }
  | .serving => s.closeClient
  | .capturing _ => s.captureEnds
  | .waiting => s.closeClient
  | .ended => s

/-- The engine after `accept`. -/
def State.accept (s : State F) : Accepted → State F
  | .client => { s with phase := .serving, captures := 0, log := [] }
  | .interrupted => s
  | .failed => { s with phase := .ended }

/-- The engine after a move, where its loops admit it. -/
def next (options : Options) (s : State F) (m : Move) : Option (State F) :=
  match m, s.phase with
  | .signal, _ => some { s with running := false }
  | .stopped, _ => if s.running then none else some s.stopped
  | .accept answer, .accepting => if s.running then some (s.accept answer) else none
  | .openCapture answer allocated, .serving =>
      if s.running then some (s.openCapture answer allocated) else none
  | .turn t, .capturing c =>
      if s.running ∧ t.within c.pcm then some (s.turn options c t) else none
  | .poll stays, .waiting =>
      some (if stays ∧ s.running then { s with phase := .serving } else s.closeClient)
  | _, _ => none

/-- `phono_run_engine`, from the first `accept`. -/
def engine (F : Type) [LongDouble F] (options : Options) : Machine (State F) Move where
  init s := s = {}
  next := next options

omit [LongDouble F] in
/-- Where a loop head leads that finds `running` cleared. -/
theorem State.stopped_cases (s : State F) :
    ((∀ c, s.phase ≠ .capturing c) ∧ s.stopped = { s with phase := .ended }) ∨
    s.stopped = s.closeClient ∨ s.stopped = s.captureEnds := by
  unfold State.stopped
  split
  · rename_i hphase
    exact .inl ⟨by simp [hphase], rfl⟩
  · exact .inr (.inl rfl)
  · exact .inr (.inr rfl)
  · exact .inr (.inl rfl)
  · rename_i hphase
    refine .inl ⟨by simp [hphase], ?_⟩
    rw [← hphase]

/-- What a move does, and what it finds. -/
theorem next_cases {options : Options} {s s' : State F} {m : Move} (h : next options s m = some s') :
    (m = .signal ∧ s' = { s with running := false }) ∨
    (m = .stopped ∧ s.running = false ∧ s' = s.stopped) ∨
    (∃ answer, m = .accept answer ∧ s.phase = .accepting ∧ s' = s.accept answer) ∨
    (∃ answer allocated, m = .openCapture answer allocated ∧ s.phase = .serving ∧
      s' = s.openCapture answer allocated) ∨
    (∃ t c, m = .turn t ∧ s.phase = .capturing c ∧ t.within c.pcm ∧ s' = s.turn options c t) ∨
    ∃ stays, m = .poll stays ∧ s.phase = .waiting ∧
      (s' = { s with phase := .serving } ∨ s' = s.closeClient) := by
  unfold next at h
  split at h
  · exact .inl ⟨rfl, (Option.some.inj h).symm⟩
  · split at h
    · cases h
    · rename_i hstopped
      exact .inr (.inl ⟨rfl, Bool.eq_false_iff.mpr hstopped, (Option.some.inj h).symm⟩)
  · rename_i answer hphase
    split at h
    · exact .inr (.inr (.inl ⟨answer, rfl, hphase, (Option.some.inj h).symm⟩))
    · cases h
  · rename_i answer allocated hphase
    split at h
    · exact .inr (.inr (.inr (.inl ⟨answer, allocated, rfl, hphase, (Option.some.inj h).symm⟩)))
    · cases h
  · rename_i t c hphase
    split at h
    · rename_i hturn
      exact .inr (.inr (.inr (.inr (.inl
        ⟨t, c, rfl, hphase, hturn.2, (Option.some.inj h).symm⟩))))
    · cases h
  · rename_i stays hphase
    obtain rfl := Option.some.inj h
    refine .inr (.inr (.inr (.inr (.inr ⟨stays, rfl, hphase, ?_⟩))))
    split
    · exact .inl rfl
    · exact .inr rfl
  · cases h

end Engine

end PhonoConsole.Engine
