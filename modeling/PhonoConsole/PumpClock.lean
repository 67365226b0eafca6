/-
  THE CLOCK OF THE PUMP: the loop of `_pump` (`phono_console/sendspin_source.py`), and the
  timestamps it feeds.

  A block that carries its own timestamp keeps it, with the presentation lead.  A raw block has
  none: the first one is anchored to the time at which it has been read, and every later one counts
  the frames since then.

  * `Arrival`, `SourcePump` — what comes from the stream, with what is answered while it is pumped,
    and the variables of the loop;
  * `step`, `run`, `pump`   — one turn, the loop, and the loop from its start;
  * `stampUs`               — the sample clock of a list of raw blocks, in whole microseconds;
  * `raw_cases`             — what a turn feeds of a raw block, if it gets that far;
  * `run_stamped`           — by induction over the blocks: every feed is on the clock;
  * `timestamps_exact`      — so there is no drift, whatever the limiter does, however long a feed
    takes and however later audio is cut.
-/
import PhonoConsole.Limiter
import PhonoConsole.Protocol
import Mathlib.Algebra.Order.BigOperators.Group.List
import Mathlib.Algebra.Order.Group.Nat
import Mathlib.Data.Nat.ModEq
import Mathlib.Data.Rat.Floor
import Mathlib.Tactic.Linarith

namespace PhonoConsole

open Struct

/-! ## The loop -/

/-- What the pump takes from its configuration. -/
structure PumpConfig where
  sampleRate : Nat
  channels : Nat
  sourceTimelineLeadMs : ℤ
  sampleRate_pos : 0 < sampleRate
  channels_pos : 0 < channels

namespace PumpConfig

/-- `frame_stride`. -/
def frameStride (cfg : PumpConfig) : Nat := cfg.channels * 2

/-- `timeline_lead_us`. -/
def timelineLeadUs (cfg : PumpConfig) : ℤ := cfg.sourceTimelineLeadMs * 1000

/-- `frames * 1_000_000 // self.audio.sample_rate`. -/
def durationUs (cfg : PumpConfig) (frames : ℤ) : ℤ := frames * 1000000 / cfg.sampleRate

end PumpConfig

/-- The outcome of a call that is awaited. -/
inductive Awaited
  | returns
  | raises (text : String)
  | cancelled
deriving DecidableEq

/-- The outcome of `capture.feed` under its timeout. -/
inductive FeedOutcome
  | returns
  | timeout
  | raises (text : String)
  | cancelled
deriving DecidableEq

/-- A chunk of the stream. -/
inductive Chunk
  | raw (pcm : Bytes)
  | timestamped (frame : Protocol.TimestampedPcm)

/-- What is answered while a chunk is pumped: by the observation of its activity, by the clock if it
    is asked, and by the feed. -/
structure PumpAnswers where
  observed : Awaited := .returns
  nowUs : ℤ
  fed : FeedOutcome := .returns
deriving DecidableEq

/-- A chunk of the capture, with what the clock and the queue answer to it. -/
structure Arrival where
  chunk : Chunk
  answers : PumpAnswers

/-- A call of `capture.feed`. -/
structure Feed where
  pcm : Bytes
  captureTimestampUs : ℤ
deriving DecidableEq

/-- How the loop is left: by an error with its text, by one of the limiter, or by a
    cancellation. -/
inductive PumpEnd
  | failed (error : String)
  | limiter (error : ProcessError)
  | cancelled
deriving DecidableEq

/-- The variables of the loop. -/
structure SourcePump (K : Type) [Field K] [LinearOrder K] where
  captureAnchorUs : Option ℤ := none
  capturedFrames : ℤ := 0
  limiter : PeakLimiterS16le K

/-- A turn of the loop: it goes on, after a feed, or it is the last one, with or without a feed. -/
inductive PumpTurn (K : Type) [Field K] [LinearOrder K]
  | goesOn (p : SourcePump K) (feed : Feed)
  | ends (feeds : List Feed) (how : PumpEnd)

namespace SourcePump

variable {K : Type} [Field K] [LinearOrder K]

/-- `_feed`, and the frames counted after it. -/
def feed (p : SourcePump K) (feed : Feed) (frames : ℤ) : FeedOutcome → PumpTurn K
  | .returns => .goesOn { p with capturedFrames := p.capturedFrames + frames } feed
  | .timeout => .ends [feed] (.failed "Sendspin audio write stalled for 3.0s")
  | .raises text => .ends [feed] (.failed text)
  | .cancelled => .ends [feed] .cancelled

variable [FloorRing K]

/-- `_observe_stream_activity` and the limiter; `release` is the release fraction of so many
    samples. -/
def limited (release : Nat → Set.Ico (0 : K) 1) (p : SourcePump K) (pcm : Bytes) :
    Awaited → Except PumpEnd (PeakLimiterS16le K × Bytes)
  | .returns =>
    match p.limiter.process ⟨pcm, release (pcm.length / 2)⟩ with
    | (limiter, .ok pcm) => .ok (limiter, pcm)
    | (_, .error error) => .error (.limiter error)
  | .raises text => .error (.failed text)
  | .cancelled => .error .cancelled

variable (cfg : PumpConfig) (release : Nat → Set.Ico (0 : K) 1)

/-- A turn with a chunk that carries its timestamp. -/
def timestamped (p : SourcePump K) (frame : Protocol.TimestampedPcm) (a : PumpAnswers) :
    PumpTurn K :=
  -- `FrameFlags.DISCONTINUITY` is the lowest bit
  if frame.flags % 2 ≠ 0 ∧ p.capturedFrames ≠ 0 then
    .ends [] (.failed "timestamped source capture crossed a discontinuity")
  else
    match p.limited release frame.pcm a.observed with
    | .error how => .ends [] how
    | .ok (limiter, pcm) =>
      { p with limiter }.feed ⟨pcm, frame.firstSampleTimeUs + cfg.timelineLeadUs⟩ frame.frames a.fed

/-- A turn with a raw chunk; the first one reads the clock. -/
def raw (p : SourcePump K) (chunk : Bytes) (a : PumpAnswers) : PumpTurn K :=
  match p.limited release chunk a.observed with
  | .error how => .ends [] how
  | .ok (limiter, pcm) =>
    let frames : ℕ := pcm.length / cfg.frameStride
    let captureAnchorUs :=
      p.captureAnchorUs.getD (a.nowUs - cfg.durationUs frames + cfg.timelineLeadUs)
    let timestampUs := captureAnchorUs + cfg.durationUs p.capturedFrames
    { p with captureAnchorUs := some captureAnchorUs, limiter }.feed ⟨pcm, timestampUs⟩ frames a.fed

/-- One turn of the pump. -/
def step (p : SourcePump K) (a : Arrival) : PumpTurn K :=
  match a.chunk with
  | .timestamped frame => p.timestamped cfg release frame a.answers
  | .raw chunk => p.raw cfg release chunk a.answers

/-- The loop over what arrives, until the stream ends or raises, or the loop is left before: the
    feeds, and how it is left. -/
def run (p : SourcePump K) : List Arrival → Awaited → List Feed × PumpEnd
  | [], .returns => ([], .failed "PCM capture ended unexpectedly")
  | [], .raises text => ([], .failed text)
  | [], .cancelled => ([], .cancelled)
  | a :: rest, ending =>
    match p.step cfg release a with
    | .goesOn p feed => (feed :: (p.run rest ending).1, (p.run rest ending).2)
    | .ends feeds how => (feeds, how)

/-- A session of `_pump`. -/
def pump (limiter : LimiterConfig K) (arrivals : List Arrival) (ending : Awaited) :
    List Feed × PumpEnd :=
  run cfg release { limiter := limiter.limiter } arrivals ending

end SourcePump

/-! ## The sample clock -/

/-- Raw blocks, with what is answered while each is pumped. -/
abbrev RawBlocks := List (Bytes × PumpAnswers)

namespace RawBlocks

/-- Blocks as a pump without timestamps gets them. -/
def arrivals (blocks : RawBlocks) : List Arrival := blocks.map fun b => ⟨.raw b.1, b.2⟩

/-- The bytes of all blocks before the block `k`. -/
def bytesBefore (blocks : RawBlocks) (k : Nat) : Nat := ((blocks.map (·.1.length)).take k).sum

/-- The frames of all blocks before the block `k`. -/
def framesBefore (cfg : PumpConfig) (blocks : RawBlocks) (k : Nat) : Nat :=
  blocks.bytesBefore k / cfg.frameStride

/-- The time of the clock when the first block has been read, less its duration, and the lead. -/
def anchorUs (cfg : PumpConfig) : RawBlocks → ℤ
  | [] => 0
  | first :: rest =>
    first.2.nowUs - ⌊(framesBefore cfg (first :: rest) 1 * 1000000 / cfg.sampleRate : ℚ)⌋ +
      cfg.timelineLeadUs

/-- When the block `k` begins, in whole microseconds. -/
def stampUs (cfg : PumpConfig) (blocks : RawBlocks) (k : Nat) : ℤ :=
  anchorUs cfg blocks + ⌊(framesBefore cfg blocks k * 1000000 / cfg.sampleRate : ℚ)⌋

/-- When it begins by the exact sample clock. -/
def exactUs (cfg : PumpConfig) (blocks : RawBlocks) (k : Nat) : ℚ :=
  anchorUs cfg blocks + framesBefore cfg blocks k * 1000000 / cfg.sampleRate

/-- Every block is of whole frames. -/
def Whole (cfg : PumpConfig) (blocks : RawBlocks) : Prop :=
  ∀ b ∈ blocks, cfg.frameStride ∣ b.1.length

instance (cfg : PumpConfig) (blocks : RawBlocks) : Decidable (blocks.Whole cfg) :=
  inferInstanceAs (Decidable (∀ b ∈ blocks, _))

variable {cfg : PumpConfig}

theorem durationUs_eq (frames : Nat) :
    cfg.durationUs frames = ⌊(frames * 1000000 / cfg.sampleRate : ℚ)⌋ := by
  have hfloor := Rat.floor_intCast_div_natCast (frames * 1000000) cfg.sampleRate
  push_cast at hfloor
  rw [hfloor, PumpConfig.durationUs]

theorem bytesBefore_succ (b : Bytes × PumpAnswers) (rest : RawBlocks) (k : Nat) :
    bytesBefore (b :: rest) (k + 1) = b.1.length + bytesBefore rest k := by
  simp [bytesBefore]

/-- Frames are counted block by block, as long as the blocks are whole. -/
theorem framesBefore_succ {b : Bytes × PumpAnswers} (hb : cfg.frameStride ∣ b.1.length)
    (rest : RawBlocks) (k : Nat) :
    framesBefore cfg (b :: rest) (k + 1) =
      b.1.length / cfg.frameStride + framesBefore cfg rest k := by
  rw [framesBefore, bytesBefore_succ, Nat.add_div_of_dvd_right hb]
  rfl

theorem bytesBefore_mono (blocks : RawBlocks) {j k : Nat} (h : j ≤ k) :
    blocks.bytesBefore j ≤ blocks.bytesBefore k :=
  List.monotone_sum_take (blocks.map (·.1.length)) h

theorem stampUs_mono (blocks : RawBlocks) {j k : Nat} (h : j ≤ k) :
    stampUs cfg blocks j ≤ stampUs cfg blocks k := by
  have hframes : framesBefore cfg blocks j ≤ framesBefore cfg blocks k :=
    Nat.div_le_div_right (bytesBefore_mono blocks h)
  refine add_le_add_right (Int.floor_le_floor ?_) _
  gcongr

/-- The anchor is what the loop computes at its first block. -/
theorem anchorUs_cons (b : Bytes × PumpAnswers) (rest : RawBlocks) :
    anchorUs cfg (b :: rest) =
      b.2.nowUs - cfg.durationUs (b.1.length / cfg.frameStride : ℕ) + cfg.timelineLeadUs := by
  rw [durationUs_eq]
  simp [anchorUs, framesBefore, bytesBefore]

/-- A whole microsecond is never lost. -/
theorem abs_stampUs_sub_lt (blocks : RawBlocks) (k : Nat) :
    |(stampUs cfg blocks k : ℚ) - exactUs cfg blocks k| < 1 := by
  have hfloor := Int.floor_le (framesBefore cfg blocks k * 1000000 / cfg.sampleRate : ℚ)
  have hnext := Int.lt_floor_add_one (framesBefore cfg blocks k * 1000000 / cfg.sampleRate : ℚ)
  rw [stampUs, exactUs, abs_lt]
  push_cast
  exact ⟨by linarith, by linarith⟩

end RawBlocks

/-! ## Every feed is on the clock -/

namespace SourcePump

open RawBlocks

variable {K : Type} [Field K] [LinearOrder K]

/-- A feed that returns is the only one after which the loop goes on. -/
theorem feed_cases (p : SourcePump K) (f : Feed) (frames : ℤ) (fed : FeedOutcome) :
    (fed = .returns ∧
      p.feed f frames fed = .goesOn { p with capturedFrames := p.capturedFrames + frames } f) ∨
    fed ≠ .returns ∧ ∃ how, p.feed f frames fed = .ends [f] how := by
  cases fed with
  | returns => exact .inl ⟨rfl, rfl⟩
  | timeout | raises text | cancelled => exact .inr ⟨nofun, _, rfl⟩

variable [FloorRing K] {cfg : PumpConfig} {release : Nat → Set.Ico (0 : K) 1}

/-- The limiter keeps the length of a block, and its ceiling. -/
theorem limited_ok {p : SourcePump K} {chunk pcm : Bytes} {observed : Awaited}
    {limiter : PeakLimiterS16le K}
    (h : p.limited release chunk observed = .ok (limiter, pcm)) :
    pcm.length = chunk.length ∧ limiter.toLimiterConfig = p.limiter.toLimiterConfig := by
  unfold limited at h
  split at h
  · split at h
    · rename_i limiter' pcm' hprocess
      obtain ⟨rfl, rfl⟩ := Prod.mk.inj (Except.ok.inj h)
      refine ⟨?_, ?_⟩
      · have hpcm : (p.limiter.process ⟨chunk, release (chunk.length / 2)⟩).2 = .ok pcm' := by
          rw [hprocess]
        exact PeakLimiterS16le.process_length hpcm
      · have hconfig := p.limiter.process_config ⟨chunk, release (chunk.length / 2)⟩
        rwa [hprocess] at hconfig
    · cases h
  · cases h
  · cases h

/-- A block of whole samples that is observed is limited, when the ceiling is a sample. -/
theorem limited_returns {p : SourcePump K} {chunk : Bytes} (hchunk : 2 ∣ chunk.length)
    (hceiling : p.limiter.ceiling ≤ 32767) {how : PumpEnd} :
    p.limited release chunk .returns ≠ .error how := by
  obtain ⟨pcm, hpcm⟩ : ∃ pcm, (p.limiter.process ⟨chunk, release (chunk.length / 2)⟩).2 = .ok pcm :=
    PeakLimiterS16le.process_ok hchunk hceiling
  rw [limited]
  rcases hprocess : p.limiter.process ⟨chunk, release (chunk.length / 2)⟩ with ⟨limiter, result⟩
  rw [hprocess] at hpcm
  obtain rfl : result = .ok pcm := hpcm
  nofun

variable (cfg release) in
/-- A turn with a raw block either feeds nothing, or feeds it at the anchor and the frames so
    far. -/
theorem raw_cases (p : SourcePump K) (chunk : Bytes) (a : PumpAnswers) :
    (∃ how, p.limited release chunk a.observed = .error how ∧
      p.raw cfg release chunk a = .ends [] how) ∨
    ∃ limiter pcm anchor, pcm.length = chunk.length ∧
      limiter.toLimiterConfig = p.limiter.toLimiterConfig ∧
      anchor = p.captureAnchorUs.getD
        (a.nowUs - cfg.durationUs (chunk.length / cfg.frameStride : ℕ) + cfg.timelineLeadUs) ∧
      p.raw cfg release chunk a = { p with captureAnchorUs := some anchor, limiter }.feed
        ⟨pcm, anchor + cfg.durationUs p.capturedFrames⟩ (chunk.length / cfg.frameStride : ℕ)
        a.fed := by
  unfold raw
  cases hlimited : p.limited release chunk a.observed with
  | error how => exact .inl ⟨how, rfl, rfl⟩
  | ok result =>
    obtain ⟨limiter, pcm⟩ := result
    obtain ⟨hlength, hconfig⟩ := limited_ok hlimited
    refine .inr ⟨limiter, pcm, _, hlength, hconfig, rfl, ?_⟩
    dsimp only
    rw [hlength]

/-- The loop over one more raw block. -/
theorem run_cons (p : SourcePump K) (b : Bytes × PumpAnswers) (rest : RawBlocks)
    (ending : Awaited) :
    p.run cfg release (arrivals (b :: rest)) ending =
      match p.raw cfg release b.1 b.2 with
      | .goesOn p f => (f :: (p.run cfg release rest.arrivals ending).1,
          (p.run cfg release rest.arrivals ending).2)
      | .ends feeds how => (feeds, how) := rfl

/-- Every feed is of its block, on the clock that the anchor and the frames so far have set. -/
theorem run_stamped {ending : Awaited} {blocks : RawBlocks} (hwhole : blocks.Whole cfg)
    {p : SourcePump K} {n k : Nat} (hn : p.capturedFrames = n) {f : Feed}
    (h : (p.run cfg release blocks.arrivals ending).1[k]? = some f) :
    (∃ b, blocks[k]? = some b ∧ f.pcm.length = b.1.length) ∧
      f.captureTimestampUs = p.captureAnchorUs.getD (anchorUs cfg blocks) +
        cfg.durationUs (n + framesBefore cfg blocks k : ℕ) := by
  induction blocks generalizing p n k with
  | nil =>
    cases ending <;> simp [run, arrivals] at h
  | cons b rest ih =>
    have hb : cfg.frameStride ∣ b.1.length := hwhole b (.head _)
    have hrest : Whole cfg rest := fun b' hb' => hwhole b' (.tail _ hb')
    rw [run_cons] at h
    rcases p.raw_cases cfg release b.1 b.2 with
      ⟨how, -, hraw⟩ | ⟨limiter, pcm, anchor, hlength, -, hanchor, hraw⟩
    · simp [hraw] at h
    rw [← anchorUs_cons b rest] at hanchor
    -- the first block is fed at the frames so far, whatever becomes of its feed
    have hfirst : ∀ f : Feed, f = ⟨pcm, anchor + cfg.durationUs p.capturedFrames⟩ →
        (∃ b', (b :: rest)[0]? = some b' ∧ f.pcm.length = b'.1.length) ∧
          f.captureTimestampUs = p.captureAnchorUs.getD (anchorUs cfg (b :: rest)) +
            cfg.durationUs (n + framesBefore cfg (b :: rest) 0 : ℕ) := by
      rintro f rfl
      refine ⟨⟨b, rfl, hlength⟩, ?_⟩
      simp [hanchor, hn, framesBefore, bytesBefore]
    rw [hraw] at h
    rcases feed_cases { p with captureAnchorUs := some anchor, limiter }
        ⟨pcm, anchor + cfg.durationUs p.capturedFrames⟩ (b.1.length / cfg.frameStride : ℕ)
        b.2.fed with ⟨-, hfeed⟩ | ⟨-, how, hfeed⟩
    · rw [hfeed] at h
      cases k with
      | zero => exact hfirst f (Option.some.inj h).symm
      | succ k =>
        have hframes : p.capturedFrames + (b.1.length / cfg.frameStride : ℕ) =
            (n + b.1.length / cfg.frameStride : ℕ) := by
          rw [hn]
          push_cast
          rfl
        obtain ⟨hblock, hstamp⟩ := ih hrest hframes h
        refine ⟨hblock, ?_⟩
        rw [framesBefore_succ hb, ← Nat.add_assoc, ← hanchor]
        exact hstamp
    · rw [hfeed] at h
      cases k with
      | zero => exact hfirst f (Option.some.inj h).symm
      | succ k => simp at h

/-- So the pump feeds the block `k` at its place on the session's clock. -/
theorem pump_stamped {blocks : RawBlocks} (hwhole : blocks.Whole cfg) {limiter : LimiterConfig K}
    {ending : Awaited} {k : Nat} {f : Feed}
    (h : (pump cfg release limiter blocks.arrivals ending).1[k]? = some f) :
    (∃ b, blocks[k]? = some b ∧ f.pcm.length = b.1.length) ∧
      f.captureTimestampUs = stampUs cfg blocks k := by
  obtain ⟨hblock, hstamp⟩ := run_stamped (n := 0) hwhole rfl h
  refine ⟨hblock, hstamp.trans ?_⟩
  rw [Nat.zero_add, durationUs_eq]
  rfl

/-- When nothing fails, every block is fed. -/
theorem run_length {ending : Awaited} {blocks : RawBlocks} (hwhole : blocks.Whole cfg)
    (hreturns : ∀ b ∈ blocks, b.2.observed = .returns ∧ b.2.fed = .returns) {p : SourcePump K}
    (hceiling : p.limiter.ceiling ≤ 32767) :
    (p.run cfg release blocks.arrivals ending).1.length = blocks.length := by
  induction blocks generalizing p with
  | nil => cases ending <;> rfl
  | cons b rest ih =>
    have hb : 2 ∣ b.1.length := (Nat.dvd_mul_left 2 cfg.channels).trans (hwhole b (.head _))
    obtain ⟨hobserved, hfed⟩ := hreturns b (.head _)
    rw [run_cons]
    rcases p.raw_cases cfg release b.1 b.2 with
      ⟨how, herror, -⟩ | ⟨limiter, pcm, anchor, -, hconfig, -, hraw⟩
    · rw [hobserved] at herror
      exact absurd herror (limited_returns hb hceiling)
    · have hceiling' : limiter.ceiling ≤ 32767 := by rwa [hconfig]
      rw [hraw, hfed]
      simp only [feed, List.length_cons]
      rw [ih (fun b' hb' => hwhole b' (.tail _ hb')) (fun b' hb' => hreturns b' (.tail _ hb'))
        hceiling']

end SourcePump

/-- **The timestamps of raw blocks do not drift.**  Whatever the limiter and the answers are, the
    block `k` of a session is fed at its anchor and the whole microseconds of all frames before it,
    less than a microsecond from the exact clock; timestamps do not decrease; every block is fed
    when nothing fails; and in two sessions with one anchor, blocks with as many bytes before them
    are fed at one time, however these have been limited and cut. -/
theorem timestamps_exact {K : Type} [Field K] [LinearOrder K] [FloorRing K] (cfg : PumpConfig)
    (release : Nat → Set.Ico (0 : K) 1) (limiter : LimiterConfig K) (ending : Awaited)
    {blocks : RawBlocks} (hwhole : blocks.Whole cfg) :
    let feeds := (SourcePump.pump cfg release limiter blocks.arrivals ending).1
    (∀ (k : Nat) (f : Feed), feeds[k]? = some f →
      (∃ b, blocks[k]? = some b ∧ f.pcm.length = b.1.length) ∧
      f.captureTimestampUs = blocks.stampUs cfg k ∧
      |(f.captureTimestampUs : ℚ) - blocks.exactUs cfg k| < 1) ∧
    (∀ (j k : Nat) (f g : Feed), j ≤ k → feeds[j]? = some f → feeds[k]? = some g →
      f.captureTimestampUs ≤ g.captureTimestampUs) ∧
    ((∀ b ∈ blocks, b.2.observed = .returns ∧ b.2.fed = .returns) → limiter.ceiling ≤ 32767 →
      feeds.length = blocks.length) ∧
    ∀ (release' : Nat → Set.Ico (0 : K) 1) (limiter' : LimiterConfig K) (ending' : Awaited)
      (blocks' : RawBlocks), blocks'.Whole cfg → blocks'.anchorUs cfg = blocks.anchorUs cfg →
      let feeds' := (SourcePump.pump cfg release' limiter' blocks'.arrivals ending').1
      ∀ (j k : Nat) (f g : Feed), feeds[j]? = some f → feeds'[k]? = some g →
        blocks.bytesBefore j = blocks'.bytesBefore k →
        f.captureTimestampUs = g.captureTimestampUs := by
  intro feeds
  refine ⟨fun k f hf => ?_, fun j k f g hjk hf hg => ?_, fun hreturns hceiling => ?_, ?_⟩
  · obtain ⟨hblock, hts⟩ := SourcePump.pump_stamped hwhole hf
    exact ⟨hblock, hts, hts ▸ blocks.abs_stampUs_sub_lt k⟩
  · rw [(SourcePump.pump_stamped hwhole hf).2, (SourcePump.pump_stamped hwhole hg).2]
    exact blocks.stampUs_mono hjk
  · exact SourcePump.run_length hwhole hreturns hceiling
  · intro release' limiter' ending' blocks' hwhole' hanchor feeds' j k f g hf hg hbytes
    rw [(SourcePump.pump_stamped hwhole hf).2, (SourcePump.pump_stamped hwhole' hg).2]
    rw [RawBlocks.stampUs, RawBlocks.stampUs, hanchor, RawBlocks.framesBefore, hbytes]
    rfl

/-- Mono at 44100 Hz, without a lead. -/
def mono : PumpConfig := ⟨44100, 1, 0, by decide, by decide⟩

/-- Blocks of one, two and three frames, read at 1000 µs and whenever after that. -/
def threeBlocks : RawBlocks :=
  [([1, 0], ⟨.returns, 1000, .returns⟩), ([2, 0, 3, 0], ⟨.returns, 5000, .returns⟩),
    ([4, 0, 5, 0, 6, 0], ⟨.returns, 0, .returns⟩)]

/-- What a session feeds of them: three blocks, the last one 46 µs after the clock was read. -/
theorem timestamps_exact_mono :
    (SourcePump.pump mono (fun _ => ⟨1 / 2, by norm_num, by norm_num⟩)
        PeakLimiterS16le.doubling threeBlocks.arrivals .returns).1.length = 3 ∧
    ∀ f, (SourcePump.pump mono (fun _ => ⟨1 / 2, by norm_num, by norm_num⟩)
        PeakLimiterS16le.doubling threeBlocks.arrivals .returns).1[2]? = some f →
      f.captureTimestampUs = 1046 := by
  obtain ⟨hclock, -, hlength, -⟩ := timestamps_exact mono
    (fun _ => ⟨1 / 2, by norm_num, by norm_num⟩) PeakLimiterS16le.doubling .returns
    (show threeBlocks.Whole mono by decide)
  refine ⟨hlength (by decide) (by decide), fun f hf => ?_⟩
  rw [(hclock 2 f hf).2.1]
  decide +kernel

end PhonoConsole
