/-
  THE PROBE (`native/src/probe.c`) and what is made of its output (`phono_console/probe_analysis.py`).

  The probe captures for some seconds and prints a line for every block, with what the next block
  should have begun at, and now and then what `phono_clock_fit` makes of the blocks so far.  The
  analysis reads the lines again and fits a line of its own.

  * `State`, `probe`   — the capture loop turn by turn, and the records that are printed;
  * `analyze`          — the analysis, in exact arithmetic;
  * `Probed`           — the invariant: what the variables of the loop say of the records so far;
  * `span_error`       — the error of the whole span is the sum of the errors of the blocks;
  * `fits_agree`       — the two programs agree on the clock: each fit that is printed is what the
    analysis makes of the last 2048 blocks before it.

  A record is its fields: the text of the lines, and the opening of the device, are left out.
-/
import PhonoConsole.ClockFit
import Mathlib.Data.List.Chain

namespace PhonoConsole.Probe

open Engine LeastSquares Rounding

/-! ## Records -/

/-- A `capture` record of the probe. -/
structure Capture where
  sequence : Nat
  frames : Nat
  availableFrames : Nat
  hardwareTimeUs : Int
  firstSampleTimeUs : Int
  actualDeltaUs : Int
  expectedDeltaUs : Int
  deltaErrorUs : Int
  xruns : Nat
deriving DecidableEq

/-- A `clock_fit` record of the probe. -/
structure FitLine (F : Type) where
  sequence : Nat
  observations : Nat
  rateHz : F
  rateErrorPpm : F
  rmsResidualUs : F
deriving DecidableEq

/-- The `probe_started` record. -/
structure Started where
  device : String
  rateHz : Nat
  channels : Nat
  periodFrames : Nat
  bufferFrames : Nat
deriving DecidableEq

/-- A line of the probe's output. -/
inductive Record (F : Type)
  | probeStarted (started : Started)
  | capture (capture : Capture)
  | clockFit (fit : FitLine F)
  | probeFinished (blocks frames xruns : Nat)
deriving DecidableEq

namespace Record

variable {F : Type}

/-- The start, if this is its record. -/
def started? : Record F → Option Started
  | .probeStarted x => some x
  | _ => none

/-- The block, if this is the record of one. -/
def capture? : Record F → Option Capture
  | .capture x => some x
  | _ => none

/-- The record that ends a probe. -/
def isFinished : Record F → Bool
  | .probeFinished _ _ _ => true
  | _ => false

end Record

/-- The blocks among some records. -/
def captures {F : Type} (records : List (Record F)) : List Capture := records.filterMap Record.capture?

/-! ## The probe -/

section Program

variable {F : Type} [LongDouble F]

open LongDouble (ofInt)

/-- The local variables of the loop, and the records printed. -/
structure State (F : Type) where
  sequence : UInt64 := 0
  totalFrames : UInt64 := 0
  xruns : UInt32 := 0
  previousFirstUs : Int := 0
  previousFrames : Nat := 0
  clockEstimator : ClockEstimator := phonoClockReset
  output : List (Record F) := []

/-- What ALSA answers in one turn. -/
inductive Turn
  | waitTimeout
  | waitError (recovered : Bool)
  | timestampError
  | readError (recovered : Bool)
  | read (available : Nat) (timestamp : Timespec) (frames : Nat)

namespace State

/-- `phono_clock_rate_hz`. -/
def clockRateHz (fit : PhonoClockFit F) : F := ofInt 1000000 / fit.usPerSample

/-- The record of a fit, after the block `sequence`. -/
def fitLine (rate : Nat) (sequence : UInt64) (fit : PhonoClockFit F) : FitLine F where
  sequence := sequence.toNat
  observations := fit.observations
  rateHz := clockRateHz fit
  rateErrorPpm := (clockRateHz fit - ofInt rate) * ofInt 1000000 / ofInt rate
  rmsResidualUs := fit.rmsResidualUs

/-- A block.  `sqrtl` is the function of the C library, and `unset` what `fit` holds before it is filled
    in. -/
def read (rate : Nat) (sqrtl : F → F) (unset : PhonoClockFit F) (s : State F) (available : Nat)
    (timestamp : Timespec) (frames : Nat) : State F :=
  let hardwareUs := timespecUs timestamp
  let firstSampleUs := hardwareUs - ((available : Int) * 1000000).tdiv rate
  let expectedDeltaUs :=
    if s.sequence = 0 then 0 else ((s.previousFrames : Int) * 1000000).tdiv rate
  let actualDeltaUs := if s.sequence = 0 then 0 else firstSampleUs - s.previousFirstUs
  let capture : Capture :=
    { sequence := s.sequence.toNat
      frames
      availableFrames := available
      hardwareTimeUs := hardwareUs
      firstSampleTimeUs := firstSampleUs
      actualDeltaUs
      expectedDeltaUs
      deltaErrorUs := actualDeltaUs - expectedDeltaUs
      xruns := s.xruns.toNat }
  let clockEstimator := phonoClockObserve s.clockEstimator s.totalFrames firstSampleUs
  let (fitted, fit) := phonoClockFitInto sqrtl clockEstimator unset
  { s with
    sequence := s.sequence + 1
    totalFrames := s.totalFrames + UInt64.ofNat frames
    previousFirstUs := firstSampleUs
    previousFrames := frames
    clockEstimator
    output := s.output ++ .capture capture ::
      (if 0 < s.sequence ∧ s.sequence % 50 = 0 ∧ fitted = true then
        [.clockFit (fitLine rate s.sequence fit)]
      else []) }

/-- One turn; `none` where the loop is left. -/
def turn (rate : Nat) (sqrtl : F → F) (unset : PhonoClockFit F) (s : State F) : Turn → Option (State F)
  | .waitTimeout => some s
  | .waitError recovered | .readError recovered =>
      if recovered then some { s with xruns := s.xruns + 1 } else none
  | .timestampError => none
  | .read available timestamp frames =>
      if frames = 0 then some s else some (s.read rate sqrtl unset available timestamp frames)

/-- The loop, until the time is over or an error is final. -/
def loop (rate : Nat) (sqrtl : F → F) (unset : PhonoClockFit F) : State F → List Turn → State F
  | s, [] => s
  | s, t :: rest =>
    match s.turn rate sqrtl unset t with
    | some s' => loop rate sqrtl unset s' rest
    | none => s

end State

/-- `phono_run_probe`, from the granted parameters on. -/
def probe (started : Started) (sqrtl : F → F) (unset : PhonoClockFit F) (turns : List Turn) :
    List (Record F) :=
  let s := State.loop started.rateHz sqrtl unset {} turns
  .probeStarted started :: s.output ++
    [.probeFinished s.sequence.toNat s.totalFrames.toNat s.xruns.toNat]

end Program

/-! ## The analysis -/

section Analysis

variable {K : Type} [Field K] [LinearOrder K] [FloorRing K]

/-- What `analyze` raises. -/
inductive AnalysisError
  | stopIteration
  | valueError
  | zeroDivisionError
deriving DecidableEq

/-- What `analyze` returns. -/
structure Summary (K : Type) where
  started : Started
  blocks : Nat
  frames : Nat
  xruns : Nat
  finished : Bool
  capturedSeconds : K
  timestampsMonotonic : Bool
  meanAbs : K
  p50Abs : Nat
  p95Abs : Nat
  p99Abs : Nat
  maxAbs : Nat
  spanErrorUs : Int
  spanDriftPpm : K
  rateHz : K
  rateErrorPpm : K
  residualMeanUs : K
  residualP95AbsUs : Nat
  residualP99AbsUs : Nat
  residualMaxAbsUs : Nat
deriving DecidableEq

/-- `round(x, digits)`. -/
def roundTo (digits : Nat) (x : K) : K :=
  (halfEven (x * ((10 ^ digits : Nat) : K)) : K) / ((10 ^ digits : Nat) : K)

/-- `percentile`, with the fraction in hundredths. -/
def percentile (K : Type) [Field K] [LinearOrder K] [FloorRing K] (values : List Nat)
    (hundredths : Nat) : Nat :=
  let index : Int := halfEven (((values.length - 1 : Nat) : K) * ((hundredths : K) / ((100 : Nat) : K)))
  values.mergeSort.getD index.toNat 0

/-- `sample_positions`: each block begins where the one before it ends. -/
def samplePositions (position : Nat) : List Capture → List Nat
  | [] => []
  | c :: rest => position :: samplePositions (position + c.frames) rest

/-- `statistics.fmean`. -/
def fmean (values : List K) : K := values.sum / values.length

/-- `analyze`, over the records of the file. -/
def analyze (records : List (Record K)) : Except AnalysisError (Summary K) :=
  match records.findSome? Record.started? with
  | none => .error .stopIteration
  | some started =>
    match captures records with
    | [] | [_] => .error .valueError
    | first :: second :: rest =>
      let captures := first :: second :: rest
      let last := (second :: rest).getLast (List.cons_ne_nil _ _)
      let errors := captures.tail.map fun c => c.deltaErrorUs.natAbs
      let expectedSpan := (captures.tail.map fun c => c.expectedDeltaUs).sum
      let actualSpan := last.firstSampleTimeUs - first.firstSampleTimeUs
      let driftPpm : K :=
        if expectedSpan ≠ 0 then
          ((actualSpan - expectedSpan : Int) : K) * ((1000000 : Nat) : K) / (expectedSpan : K)
        else 0
      let timestamps : List K := captures.map fun c => (c.firstSampleTimeUs : K)
      let positions : List K := (samplePositions 0 captures).map fun p : Nat => (p : K)
      let meanPosition := fmean positions
      let meanTimestamp := fmean timestamps
      let positionVariance := (positions.map fun value => (value - meanPosition) ^ 2).sum
      let slope := ((positions.zip timestamps).map fun p =>
        (p.1 - meanPosition) * (p.2 - meanTimestamp)).sum / positionVariance
      let intercept := meanTimestamp - slope * meanPosition
      let residuals := (positions.zip timestamps).map fun p => halfEven (p.2 - (intercept + slope * p.1))
      let absResiduals := residuals.map Int.natAbs
      let fittedRate := ((1000000 : Nat) : K) / slope
      let nominalRate : K := started.rateHz
      let frames := (captures.map fun c => c.frames).sum
      if positionVariance = 0 ∨ slope = 0 ∨ started.rateHz = 0 then .error .zeroDivisionError
      else
        .ok
          { started
            blocks := captures.length
            frames
            xruns := (captures.map fun c => c.xruns).foldl max 0
            finished := records.any Record.isFinished
            capturedSeconds := roundTo 3 ((frames : K) / (started.rateHz : K))
            timestampsMonotonic := (captures.zip captures.tail).all fun p =>
              decide (p.1.firstSampleTimeUs < p.2.firstSampleTimeUs)
            meanAbs := roundTo 2 (fmean (errors.map fun e : Nat => (e : K)))
            p50Abs := percentile K errors 50
            p95Abs := percentile K errors 95
            p99Abs := percentile K errors 99
            maxAbs := errors.foldl max 0
            spanErrorUs := actualSpan - expectedSpan
            spanDriftPpm := roundTo 3 driftPpm
            rateHz := roundTo 6 fittedRate
            rateErrorPpm := roundTo 3 ((fittedRate - nominalRate) * ((1000000 : Nat) : K) / nominalRate)
            residualMeanUs := roundTo 3 (fmean (residuals.map fun r : Int => (r : K)))
            residualP95AbsUs := percentile K absResiduals 95
            residualP99AbsUs := percentile K absResiduals 99
            residualMaxAbsUs := absResiduals.foldl max 0 }

end Analysis

/-! ## The loop and its records -/

section Records

variable {F : Type} {records more : List (Record F)} {blocks : List Capture} {c : Capture}

@[simp] theorem captures_append : captures (records ++ more) = captures records ++ captures more :=
  List.filterMap_append

@[simp] theorem captures_cons_capture :
    captures (.capture c :: records) = c :: captures records := rfl

@[simp] theorem captures_cons_started {started : Started} :
    captures (.probeStarted started :: records) = captures records := rfl

/-- The frames of some blocks. -/
def total (blocks : List Capture) : Nat := (blocks.map Capture.frames).sum

/-- A block more. -/
theorem total_append : total (blocks ++ [c]) = total blocks + c.frames := by
  simp [total]

/-- Its position is the total before it. -/
theorem samplePositions_append (position : Nat) :
    samplePositions position (blocks ++ [c]) =
      samplePositions position blocks ++ [position + total blocks] := by
  induction blocks generalizing position with
  | nil => rfl
  | cons b rest ih =>
    show position :: samplePositions _ (rest ++ [c]) = _
    rw [ih, show total (b :: rest) = b.frames + total rest from rfl, Nat.add_assoc]
    rfl

@[simp] theorem length_samplePositions (position : Nat) :
    (samplePositions position blocks).length = blocks.length := by
  induction blocks generalizing position with
  | nil => rfl
  | cons b rest ih => exact congrArg (· + 1) (ih _)

/-- What the estimator is shown of some blocks. -/
def observations (blocks : List Capture) : List ClockObservation :=
  ((samplePositions 0 blocks).zip blocks).map fun p => ⟨UInt64.ofNat p.1, p.2.firstSampleTimeUs⟩

/-- Its observation is of that position. -/
theorem observations_append : observations (blocks ++ [c]) =
    observations blocks ++ [⟨UInt64.ofNat (total blocks), c.firstSampleTimeUs⟩] := by
  unfold observations
  rw [samplePositions_append, List.zip_append (length_samplePositions 0), List.map_append,
    Nat.zero_add]
  rfl

theorem observed_append (l : List ClockObservation) (o : ClockObservation) :
    observed (l ++ [o]) = phonoClockObserve (observed l) o.samplePosition o.timestampUs := by
  unfold observed
  rw [List.foldl_append]
  rfl

end Records

section Loop

variable {F : Type} [LongDouble F] {rate : Nat} {sqrtl : F → F} {unset : PhonoClockFit F}
  {s s' : State F} {t : Turn}

/-- The fit that is printed after some blocks. -/
def FitOf (rate : Nat) (sqrtl : F → F) (unset : PhonoClockFit F) (blocks : List Capture)
    (f : FitLine F) : Prop :=
  ∃ (sequence : UInt64) (fit : PhonoClockFit F), f = State.fitLine rate sequence fit ∧
    phonoClockFitInto sqrtl (observed (observations blocks)) unset = (true, fit)

/-- What a line says of the line before it. -/
def Follows (a b : Capture) : Prop :=
  b.actualDeltaUs = b.firstSampleTimeUs - a.firstSampleTimeUs ∧
    b.deltaErrorUs = b.actualDeltaUs - b.expectedDeltaUs

/-- What the variables of the loop say of the records printed so far. -/
structure Probed (rate : Nat) (sqrtl : F → F) (unset : PhonoClockFit F) (s : State F) : Prop where
  sequence : s.sequence = UInt64.ofNat (captures s.output).length
  totalFrames : s.totalFrames = UInt64.ofNat (total (captures s.output))
  estimator : s.clockEstimator = observed (observations (captures s.output))
  previous : ∀ c, (captures s.output).getLast? = some c →
    s.previousFirstUs = c.firstSampleTimeUs
  deltas : (captures s.output).length ≤ 2 ^ 64 → (captures s.output).IsChain Follows
  fits : ∀ n f, s.output[n]? = some (.clockFit f) →
    FitOf rate sqrtl unset (captures (s.output.take n)) f

/-- Before the first turn. -/
theorem Probed.start : Probed rate sqrtl unset {} :=
  ⟨rfl, rfl, rfl, nofun, fun _ => .nil, nofun⟩

/-- A block is one more capture; a fit that is printed after it is one of all of them. -/
theorem read_output (rate : Nat) (sqrtl : F → F) (unset : PhonoClockFit F) (s : State F)
    (available : Nat) (timestamp : Timespec) (frames : Nat) :
    ∃ (c : Capture) (fitted : List (Record F)),
      (s.read rate sqrtl unset available timestamp frames).output = s.output ++ .capture c :: fitted ∧
      c.frames = frames ∧
      (s.read rate sqrtl unset available timestamp frames).previousFirstUs = c.firstSampleTimeUs ∧
      (s.read rate sqrtl unset available timestamp frames).clockEstimator =
        phonoClockObserve s.clockEstimator s.totalFrames c.firstSampleTimeUs ∧
      (s.sequence ≠ 0 → c.actualDeltaUs = c.firstSampleTimeUs - s.previousFirstUs) ∧
      c.deltaErrorUs = c.actualDeltaUs - c.expectedDeltaUs ∧
      (fitted = [] ∨ ∃ fit, fitted = [.clockFit (State.fitLine rate s.sequence fit)] ∧
        phonoClockFitInto sqrtl
          (phonoClockObserve s.clockEstimator s.totalFrames c.firstSampleTimeUs) unset =
            (true, fit)) := by
  refine ⟨_, _, rfl, rfl, rfl, rfl, fun hsequence => ?_, rfl, ?_⟩
  · show (if s.sequence = 0 then _ else _) = _
    rw [if_neg hsequence]
  · split
    · rename_i hfitted
      exact .inr ⟨_, rfl, Prod.ext hfitted.2.2 rfl⟩
    · exact .inl rfl

/-- A block is read. -/
theorem Probed.read (h : Probed rate sqrtl unset s) (available : Nat) (timestamp : Timespec)
    (frames : Nat) :
    Probed rate sqrtl unset (s.read rate sqrtl unset available timestamp frames) := by
  obtain ⟨c, fitted, houtput, hc, hprevious, hestimator, hdelta, herror, hfitted⟩ :=
    read_output rate sqrtl unset s available timestamp frames
  have hcaptures : captures (s.read rate sqrtl unset available timestamp frames).output =
      captures s.output ++ [c] := by
    rw [houtput, captures_append, captures_cons_capture]
    rcases hfitted with rfl | ⟨fit, rfl, -⟩ <;> rfl
  have hobserved : (s.read rate sqrtl unset available timestamp frames).clockEstimator =
      observed (observations (captures s.output ++ [c])) := by
    rw [hestimator, h.estimator, h.totalFrames, observations_append, observed_append]
  constructor
  · show s.sequence + 1 = _
    rw [hcaptures, List.length_append, h.sequence]
    simp
  · show s.totalFrames + UInt64.ofNat frames = _
    rw [hcaptures, total_append, h.totalFrames, hc]
    simp
  · rw [hcaptures]
    exact hobserved
  · intro c' hc'
    rw [hcaptures, List.getLast?_append, List.getLast?_singleton, Option.some_or] at hc'
    obtain rfl := Option.some.inj hc'
    exact hprevious
  · intro hlength
    rw [hcaptures, List.length_append, List.length_singleton] at hlength
    rw [hcaptures]
    refine List.isChain_append.mpr ⟨h.deltas (by omega), .singleton _, fun b hb c' hc' => ?_⟩
    obtain rfl := Option.some.inj hc'
    have hsequence : s.sequence ≠ 0 := by
      have hpositive : 0 < (captures s.output).length :=
        List.length_pos_of_mem (List.mem_of_getLast? hb)
      rw [h.sequence]
      intro hzero
      have hnat := congrArg UInt64.toNat hzero
      rw [UInt64.toNat_ofNat', Nat.mod_eq_of_lt (by omega)] at hnat
      exact hpositive.ne' hnat
    exact ⟨by rw [hdelta hsequence, h.previous b hb], herror⟩
  · intro n f hn
    rw [houtput] at hn
    rcases Nat.lt_or_ge n s.output.length with hlt | hge
    · rw [List.getElem?_append_left hlt] at hn
      rw [houtput, List.take_append_of_le_length hlt.le]
      exact h.fits n f hn
    · obtain ⟨k, rfl⟩ := Nat.exists_eq_add_of_le hge
      rw [List.getElem?_append_right hge, Nat.add_sub_cancel_left] at hn
      rcases hfitted with rfl | ⟨fit, rfl, hfit⟩
      · match k, hn with
        | k + 1, hn => exact nomatch hn
      · match k, hn with
        | 1, hn =>
          obtain rfl := Record.clockFit.inj (Option.some.inj hn)
          refine ⟨s.sequence, fit, rfl, ?_⟩
          rw [houtput, List.take_length_add_append, captures_append]
          show phonoClockFitInto sqrtl (observed (observations (captures s.output ++ [c]))) unset = _
          rw [← hobserved, hestimator]
          exact hfit
        | k + 2, hn => exact nomatch hn

/-- A turn of the loop, whatever the device answers. -/
theorem Probed.turn (h : Probed rate sqrtl unset s) (hnext : s.turn rate sqrtl unset t = some s') :
    Probed rate sqrtl unset s' := by
  have hxruns : Probed rate sqrtl unset { s with xruns := s.xruns + 1 } :=
    ⟨h.sequence, h.totalFrames, h.estimator, h.previous, h.deltas, h.fits⟩
  cases t with
  | waitTimeout =>
    obtain rfl := Option.some.inj hnext
    exact h
  | waitError recovered | readError recovered =>
    obtain ⟨-, hnext⟩ := Option.ite_none_right_eq_some.mp hnext
    obtain rfl := Option.some.inj hnext
    exact hxruns
  | timestampError => cases hnext
  | read available timestamp frames =>
    simp only [State.turn] at hnext
    split at hnext
    · obtain rfl := Option.some.inj hnext
      exact h
    · obtain rfl := Option.some.inj hnext
      exact h.read available timestamp frames

/-- The whole loop. -/
theorem Probed.loop (h : Probed rate sqrtl unset s) (turns : List Turn) :
    Probed rate sqrtl unset (State.loop rate sqrtl unset s turns) := by
  induction turns generalizing s with
  | nil => exact h
  | cons t rest ih =>
    unfold State.loop
    split
    · rename_i hnext
      exact ih (h.turn hnext)
    · exact h

/-- The records of a run. -/
theorem probe_output (started : Started) (sqrtl : F → F) (unset : PhonoClockFit F)
    (turns : List Turn) :
    ∃ s : State F, Probed started.rateHz sqrtl unset s ∧
      probe started sqrtl unset turns = .probeStarted started :: s.output ++
        [.probeFinished s.sequence.toNat s.totalFrames.toNat s.xruns.toNat] :=
  ⟨_, Probed.start.loop turns, rfl⟩

end Loop

/-! ## The span -/

section Span

variable {K : Type} [Field K] [LinearOrder K] [FloorRing K]

/-- The differences of the blocks add up to the span. -/
theorem span_telescopes {first : Capture} {rest : List Capture}
    (hchain : (first :: rest).IsChain Follows) :
    (rest.map Capture.deltaErrorUs).sum =
      ((first :: rest).getLast (List.cons_ne_nil _ _)).firstSampleTimeUs - first.firstSampleTimeUs -
        (rest.map Capture.expectedDeltaUs).sum := by
  induction rest generalizing first with
  | nil => simp
  | cons second rest ih =>
    obtain ⟨⟨hactual, herror⟩, hchain⟩ := List.isChain_cons_cons.mp hchain
    rw [List.map_cons, List.sum_cons, List.map_cons, List.sum_cons, ih hchain, herror, hactual,
      List.getLast_cons (List.cons_ne_nil _ _)]
    omega

/-- The timestamps increase where the differences are positive. -/
theorem monotonic_iff {first : Capture} {rest : List Capture}
    (hchain : (first :: rest).IsChain Follows) :
    (((first :: rest).zip rest).all fun p =>
      decide (p.1.firstSampleTimeUs < p.2.firstSampleTimeUs)) = true ↔
      ∀ c ∈ rest, 0 < c.actualDeltaUs := by
  induction rest generalizing first with
  | nil => simp
  | cons second rest ih =>
    obtain ⟨⟨hactual, -⟩, hchain⟩ := List.isChain_cons_cons.mp hchain
    rw [List.zip_cons_cons, List.all_cons, Bool.and_eq_true, decide_eq_true_iff, ih hchain,
      List.forall_mem_cons, hactual, Int.sub_pos]

/-- What the analysis says of the span. -/
theorem analyze_span {records : List (Record K)} {summary : Summary K}
    (h : analyze records = .ok summary) :
    ∃ first second rest, captures records = first :: second :: rest ∧
      summary.blocks = (captures records).length ∧ summary.frames = total (captures records) ∧
      summary.finished = records.any Record.isFinished ∧
      summary.spanErrorUs = ((first :: second :: rest).getLast
        (List.cons_ne_nil _ _)).firstSampleTimeUs - first.firstSampleTimeUs -
          ((second :: rest).map Capture.expectedDeltaUs).sum ∧
      summary.timestampsMonotonic = ((captures records).zip (second :: rest)).all fun p =>
        decide (p.1.firstSampleTimeUs < p.2.firstSampleTimeUs) := by
  unfold analyze at h
  split at h
  · cases h
  · split at h
    · cases h
    · cases h
    · rename_i first second rest hcaptures
      dsimp only at h
      split at h
      · cases h
      · obtain rfl := Except.ok.inj h
        exact ⟨first, second, rest, hcaptures, by rw [hcaptures], by rw [hcaptures]; rfl, rfl, rfl,
          by rw [hcaptures]; rfl⟩

end Span

/-! ## The fits -/

section Points

variable {K : Type} [Field K]

/-- The blocks as points: where a block begins, in frames and in time. -/
def blockPoints (K : Type) [Field K] (position : Nat) (blocks : List Capture) : List (K × K) :=
  ((samplePositions position blocks).zip blocks).map fun p => ((p.1 : K), (p.2.firstSampleTimeUs : K))

theorem blockPoints_cons (position : Nat) (c : Capture) (rest : List Capture) :
    blockPoints K position (c :: rest) =
      ((position : K), (c.firstSampleTimeUs : K)) :: blockPoints K (position + c.frames) rest := rfl

/-- The later points, from their own position on. -/
theorem blockPoints_drop (position n : Nat) (blocks : List Capture) :
    (blockPoints K position blocks).drop n =
      blockPoints K (position + total (blocks.take n)) (blocks.drop n) := by
  induction n generalizing position blocks with
  | zero => rfl
  | succ n ih =>
    cases blocks with
    | nil => rfl
    | cons c rest =>
      rw [blockPoints_cons, List.drop_succ_cons, ih, List.take_succ_cons, List.drop_succ_cons,
        show total (c :: rest.take n) = c.frames + total (rest.take n) from rfl, Nat.add_assoc]

/-- Positions from another start. -/
theorem blockPoints_shift (position n : Nat) (blocks : List Capture) :
    blockPoints K (position + n) blocks =
      (blockPoints K position blocks).map fun p => (p.1 + (n : K), p.2) := by
  induction blocks generalizing position with
  | nil => rfl
  | cons c rest ih =>
    rw [blockPoints_cons, blockPoints_cons, List.map_cons, Nat.add_right_comm, ih, Nat.cast_add]

/-- The positions and the times, as the analysis pairs them. -/
theorem blockPoints_zip (blocks : List Capture) :
    ((samplePositions 0 blocks).map fun p : Nat => (p : K)).zip
      (blocks.map fun c => (c.firstSampleTimeUs : K)) = blockPoints K 0 blocks := by
  rw [List.zip_map]
  rfl

/-- The positions that the analysis fits. -/
theorem blockPoints_fst (blocks : List Capture) :
    (blockPoints K 0 blocks).map Prod.fst = (samplePositions 0 blocks).map fun p : Nat => (p : K) := by
  rw [← blockPoints_zip, List.map_fst_zip]
  simp

/-- The times that it fits. -/
theorem blockPoints_snd (blocks : List Capture) :
    (blockPoints K 0 blocks).map Prod.snd = blocks.map fun c => (c.firstSampleTimeUs : K) := by
  rw [← blockPoints_zip, List.map_snd_zip]
  simp

/-- The analysis' sums are those of the least-squares formula. -/
theorem blockPoints_variance (blocks : List Capture) :
    (((samplePositions 0 blocks).map fun p : Nat => (p : K)).map fun value =>
      (value - meanX (blockPoints K 0 blocks)) ^ 2).sum = variance (blockPoints K 0 blocks) := by
  rw [← blockPoints_fst, List.map_map, variance]
  refine congrArg List.sum (List.map_congr_left fun p _ => ?_)
  exact sq _

/-- The observations of the blocks, while the position fits its word. -/
theorem points_observations {blocks : List Capture} (htotal : total blocks < 2 ^ 64) :
    points K (observations blocks) = blockPoints K 0 blocks := by
  have hposition : ∀ position, position + total blocks < 2 ^ 64 →
      ∀ p ∈ samplePositions position blocks, p < 2 ^ 64 := by
    clear htotal
    induction blocks with
    | nil => exact fun _ _ => nofun
    | cons c rest ih =>
      intro position hlt p hp
      rw [show total (c :: rest) = c.frames + total rest from rfl] at hlt
      rcases List.mem_cons.mp hp with rfl | hp
      · omega
      · exact ih (position + c.frames) (by omega) p hp
  rw [points, observations, List.map_map]
  refine List.map_congr_left fun p hp => ?_
  have hfits := hposition 0 (by omega) p.1 (List.of_mem_zip hp).1
  show (((UInt64.ofNat p.1).toNat : K), _) = _
  rw [UInt64.toNat_ofNat', Nat.mod_eq_of_lt hfits]

end Points

section Agreement

attribute [local instance] LongDouble.exact

variable {K : Type} [Field K] [LinearOrder K] [FloorRing K]

/-- What the analysis makes of the clock, where the blocks have a line. -/
theorem analyze_rate {records : List (Record K)} {started : Started}
    (hstarted : records.findSome? Record.started? = some started) (hrate : started.rateHz ≠ 0)
    (hvariance : variance (blockPoints K 0 (captures records)) ≠ 0)
    (hslope : slope (blockPoints K 0 (captures records)) ≠ 0) :
    ∃ summary, analyze records = .ok summary ∧ summary.blocks = (captures records).length ∧
      summary.rateHz = roundTo 6 (((1000000 : Nat) : K) / slope (blockPoints K 0 (captures records))) ∧
      summary.rateErrorPpm = roundTo 3
        ((((1000000 : Nat) : K) / slope (blockPoints K 0 (captures records)) - started.rateHz) *
          ((1000000 : Nat) : K) / started.rateHz) := by
  have hmeanX : ∀ blocks, fmean ((samplePositions 0 blocks).map fun p : Nat => (p : K)) =
      meanX (blockPoints K 0 blocks) := fun blocks => by
    rw [meanX, blockPoints_fst]
    rfl
  have hmeanY : ∀ blocks : List Capture, fmean (blocks.map fun c => (c.firstSampleTimeUs : K)) =
      meanY (blockPoints K 0 blocks) := fun blocks => by
    rw [meanY, blockPoints_snd]
    rfl
  unfold analyze
  rw [hstarted]
  dsimp only
  split
  · rename_i hcaptures
    exact absurd (by rw [hcaptures]; rfl) hvariance
  · rename_i c hcaptures
    rw [hcaptures] at hvariance
    exact absurd (by simp [blockPoints, samplePositions, variance, meanX, mean]) hvariance
  · rename_i first second rest hcaptures
    rw [hcaptures] at hvariance hslope ⊢
    rw [hmeanX, hmeanY, blockPoints_zip, blockPoints_variance, if_neg]
    · exact ⟨_, rfl, rfl, rfl, rfl⟩
    · rintro (h | h | h)
      · exact hvariance h
      · exact hslope h
      · exact hrate h

/-- **The two programs agree on the span**: of the output of a probe, the analysis finds as the error
    of the span the sum of the errors that the probe printed, the timestamps monotonic where no
    printed difference was backwards, and the blocks and frames that the probe counted. -/
theorem span_error (started : Started) (sqrtl : K → K) (unset : PhonoClockFit K) (turns : List Turn)
    {summary : Summary K} (h : analyze (probe started sqrtl unset turns) = .ok summary)
    (hblocks : summary.blocks ≤ 2 ^ 64) :
    let records := probe started sqrtl unset turns
    summary.spanErrorUs = ((captures records).tail.map Capture.deltaErrorUs).sum ∧
    (summary.timestampsMonotonic = true ↔ ∀ c ∈ (captures records).tail, 0 < c.actualDeltaUs) ∧
    summary.finished = true ∧
    ∃ xruns, records.getLast? =
      some (.probeFinished (summary.blocks % 2 ^ 64) (summary.frames % 2 ^ 64) xruns) := by
  intro records
  obtain ⟨s, hprobed, hrecords⟩ :=
    probe_output started sqrtl unset turns
  have hcaptures : captures (probe started sqrtl unset turns) = captures s.output := by
    rw [hrecords, List.cons_append, captures_cons_started, captures_append]
    exact List.append_nil _
  obtain ⟨first, second, rest, hlist, hcount, hframes, hfinished, hspan, hmonotonic⟩ :=
    analyze_span h
  have hchain : (first :: second :: rest).IsChain Follows := by
    rw [← hlist, hcaptures]
    refine hprobed.deltas ?_
    rw [← hcaptures, ← hcount]
    exact hblocks
  refine ⟨?_, ?_, ?_, s.xruns.toNat, ?_⟩
  · rw [hlist, List.tail_cons, span_telescopes hchain, hspan]
  · rw [hmonotonic, hlist, List.tail_cons]
    exact monotonic_iff hchain
  · rw [hfinished, hrecords, List.any_append]
    simp [Record.isFinished]
  · show (probe started sqrtl unset turns).getLast? = _
    rw [hcount, hframes, hcaptures, hrecords, List.getLast?_concat, hprobed.sequence,
      hprobed.totalFrames, UInt64.toNat_ofNat', UInt64.toNat_ofNat']

/-- A probe of a usual device. -/
def started : Started := ⟨"hw:1,0", 48000, 2, 960, 4800⟩

/-- A fit that has not been written. -/
def unset : PhonoClockFit ℚ := ⟨⟨0, 0, 0, 0, 0⟩, 0⟩

/-- A clock that loses a microsecond in every block. -/
def slowClock (blocks : Nat) : List Turn :=
  (List.range blocks).map fun k =>
    .read 960 ⟨20001 * (k + 1) / 1000000, 20001 * (k + 1) % 1000000 * 1000⟩ 960

/-- A clock that loses a microsecond a block: two, over three blocks. -/
theorem span_error_slow : ∃ summary, analyze (probe started id unset (slowClock 3)) = .ok summary ∧
    summary.spanErrorUs = 2 := by
  obtain ⟨summary, hsummary, hblocks, -⟩ :=
    analyze_rate (show (probe started id unset (slowClock 3)).findSome? Record.started? = _ from rfl)
      (by decide) (by decide +kernel) (by decide +kernel)
  refine ⟨summary, hsummary, ?_⟩
  rw [(span_error started id unset (slowClock 3) hsummary (by rw [hblocks]; decide +kernel)).1]
  decide +kernel

variable [IsStrictOrderedRing K]

/-- What a printed fit says of the blocks before it. -/
theorem FitOf.line {rate : Nat} {sqrtl : K → K} {unset : PhonoClockFit K} {blocks : List Capture}
    {f : FitLine K} (h : FitOf rate sqrtl unset blocks f) (htotal : total blocks < 2 ^ 64) :
    let recent := blocks.drop (blocks.length - clockObservations)
    variance (blockPoints K 0 recent) ≠ 0 ∧ 0 < slope (blockPoints K 0 recent) ∧
      f.observations = recent.length ∧
      f.rateHz = ((1000000 : Nat) : K) / slope (blockPoints K 0 recent) ∧
      f.rateErrorPpm = (f.rateHz - rate) * ((1000000 : Nat) : K) / rate := by
  intro recent
  obtain ⟨sequence, fit, rfl, hfit⟩ := h
  have hlength : (observations blocks).length = blocks.length := by
    rw [observations, List.length_map, List.length_zip, length_samplePositions, Nat.min_self]
  have hpoints : points K (recentObservations (observations blocks)) =
      (blockPoints K 0 recent).map fun p =>
        (p.1 + (total (blocks.take (blocks.length - clockObservations)) : K), p.2) := by
    rw [recentObservations, hlength, points, List.map_drop, ← blockPoints_shift,
      ← blockPoints_drop]
    exact congrArg (List.drop _) (points_observations htotal)
  obtain ⟨hvariance, hslope, -⟩ := perm (points_perm (K := K) (observations blocks))
  have hshift := LeastSquares.shift (blockPoints K 0 recent)
    (total (blocks.take (blocks.length - clockObservations)) : K)
  rw [hpoints, hshift.1] at hvariance
  rw [hpoints, hshift.2] at hslope
  have hcount : (observed (observations blocks)).count = recent.length := by
    rw [← length_items, ← List.length_rotate, items_rotate, recentObservations, List.length_drop,
      hlength, List.length_drop]
  rw [fitInto_eq, hvariance, hslope, hcount] at hfit
  split at hfit
  · exact absurd (Prod.mk.inj hfit).1 Bool.false_ne_true
  · rename_i hspread
    obtain ⟨hpositive, hfit⟩ := Prod.mk.inj hfit
    have hmillion : (LongDouble.ofInt 1000000 : K) = ((1000000 : Nat) : K) := by
      show ((1000000 : ℤ) : K) = _
      norm_cast
    have hnominal : (LongDouble.ofInt rate : K) = rate := Int.cast_natCast rate
    refine ⟨hspread, of_decide_eq_true hpositive, ?_, ?_, ?_⟩
    · show fit.observations = _
      rw [← hfit]
    · show LongDouble.ofInt 1000000 / fit.usPerSample = _
      rw [← hfit, hmillion]
    · rw [← hmillion, ← hnominal]
      rfl

/-- **The two programs agree on the clock**: each fit that the probe prints has the rate, the error
    of the rate and the number of blocks that the analysis finds in any file with the same start and,
    of the blocks printed before that fit, the last 2048. -/
theorem fits_agree (started : Started) (hrate : 0 < started.rateHz) (sqrtl : K → K)
    (unset : PhonoClockFit K) (turns : List Turn) {n : Nat} {f : FitLine K}
    (hfit : (probe started sqrtl unset turns)[n]? = some (.clockFit f))
    (htotal : total (captures ((probe started sqrtl unset turns).take n)) < 2 ^ 64)
    (records : List (Record K)) (hstarted : records.findSome? Record.started? = some started)
    (hrecords : captures records =
      let before := captures ((probe started sqrtl unset turns).take n)
      before.drop (before.length - clockObservations)) :
    ∃ summary, analyze records = .ok summary ∧ summary.blocks = f.observations ∧
      summary.rateHz = roundTo 6 f.rateHz ∧ summary.rateErrorPpm = roundTo 3 f.rateErrorPpm := by
  obtain ⟨s, hprobed, houtput⟩ := probe_output started sqrtl unset turns
  rw [houtput] at hfit htotal hrecords
  -- The fit is none of the first and the last record.
  cases n with
  | zero => exact nomatch hfit
  | succ k =>
    rw [List.cons_append, List.getElem?_cons_succ] at hfit
    have hk : k < s.output.length := by
      by_contra hge
      obtain ⟨j, rfl⟩ := Nat.exists_eq_add_of_le (Nat.le_of_not_lt hge)
      rw [List.getElem?_append_right (Nat.le_add_right _ _), Nat.add_sub_cancel_left] at hfit
      cases j with
      | zero => exact nomatch Option.some.inj hfit
      | succ j => exact nomatch hfit
    rw [List.getElem?_append_left hk] at hfit
    rw [List.cons_append, List.take_succ_cons, captures_cons_started,
      List.take_append_of_le_length hk.le] at htotal hrecords
    obtain ⟨hvariance, hslope, hobservations, hrateHz, herror⟩ :=
      (hprobed.fits k f hfit).line htotal
    dsimp only at hrecords
    rw [← hrecords] at hvariance hslope hobservations hrateHz
    obtain ⟨summary, hsummary, hblocks, hrate', herror'⟩ :=
      analyze_rate hstarted hrate.ne' hvariance hslope.ne'
    refine ⟨summary, hsummary, hblocks.trans hobservations.symm, ?_, ?_⟩
    · rw [hrate', hrateHz]
    · rw [herror', herror, hrateHz]

/-- The same clock over 51 blocks: both programs find its rate. -/
theorem fits_agree_slow :
    ∃ summary, analyze ((probe started id unset (slowClock 51)).take 52) = .ok summary ∧
      summary.blocks = 51 ∧ summary.rateHz = roundTo 6 (960000000 / 20001) := by
  have hfit : (probe started id unset (slowClock 51))[52]? =
      some (.clockFit ⟨50, 51, 960000000 / 20001,
        (960000000 / 20001 - 48000) * 1000000 / 48000, 0⟩) := by decide +kernel
  obtain ⟨summary, hsummary, hblocks, hrate, -⟩ :=
    fits_agree started (by decide) id unset (slowClock 51) hfit (by decide +kernel)
      ((probe started id unset (slowClock 51)).take 52) (by decide +kernel) (by decide +kernel)
  exact ⟨summary, hsummary, hblocks, hrate⟩

end Agreement

end PhonoConsole.Probe