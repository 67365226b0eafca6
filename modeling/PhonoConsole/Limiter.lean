/-
  THE PEAK LIMITER: `PeakLimiterS16le` (`phono_console/sendspin_source.py`).

  Every block of samples is scaled by the base gain and by the limiter's gain.  The limiter's gain
  falls at once to what the block's peak requires and comes back by a fraction of what is missing,
  so that it never rises above what the block requires.  Gains are exact numbers: elements of any
  ordered field with a floor.

  * `frombytes`, `tobytes` — a block as little-endian 16-bit samples, and the way back;
  * `requiredGain`, `envelope` — the most the block allows, and the gain the limiter goes to;
  * `process`           — one block, with the errors of a block it cannot read or store;
  * `Within`            — the gain lies in `(0, 1]`; every block keeps it (`process_within`);
  * `never_clips`       — after any history, a block is scaled by one factor and never clipped.
-/
import PhonoConsole.Lib.Struct
import PhonoConsole.Lib.Rounding
import Mathlib.Data.Rat.Floor
import Mathlib.Order.Interval.Set.Basic
import Mathlib.Algebra.Order.Ring.Rat

namespace PhonoConsole

open Struct Rounding

/-! ## Samples -/

/-- The item of `array("h")`, read as little-endian. -/
def int16 : Code := ⟨2, true⟩

/-- `samples.frombytes(pcm)`: an error when half a sample is left over. -/
def frombytes : Bytes → Option (List ℤ)
  | [] => some []
  | [_] => none
  | low :: high :: rest => (frombytes rest).map (int16.read [low, high] :: ·)

/-- The samples stored and written out by `tobytes`: an error when one does not fit its item. -/
def tobytes : List ℤ → Option Bytes
  | [] => some []
  | sample :: rest => do return (← int16.pack sample) ++ (← tobytes rest)

/-- Writing the samples of a block gives the block back. -/
theorem tobytes_frombytes : ∀ {pcm : Bytes} {samples : List ℤ},
    frombytes pcm = some samples → tobytes samples = some pcm
  | [], _, h => by
      cases h
      rfl
  | [_], _, h => nomatch h
  | low :: high :: rest, _, h => by
      obtain ⟨samples, hrest, rfl⟩ := Option.map_eq_some_iff.mp h
      have hitem : [low, high].length = int16.size := rfl
      have hpack : int16.pack (int16.read [low, high]) = some [low, high] :=
        Code.pack_eq_some.mpr ⟨Code.fits_read hitem, Code.bytes_read hitem⟩
      rw [tobytes, hpack, tobytes_frombytes hrest]
      rfl

/-- Two bytes a sample, read and written. -/
theorem frombytes_length : ∀ {pcm : Bytes} {samples : List ℤ},
    frombytes pcm = some samples → pcm.length = 2 * samples.length
  | [], _, h => by
      cases h
      rfl
  | [_], _, h => nomatch h
  | low :: high :: rest, _, h => by
      obtain ⟨samples, hrest, rfl⟩ := Option.map_eq_some_iff.mp h
      have ih := frombytes_length hrest
      simp only [List.length_cons]
      omega

theorem tobytes_length {samples : List ℤ} : ∀ {pcm : Bytes},
    tobytes samples = some pcm → pcm.length = 2 * samples.length := by
  induction samples with
  | nil =>
    intro pcm h
    cases h
    rfl
  | cons sample rest ih =>
    intro pcm h
    obtain ⟨item, hitem, h⟩ := Option.bind_eq_some_iff.mp h
    obtain ⟨tail, htail, h⟩ := Option.bind_eq_some_iff.mp h
    cases h
    obtain ⟨-, rfl⟩ := Code.pack_eq_some.mp hitem
    rw [List.length_append, Code.length_bytes, ih htail, List.length_cons]
    show 2 + _ = _
    omega

/-- A block of an even number of bytes can be read. -/
theorem frombytes_isSome : ∀ {pcm : Bytes}, 2 ∣ pcm.length → (frombytes pcm).isSome = true
  | [], _ => rfl
  | [_], h => by simp at h
  | _ :: _ :: rest, h => by
      have hrest : 2 ∣ List.length rest := by simpa [Nat.dvd_add_right] using h
      rw [frombytes, Option.isSome_map]
      exact frombytes_isSome hrest

/-- Samples of 16 bits can be written. -/
theorem tobytes_isSome {samples : List ℤ} (h : ∀ sample ∈ samples, int16.Fits sample) :
    (tobytes samples).isSome = true := by
  induction samples with
  | nil => rfl
  | cons sample rest ih =>
    have hpack : int16.pack sample = some (int16.bytes sample) :=
      Code.pack_eq_some.mpr ⟨h sample (.head _), rfl⟩
    obtain ⟨tail, htail⟩ := Option.isSome_iff_exists.mp (ih fun s hs => h s (.tail _ hs))
    rw [tobytes, hpack, htail]
    rfl

/-! ## The limiter -/

variable {K : Type} [Field K] [LinearOrder K]

/-- What the constructor computes from its arguments: the gain and the ceiling. -/
structure LimiterConfig (K : Type) [Field K] [LinearOrder K] where
  baseGain : K
  ceiling : ℤ
  gain_pos : 0 < baseGain
  ceiling_pos : 0 < ceiling

/-- `PeakLimiterS16LE`: its settings and its gain. -/
structure PeakLimiterS16le (K : Type) [Field K] [LinearOrder K] extends LimiterConfig K where
  limiterGain : K

/-- A limiter as it is constructed. -/
def LimiterConfig.limiter (cfg : LimiterConfig K) : PeakLimiterS16le K := { cfg with limiterGain := 1 }

/-- A block, with the release fraction that its duration gives. -/
structure PcmBlock (K : Type) [Field K] [LinearOrder K] where
  pcm : Bytes
  releaseFraction : Set.Ico (0 : K) 1

/-- What `process` raises. -/
inductive ProcessError
  | valueError
  | overflowError
deriving DecidableEq

/-- What the call hands over once the samples have their values. -/
def stored (samples : List ℤ) : Except ProcessError Bytes :=
  match tobytes samples with
  | some pcm => .ok pcm
  | none => .error .overflowError

theorem stored_frombytes {pcm : Bytes} {samples : List ℤ} (h : frombytes pcm = some samples) :
    stored samples = .ok pcm := by
  rw [stored, tobytes_frombytes h]

namespace PeakLimiterS16le

/-- `max((abs(sample) for sample in samples), default=0)`. -/
def peak : List ℤ → ℤ
  | [] => 0
  | sample :: rest => max |sample| (peak rest)

/-- `required_gain`: what takes the loudest sample to the ceiling. -/
def requiredGain (l : PeakLimiterS16le K) (samples : List ℤ) : K :=
  let requestedPeak := peak samples * l.baseGain
  if 0 < requestedPeak then min 1 (l.ceiling / requestedPeak) else 1

/-- The limiter's gain for a block that requires `required`. -/
def envelope (l : PeakLimiterS16le K) (required releaseFraction : K) : K :=
  if required < l.limiterGain then required
  else if l.limiterGain < required then
    l.limiterGain + (required - l.limiterGain) * releaseFraction
  else l.limiterGain

/-- The factor of the samples. -/
def factor (l : PeakLimiterS16le K) : K := l.baseGain * l.limiterGain

variable [FloorRing K]

/-- `max(-self._ceiling, min(self._ceiling, value))` of the rounded product. -/
def scale (l : PeakLimiterS16le K) (sample : ℤ) : ℤ :=
  max (-l.ceiling) (min l.ceiling (halfEven (sample * l.factor)))

/-- The scaling loop over a block. -/
def scaled (l : PeakLimiterS16le K) (samples : List ℤ) : Except ProcessError Bytes :=
  stored (samples.map l.scale)

/-- `process`: the limiter after the block, and what the call returns or raises. -/
def process (l : PeakLimiterS16le K) (block : PcmBlock K) :
    PeakLimiterS16le K × Except ProcessError Bytes :=
  if block.pcm = [] then (l, .ok block.pcm)
  else match frombytes block.pcm with
    | none => (l, .error .valueError)
    | some samples =>
      let l' : PeakLimiterS16le K :=
        { l with limiterGain := l.envelope (l.requiredGain samples) block.releaseFraction }
      if l'.factor = 1 then (l', .ok block.pcm) else (l', l'.scaled samples)

/-- The limiter after a sequence of blocks, whatever became of each. -/
def after (l : PeakLimiterS16le K) : List (PcmBlock K) → PeakLimiterS16le K
  | [] => l
  | block :: rest => (l.process block).1.after rest

/-! ## The gain -/

variable {l : PeakLimiterS16le K} {samples : List ℤ}

/-- The limiter's gain never amplifies and never mutes. -/
def Within (l : PeakLimiterS16le K) : Prop := 0 < l.limiterGain ∧ l.limiterGain ≤ 1

/-- The three ways through `process`: an empty block, one that cannot be read, and one whose samples
    move the gain to the envelope. -/
theorem process_cases (l : PeakLimiterS16le K) (block : PcmBlock K) :
    (block.pcm = [] ∧ l.process block = (l, .ok [])) ∨
    (frombytes block.pcm = none ∧ l.process block = (l, .error .valueError)) ∨
    ∃ samples l', frombytes block.pcm = some samples ∧
      l' = { l with limiterGain := l.envelope (l.requiredGain samples) block.releaseFraction } ∧
      l.process block = (l', if l'.factor = 1 then .ok block.pcm else l'.scaled samples) := by
  unfold process
  split
  · rename_i hempty
    exact .inl ⟨hempty, by rw [hempty]⟩
  · split
    · rename_i hodd
      exact .inr (.inl ⟨hodd, rfl⟩)
    · rename_i samples hsamples
      refine .inr (.inr ⟨samples, _, hsamples, rfl, ?_⟩)
      dsimp only
      split <;> rfl

/-- The gain and the ceiling stay what they are. -/
theorem process_config (l : PeakLimiterS16le K) (block : PcmBlock K) :
    (l.process block).1.toLimiterConfig = l.toLimiterConfig := by
  rcases l.process_cases block with ⟨-, h⟩ | ⟨-, h⟩ | ⟨samples, l', -, rfl, h⟩ <;> rw [h]

theorem after_config (l : PeakLimiterS16le K) (history : List (PcmBlock K)) :
    (l.after history).toLimiterConfig = l.toLimiterConfig := by
  induction history generalizing l with
  | nil => rfl
  | cons block rest ih => exact (ih (l.process block).1).trans (l.process_config block)

/-- What is handed over is as long as the block. -/
theorem process_length {block : PcmBlock K} {pcm : Bytes} (h : (l.process block).2 = .ok pcm) :
    pcm.length = block.pcm.length := by
  rcases l.process_cases block with ⟨hempty, hp⟩ | ⟨-, hp⟩ | ⟨samples, l', hread, -, hp⟩
  · rw [hp] at h
    rw [hempty, ← Except.ok.inj h]
  · rw [hp] at h
    cases h
  · rw [hp] at h
    dsimp only at h
    split at h
    · rw [Except.ok.inj h]
    · unfold scaled stored at h
      split at h
      · rename_i pcm' hwrite
        obtain rfl := Except.ok.inj h
        rw [tobytes_length hwrite, List.length_map, frombytes_length hread]
      · cases h

/-- A block of whole samples is processed, when the ceiling is a sample. -/
theorem process_ok {block : PcmBlock K} (hpcm : 2 ∣ block.pcm.length)
    (hceiling : l.ceiling ≤ 32767) : ∃ pcm, (l.process block).2 = .ok pcm := by
  rcases l.process_cases block with ⟨-, hp⟩ | ⟨hodd, -⟩ | ⟨samples, l', -, rfl, hp⟩
  · exact ⟨[], by rw [hp]⟩
  · have hread := frombytes_isSome hpcm
    rw [hodd] at hread
    cases hread
  · rw [hp]
    dsimp only
    split
    · exact ⟨_, rfl⟩
    · -- every sample is clamped into its item
      have hpos := l.ceiling_pos
      generalize hl' : ({ l with limiterGain := _ } : PeakLimiterS16le K) = l'
      have hceiling' : l'.ceiling = l.ceiling := by rw [← hl']
      have hfits : ∀ sample ∈ samples.map l'.scale, int16.Fits sample := by
        intro sample hsample
        obtain ⟨sample, -, rfl⟩ := List.mem_map.mp hsample
        have hlow : -l'.ceiling ≤ l'.scale sample := le_max_left _ _
        have hhigh : l'.scale sample ≤ l'.ceiling :=
          max_le (by omega) (min_le_left _ _)
        show -(65536 : ℤ) ≤ 2 * l'.scale sample ∧ 2 * l'.scale sample < 65536
        omega
      obtain ⟨pcm, hwrite⟩ := Option.isSome_iff_exists.mp (tobytes_isSome hfits)
      exact ⟨pcm, by rw [scaled, stored, hwrite]⟩

theorem le_peak {sample : ℤ} (h : sample ∈ samples) : |sample| ≤ peak samples := by
  induction samples with
  | nil => exact nomatch h
  | cons first rest ih =>
    rcases List.mem_cons.mp h with rfl | hrest
    · exact le_max_left _ _
    · exact (ih hrest).trans (le_max_right _ _)

variable [IsStrictOrderedRing K]

theorem requiredGain_within (l : PeakLimiterS16le K) (samples : List ℤ) :
    0 < l.requiredGain samples ∧ l.requiredGain samples ≤ 1 := by
  unfold requiredGain
  dsimp only
  split
  · rename_i hpeak
    have hceiling : (0 : K) < l.ceiling := by exact_mod_cast l.ceiling_pos
    exact ⟨lt_min one_pos (div_pos hceiling hpeak), min_le_left _ _⟩
  · exact ⟨one_pos, le_rfl⟩

/-- No sample of a block exceeds the ceiling at the gain the block requires. -/
theorem mul_requiredGain_le {sample : ℤ} (h : sample ∈ samples) :
    |(sample : K)| * (l.baseGain * l.requiredGain samples) ≤ l.ceiling := by
  have hgain := l.gain_pos
  have hceiling : (0 : K) < l.ceiling := by exact_mod_cast l.ceiling_pos
  have hpeak : |(sample : K)| * l.baseGain ≤ peak samples * l.baseGain := by
    refine mul_le_mul_of_nonneg_right ?_ hgain.le
    exact_mod_cast le_peak h
  rw [← mul_assoc]
  unfold requiredGain
  dsimp only
  split
  · rename_i hpos
    calc |(sample : K)| * l.baseGain * min 1 (l.ceiling / (peak samples * l.baseGain))
        ≤ peak samples * l.baseGain * (l.ceiling / (peak samples * l.baseGain)) :=
          mul_le_mul hpeak (min_le_right _ _) (le_min zero_le_one (div_pos hceiling hpos).le) hpos.le
      _ = l.ceiling := mul_div_cancel₀ _ hpos.ne'
  · -- every sample is zero
    rename_i hzero
    rw [mul_one]
    exact (hpeak.trans (not_lt.mp hzero)).trans hceiling.le

omit [FloorRing K] in
/-- The envelope falls to what is required, or rises toward it without reaching beyond. -/
theorem envelope_within {required : K} (fraction : Set.Ico (0 : K) 1) (hl : l.Within)
    (hrequired : 0 < required ∧ required ≤ 1) :
    0 < l.envelope required fraction ∧ l.envelope required fraction ≤ required := by
  obtain ⟨fraction, hlow, hhigh⟩ := fraction
  unfold envelope
  split
  · exact ⟨hrequired.1, le_rfl⟩
  · rename_i hattack
    split
    · rename_i hrelease
      have hmissing : 0 ≤ (required - l.limiterGain) * fraction :=
        mul_nonneg (sub_nonneg.mpr hrelease.le) hlow
      have hpart : (required - l.limiterGain) * fraction ≤ required - l.limiterGain :=
        mul_le_of_le_one_right (sub_nonneg.mpr hrelease.le) hhigh.le
      exact ⟨by linarith [hl.1], by linarith⟩
    · exact ⟨hl.1, not_lt.mp hattack⟩

/-- Every block keeps the gain in its bounds. -/
theorem process_within (block : PcmBlock K) (hl : l.Within) : (l.process block).1.Within := by
  rcases l.process_cases block with ⟨-, h⟩ | ⟨-, h⟩ | ⟨samples, l', -, rfl, h⟩
  · rwa [h]
  · rwa [h]
  · have hrequired := l.requiredGain_within samples
    have henvelope := envelope_within block.releaseFraction hl hrequired
    rw [h]
    exact ⟨henvelope.1, henvelope.2.trans hrequired.2⟩

/-- So does every sequence of blocks. -/
theorem after_within (history : List (PcmBlock K)) (hl : l.Within) : (l.after history).Within := by
  induction history generalizing l with
  | nil => exact hl
  | cons block rest ih => exact ih (process_within block hl)

omit [FloorRing K] in
theorem limiter_within (cfg : LimiterConfig K) : cfg.limiter.Within := ⟨one_pos, le_rfl⟩

/-- After a block the gain is at most what its samples require. -/
theorem process_le_required {block : PcmBlock K} (hl : l.Within)
    (h : frombytes block.pcm = some samples) :
    (l.process block).1.limiterGain ≤ l.requiredGain samples := by
  rcases l.process_cases block with ⟨hempty, hsame⟩ | ⟨hodd, -⟩ | ⟨samples', l', hsamples, rfl, hmoved⟩
  · -- an empty block requires nothing
    rw [hempty] at h
    cases h
    rw [hsame]
    simpa [requiredGain, peak] using hl.2
  · rw [h] at hodd
    cases hodd
  · rw [h] at hsamples
    cases hsamples
    rw [hmoved]
    exact (envelope_within block.releaseFraction hl (l.requiredGain_within samples)).2

/-! ## No clipping -/

/-- At a gain that the block requires or less, rounding stays within the ceiling. -/
theorem round_within_ceiling {sample : ℤ} (hl : l.Within) {l₀ : PeakLimiterS16le K}
    (hcfg : l.toLimiterConfig = l₀.toLimiterConfig)
    (hgain : l.limiterGain ≤ l₀.requiredGain samples) (h : sample ∈ samples) :
    |halfEven (sample * l.factor)| ≤ l.ceiling := by
  have hbase := l.gain_pos
  have hproduct : |(sample : K) * l.factor| ≤ l.ceiling := by
    have hfactor : 0 ≤ l.factor := (mul_pos l.gain_pos hl.1).le
    have hrequired := mul_requiredGain_le (l := l₀) h
    rw [← hcfg] at hrequired
    rw [abs_mul, abs_of_nonneg hfactor]
    refine le_trans (mul_le_mul_of_nonneg_left ?_ (abs_nonneg _)) hrequired
    exact mul_le_mul_of_nonneg_left hgain hbase.le
  obtain ⟨hlow, hhigh⟩ := abs_le.mp hproduct
  exact abs_le.mpr ⟨le_halfEven (by exact_mod_cast hlow), halfEven_le hhigh⟩

omit [IsStrictOrderedRing K] in
/-- So that the final clamp changes nothing. -/
theorem scale_eq {sample : ℤ} (h : |halfEven (sample * l.factor)| ≤ l.ceiling) :
    l.scale sample = halfEven (sample * l.factor) := by
  obtain ⟨hlow, hhigh⟩ := abs_le.mp h
  rw [scale, min_eq_right hhigh, max_eq_right hlow]

/-- Whatever blocks a limiter has processed, the next leaves its gain in `(0, 1]` and at most what
    the samples require; all samples are scaled by one factor and rounded, none beyond the ceiling,
    and the early return hands over what the scaling loop would. -/
theorem never_clips (cfg : LimiterConfig K) (history : List (PcmBlock K)) (block : PcmBlock K) :
    let l := cfg.limiter.after history
    let l' := (l.process block).1
    let factor := cfg.baseGain * l'.limiterGain
    0 < l'.limiterGain ∧ l'.limiterGain ≤ 1 ∧
    ∀ samples, frombytes block.pcm = some samples →
      l'.limiterGain ≤ l.requiredGain samples ∧
      (∀ sample ∈ samples, |halfEven (sample * factor)| ≤ cfg.ceiling ∧
        l'.scale sample = halfEven (sample * factor)) ∧
      (l.process block).2 = stored (samples.map fun sample : ℤ => halfEven (sample * factor)) ∧
      (factor = 1 →
        (l.process block).2 = .ok block.pcm ∧ l'.scaled samples = .ok block.pcm) := by
  intro l l' factor
  have hl : l.Within := after_within history (limiter_within cfg)
  have hl' : l'.Within := process_within block hl
  have hcfg : l.toLimiterConfig = cfg := after_config cfg.limiter history
  have hcfg' : l'.toLimiterConfig = l.toLimiterConfig := l.process_config block
  have hfactor : l'.factor = factor := by
    show l'.baseGain * l'.limiterGain = _
    rw [hcfg', hcfg]
  refine ⟨hl'.1, hl'.2, fun samples hsamples => ?_⟩
  have hgain : l'.limiterGain ≤ l.requiredGain samples := process_le_required hl hsamples
  have hround : ∀ sample ∈ samples, |halfEven (sample * l'.factor)| ≤ l'.ceiling := fun sample h =>
    round_within_ceiling hl' hcfg' hgain h
  have hscale : ∀ sample ∈ samples, l'.scale sample = halfEven (sample * l'.factor) :=
    fun sample h => scale_eq (hround sample h)
  have hscaled : l'.scaled samples = stored (samples.map fun sample : ℤ => halfEven (sample * factor)) := by
    rw [← hfactor, scaled, List.map_congr_left hscale]
  have hunit : factor = 1 → l'.scaled samples = .ok block.pcm := by
    intro hone
    have hsame : samples.map (fun sample : ℤ => halfEven ((sample : K) * factor)) = samples := by
      simp [hone]
    rw [hscaled, hsame, stored_frombytes hsamples]
  -- the early returns are for what the loop would hand over: nothing, or every sample as it came
  have hprocess : (l.process block).2 = l'.scaled samples := by
    rcases l.process_cases block with ⟨hempty, h⟩ | ⟨hodd, -⟩ | ⟨samples', l'', hread, -, h⟩
    · rw [hempty] at hsamples
      cases hsamples
      rw [h]
      rfl
    · rw [hsamples] at hodd
      cases hodd
    · rw [hsamples] at hread
      cases hread
      have hl'' : l'' = l' := by
        show l'' = (l.process block).1
        rw [h]
      rw [h, hl'', hfactor]
      dsimp only
      split
      · rename_i hone
        exact (hunit hone).symm
      · rfl
  refine ⟨hgain, fun sample h => ?_, hprocess.trans hscaled, fun hone => ⟨?_, hunit hone⟩⟩
  · rw [← hfactor, ← hcfg, ← hcfg']
    exact ⟨hround sample h, hscale sample h⟩
  · exact hprocess.trans (hunit hone)

/-- A gain of two under the default ceiling. -/
def doubling : LimiterConfig ℚ := ⟨2, 29203, by norm_num, by norm_num⟩

/-- The samples 20000 and -32768. -/
def loudBlock : PcmBlock ℚ := ⟨[0x20, 0x4e, 0x00, 0x80], ⟨1 / 2, by norm_num, by norm_num⟩⟩

/-- The samples 1000 and -2000. -/
def quietBlock : PcmBlock ℚ := ⟨[0xe8, 0x03, 0x30, 0xf8], ⟨1 / 2, by norm_num, by norm_num⟩⟩

/-- A quiet block after a loud one is not doubled yet: the gain is released halfway. -/
theorem never_clips_loud :
    frombytes quietBlock.pcm = some [1000, -2000] ∧
    (doubling.limiter.after [loudBlock]).limiterGain = 29203 / 65536 ∧
    ((doubling.limiter.after [loudBlock]).process quietBlock).2 = stored [1446, -2891] := by
  have hread : frombytes quietBlock.pcm = some [1000, -2000] := by decide +kernel
  have hout := (never_clips doubling [loudBlock] quietBlock).2.2 _ hread
  exact ⟨hread, by decide +kernel, hout.2.2.1.trans (by decide +kernel)⟩

end PeakLimiterS16le

end PhonoConsole
