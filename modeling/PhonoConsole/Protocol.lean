/-
  THE FRAME PROTOCOL of the audio engine (`phono_console/audio_engine_protocol.py` and
  `native/include/phono_audio/protocol.h`): a 56 byte header and the PCM of one block.

  The two sides are written independently.  Python names a `struct` format, whose offsets are
  implicit; C writes bytes by shifts at offsets computed by hand, through casts between signed and
  unsigned words.  Both are compared with the SAME object, the bytes of the record's fields in
  their order (`Struct.bytes header f.record`):

  * `encode_ok`, `decode_ok`  — `encode` gives, and `decode` takes, exactly those bytes and the PCM
    of a well-shaped frame; `codec_exact` is read off the two;
  * `Written`                 — the invariant of the C writer: up to an offset the buffer holds the
    fields put so far;
  * `encodeHeader_bytes`      — the C header is that record, `same_format` follows.
-/
import PhonoConsole.Lib.Struct
import Mathlib.Tactic.NormNum

namespace PhonoConsole.Protocol

open Struct

/-! ## The Python side -/

/-- `MAGIC`. -/
def magic : Int := 0x50434146

/-- `VERSION`. -/
def version : Int := 1

namespace Code
/-- Two bytes. -/
abbrev H : Code := ⟨2, false⟩
/-- Four bytes. -/
abbrev I : Code := ⟨4, false⟩
/-- Four bytes with a sign. -/
abbrev i : Code := ⟨4, true⟩
/-- Eight bytes. -/
abbrev Q : Code := ⟨8, false⟩
/-- Eight bytes with a sign. -/
abbrev q : Code := ⟨8, true⟩
end Code

open Code in
/-- `HEADER = struct.Struct("<IHHHHIQqIIHHiII")`. -/
abbrev header : List Struct.Code := [I, H, H, H, H, I, Q, q, I, I, H, H, i, I, I]

/-- `HEADER_SIZE = HEADER.size`. -/
def headerSize : Nat := Struct.size header

/-- What the codec can raise: its own error with its text, and the error of `struct` for a field
    out of its range (or a buffer too short to unpack). -/
inductive Raised where
  | protocolError (text : String)
  | structError
deriving DecidableEq

/-- `AudioSource`. -/
inductive AudioSource where
  | phono
  | bluetooth
  | maReturn
deriving DecidableEq

/-- The number of a source in a header. -/
def AudioSource.value : AudioSource → Int
  | .phono => 1
  | .bluetooth => 2
  | .maReturn => 3

/-- `AudioSource(value)`: the member of that value, or the text of the enum's `ValueError`. -/
def AudioSource.ofValue (value : Int) : Except String AudioSource :=
  if value = 1 then .ok .phono
  else if value = 2 then .ok .bluetooth
  else if value = 3 then .ok .maReturn
  else .error s!"{value} is not a valid AudioSource"

/-- A frame.  Its fields are Python integers; `FrameFlags` is an integer of which any bit may be
    set. -/
structure TimestampedPcm where
  source : AudioSource
  flags : Int
  sequence : Int
  firstSampleTimeUs : Int
  sourceRateHz : Int
  outputRateHz : Int
  channels : Int
  frames : Int
  reportedTransportDelayUs : Int
  epoch : Int
  pcm : Bytes
deriving DecidableEq

namespace TimestampedPcm

/-- The values that `encode` hands to `HEADER.pack`. -/
def record (f : TimestampedPcm) : Values header :=
  (magic, version, headerSize, f.source.value, 0, f.flags, f.sequence, f.firstSampleTimeUs,
    f.sourceRateHz, f.outputRateHz, f.channels, f.frames, f.reportedTransportDelayUs, f.epoch,
    f.pcm.length, ())

/-- The PCM has the length that frames and channels ask for. -/
def Shaped (f : TimestampedPcm) : Prop := f.frames * f.channels * 2 = f.pcm.length

instance (f : TimestampedPcm) : Decidable f.Shaped := inferInstanceAs (Decidable (_ = _))

/-- `encode`: the header and the samples, of a frame that says how many there are. -/
def encode (f : TimestampedPcm) : Except Raised Bytes :=
  if f.frames * f.channels * 2 ≠ f.pcm.length then
    .error (.protocolError "PCM byte length does not match frames/channels")
  else
    match pack header f.record with
    | none => .error .structError
    | some bytes => .ok (bytes ++ f.pcm)

/-- Every integer field fits its wire width. -/
structure Fits (f : TimestampedPcm) : Prop where
  flags : 0 ≤ f.flags ∧ f.flags < 2 ^ 32
  sequence : 0 ≤ f.sequence ∧ f.sequence < 2 ^ 64
  firstSampleTimeUs : -2 ^ 63 ≤ f.firstSampleTimeUs ∧ f.firstSampleTimeUs < 2 ^ 63
  sourceRateHz : 0 ≤ f.sourceRateHz ∧ f.sourceRateHz < 2 ^ 32
  outputRateHz : 0 ≤ f.outputRateHz ∧ f.outputRateHz < 2 ^ 32
  channels : 0 ≤ f.channels ∧ f.channels < 2 ^ 16
  frames : 0 ≤ f.frames ∧ f.frames < 2 ^ 16
  reportedTransportDelayUs :
    -2 ^ 31 ≤ f.reportedTransportDelayUs ∧ f.reportedTransportDelayUs < 2 ^ 31
  epoch : 0 ≤ f.epoch ∧ f.epoch < 2 ^ 32

end TimestampedPcm

/-- `TimestampedPcm.decode`. -/
def decode (packet : Bytes) : Except Raised TimestampedPcm :=
  if packet.length < headerSize then
    .error (.protocolError "truncated audio frame header")
  else
    match unpackFrom header packet with
    | none => .error .structError
    | some (magic, version, headerSize, source, reserved, flags, sequence, firstSampleTimeUs,
        sourceRateHz, outputRateHz, channels, frames, transportDelayUs, epoch, pcmBytes, ()) =>
      if magic ≠ Protocol.magic then
        .error (.protocolError "invalid audio frame magic")
      else if version ≠ Protocol.version ∨ headerSize ≠ Protocol.headerSize then
        .error (.protocolError s!"unsupported audio protocol {version}/{headerSize}")
      else if reserved ≠ 0 then
        .error (.protocolError "reserved audio frame field is nonzero")
      else if (packet.length : Int) ≠ Protocol.headerSize + pcmBytes then
        .error (.protocolError "audio frame packet length mismatch")
      else if frames * channels * 2 ≠ pcmBytes then
        .error (.protocolError "audio frame PCM shape mismatch")
      else
        match AudioSource.ofValue source with
        | .error text => .error (.protocolError text)
        | .ok parsedSource =>
          .ok {
            source := parsedSource
            flags, sequence, firstSampleTimeUs, sourceRateHz, outputRateHz, channels, frames
            reportedTransportDelayUs := transportDelayUs
            epoch
            pcm := packet.drop Protocol.headerSize }

/-! ## What both directions agree on -/

theorem AudioSource.ofValue_value (s : AudioSource) : AudioSource.ofValue s.value = .ok s := by
  cases s <;> rfl

theorem AudioSource.value_of_ofValue {value : Int} {s : AudioSource}
    (h : AudioSource.ofValue value = .ok s) : value = s.value := by
  unfold AudioSource.ofValue at h
  split at h
  · obtain rfl := Except.ok.inj h
    assumption
  · split at h
    · obtain rfl := Except.ok.inj h
      assumption
    · split at h
      · obtain rfl := Except.ok.inj h
        assumption
      · exact nomatch h

@[simp] theorem headerSize_eq : headerSize = 56 := rfl

/-- A check that raises was passed, when there is a result. -/
theorem checked_eq_ok {ε α : Type} {c : Prop} [Decidable c] {e : ε} {x : Except ε α} {a : α} :
    (if c then .error e else x) = .ok a ↔ ¬ c ∧ x = .ok a := by
  by_cases hc : c <;> simp [hc]

/-- The record fits the header exactly when the frame's fields fit and its PCM can be counted. -/
theorem fits_record (f : TimestampedPcm) :
    Struct.Fits header f.record ↔ f.Fits ∧ f.pcm.length < 2 ^ 32 := by
  have hsource : 0 ≤ f.source.value ∧ f.source.value < 65536 := by
    cases f.source <;> exact ⟨by decide, by decide⟩
  have hlen : (0 : Int) ≤ f.pcm.length := Int.natCast_nonneg _
  simp only [Struct.Fits, TimestampedPcm.record, Code.Fits, magic, version, headerSize_eq]
  norm_num
  constructor
  · rintro ⟨-, hf, hs, ht, hr, ho, hc, hn, hd, he, hl⟩
    exact ⟨⟨by omega, by omega, by omega, by omega, by omega, by omega, by omega, by omega,
      by omega⟩, by omega⟩
  · rintro ⟨⟨hf, hs, ht, hr, ho, hc, hn, hd, he⟩, hl⟩
    refine ⟨hsource, ?_⟩
    omega

/-- `encode` gives exactly the bytes of the record and the PCM, of a shaped frame that fits. -/
theorem encode_ok {f : TimestampedPcm} {p : Bytes} :
    f.encode = .ok p ↔
      f.Shaped ∧ Struct.Fits header f.record ∧ bytes header f.record ++ f.pcm = p := by
  unfold TimestampedPcm.encode
  constructor
  · intro h
    obtain ⟨hshape, h⟩ := checked_eq_ok.mp h
    cases hpack : pack header f.record with
    | none =>
      rw [hpack] at h
      exact nomatch h
    | some b =>
      rw [hpack] at h
      obtain ⟨hfits, rfl⟩ := pack_eq_some.mp hpack
      exact ⟨not_not.mp hshape, hfits, Except.ok.inj h⟩
  · rintro ⟨hshape, hfits, rfl⟩
    have hpack : pack header f.record = some (bytes header f.record) :=
      pack_eq_some.mpr ⟨hfits, rfl⟩
    refine checked_eq_ok.mpr ⟨not_not.mpr hshape, ?_⟩
    rw [hpack]

/-- `decode` takes exactly those bytes, and gives back that frame. -/
theorem decode_ok {p : Bytes} {f : TimestampedPcm} :
    decode p = .ok f ↔
      f.Shaped ∧ Struct.Fits header f.record ∧ bytes header f.record ++ f.pcm = p := by
  constructor
  · intro h
    unfold decode at h
    obtain ⟨hlong, h⟩ := checked_eq_ok.mp h
    split at h
    · exact nomatch h
    rename_i m v size source reserved flags sequence time sourceRate outputRate channels frames
      delay epoch pcmBytes hunpack
    obtain ⟨hfits, hbytes⟩ := bytes_unpackFrom hunpack
    -- every check that was passed is an equation on the fields just read
    simp only [checked_eq_ok] at h
    obtain ⟨hmagic, hversion, hreserved, hlength, hshape, h⟩ := h
    cases hsource : AudioSource.ofValue source with
    | error text =>
      rw [hsource] at h
      exact nomatch h
    | ok parsed =>
      rw [hsource] at h
      obtain rfl := Except.ok.inj h
      obtain rfl := AudioSource.value_of_ofValue hsource
      push Not at hmagic hversion hreserved hlength hshape
      obtain ⟨rfl, rfl⟩ := hversion
      subst hmagic hreserved
      have hpcm : ((p.drop headerSize).length : Int) = pcmBytes := by
        rw [List.length_drop]
        omega
      subst hpcm
      refine ⟨hshape, hfits, ?_⟩
      show bytes header _ ++ p.drop headerSize = p
      rw [TimestampedPcm.record, hbytes]
      exact List.take_append_drop headerSize p
  · rintro ⟨hshape, hfits, rfl⟩
    have hlen : (bytes header f.record ++ f.pcm).length = headerSize + f.pcm.length := by
      rw [List.length_append, length_bytes]
      rfl
    have hunpack : unpackFrom header (bytes header f.record ++ f.pcm) = some f.record :=
      unpackFrom_bytes f.pcm hfits
    have hdrop : (bytes header f.record ++ f.pcm).drop headerSize = f.pcm :=
      List.drop_left' (length_bytes header f.record)
    have hcount : ((bytes header f.record ++ f.pcm).length : Int) = headerSize + f.pcm.length := by
      omega
    have hversion : ¬ (version ≠ version ∨ (headerSize : Int) ≠ headerSize) := by simp
    unfold decode
    refine checked_eq_ok.mpr ⟨by omega, ?_⟩
    rw [hunpack]
    refine checked_eq_ok.mpr ⟨not_not.mpr rfl, checked_eq_ok.mpr ⟨hversion, ?_⟩⟩
    refine checked_eq_ok.mpr ⟨not_not.mpr rfl, checked_eq_ok.mpr ⟨not_not.mpr hcount, ?_⟩⟩
    refine checked_eq_ok.mpr ⟨not_not.mpr hshape, ?_⟩
    show (match AudioSource.ofValue f.source.value with
      | .error text => _
      | .ok parsedSource => _) = _
    rw [AudioSource.ofValue_value]
    simp only [hdrop]

/-- A packet gives a frame or raises the codec's own error; nothing else comes out of `decode`. -/
theorem decode_total (p : Bytes) :
    (∃ f, decode p = .ok f) ∨ ∃ text, decode p = .error (.protocolError text) := by
  cases hd : decode p with
  | ok f => exact .inl ⟨f, rfl⟩
  | error raised =>
    cases raised with
    | protocolError text => exact .inr ⟨text, rfl⟩
    | structError =>
      exfalso
      unfold decode at hd
      split at hd
      · exact nomatch hd
      rename_i hlong
      have hsize : size header ≤ p.length := Nat.le_of_not_lt hlong
      obtain ⟨vs, hvs⟩ := unpackFrom_isSome hsize
      rw [hvs] at hd
      -- after the length check the buffer can be unpacked, and every later branch names its error
      simp only at hd
      repeat' split at hd
      all_goals exact nomatch hd

/-- **The codec is exact.**  For a frame whose fields fit, `decode` gives it for a packet exactly
    when `encode` gives that packet for it; what `decode` accepts is a well-shaped frame that
    fits; and every packet that encodes no such frame raises `ProtocolError`. -/
theorem codec_exact (p : Bytes) :
    (∀ f : TimestampedPcm, f.Fits → (decode p = .ok f ↔ f.encode = .ok p)) ∧
      (∀ f : TimestampedPcm, decode p = .ok f → f.Fits ∧ f.Shaped) ∧
      ((¬ ∃ f : TimestampedPcm, f.Fits ∧ f.encode = .ok p) →
        ∃ text, decode p = .error (.protocolError text)) := by
  have hiff : ∀ f : TimestampedPcm, decode p = .ok f ↔ f.encode = .ok p := by
    intro f
    rw [decode_ok, encode_ok]
  have hfits : ∀ f : TimestampedPcm, decode p = .ok f → f.Fits ∧ f.Shaped := by
    intro f hf
    obtain ⟨hshape, hrecord, -⟩ := decode_ok.mp hf
    exact ⟨((fits_record f).mp hrecord).1, hshape⟩
  refine ⟨fun f _ => hiff f, hfits, fun hno => ?_⟩
  rcases decode_total p with ⟨f, hf⟩ | herr
  · exact absurd ⟨f, (hfits f hf).1, (hiff f).mp hf⟩ hno
  · exact herr

/-! ## The C side -/

/-- `struct phono_audio_frame_header`. -/
structure PhonoAudioFrameHeader where
  source : UInt16
  flags : UInt32
  sequence : UInt64
  firstSampleTimeUs : Int64
  sourceRateHz : UInt32
  outputRateHz : UInt32
  channels : UInt16
  frames : UInt16
  reportedTransportDelayUs : Int32
  epoch : UInt32
  pcmBytes : UInt32
deriving DecidableEq

/-! The writers take `out + offset` as a buffer and an offset that leaves room for the field, so
    that no byte outside the buffer can be written. -/

/-- `phono_put_u16le`. -/
def phonoPutU16le {n : Nat} (out : Vector UInt8 n) (offset : Nat) (value : UInt16)
    (h : offset + 2 ≤ n) : Vector UInt8 n :=
  let out := out.set offset (value &&& 0xff).toUInt8
  out.set (offset + 1) (value >>> 8).toUInt8

/-- `phono_put_u32le`. -/
def phonoPutU32le {n : Nat} (out : Vector UInt8 n) (offset : Nat) (value : UInt32)
    (h : offset + 4 ≤ n) : Vector UInt8 n :=
  let out := out.set offset (value &&& 0xff).toUInt8
  let out := out.set (offset + 1) ((value >>> 8) &&& 0xff).toUInt8
  let out := out.set (offset + 2) ((value >>> 16) &&& 0xff).toUInt8
  out.set (offset + 3) (value >>> 24).toUInt8

/-- `phono_put_u64le`. -/
def phonoPutU64le {n : Nat} (out : Vector UInt8 n) (offset : Nat) (value : UInt64)
    (h : offset + 8 ≤ n) : Vector UInt8 n :=
  Nat.fold 8 (fun index hindex out =>
    out.set (offset + index) (value >>> UInt64.ofNat (index * 8)).toUInt8) out

/-- `phono_audio_encode_header`. -/
def phonoAudioEncodeHeader (out : Vector UInt8 56) (header : PhonoAudioFrameHeader) :
    Vector UInt8 56 :=
  let out := phonoPutU32le out 0 0x50434146 (by decide)
  let out := phonoPutU16le out 4 1 (by decide)
  let out := phonoPutU16le out 6 56 (by decide)
  let out := phonoPutU16le out 8 header.source (by decide)
  let out := phonoPutU16le out 10 0 (by decide)
  let out := phonoPutU32le out 12 header.flags (by decide)
  let out := phonoPutU64le out 16 header.sequence (by decide)
  let out := phonoPutU64le out 24 header.firstSampleTimeUs.toUInt64 (by decide)
  let out := phonoPutU32le out 32 header.sourceRateHz (by decide)
  let out := phonoPutU32le out 36 header.outputRateHz (by decide)
  let out := phonoPutU16le out 40 header.channels (by decide)
  let out := phonoPutU16le out 42 header.frames (by decide)
  let out := phonoPutU32le out 44 header.reportedTransportDelayUs.toUInt32 (by decide)
  let out := phonoPutU32le out 48 header.epoch (by decide)
  phonoPutU32le out 52 header.pcmBytes (by decide)

/-! ## What the writers have put -/

/-- The first `k` bytes of the buffer are `bs`. -/
def Written {n : Nat} (out : Vector UInt8 n) (k : Nat) (bs : Bytes) : Prop :=
  bs.length = k ∧ out.toList.take k = bs

theorem Written.start {n : Nat} (out : Vector UInt8 n) : Written out 0 [] := ⟨rfl, rfl⟩

/-- Setting the next byte extends what is written. -/
theorem Written.set {n k : Nat} {out : Vector UInt8 n} {bs : Bytes} (hw : Written out k bs)
    (h : k < n) (b : UInt8) : Written (out.set k b h) (k + 1) (bs ++ [b]) := by
  obtain ⟨hlen, htake⟩ := hw
  have hin : k < out.toList.length := by simpa using h
  refine ⟨by simp [hlen], ?_⟩
  rw [Vector.toList_set, List.take_add_one, List.take_set_of_le (Nat.le_refl k), htake]
  simp [h]

/-- A loop that sets `w` bytes from `k` on writes them in their order. -/
theorem Written.fold {n k : Nat} {out : Vector UInt8 n} {bs : Bytes} (hw : Written out k bs)
    (f : Nat → UInt8) : ∀ (w : Nat) (h : k + w ≤ n),
    Written (Nat.fold w (fun i hi out => out.set (k + i) (f i) (by omega)) out) (k + w)
      (bs ++ (List.range w).map f)
  | 0, _ => by simpa using hw
  | w + 1, h => by
      rw [Nat.fold_succ, List.range_succ, List.map_append, ← List.append_assoc]
      exact (Written.fold hw f w (by omega)).set (by omega) (f w)

/-- The digit at `i`, of the digits that `leBytes` lists. -/
theorem leBytes_eq_map (w n : Nat) :
    leBytes w n = (List.range w).map fun i => UInt8.ofNat (n / 256 ^ i) := by
  induction w generalizing n with
  | zero => rfl
  | succ w ih =>
    rw [leBytes, ih, List.range_succ_eq_map, List.map_cons, List.map_map]
    congr 1
    · simp
    · apply List.map_congr_left
      intro i _
      show UInt8.ofNat (n / 256 / 256 ^ i) = UInt8.ofNat (n / 256 ^ (i + 1))
      rw [Nat.div_div_eq_div_mul, Nat.pow_succ, Nat.mul_comm]

theorem Written.put16 {n k : Nat} {out : Vector UInt8 n} {bs : Bytes} (hw : Written out k bs)
    (value : UInt16) (h : k + 2 ≤ n) :
    Written (phonoPutU16le out k value h) (k + 2) (bs ++ leBytes 2 value.toNat) := by
  have hdigits : leBytes 2 value.toNat = [(value &&& 0xff).toUInt8] ++ [(value >>> 8).toUInt8] := by
    have h0 : (value &&& 0xff).toUInt8 = UInt8.ofNat value.toNat := by
      apply UInt8.toNat_inj.mp
      simpa using Nat.and_two_pow_sub_one_eq_mod (value.toNat % 256) 8
    have h1 : (value >>> 8).toUInt8 = UInt8.ofNat (value.toNat / 256) := by
      apply UInt8.toNat_inj.mp
      simp [Nat.shiftRight_eq_div_pow]
    rw [h0, h1]
    rfl
  rw [hdigits, ← List.append_assoc]
  exact (hw.set (by omega) _).set (by omega) _

theorem Written.put32 {n k : Nat} {out : Vector UInt8 n} {bs : Bytes} (hw : Written out k bs)
    (value : UInt32) (h : k + 4 ≤ n) :
    Written (phonoPutU32le out k value h) (k + 4) (bs ++ leBytes 4 value.toNat) := by
  have hdigits : leBytes 4 value.toNat =
      [(value &&& 0xff).toUInt8] ++ [((value >>> 8) &&& 0xff).toUInt8] ++
        [((value >>> 16) &&& 0xff).toUInt8] ++ [(value >>> 24).toUInt8] := by
    have hmask : ∀ v : UInt32, (v &&& 0xff).toUInt8 = v.toUInt8 := by
      intro v
      apply UInt8.toNat_inj.mp
      simpa using Nat.and_two_pow_sub_one_eq_mod (v.toNat % 256) 8
    rw [hmask, hmask, hmask]
    have h0 : value.toUInt8 = UInt8.ofNat value.toNat := by
      apply UInt8.toNat_inj.mp
      simp
    have h1 : (value >>> 8).toUInt8 = UInt8.ofNat (value.toNat / 256) := by
      apply UInt8.toNat_inj.mp
      simp [Nat.shiftRight_eq_div_pow]
    have h2 : (value >>> 16).toUInt8 = UInt8.ofNat (value.toNat / 256 / 256) := by
      apply UInt8.toNat_inj.mp
      simp [Nat.shiftRight_eq_div_pow, Nat.div_div_eq_div_mul]
    have h3 : (value >>> 24).toUInt8 = UInt8.ofNat (value.toNat / 256 / 256 / 256) := by
      apply UInt8.toNat_inj.mp
      simp [Nat.shiftRight_eq_div_pow, Nat.div_div_eq_div_mul]
    rw [h0, h1, h2, h3]
    rfl
  rw [hdigits, ← List.append_assoc, ← List.append_assoc, ← List.append_assoc]
  exact (((hw.set (by omega) _).set (by omega) _).set (by omega) _).set (by omega) _

theorem Written.put64 {n k : Nat} {out : Vector UInt8 n} {bs : Bytes} (hw : Written out k bs)
    (value : UInt64) (h : k + 8 ≤ n) :
    Written (phonoPutU64le out k value h) (k + 8) (bs ++ leBytes 8 value.toNat) := by
  have hdigits : leBytes 8 value.toNat =
      (List.range 8).map fun i => (value >>> UInt64.ofNat (i * 8)).toUInt8 := by
    rw [leBytes_eq_map]
    apply List.map_congr_left
    intro i hi
    have hi : i < 8 := List.mem_range.mp hi
    have hshift : i * 8 % 64 = 8 * i := by omega
    have hpow : 2 ^ (8 * i) = 256 ^ i := Nat.pow_mul 2 8 i
    apply UInt8.toNat_inj.mp
    simp [Nat.shiftRight_eq_div_pow, hshift, hpow]
  rw [hdigits]
  exact hw.fold (fun i => (value >>> UInt64.ofNat (i * 8)).toUInt8) 8 h

/-! ## One format -/

/-- An unsigned word as a field: its digits. -/
theorem bytes_unsigned {c : Struct.Code} {n : Nat} (h : n < 256 ^ c.size) :
    c.bytes n = leBytes c.size n := by
  rw [Code.bytes, ← Int.natCast_emod, Int.toNat_natCast, Nat.mod_eq_of_lt h]

/-- A signed word as a field: the digits of its cast to the unsigned word of its width. -/
theorem bytes_signed {c : Struct.Code} {v : Int} {n : Nat} (hv : v = Int.bmod n (256 ^ c.size))
    (h : n < 256 ^ c.size) : c.bytes v = leBytes c.size n := by
  have hmod : v % (256 ^ c.size : Nat) = (n : Int) := by
    rw [hv, Int.bmod_emod, ← Int.natCast_emod, Nat.mod_eq_of_lt h]
  rw [Code.bytes, hmod, Int.toNat_natCast]

theorem bytes_int64 (v : Int64) : Code.q.bytes v.toInt = leBytes 8 v.toUInt64.toNat := by
  have hv : v.toInt = Int.bmod v.toUInt64.toNat (2 ^ 64) := BitVec.toInt_eq_toNat_bmod v.toBitVec
  have hwidth : 256 ^ Code.q.size = 2 ^ 64 := by norm_num
  exact bytes_signed (hwidth ▸ hv) (hwidth ▸ v.toUInt64.toNat_lt)

theorem bytes_int32 (v : Int32) : Code.i.bytes v.toInt = leBytes 4 v.toUInt32.toNat := by
  have hv : v.toInt = Int.bmod v.toUInt32.toNat (2 ^ 32) := BitVec.toInt_eq_toNat_bmod v.toBitVec
  have hwidth : 256 ^ Code.i.size = 2 ^ 32 := by norm_num
  exact bytes_signed (hwidth ▸ hv) (hwidth ▸ v.toUInt32.toNat_lt)

/-- The frame of a C header's values, with its source and its PCM. -/
def PhonoAudioFrameHeader.toPcm (h : PhonoAudioFrameHeader) (source : AudioSource) (pcm : Bytes) :
    TimestampedPcm where
  source := source
  flags := h.flags.toNat
  sequence := h.sequence.toNat
  firstSampleTimeUs := h.firstSampleTimeUs.toInt
  sourceRateHz := h.sourceRateHz.toNat
  outputRateHz := h.outputRateHz.toNat
  channels := h.channels.toNat
  frames := h.frames.toNat
  reportedTransportDelayUs := h.reportedTransportDelayUs.toInt
  epoch := h.epoch.toNat
  pcm := pcm

/-- The words of a C header fit the wire by their types. -/
theorem PhonoAudioFrameHeader.fits (h : PhonoAudioFrameHeader) (source : AudioSource)
    (pcm : Bytes) : (h.toPcm source pcm).Fits := by
  have hi := h.firstSampleTimeUs.toInt_lt
  have hi' := h.firstSampleTimeUs.le_toInt
  have hd := h.reportedTransportDelayUs.toInt_lt
  have hd' := h.reportedTransportDelayUs.le_toInt
  have hword : ∀ w : UInt32, 0 ≤ (w.toNat : Int) ∧ (w.toNat : Int) < 2 ^ 32 := by
    intro w
    have hw := w.toNat_lt
    omega
  have hhalf : ∀ w : UInt16, 0 ≤ (w.toNat : Int) ∧ (w.toNat : Int) < 2 ^ 16 := by
    intro w
    have hw := w.toNat_lt
    omega
  have hq := h.sequence.toNat_lt
  refine ⟨hword _, ?_, ⟨hi', hi⟩, hword _, hword _, hhalf _, hhalf _, ⟨hd', hd⟩, hword _⟩
  show 0 ≤ (h.sequence.toNat : Int) ∧ (h.sequence.toNat : Int) < 2 ^ 64
  omega

/-- The 56 bytes that C writes are the fields of the record that Python packs. -/
theorem encodeHeader_bytes {h : PhonoAudioFrameHeader} {source : AudioSource} {pcm : Bytes}
    (hsource : (h.source.toNat : Int) = source.value) (hlen : pcm.length = h.pcmBytes.toNat)
    (out : Vector UInt8 56) :
    (phonoAudioEncodeHeader out h).toList = bytes header (h.toPcm source pcm).record := by
  have hw := Written.start out
  replace hw := hw.put32 0x50434146 (by decide)
  replace hw := hw.put16 1 (by decide)
  replace hw := hw.put16 56 (by decide)
  replace hw := hw.put16 h.source (by decide)
  replace hw := hw.put16 0 (by decide)
  replace hw := hw.put32 h.flags (by decide)
  replace hw := hw.put64 h.sequence (by decide)
  replace hw := hw.put64 h.firstSampleTimeUs.toUInt64 (by decide)
  replace hw := hw.put32 h.sourceRateHz (by decide)
  replace hw := hw.put32 h.outputRateHz (by decide)
  replace hw := hw.put16 h.channels (by decide)
  replace hw := hw.put16 h.frames (by decide)
  replace hw := hw.put32 h.reportedTransportDelayUs.toUInt32 (by decide)
  replace hw := hw.put32 h.epoch (by decide)
  replace hw := hw.put32 h.pcmBytes (by decide)
  have hall : (phonoAudioEncodeHeader out h).toList.take 56 = _ := hw.2
  have h16 : ∀ w : UInt16, Code.H.bytes w.toNat = leBytes 2 w.toNat :=
    fun w => bytes_unsigned w.toNat_lt
  have h32 : ∀ w : UInt32, Code.I.bytes w.toNat = leBytes 4 w.toNat :=
    fun w => bytes_unsigned w.toNat_lt
  have h64 : ∀ w : UInt64, Code.Q.bytes w.toNat = leBytes 8 w.toNat :=
    fun w => bytes_unsigned w.toNat_lt
  rw [List.take_of_length_le (by simp)] at hall
  rw [hall]
  simp only [bytes, TimestampedPcm.record, PhonoAudioFrameHeader.toPcm, ← hsource, hlen, h16, h32,
    h64, bytes_int64, bytes_int32, List.append_assoc, List.nil_append, List.append_nil]
  rfl

/-- **C and Python speak one format.**  For every C header whose source is a member of the enum
    and whose PCM has the length of its shape, over every buffer: the bytes that C writes, followed
    by the PCM, are exactly what `encode` gives for the same values, and `decode` gives those
    values back. -/
theorem same_format (out : Vector UInt8 56) (h : PhonoAudioFrameHeader) (source : AudioSource)
    (pcm : Bytes) (hsource : (h.source.toNat : Int) = source.value)
    (hshape : h.pcmBytes.toNat = h.frames.toNat * h.channels.toNat * 2)
    (hlen : pcm.length = h.pcmBytes.toNat) :
    (h.toPcm source pcm).encode = .ok ((phonoAudioEncodeHeader out h).toList ++ pcm) ∧
      decode ((phonoAudioEncodeHeader out h).toList ++ pcm) = .ok (h.toPcm source pcm) := by
  have hshaped : (h.toPcm source pcm).Shaped := by
    show (h.frames.toNat : Int) * h.channels.toNat * 2 = pcm.length
    rw [hlen, hshape]
    push_cast
    rfl
  have hcount : pcm.length < 2 ^ 32 := hlen ▸ h.pcmBytes.toNat_lt
  have hfits : Struct.Fits header (h.toPcm source pcm).record :=
    (fits_record _).mpr ⟨h.fits source pcm, hcount⟩
  rw [encodeHeader_bytes hsource hlen out]
  exact ⟨encode_ok.mpr ⟨hshaped, hfits, rfl⟩, decode_ok.mpr ⟨hshaped, hfits, rfl⟩⟩

/-- A header before the epoch of its clock, with a negative delay and two samples. -/
def earlyHeader : PhonoAudioFrameHeader where
  source := 2
  flags := 0x80000001
  sequence := 0xffffffffffffffff
  firstSampleTimeUs := -123456789
  sourceRateHz := 44100
  outputRateHz := 48000
  channels := 2
  frames := 1
  reportedTransportDelayUs := -175000
  epoch := 7
  pcmBytes := 4

theorem same_format_early :
    (earlyHeader.toPcm .bluetooth [1, 2, 3, 4]).encode =
        .ok ((phonoAudioEncodeHeader (Vector.replicate 56 0) earlyHeader).toList ++ [1, 2, 3, 4]) ∧
      decode ((phonoAudioEncodeHeader (Vector.replicate 56 0) earlyHeader).toList ++ [1, 2, 3, 4]) =
        .ok (earlyHeader.toPcm .bluetooth [1, 2, 3, 4]) :=
  same_format _ earlyHeader .bluetooth [1, 2, 3, 4] (by decide) (by decide) (by decide)

end PhonoConsole.Protocol
