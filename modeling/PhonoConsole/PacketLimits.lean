/-
  THE SIZE OF A PACKET, on both sides of the socket.

  The engine computes a packet's length from the channels of its command line, and writes channels
  and frames into words of 16 bits.  The client (`phono_console/audio_engine_client.py`) receives at
  most `MAX_PACKET_BYTES` of it, and `decode` compares the length with the words.

  * `phonoRunEngine` — the engine that a command line starts, its socket path checked;
  * `Packet.wire`    — the bytes of a packet: the C header, and the PCM that was read;
  * `ClientAccepts`  — received untruncated, and decoded;
  * `Framed`         — what every packet of the engine says of its shape, over every run on a device
    that grants what is requested;
  * `clientAccepts_iff` — one packet: its channels fit their word, and it is short enough;
  * `packets_accepted_iff` — all packets of an engine, by its options.
-/
import PhonoConsole.EngineCommand
import Mathlib.Tactic.Linarith

namespace PhonoConsole.Engine

open Protocol Struct

/-! ## The two sides -/

/-- `sizeof(sun_path)` on Linux. -/
def sunPath : Nat := 108

/-- `strlen(options->socket_path) >= sizeof(sun_path)`: the engine returns at once. -/
def PhonoEngineOptions.SocketPathTooLong (o : PhonoEngineOptions) : Prop :=
  sunPath ≤ (o.socketPath.getD "").utf8ByteSize

instance (o : PhonoEngineOptions) : Decidable o.SocketPathTooLong :=
  inferInstanceAs (Decidable (_ ≤ _))

/-- What packets depend on. -/
def PhonoEngineOptions.capture (o : PhonoEngineOptions) : Options where
  source := o.source
  requestedChannels := o.requestedChannels.toNat

/-- `phono_run_engine`. -/
def phonoRunEngine (F : Type) [LongDouble F] (o : PhonoEngineOptions) : Machine (State F) Move where
  init s := ¬ o.SocketPathTooLong ∧ (engine F o.capture).init s
  next := (engine F o.capture).next

/-- The device grants the rate and the period that are requested. -/
def Granted {F : Type} (o : PhonoEngineOptions) (_ : State F) : Move → Prop
  | .openCapture (some pcm) _ =>
      pcm.rate = o.requestedRate.toNat ∧ pcm.period = o.periodFrames.toNat
  | _ => True

/-- The bytes given to `send`: the header, over what was in the buffer, and the PCM. -/
def Packet.wire (p : Packet) (buffer : Vector UInt8 56) (pcm : Bytes) : Bytes :=
  (phonoAudioEncodeHeader buffer p.header).toList ++ pcm

/-- `MAX_PACKET_BYTES`. -/
def maxPacketBytes : Nat := headerSize + 48000 * 2 * 2

/-- `sock_recv(connection, MAX_PACKET_BYTES)` of a packet: what is longer is cut off. -/
def received (packet : Bytes) : Bytes := packet.take maxPacketBytes

/-- A packet is received untruncated and decoded. -/
def ClientAccepts (packet : Bytes) : Prop :=
  received packet = packet ∧ ∃ frame, decode (received packet) = .ok frame

/-! ## One packet -/

/-- What the engine writes of the shape of a packet. -/
structure Shaped (o : PhonoEngineOptions) (p : Packet) : Prop where
  source : p.header.source = o.source
  channels : p.header.channels = UInt16.ofNat o.requestedChannels.toNat
  frames : p.header.frames = UInt16.ofNat p.frames
  pcmBytes : p.header.pcmBytes = UInt32.ofNat (p.frames * o.requestedChannels.toNat * 2)
  pos : 0 < p.frames
  le : p.frames ≤ o.periodFrames.toNat
  period : o.periodFrames.toNat ≤ 65535

/-- The source of the header is one that the client knows. -/
theorem exists_source {o : PhonoEngineOptions} (h : ServeOptions o) :
    ∃ source : AudioSource, (o.source.toNat : Int) = source.value := by
  rcases h.source with hphono | hbluetooth
  · exact ⟨.phono, by rw [hphono]; rfl⟩
  · exact ⟨.bluetooth, by rw [hbluetooth]; rfl⟩

theorem length_wire (p : Packet) (buffer : Vector UInt8 56) (pcm : Bytes) :
    (p.wire buffer pcm).length = 56 + pcm.length := by
  simp [Packet.wire]

theorem received_eq_iff {packet : Bytes} :
    received packet = packet ↔ packet.length ≤ 56 + 192000 := List.take_eq_self_iff packet

/-- A source is known by its number. -/
theorem source_of_value {a b : AudioSource} (h : a.value = b.value) : a = b := by
  have hof := AudioSource.ofValue_value a
  rw [h, AudioSource.ofValue_value] at hof
  exact (Except.ok.inj hof).symm

/-- What is decoded of bytes that begin with a header: the frame of its values, when the bytes that
    follow have the length and the shape that it says. -/
theorem decode_header_iff {h : PhonoAudioFrameHeader} {source : AudioSource}
    (hsource : (h.source.toNat : Int) = source.value) (buffer : Vector UInt8 56) {rest : Bytes}
    {frame : Protocol.TimestampedPcm} :
    decode ((phonoAudioEncodeHeader buffer h).toList ++ rest) = .ok frame ↔
      rest.length = h.pcmBytes.toNat ∧ (h.toPcm source rest).Shaped ∧ frame = h.toPcm source rest := by
  constructor
  · intro hdecode
    obtain ⟨hshaped, hfits, hbytes⟩ := decode_ok.mp hdecode
    have hsize : (bytes header frame.record).length = (phonoAudioEncodeHeader buffer h).toList.length := by
      rw [length_bytes, Vector.length_toList]
      rfl
    obtain ⟨hhead, hrest⟩ := List.append_inj hbytes hsize
    -- the header is the record of some PCM of the length that it says
    let pcm : Bytes := List.replicate h.pcmBytes.toNat 0
    have hlen : pcm.length = h.pcmBytes.toNat := List.length_replicate
    have hcount : pcm.length < 2 ^ 32 := hlen ▸ h.pcmBytes.toNat_lt
    have hfits' : Struct.Fits header (h.toPcm source pcm).record :=
      (fits_record _).mpr ⟨h.fits source pcm, hcount⟩
    have hunpack := unpackFrom_bytes [] hfits
    rw [hhead, encodeHeader_bytes hsource hlen, unpackFrom_bytes [] hfits'] at hunpack
    have hrecord : (h.toPcm source pcm).record = frame.record := Option.some.inj hunpack
    simp only [Protocol.TimestampedPcm.record, PhonoAudioFrameHeader.toPcm, Prod.mk.injEq] at hrecord
    obtain ⟨-, -, -, hvalue, -, hflags, hsequence, htime, hsourceRate, houtputRate, hchannels,
      hframes, hdelay, hepoch, hpcm, -⟩ := hrecord
    have hsources : source = frame.source := source_of_value hvalue
    have hframe : frame = h.toPcm source rest := by
      rw [← hrest]
      obtain ⟨_, _, _, _, _, _, _, _, _, _, _⟩ := frame
      simp only [PhonoAudioFrameHeader.toPcm, Protocol.TimestampedPcm.mk.injEq, and_true]
      exact ⟨hsources.symm, hflags.symm, hsequence.symm, htime.symm, hsourceRate.symm,
        houtputRate.symm, hchannels.symm, hframes.symm, hdelay.symm, hepoch.symm⟩
    refine ⟨?_, hframe ▸ hshaped, hframe⟩
    rw [← hrest, ← hlen]
    exact_mod_cast hpcm.symm
  · rintro ⟨hlen, hshaped, rfl⟩
    have hcount : rest.length < 2 ^ 32 := hlen ▸ h.pcmBytes.toNat_lt
    refine decode_ok.mpr ⟨hshaped, (fits_record _).mpr ⟨h.fits source rest, hcount⟩, ?_⟩
    rw [encodeHeader_bytes hsource hlen]
    rfl

theorem clientAccepts_iff {o : PhonoEngineOptions} (ho : ServeOptions o) {p : Packet}
    (hp : Shaped o p) (buffer : Vector UInt8 56) {pcm : Bytes}
    (hpcm : pcm.length = p.frames * o.requestedChannels.toNat * 2) :
    ClientAccepts (p.wire buffer pcm) ↔
      o.requestedChannels.toNat ≤ 65535 ∧ p.frames * o.requestedChannels.toNat ≤ 96000 := by
  obtain ⟨source, hsource⟩ := exists_source ho
  rw [← hp.source] at hsource
  have hframes : p.header.frames.toNat = p.frames := by
    have hlt : p.frames < 2 ^ 16 := Nat.lt_succ_of_le (hp.le.trans hp.period)
    rw [hp.frames]
    exact UInt16.toNat_ofNat_of_lt' hlt
  have hchannels : p.header.channels.toNat = o.requestedChannels.toNat % 65536 := by
    rw [hp.channels]
    exact UInt16.toNat_ofNat'
  have hshort : received (p.wire buffer pcm) = p.wire buffer pcm ↔
      p.frames * o.requestedChannels.toNat ≤ 96000 := by
    rw [received_eq_iff, length_wire, hpcm]
    constructor <;> intro hle <;> omega
  have hbytes : p.frames * o.requestedChannels.toNat ≤ 96000 →
      p.header.pcmBytes.toNat = pcm.length := by
    intro hle
    rw [hp.pcmBytes, hpcm]
    have hsmall : p.frames * o.requestedChannels.toNat * 2 < 2 ^ 32 := by omega
    exact UInt32.toNat_ofNat_of_lt' hsmall
  constructor
  · rintro ⟨hwhole, frame, hframe⟩
    have hle := hshort.mp hwhole
    refine ⟨?_, hle⟩
    rw [hwhole] at hframe
    obtain ⟨-, hshaped, -⟩ := (decode_header_iff hsource buffer).mp hframe
    have hshaped : (p.header.frames.toNat : Int) * p.header.channels.toNat * 2 = pcm.length := hshaped
    rw [hframes, hchannels, hpcm] at hshaped
    replace hshaped : p.frames * (o.requestedChannels.toNat % 65536) * 2 =
        p.frames * o.requestedChannels.toNat * 2 := by exact_mod_cast hshaped
    have hmod := Nat.eq_of_mul_eq_mul_left hp.pos (Nat.eq_of_mul_eq_mul_right two_pos hshaped)
    omega
  · rintro ⟨hfit, hle⟩
    have hwhole := hshort.mpr hle
    refine ⟨hwhole, p.header.toPcm source pcm, ?_⟩
    rw [hwhole]
    refine (decode_header_iff hsource buffer).mpr ⟨(hbytes hle).symm, ?_, rfl⟩
    show (p.header.frames.toNat : Int) * p.header.channels.toNat * 2 = pcm.length
    rw [hframes, hchannels, hpcm, Nat.mod_eq_of_lt (by omega)]
    push_cast
    rfl

/-! ## Every packet -/

section Run

variable {F : Type} {o : PhonoEngineOptions}

/-- The capture is of the requested period, which fits its word, and so is every packet. -/
structure Framed (o : PhonoEngineOptions) (s : State F) : Prop where
  period : ∀ c, s.phase = .capturing c →
    c.pcm.period = o.periodFrames.toNat ∧ o.periodFrames.toNat ≤ 65535
  log : ∀ p ∈ s.log, Shaped o p

/-- Outside a capture only the packets matter. -/
theorem Framed.leave {s s' : State F} (h : Framed o s) (hlog : s'.log = s.log)
    (hphase : ∀ c, s'.phase ≠ .capturing c) : Framed o s' :=
  ⟨fun c hc => absurd hc (hphase c), hlog ▸ h.log⟩

theorem Framed.closeClient {s : State F} (h : Framed o s) : Framed o s.closeClient :=
  h.leave rfl (by simp [State.closeClient])

theorem Framed.captureEnds {s : State F} (h : Framed o s) : Framed o s.captureEnds :=
  h.leave rfl (by simp [State.captureEnds])

theorem Framed.capturing {s : State F} {c c' : Capture F} {epoch captures : Nat}
    (h : Framed o s) (hphase : s.phase = .capturing c) (hc : c'.pcm = c.pcm) :
    Framed o { s with epoch, captures, phase := .capturing c' } := by
  refine ⟨fun c₁ hc₁ => ?_, h.log⟩
  obtain rfl := Phase.capturing.inj hc₁
  rw [hc]
  exact h.period c hphase

variable [LongDouble F]

@[simp] theorem Capture.observe_pcm (c : Capture F) (t : Int) : (c.observe t).pcm = c.pcm := by
  unfold Capture.observe
  dsimp only
  split_ifs <;> rfl

theorem Framed.openCapture {s : State F} (h : Framed o s) {answer : Option Negotiated}
    {allocated : Bool} (hgranted : Granted o s (.openCapture answer allocated)) :
    Framed o (s.openCapture answer allocated) := by
  unfold State.openCapture
  split
  · exact h.leave rfl nofun
  · rename_i pcm
    split
    · exact h.closeClient
    · rename_i hfits
      rw [not_or, not_lt] at hfits
      refine ⟨fun c hc => ?_, h.log⟩
      obtain rfl := Phase.capturing.inj hc
      exact ⟨hgranted.2, hgranted.2 ▸ hfits.1⟩

theorem Framed.recover {s : State F} (h : Framed o s) {c : Capture F}
    (hphase : s.phase = .capturing c) (recovered : Bool) : Framed o (s.recover c recovered) := by
  unfold State.recover
  split
  · exact h.capturing hphase rfl
  · exact h.captureEnds

/-- A block of the capture is one packet more. -/
theorem Framed.read {s : State F} (h : Framed o s) {c : Capture F}
    (hphase : s.phase = .capturing c) (available : Nat) (hardwareTime : Timespec) {frames : Nat}
    (hframes : 0 < frames ∧ frames ≤ c.pcm.period) (sent : Sent) :
    Framed o (s.read o.capture c available hardwareTime frames sent) := by
  obtain ⟨hperiod, hword⟩ := h.period c hphase
  unfold State.read
  generalize timespecUs hardwareTime - ((available : Int) * 1000000).tdiv c.pcm.rate = t
  have happend : ∀ p : Packet, p.header = (c.observe t).header o.capture s.epoch frames →
      p.frames = frames → Framed o { s with log := s.log ++ [p] } := by
    rintro p hheader rfl
    refine ⟨h.period, fun q hq => ?_⟩
    rcases List.mem_append.mp hq with hold | hnew
    · exact h.log q hold
    · obtain rfl := List.mem_singleton.mp hnew
      exact ⟨by rw [hheader]; rfl, by rw [hheader]; rfl, by rw [hheader]; rfl,
        by rw [hheader]; rfl, hframes.1, hperiod ▸ hframes.2, hword⟩
  cases sent with
  | again => exact (happend _ rfl rfl).capturing hphase (Capture.observe_pcm c t)
  | gone => exact (happend _ rfl rfl).closeClient
  | whole => exact (happend _ rfl rfl).capturing hphase (Capture.observe_pcm c t)

theorem Framed.turn {s : State F} (h : Framed o s) {c : Capture F}
    (hphase : s.phase = .capturing c) {t : Turn} (ht : t.within c.pcm) :
    Framed o (s.turn o.capture c t) := by
  cases t with
  | waitTimeout => exact h
  | waitError recovered => exact h.recover hphase recovered
  | timestampError => exact h.captureEnds
  | readError recovered => exact h.recover hphase recovered
  | readNothing => exact h
  | read available hardwareTime frames sent =>
    exact h.read hphase available hardwareTime ht sent

/-- Every move on a device that grants what is requested. -/
theorem Framed.next {s s' : State F} {m : Move} (h : Framed o s) (hgranted : Granted o s m)
    (hnext : Engine.next o.capture s m = some s') : Framed o s' := by
  rcases next_cases hnext with ⟨rfl, rfl⟩ | ⟨rfl, -, rfl⟩ | ⟨answer, rfl, -, rfl⟩ |
    ⟨answer, allocated, rfl, -, rfl⟩ | ⟨t, c, rfl, hphase, ht, rfl⟩ | ⟨stays, rfl, -, rfl | rfl⟩
  · exact ⟨h.period, h.log⟩
  · -- each loop in turn is left
    rcases s.stopped_cases with ⟨-, hs⟩ | hs | hs <;> rw [hs]
    · exact h.leave rfl nofun
    · exact h.closeClient
    · exact h.captureEnds
  · cases answer with
    | client => exact ⟨nofun, nofun⟩
    | interrupted => exact h
    | failed => exact h.leave rfl nofun
  · exact h.openCapture hgranted
  · exact h.turn hphase ht
  · exact h.leave rfl nofun
  · exact h.closeClient

theorem Framed.reach {s : State F} (h : (phonoRunEngine F o).Reach (Granted o) s) :
    Framed o s := by
  refine Machine.Reach.invariant ?_ (fun s m s' hs hm hnext => hs.next hm
    (show Engine.next o.capture s m = some s' from hnext)) h
  rintro s ⟨-, rfl⟩
  exact ⟨nofun, nofun⟩

/-- An engine that runs has bound its socket. -/
theorem socketPath_of_reach {s : State F} (h : (phonoRunEngine F o).Reach (Granted o) s) :
    ¬ o.SocketPathTooLong := by
  induction h with
  | init hs => exact hs.1
  | move _ _ _ ih => exact ih

/-- A device can give any number of frames up to the period, which are sent whole. -/
theorem exists_packet (ho : ServeOptions o) (hpath : ¬ o.SocketPathTooLong)
    (hword : o.periodFrames.toNat ≤ 65535) {frames : Nat} (hpos : 0 < frames)
    (hle : frames ≤ o.periodFrames.toNat) :
    ∃ s : State F, (phonoRunEngine F o).Reach (Granted o) s ∧
      ∃ p ∈ s.log, p.frames = frames ∧ p.delivered = true := by
  have hrate : 0 < o.requestedRate.toNat :=
    Nat.pos_of_ne_zero fun h => ho.rate (UInt32.toNat_inj.mp h)
  let pcm : Negotiated := ⟨o.requestedRate.toNat, o.periodFrames.toNat, hrate⟩
  have hinit : (phonoRunEngine F o).Reach (Granted o) {} := .init ⟨hpath, rfl⟩
  have haccept : (phonoRunEngine F o).Reach (Granted o) { phase := .serving } :=
    hinit.move (a := Move.accept .client) trivial rfl
  have hopen : (phonoRunEngine F o).Reach (Granted o)
      { phase := .capturing (.start pcm), captures := 1 } := by
    refine haccept.move (a := Move.openCapture (some pcm) true) ⟨rfl, rfl⟩ ?_
    show some (State.openCapture _ (some pcm) true) = _
    unfold State.openCapture
    simp only
    rw [if_neg]
    simpa using hword
  have hread := hopen.move (a := Move.turn (.read 0 ⟨0, 0⟩ frames .whole)) trivial
    (if_pos ⟨rfl, hpos, hle⟩)
  exact ⟨_, hread, _, List.mem_singleton_self _, rfl, rfl⟩

end Run

/-- **What the client accepts of an engine**: every packet of every run on a device that grants what
    is requested, exactly when no packet is sent (the socket path or the period is too long), or
    the channels fit their word and a whole period is short enough. -/
theorem packets_accepted_iff (F : Type) [LongDouble F] {args : List String}
    {o : PhonoEngineOptions} (hmain : main args = .engine o) :
    (∀ s : State F, (phonoRunEngine F o).Reach (Granted o) s → ∀ p ∈ s.log,
      ∀ (buffer : Vector UInt8 56) (pcm : Bytes),
        pcm.length = p.frames * o.requestedChannels.toNat * 2 →
        ClientAccepts (p.wire buffer pcm)) ↔
    o.SocketPathTooLong ∨ 65535 < o.periodFrames.toNat ∨
      o.requestedChannels.toNat ≤ 65535 ∧
        o.periodFrames.toNat * o.requestedChannels.toNat ≤ 96000 := by
  have ho := main_engine hmain
  constructor
  · intro haccepts
    by_contra hno
    simp only [not_or, not_lt] at hno
    obtain ⟨hpath, hword, hlimits⟩ := hno
    have hperiod : 0 < o.periodFrames.toNat :=
      Nat.pos_of_ne_zero fun h => ho.period (UInt32.toNat_inj.mp h)
    obtain ⟨s, hs, p, hp, hframes, -⟩ := exists_packet (F := F) ho hpath hword hperiod le_rfl
    have haccepted := haccepts s hs p hp (Vector.replicate 56 0)
      (List.replicate (p.frames * o.requestedChannels.toNat * 2) 0) List.length_replicate
    rw [clientAccepts_iff ho ((Framed.reach hs).log p hp) _ List.length_replicate, hframes]
      at haccepted
    exact hlimits haccepted
  · intro hlimits s hs p hp buffer pcm hpcm
    have hshaped := (Framed.reach hs).log p hp
    rw [clientAccepts_iff ho hshaped buffer hpcm]
    -- there is a packet, so the engine runs, and with a period that fits its word
    rcases hlimits with hpath | hword | ⟨hchannels, hle⟩
    · exact absurd hpath (socketPath_of_reach hs)
    · exact absurd hshaped.period (not_le.mpr hword)
    · exact ⟨hchannels, (Nat.mul_le_mul_right _ hshaped.le).trans hle⟩

/-- The defaults of `main`. -/
def defaults : PhonoEngineOptions where
  device := some "hw:0"
  socketPath := some "/run/pcm"

/-- With the defaults no packet is longer than 3896 bytes. -/
theorem packets_accepted_iff_defaults :
    main ["serve", "--device", "hw:0", "--socket", "/run/pcm"] = .engine defaults ∧
    ∀ s : State ℚ, (phonoRunEngine ℚ defaults).Reach (Granted defaults) s → ∀ p ∈ s.log,
      ∀ (buffer : Vector UInt8 56) (pcm : Bytes), pcm.length = p.frames * 2 * 2 →
        ClientAccepts (p.wire buffer pcm) := by
  have hmain : main ["serve", "--device", "hw:0", "--socket", "/run/pcm"] = .engine defaults := by
    decide
  exact ⟨hmain, (packets_accepted_iff ℚ hmain).mpr (.inr (.inr ⟨by decide, by decide⟩))⟩

/-- A period of 50000 frames. -/
def longPeriod : PhonoEngineOptions :=
  { defaults with periodFrames := 50000, bufferFrames := 100000 }

/-- It fits its word, and makes a packet of 200056 bytes. -/
theorem packets_not_accepted :
    main ["serve", "--device", "hw:0", "--socket", "/run/pcm", "--period-frames", "50000",
      "--buffer-frames", "100000"] = .engine longPeriod ∧
    ∃ s : State ℚ, (phonoRunEngine ℚ longPeriod).Reach (Granted longPeriod) s ∧
      ∃ p ∈ s.log, p.delivered = true ∧ ∃ (buffer : Vector UInt8 56) (pcm : Bytes),
        pcm.length = p.frames * longPeriod.requestedChannels.toNat * 2 ∧
        ¬ ClientAccepts (p.wire buffer pcm) := by
  have hmain : main ["serve", "--device", "hw:0", "--socket", "/run/pcm", "--period-frames",
      "50000", "--buffer-frames", "100000"] = .engine longPeriod := by decide +kernel
  have ho := main_engine hmain
  obtain ⟨s, hs, p, hp, hframes, hdelivered⟩ := exists_packet (F := ℚ) ho (by decide) (by decide)
    (show 0 < 50000 by decide) (by decide)
  refine ⟨hmain, s, hs, p, hp, hdelivered, Vector.replicate 56 0,
    List.replicate (p.frames * longPeriod.requestedChannels.toNat * 2) 0, List.length_replicate, ?_⟩
  rw [clientAccepts_iff ho ((Framed.reach hs).log p hp) _ List.length_replicate, hframes]
  decide

end PhonoConsole.Engine
