/-
  THE AMPLIFIER over HDMI-CEC: `CecAmplifier` (`phono_console/amplifier.py`).

  The daemon keeps one `cec-client` open and talks to the amplifier through it: commands go to its
  standard input, and whatever happens on the bus appears as lines of its output.  There is no
  command that sets a volume: `set_volume` asks for the status, presses the volume keys as often
  as the target is away from it, and asks again.  An answer is whatever line next matches.

  * `logicalToCec`, `cecToLogical` — Music Assistant's scale and the safe range;
  * `Pattern.search`, `Pattern.read` — the two regular expressions, and `_read_match` on the lines
    that are there;
  * `CecReq`, `CecRep`            — what the class asks of `cec-client`, the clock and the daemon;
  * `start`, `close`, `powerOn`, `setVolume` — its methods.

  All of them run under `self._lock`: they are programs served one after another.
-/
import PhonoConsole.Lib.World
import PhonoConsole.Lib.Rounding
import PhonoConsole.Controller
import Mathlib.Data.Rat.Floor

namespace PhonoConsole

open Coro World

/-! ## Python's `round` -/

/-- `round(x)`: the nearest integer, and the even one of two. -/
def pyRound (x : ℚ) : ℤ :=
  if x - ⌊x⌋ < 1 / 2 ∨ (x - ⌊x⌋ = 1 / 2 ∧ ⌊x⌋ % 2 = 0) then ⌊x⌋ else ⌊x⌋ + 1

variable {x : ℚ}

theorem pyRound_eq : pyRound x = Rounding.halfEven x := rfl

theorem le_pyRound {a : ℤ} (h : (a : ℚ) ≤ x) : a ≤ pyRound x := Rounding.le_halfEven h

theorem pyRound_le {b : ℤ} (h : x ≤ b) : pyRound x ≤ b := Rounding.halfEven_le h

/-! ## Configuration -/

/-- The section `[amplifier]`, as the configuration check lets it pass. -/
structure AmplifierConfig where
  enabled : Bool := true
  cecDevice : String := "/dev/cec0"
  logicalAddress : Fin 16 := 5
  wakeOnAudio : Bool := true
  /-- the four nibbles of the dotted address -/
  physicalAddress : Fin 16 × Fin 16 × Fin 16 × Fin 16 := (1, 0, 0, 0)
  wakeSettleSeconds : ℚ := 0
  volumeMin : ℤ := 15
  volumeMax : ℤ := 45
  nonneg : 0 ≤ volumeMin := by decide
  ordered : volumeMin < volumeMax := by decide
  capped : volumeMax ≤ 100 := by decide

/-- `physical_address_bytes`. -/
def physicalAddressBytes : Fin 16 × Fin 16 × Fin 16 × Fin 16 → Nat × Nat
  | (a, b, c, d) => ((a.val <<< 4) ||| b.val, (c.val <<< 4) ||| d.val)

/-- `logical_to_cec`.  The quotients of integers this small are rounded the same as floats: none is
    close to a half without being one. -/
def logicalToCec (cfg : AmplifierConfig) (volume : ℤ) : ℤ :=
  let logical := max 1 (min 100 volume)
  let span := cfg.volumeMax - cfg.volumeMin
  pyRound (cfg.volumeMin + (logical - 1) * span / 99)

/-- `cec_to_logical`. -/
def cecToLogical (cfg : AmplifierConfig) (volume : ℤ) : ℤ :=
  let cec := max cfg.volumeMin (min cfg.volumeMax volume)
  let span := cfg.volumeMax - cfg.volumeMin
  pyRound (1 + (cec - cfg.volumeMin) * 99 / span)

/-- The mapped volume lies in the safe range. -/
theorem logicalToCec_safe (cfg : AmplifierConfig) (volume : ℤ) :
    cfg.volumeMin ≤ logicalToCec cfg volume ∧ logicalToCec cfg volume ≤ cfg.volumeMax := by
  have hspan : (0 : ℚ) ≤ cfg.volumeMax - cfg.volumeMin := by
    have := cfg.ordered.le
    exact sub_nonneg.mpr (by exact_mod_cast this)
  have hlow : (1 : ℚ) ≤ (max 1 (min 100 volume) : ℤ) := by
    exact_mod_cast le_max_left 1 (min 100 volume)
  have hhigh : ((max 1 (min 100 volume) : ℤ) : ℚ) ≤ 100 := by
    exact_mod_cast max_le (by norm_num) (min_le_left 100 volume)
  unfold logicalToCec
  generalize (max 1 (min 100 volume) : ℤ) = logical at *
  constructor
  · apply le_pyRound
    have : (0 : ℚ) ≤ (logical - 1) * ((cfg.volumeMax - cfg.volumeMin : ℤ) : ℚ) / 99 := by
      push_cast
      exact div_nonneg (mul_nonneg (by linarith) hspan) (by norm_num)
    linarith
  · apply pyRound_le
    have : (logical - 1) * ((cfg.volumeMax - cfg.volumeMin : ℤ) : ℚ) / 99 ≤
        cfg.volumeMax - cfg.volumeMin := by
      push_cast
      rw [div_le_iff₀ (by norm_num), mul_comm (cfg.volumeMax - cfg.volumeMin : ℚ)]
      exact mul_le_mul_of_nonneg_right (by linarith) hspan
    linarith

example : logicalToCec {} 50 = 30 ∧ cecToLogical {} 30 = 50 := by decide +kernel

/-! ## The lines of `cec-client` -/

/-- The two expressions `_AUDIO_STATUS` and `_POWER_STATUS`. -/
inductive Pattern
  | audioStatus
  | powerStatus
deriving DecidableEq, Repr

/-- The literal part of the expression. -/
def Pattern.literal : Pattern → String
  | .audioStatus => ">> 51:7a:"
  | .powerStatus => ">> 51:90:"

/-- A character of the class `[0-9a-fA-F]`, with its value. -/
def hexDigit (c : Char) : Option Nat :=
  if '0' ≤ c ∧ c ≤ '9' then some (c.toNat - '0'.toNat)
  else if 'a' ≤ c ∧ c ≤ 'f' then some (c.toNat - 'a'.toNat + 10)
  else if 'A' ≤ c ∧ c ≤ 'F' then some (c.toNat - 'A'.toNat + 10)
  else none

/-- The two hexadecimal digits that follow the literal part. -/
def hexPair : List Char → Option Nat
  | x :: y :: _ => do
    let high ← hexDigit x
    let low ← hexDigit y
    pure (16 * high + low)
  | _ => none

/-- The first match within the characters, and the value of its group. -/
def Pattern.searchFrom (p : Pattern) : List Char → Option Nat
  | [] => none
  | c :: rest =>
    let here := if p.literal.toList.isPrefixOf (c :: rest) then
      hexPair ((c :: rest).drop p.literal.toList.length) else none
    match here with
    | some status => some status
    | none => p.searchFrom rest

/-- `int(pattern.search(line).group(1), 16)`, if the line matches. -/
def Pattern.search (p : Pattern) (line : String) : Option Nat := p.searchFrom line.toList

/-- `_read_match` on the lines that are there: the first that matches, and the lines after it.
    Lines that do not match are gone. -/
def Pattern.read (p : Pattern) : List String → Option (Nat × List String)
  | [] => none
  | line :: rest =>
    match p.search line with
    | some status => some (status, rest)
    | none => p.read rest

example : Pattern.audioStatus.read ["<< 15:71", ">> 51:7a:2A", ">> 51:7a:2b"] =
    some (42, [">> 51:7a:2b"]) := by decide +kernel

/-! ## Requests -/

/-- A CEC frame sent by the console, `tx 1{destination:x}:…`. -/
structure Frame where
  destination : Fin 16
  bytes : List Nat
deriving DecidableEq, Repr

/-- The details of `_publish`. -/
inductive AmplifierDetails
  | power (powered awakened : Bool)
  | volume (volume : ℤ) (cecVolume : Nat) (muted powered : Bool)
deriving DecidableEq, Repr

/-- The events of the amplifier, with their payloads. -/
inductive AmplifierEvent
  | powerOn (powerStatus : Nat) (awakened : Bool)
  | volumeChanged (volume : ℤ) (cecVolume : Nat) (muted : Bool)
deriving DecidableEq, Repr

/-- What the methods ask for. -/
inductive CecReq
  /-- `self._process.returncode is None` -/
  | running
  | spawn (device : String)
  | send (frame : Frame)
  | readMatch (pattern : Pattern) (timeout : ℚ)
  | sleep (seconds : ℚ)
  | publish (details : AmplifierDetails)
  | emit (event : AmplifierEvent)
  /-- `_close(process)` -/
  | close
deriving DecidableEq

/-- How a `_send` ends: written, and what `cec-client` prints at once; or raised, whether or not
    the command had been handed over. -/
inductive Sent
  | written (lines : List String)
  | failed (reached : Bool) (e : Exc)

/-- How a `_read_match` ends: with a status; or raised (timed out, ended, cancelled), after lines
    that did not match. -/
inductive ReadEnd
  | matched (status : Nat)
  | failed (skipped : Nat) (e : Exc)

/-- What `send` returns or raises. -/
def Sent.result : Sent → Except Exc Unit
  | .written _ => .ok ()
  | .failed _ e => .error e

/-- What `read_match` returns or raises. -/
def ReadEnd.result : ReadEnd → Except Exc Nat
  | .matched status => .ok status
  | .failed _ e => .error e

/-- The answers. -/
abbrev CecRep : CecReq → Type
  | .running => Bool
  | .send _ => Sent
  | .readMatch _ _ => ReadEnd
  | .spawn _ | .sleep _ | .publish _ | .emit _ | .close => Except Exc Unit

/-! ## `CecAmplifier` -/

/-- The attribute the methods keep between calls, and what the last `set_volume` that returned gave
    its caller. -/
structure CecAmplifier where
  /-- `self._process is not None` -/
  process : Bool := false
  returned : Option (ℤ × Bool) := none
deriving DecidableEq, Repr

/-- A method of the amplifier. -/
abbrev Cec (α : Type) : Type := Coro CecReq CecRep CecAmplifier Exc α

namespace CecAmplifier

/-- A request that raises or returns. -/
def perform (q : CecReq) {α : Type} (result : CecRep q → Except Exc α) : Cec α := do
  let a ← ask q
  .done (result a)

/-- `_send(destination, bytes)`. -/
def send (destination : Fin 16) (bytes : List Nat) : Cec Unit :=
  perform (.send ⟨destination, bytes⟩) Sent.result

/-- `_read_match(pattern, timeout)`: the number that a printed line reports. -/
def readMatch (pattern : Pattern) (timeout : ℚ) : Cec Nat :=
  perform (.readMatch pattern timeout) ReadEnd.result

/-- `asyncio.sleep(seconds)`. -/
def sleep (seconds : ℚ) : Cec Unit := perform (.sleep seconds) id

/-- `state.set_amplifier_state`. -/
def publish (details : AmplifierDetails) : Cec Unit := perform (.publish details) id

/-- `state.emit`. -/
def emit (event : AmplifierEvent) : Cec Unit := perform (.emit event) id

variable (cfg : AmplifierConfig)

/-- `_open`: the running `cec-client`, or a new one. -/
def openProcess : Cec Unit := do
  let s ← get
  let running ← (if s.process then ask CecReq.running else pure false : Cec Bool)
  when (!running) do
    perform (.spawn cfg.cecDevice) id
    modify fun s => { s with process := true }

/-- `_invalidate`. -/
def invalidate : Cec Unit := do
  modify fun s => { s with process := false }
  perform .close id

/-- `try: p; except Exception: await self._invalidate(process); raise`. -/
def exceptInvalidate {α : Type} (p : Cec α) : Cec α :=
  p.catchError fun
    | .exception text => do
      invalidate
      throw (.exception text)
    | .cancelled => throw .cancelled

/-- `start`. -/
def start : Cec Unit := when cfg.enabled (openProcess cfg)

/-- `close`. -/
def close : Cec Unit := do
  let s ← get
  modify fun s => { s with process := false }
  when s.process (perform .close id)

/-! ### `power_on` -/

/-- The loop of `power_on`, entered with `status`; the deadline ends it after `polls` rounds at the
    latest. -/
def pollPower : (polls : Nat) → (status : Nat) → Cec Nat
  | 0, status => pure status
  | polls + 1, status =>
    if status = 0 then pure status
    else do
      send cfg.logicalAddress [0x8f]
      let status ← readMatch .powerStatus 2
      when (status != 0) (sleep (1 / 4))
      pollPower polls status

/-- `power_on`, in which the clock allows `polls` rounds before the deadline. -/
def powerOn (polls : Nat) : Cec Unit :=
  when (cfg.enabled && cfg.wakeOnAudio) do
    openProcess cfg
    exceptInvalidate do
      let (high, low) := physicalAddressBytes cfg.physicalAddress
      send 0xf [0x82, high, low]
      sleep (1 / 10)
      send cfg.logicalAddress [0x70, high, low]
      let awakened := true
      let status ← pollPower cfg polls 1
      when (awakened && status == 0) (sleep cfg.wakeSettleSeconds)
      publish (.power (status == 0) awakened)
      emit (.powerOn status awakened)

/-! ### `set_volume` -/

/-- Press and release a key of the remote control. -/
def pressKey (key : Nat) : Cec Unit := do
  send cfg.logicalAddress [0x44, key]
  send cfg.logicalAddress [0x45]

/-- The loop `for _ in range(n)` over a volume key. -/
def pressVolumeKey (key : Nat) : Nat → Cec Unit
  | 0 => pure ()
  | n + 1 => do
    pressKey cfg key
    sleep (3 / 100)
    pressVolumeKey key n

/-- Ask for the audio status, and take what matches next, within the default three seconds, for the
    answer. -/
def queryStatus : Cec Nat := do
  send cfg.logicalAddress [0x71]
  readMatch .audioStatus 3

/-- The part of `set_volume` between its two queries, when the first gave `status`. -/
def adjust (requested : ℤ) (status : Nat) : Cec Unit :=
  let muted := status &&& 0x80 != 0
  let current := status &&& 0x7F
  if requested = 0 then
    when (!muted) (pressKey cfg 0x43)
  else do
    let target := logicalToCec cfg requested
    when muted (pressKey cfg 0x43)
    let key := if target > current then 0x41 else 0x42
    pressVolumeKey cfg key (target - current).natAbs

/-- The part of `set_volume` after its second query, which gave `result`. -/
def report (result : Nat) : Cec (ℤ × Bool) := do
  let volume := result &&& 0x7F
  let muted := result &&& 0x80 != 0
  let logicalVolume := if muted then 0 else cecToLogical cfg volume
  publish (.volume logicalVolume volume muted true)
  emit (.volumeChanged logicalVolume volume muted)
  pure (logicalVolume, muted)

/-- `set_volume`. -/
def setVolume (target : ℤ) : Cec (ℤ × Bool) :=
  if !cfg.enabled then throw (.exception "CEC amplifier control is disabled")
  else do
    let requested := max 0 (min 100 target)
    openProcess cfg
    exceptInvalidate do
      let status ← queryStatus cfg
      adjust cfg requested status
      let result ← queryStatus cfg
      report cfg result

end CecAmplifier

end PhonoConsole
