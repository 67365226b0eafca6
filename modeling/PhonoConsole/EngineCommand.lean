/-
  THE COMMAND LINE of the native engine (`native/src/main.c`).

  `main` reads pairs of a name and a value into two records of options, one for each subcommand,
  and checks them together.  Numbers are read by `strtoul`, which skips blanks, takes a sign and
  negates modulo the width of `unsigned long` (64 bits); what does not fit an `unsigned int` is
  refused.

  * `strtoul`, `parseUnsigned` — the numbers;
  * `readOptions`, `check`, `main` — the options, their checks, and what is run;
  * `main_engine`   — what a command line that starts the engine says.
-/
import PhonoConsole.Engine
import Mathlib.Data.List.TakeWhile

namespace PhonoConsole.Engine

/-! ## Numbers -/

/-- `ULONG_MAX`. -/
def ulongMax : Nat := 2 ^ 64 - 1

/-- `UINT_MAX`. -/
def uintMax : Nat := 2 ^ 32 - 1

/-- `isspace` in the C locale. -/
def isSpace (c : Char) : Bool :=
  c = ' ' || c = '\t' || c = '\n' || c = '\x0b' || c = '\x0c' || c = '\r'

/-- What `strtoul` has converted: the value, what is left of the text, and `errno`. -/
structure Converted where
  value : Nat
  rest : List Char
  rangeError : Bool
deriving DecidableEq, Repr

/-- The sign of a number, and the text after it. -/
def sign : List Char → Bool × List Char
  | '-' :: rest => (true, rest)
  | '+' :: rest => (false, rest)
  | text => (false, text)

/-- The number that decimal digits write. -/
def decimal (digits : List Char) : Nat :=
  digits.foldl (fun value c => 10 * value + (c.toNat - '0'.toNat)) 0

/-- `strtoul(text, &end, 10)`; `none` where there is nothing to convert, and `end` is `text`. -/
def strtoul (text : List Char) : Option Converted :=
  let (negative, rest) := sign (text.dropWhile isSpace)
  let digits := rest.takeWhile Char.isDigit
  let magnitude := decimal digits
  if digits = [] then none
  else if ulongMax < magnitude then
    some { value := ulongMax, rest := rest.dropWhile Char.isDigit, rangeError := true }
  else
    some {
      value := if negative then (ulongMax + 1 - magnitude) % (ulongMax + 1) else magnitude
      rest := rest.dropWhile Char.isDigit
      rangeError := false }

/-- `parse_unsigned`; `none` where the source returns -1.  A negated number is not refused as such:
    it is small when its magnitude is close to the width. -/
def parseUnsigned (text : String) : Option UInt32 :=
  match strtoul text.toList with
  | none => none
  | some converted =>
    if converted.rangeError ∨ converted.rest ≠ [] ∨ uintMax < converted.value then none
    else some (UInt32.ofNat converted.value)

/-! ## Options -/

/-- `struct phono_probe_options`, with the defaults of `main`. -/
structure PhonoProbeOptions where
  device : Option String := none
  seconds : UInt32 := 30
  requestedRate : UInt32 := 48000
  requestedChannels : UInt32 := 2
  periodFrames : UInt32 := 960
  bufferFrames : UInt32 := 3840
deriving DecidableEq, Repr

/-- `struct phono_engine_options`, with the defaults of `main`. -/
structure PhonoEngineOptions where
  device : Option String := none
  socketPath : Option String := none
  source : UInt16 := 2
  requestedRate : UInt32 := 48000
  requestedChannels : UInt32 := 2
  periodFrames : UInt32 := 960
  bufferFrames : UInt32 := 3840
deriving DecidableEq, Repr

/-- Both records, as `main` fills them. -/
structure CommandOptions where
  options : PhonoProbeOptions := {}
  engine : PhonoEngineOptions := {}
deriving DecidableEq, Repr

/-- A command line that is refused: exit status 2, with the usage or without a word. -/
inductive Refused
  | usage
  | silent
deriving DecidableEq, Repr

/-- The number of an option. -/
def number (value : String) (put : UInt32 → CommandOptions) : Except Refused CommandOptions :=
  match parseUnsigned value with
  | some n => .ok (put n)
  | none => .error .silent

/-- One pair of a name and a value. -/
def readOption (serving : Bool) (o : CommandOptions) (name value : String) :
    Except Refused CommandOptions :=
  if name = "--device" then
    .ok { options := { o.options with device := some value }
          engine := { o.engine with device := some value } }
  else if name = "--socket" ∧ serving then
    .ok { o with engine := { o.engine with socketPath := some value } }
  else if name = "--source" ∧ serving then
    if value = "bluetooth" then .ok { o with engine := { o.engine with source := 2 } }
    else if value = "phono" then .ok { o with engine := { o.engine with source := 1 } }
    else .error .silent
  else if name = "--seconds" then
    if serving then .error .silent
    else number value fun n => { o with options := { o.options with seconds := n } }
  else if name = "--rate" then
    number value fun n =>
      { options := { o.options with requestedRate := n }
        engine := { o.engine with requestedRate := n } }
  else if name = "--channels" then
    number value fun n =>
      { options := { o.options with requestedChannels := n }
        engine := { o.engine with requestedChannels := n } }
  else if name = "--period-frames" then
    number value fun n =>
      { options := { o.options with periodFrames := n }
        engine := { o.engine with periodFrames := n } }
  else if name = "--buffer-frames" then
    number value fun n =>
      { options := { o.options with bufferFrames := n }
        engine := { o.engine with bufferFrames := n } }
  else .error .usage

/-- The loop over the arguments after the subcommand. -/
def readOptions (serving : Bool) (o : CommandOptions) : List String → Except Refused CommandOptions
  | [] => .ok o
  | [_] => .error .usage
  | name :: value :: rest =>
    match readOption serving o name value with
    | .ok o => readOptions serving o rest
    | .error refused => .error refused

/-- What `main` does: it refuses, or it runs the engine or the probe. -/
inductive Command
  | refuse (refused : Refused)
  | engine (options : PhonoEngineOptions)
  | probe (options : PhonoProbeOptions)
deriving DecidableEq, Repr

/-- The checks after the loop; `period_frames * 2` wraps around. -/
def check (serving : Bool) (o : CommandOptions) : Command :=
  if o.options.device = none ∨ (¬ serving ∧ o.options.seconds = 0) ∨ o.options.requestedRate = 0 ∨
      o.options.requestedChannels = 0 ∨ o.options.periodFrames = 0 ∨
      o.options.bufferFrames < o.options.periodFrames * 2 then
    .refuse .usage
  else if serving then
    if o.engine.socketPath = none then .refuse .usage else .engine o.engine
  else .probe o.options

/-- `main`, of the arguments after the program's name. -/
def main : List String → Command
  | [] => .refuse .usage
  | subcommand :: args =>
    if subcommand ≠ "probe" ∧ subcommand ≠ "serve" then .refuse .usage
    else
      match readOptions (subcommand = "serve") {} args with
      | .ok o => check (subcommand = "serve") o
      | .error refused => .refuse refused

/-! ## What is accepted -/

/-- The loop keeps the two records equal in what they share. -/
structure Agree (o : CommandOptions) : Prop where
  device : o.engine.device = o.options.device
  rate : o.engine.requestedRate = o.options.requestedRate
  channels : o.engine.requestedChannels = o.options.requestedChannels
  period : o.engine.periodFrames = o.options.periodFrames
  buffer : o.engine.bufferFrames = o.options.bufferFrames
  source : o.engine.source = 1 ∨ o.engine.source = 2

theorem Agree.init : Agree {} := ⟨rfl, rfl, rfl, rfl, rfl, .inr rfl⟩

theorem number_ok {value : String} {put : UInt32 → CommandOptions} {o : CommandOptions}
    (h : number value put = .ok o) : ∃ n, o = put n := by
  unfold number at h
  split at h
  · rename_i n _
    exact ⟨n, (Except.ok.inj h).symm⟩
  · cases h

theorem Agree.readOption {serving : Bool} {o o' : CommandOptions} {name value : String}
    (h : Agree o) (hread : readOption serving o name value = .ok o') : Agree o' := by
  obtain ⟨hdevice, hrate, hchannels, hperiod, hbuffer, hsource⟩ := h
  unfold Engine.readOption at hread
  split at hread
  · obtain rfl := Except.ok.inj hread
    exact ⟨rfl, hrate, hchannels, hperiod, hbuffer, hsource⟩
  split at hread
  · obtain rfl := Except.ok.inj hread
    exact ⟨hdevice, hrate, hchannels, hperiod, hbuffer, hsource⟩
  split at hread
  · -- `--source` takes two names
    split at hread
    · obtain rfl := Except.ok.inj hread
      exact ⟨hdevice, hrate, hchannels, hperiod, hbuffer, .inr rfl⟩
    split at hread
    · obtain rfl := Except.ok.inj hread
      exact ⟨hdevice, hrate, hchannels, hperiod, hbuffer, .inl rfl⟩
    · cases hread
  split at hread
  · split at hread
    · cases hread
    · obtain ⟨n, rfl⟩ := number_ok hread
      exact ⟨hdevice, hrate, hchannels, hperiod, hbuffer, hsource⟩
  split at hread
  · obtain ⟨n, rfl⟩ := number_ok hread
    exact ⟨hdevice, rfl, hchannels, hperiod, hbuffer, hsource⟩
  split at hread
  · obtain ⟨n, rfl⟩ := number_ok hread
    exact ⟨hdevice, hrate, rfl, hperiod, hbuffer, hsource⟩
  split at hread
  · obtain ⟨n, rfl⟩ := number_ok hread
    exact ⟨hdevice, hrate, hchannels, rfl, hbuffer, hsource⟩
  split at hread
  · obtain ⟨n, rfl⟩ := number_ok hread
    exact ⟨hdevice, hrate, hchannels, hperiod, rfl, hsource⟩
  · cases hread

theorem Agree.readOptions {serving : Bool} {args : List String} {o o' : CommandOptions}
    (h : Agree o) (hread : readOptions serving o args = .ok o') : Agree o' := by
  induction o, args using Engine.readOptions.induct serving with
  | case1 o =>
    obtain rfl := Except.ok.inj hread
    exact h
  | case2 o name => cases hread
  | case3 o name value rest o₁ ho₁ ih =>
    simp only [Engine.readOptions, ho₁] at hread
    exact ih (h.readOption ho₁) hread
  | case4 o name value rest refused hrefused =>
    simp [Engine.readOptions, hrefused] at hread

/-- What a command line that starts the engine has said. -/
structure ServeOptions (o : PhonoEngineOptions) : Prop where
  device : o.device ≠ none
  socketPath : o.socketPath ≠ none
  source : o.source = 1 ∨ o.source = 2
  rate : o.requestedRate ≠ 0
  channels : o.requestedChannels ≠ 0
  period : o.periodFrames ≠ 0
  buffer : ¬ o.bufferFrames < o.periodFrames * 2

theorem main_engine {args : List String} {o : PhonoEngineOptions} (h : main args = .engine o) :
    ServeOptions o := by
  cases args with
  | nil => cases h
  | cons subcommand args =>
    simp only [main] at h
    split at h
    · cases h
    split at h
    · rename_i read hread
      have hagree := Agree.init.readOptions hread
      simp only [check] at h
      split at h
      · cases h
      rename_i hchecks
      simp only [not_or] at hchecks
      obtain ⟨hdevice, -, hrate, hchannels, hperiod, hbuffer⟩ := hchecks
      split at h
      · split at h
        · cases h
        · rename_i hsocket
          obtain rfl := Command.engine.inj h
          rw [← hagree.device] at hdevice
          rw [← hagree.rate] at hrate
          rw [← hagree.channels] at hchannels
          rw [← hagree.period, ← hagree.buffer] at hbuffer
          rw [← hagree.period] at hperiod
          exact ⟨hdevice, hsocket, hagree.source, hrate, hchannels, hperiod, hbuffer⟩
      · cases h
    · cases h

end PhonoConsole.Engine
