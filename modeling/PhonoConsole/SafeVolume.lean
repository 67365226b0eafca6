/-
  THE SAFE VOLUME: what `set_volume` does to the amplifier, along any sequence of calls.

  The bus (`cecWorld`) is the amplifier and the lines its `cec-client` has printed and nobody has
  read.  The amplifier obeys every key at once, answers every query with its status, and reports
  its status whenever else it likes; other lines appear at any moment.  The lines outlive the calls.

  * `Amplifier`, `CecBus`, `cecWorld` — the amplifier, and the bus in front of it;
  * `CecBus.upToDate`     — the first status line nobody has read yet, if there is one, is not stale;
  * `pressVolumeKey_safe` — the loop moves the amplifier by its number of rounds;
  * `queryStatus_safe`    — asked while the lines are up to date, the answer is the status;
  * `safe_volume`         — in every run that asks only while they are, `set_volume` reaches its
    target, within the safe maximum, and returns the amplifier's volume;
  * `safe_volume_exceeded` — after reports that nobody read, the target is missed, and the maximum
    exceeded.
-/
import PhonoConsole.Amplifier

namespace PhonoConsole

open Coro World

/-! ## The amplifier -/

/-- The amplifier: a volume of seven bits, and whether it is muted. -/
structure Amplifier where
  volume : Nat
  muted : Bool
  bounded : volume < 128
deriving DecidableEq

namespace Amplifier

/-- The operand of an audio-status report. -/
def status (a : Amplifier) : Nat := a.volume + if a.muted then 0x80 else 0

/-- One step up, as far as there is one. -/
def up (a : Amplifier) : Amplifier :=
  if h : a.volume + 1 < 128 then { a with volume := a.volume + 1, bounded := h } else a

/-- One step down, as far as there is one. -/
def down (a : Amplifier) : Amplifier :=
  { a with volume := a.volume - 1, bounded := by have := a.bounded; omega }

/-- The mute key. -/
def toggleMute (a : Amplifier) : Amplifier := { a with muted := !a.muted }

/-- What a frame does to the amplifier, which listens at `address`. -/
def obey (address : Fin 16) (a : Amplifier) (f : Frame) : Amplifier :=
  if f.destination = address then
    match f.bytes with
    | [0x44, 0x41] => a.up
    | [0x44, 0x42] => a.down
    | [0x44, 0x43] => a.toggleMute
    | _ => a
  else a

variable {a : Amplifier} {address : Fin 16} {n : Nat}

@[simp] theorem obey_up : a.obey address ⟨address, [0x44, 0x41]⟩ = a.up := if_pos rfl

@[simp] theorem obey_down : a.obey address ⟨address, [0x44, 0x42]⟩ = a.down := if_pos rfl

@[simp] theorem obey_mute : a.obey address ⟨address, [0x44, 0x43]⟩ = a.toggleMute := if_pos rfl

@[simp] theorem obey_release : a.obey address ⟨address, [0x45]⟩ = a := if_pos rfl

@[simp] theorem obey_query : a.obey address ⟨address, [0x71]⟩ = a := if_pos rfl

/-- The low bits of the status are the volume, and the high bit is the mute state. -/
theorem status_fields (a : Amplifier) :
    a.status &&& 0x7F = a.volume ∧ (a.status &&& 0x80 != 0) = a.muted := by
  obtain ⟨v, m, h⟩ := a
  have hall : ∀ (v : Fin 128) (m : Bool), (v.val + if m then 0x80 else 0) &&& 0x7F = v.val ∧
      ((v.val + if m then 0x80 else 0) &&& 0x80 != 0) = m := by decide +kernel
  exact hall ⟨v, h⟩ m

/-- `n` steps up. -/
theorem up_iterate (h : a.volume + n < 128) : (up^[n] a).volume = a.volume + n := by
  induction n generalizing a with
  | zero => rfl
  | succ n ih =>
    have hup : a.up.volume = a.volume + 1 := by
      unfold up
      rw [dif_pos (by omega)]
    rw [Function.iterate_succ_apply, ih (by omega), hup]
    omega

/-- `n` steps down. -/
theorem down_iterate : (down^[n] a).volume = a.volume - n := by
  induction n generalizing a with
  | zero => rfl
  | succ n ih =>
    rw [Function.iterate_succ_apply, ih]
    show a.volume - 1 - n = a.volume - (n + 1)
    omega

end Amplifier

/-! ## The bus -/

/-- The amplifier, and the lines of the session that have not been read. -/
structure CecBus where
  amplifier : Amplifier
  output : List String
deriving DecidableEq

/-- The query for the audio status. -/
def audioQuery (cfg : AmplifierConfig) : Frame := ⟨cfg.logicalAddress, [0x71]⟩

/-- The audio-status reports among some lines. -/
def reports (lines : List String) : List Nat := lines.filterMap Pattern.audioStatus.search

namespace CecBus

variable (cfg : AmplifierConfig)

/-- What becomes of the bus when a request is answered; `none` for an answer it cannot give. -/
def answer (w : CecBus) : (q : CecReq) → CecRep q → Option CecBus
  | .spawn _, .ok () => some { w with output := [] }
  | .send frame, .written lines =>
    let a := w.amplifier.obey cfg.logicalAddress frame
    -- the query, and no other command, is answered by a report
    let answers := if frame = audioQuery cfg then [a.status] else []
    if reports lines = answers then some ⟨a, w.output ++ lines⟩ else none
  | .send frame, .failed reached _ =>
    some { w with amplifier :=
      if reached then w.amplifier.obey cfg.logicalAddress frame else w.amplifier }
  | .readMatch p _, .matched status =>
    match p.read w.output with
    | some (first, rest) => if status = first then some { w with output := rest } else none
    | none => none
  | .readMatch p _, .failed skipped _ =>
    match p.read (w.output.take skipped) with
    | some _ => none
    | none => some { w with output := w.output.drop skipped }
  | _, _ => some w

/-- A line that appears by itself: a report of the status, or no report at all. -/
def appear (w : CecBus) (line : String) : Option CecBus :=
  match Pattern.audioStatus.search line with
  | some status =>
    if status = w.amplifier.status then some { w with output := w.output ++ [line] } else none
  | none => some { w with output := w.output ++ [line] }

/-- The first audio-status report nobody has read, if there is one, is the status of now. -/
def upToDate (w : CecBus) : Bool :=
  match Pattern.audioStatus.read w.output with
  | some (first, _) => first == w.amplifier.status
  | none => true

end CecBus

/-- The bus as a world. -/
def cecWorld (cfg : AmplifierConfig) : World CecReq CecRep CecBus String where
  answer := CecBus.answer cfg
  drift := CecBus.appear

/-- The calls of the public methods. -/
inductive AmplifierCall
  | start
  | close
  | powerOn (polls : Nat)
  | setVolume (target : ℤ)
deriving DecidableEq, Repr

/-- A call; its caller keeps what `set_volume` returns. -/
def AmplifierCall.program (cfg : AmplifierConfig) : AmplifierCall → Cec Unit
  | .start => CecAmplifier.start cfg
  | .close => CecAmplifier.close
  | .powerOn polls => CecAmplifier.powerOn cfg polls
  | .setVolume target => do
    let r ← CecAmplifier.setVolume cfg target
    modify fun s => { s with returned := some r }

/-- An amplifier's life, at any of its steps. -/
abbrev AmplifierRun := Serving CecReq CecRep CecAmplifier Exc CecBus AmplifierCall

/-- Its steps: a call, an answer, or a line that appears. -/
abbrev AmplifierMove := ServeMove CecReq CecRep String AmplifierCall

/-- Any sequence of calls, lines appearing at any moment. -/
def amplifierRuns (cfg : AmplifierConfig) : Machine AmplifierRun AmplifierMove :=
  (cecWorld cfg).serve (AmplifierCall.program cfg) fun s _ => s = {}

/-- The call is to set a volume, and not to mute. -/
def AmplifierCall.setsVolume : AmplifierCall → Bool
  | .setVolume target => decide (1 ≤ target)
  | _ => false

/-- The condition on the answers for a call: one that is to set a volume sends its queries while
    the unread lines are up to date. -/
def AsksUpToDate (cfg : AmplifierConfig) (call : AmplifierCall) (w : CecBus) (q : CecReq)
    (_ : CecRep q) : Prop :=
  call.setsVolume = true → q = .send (audioQuery cfg) → w.upToDate = true

instance {cfg : AmplifierConfig} {call : AmplifierCall} {w : CecBus} {q : CecReq} {x : CecRep q} :
    Decidable (AsksUpToDate cfg call w q x) :=
  inferInstanceAs (Decidable (call.setsVolume = true → _ → _))

/-- The same condition on the steps of a run. -/
def QueriedUpToDate (cfg : AmplifierConfig) (run : AmplifierRun) : AmplifierMove → Prop
  | .answer q x => ∀ call ∈ run.current, AsksUpToDate cfg call run.world q x
  | _ => True

instance {cfg : AmplifierConfig} {run : AmplifierRun} : ∀ m, Decidable (QueriedUpToDate cfg run m)
  | .answer q x => inferInstanceAs (Decidable (∀ call ∈ run.current, AsksUpToDate cfg call _ q x))
  | .begin _ | .drift _ => .isTrue trivial

/-! ## What the lines tell -/

/-- What `_read_match` returns is the first of the statuses among the lines. -/
theorem Pattern.read_fst (p : Pattern) (lines : List String) :
    (p.read lines).map Prod.fst = (lines.filterMap p.search).head? := by
  induction lines with
  | nil => rfl
  | cons line rest ih =>
    cases h : p.search line with
    | none => simpa [read, h] using ih
    | some status => simp [read, h]

/-- The amplifier is `a`, and the first status to be read is its own. -/
def CecBus.Answered (a : Amplifier) (w : CecBus) : Prop :=
  w.amplifier = a ∧ (reports w.output).head? = some a.status

theorem CecBus.upToDate_iff {w : CecBus} : w.upToDate = true ↔
    ∀ status, (reports w.output).head? = some status → status = w.amplifier.status := by
  unfold upToDate reports
  rw [← Pattern.read_fst]
  cases Pattern.audioStatus.read w.output with
  | none => simp
  | some r => simp

section Lines

variable {cfg : AmplifierConfig} {w w' : CecBus} {a : Amplifier}

/-- A line that appears leaves the amplifier alone, and every line before it in front. -/
theorem CecBus.appear_eq {line : String} (h : w.appear line = some w') :
    w' = { w with output := w.output ++ [line] } := by
  unfold appear at h
  split at h
  · split at h
    · exact (Option.some.inj h).symm
    · cases h
  · exact (Option.some.inj h).symm

theorem stable_amplifier (cfg : AmplifierConfig) (a : Amplifier) :
    (cecWorld cfg).Stable fun w => w.amplifier = a := by
  intro w line w' hw h
  rw [CecBus.appear_eq h]
  exact hw

theorem stable_answered (cfg : AmplifierConfig) (a : Amplifier) :
    (cecWorld cfg).Stable (CecBus.Answered a) := by
  rintro w line w' ⟨hw, hhead⟩ h
  rw [CecBus.appear_eq h]
  refine ⟨hw, ?_⟩
  show (reports (w.output ++ [line])).head? = _
  rw [reports, List.filterMap_append, List.head?_append]
  show (reports w.output).head?.or _ = _
  rw [hhead]
  rfl

/-- A command that was written has been obeyed. -/
theorem CecBus.answer_written {frame : Frame} {lines : List String}
    (h : w.answer cfg (.send frame) (.written lines) = some w') :
    w'.amplifier = w.amplifier.obey cfg.logicalAddress frame := by
  obtain ⟨-, hw'⟩ := Option.ite_none_right_eq_some.mp h
  rw [← Option.some.inj hw']

/-- A query that was written while the lines were up to date is answered in front. -/
theorem CecBus.answer_query {lines : List String} (hw : w.amplifier = a)
    (hdate : w.upToDate = true)
    (h : w.answer cfg (.send (audioQuery cfg)) (.written lines) = some w') : Answered a w' := by
  subst hw
  obtain ⟨hlines, hw'⟩ := Option.ite_none_right_eq_some.mp h
  have hstill : w.amplifier.obey cfg.logicalAddress (audioQuery cfg) = w.amplifier :=
    Amplifier.obey_query
  rw [if_pos rfl, hstill] at hlines
  rw [← Option.some.inj hw']
  refine ⟨hstill, ?_⟩
  show (reports (w.output ++ lines)).head? = _
  rw [reports, List.filterMap_append, List.head?_append]
  show (reports w.output).head?.or (reports lines).head? = _
  rw [hlines]
  cases hhead : (reports w.output).head? with
  | none => rfl
  | some first =>
    rw [upToDate_iff.mp hdate first hhead]
    rfl

/-- Reading in front of an answer gives the answer. -/
theorem CecBus.answer_read {timeout : ℚ} {status : Nat} (hw : w.Answered a)
    (h : w.answer cfg (.readMatch .audioStatus timeout) (.matched status) = some w') :
    status = a.status ∧ w'.amplifier = a := by
  have hfirst := Pattern.read_fst .audioStatus w.output
  simp only [answer] at h
  split at h
  · rename_i first rest hread
    obtain ⟨hstatus, hw'⟩ := Option.ite_none_right_eq_some.mp h
    rw [hread] at hfirst
    have hhead : some first = some a.status := hfirst.trans hw.2
    rw [← Option.some.inj hw']
    exact ⟨hstatus.trans (Option.some.inj hhead), hw.1⟩
  · exact nomatch h

/-- Only commands reach the amplifier. -/
theorem CecBus.answer_still {q : CecReq} {x : CecRep q} (hq : ∀ frame, q ≠ .send frame)
    (h : w.answer cfg q x = some w') : w'.amplifier = w.amplifier := by
  unfold answer at h
  split at h
  · rw [← Option.some.inj h]
  · exact absurd rfl (hq _)
  · exact absurd rfl (hq _)
  · split at h
    · split at h
      · rw [← Option.some.inj h]
      · exact nomatch h
    · exact nomatch h
  · split at h
    · exact nomatch h
    · rw [← Option.some.inj h]
  · rw [← Option.some.inj h]

end Lines

/-! ## The programs of a `set_volume` -/

namespace CecAmplifier

variable {cfg : AmplifierConfig} {target : ℤ} {α β : Type} {s : CecAmplifier} {w : CecBus}
  {a : Amplifier}

/-- However the bus answers a `set_volume(target)` that asks while the lines are up to date, and
    whatever lines appear, the program raises or returns with `P`. -/
abbrev Does (cfg : AmplifierConfig) (target : ℤ) (p : Cec α)
    (P : α → CecAmplifier → CecBus → Prop) (s : CecAmplifier) (w : CecBus) : Prop :=
  p.Safe ((cecWorld cfg).guarded (AsksUpToDate cfg (.setVolume target))) (fun _ _ => True)
    (fun _ => True) (Returning P) s w

/-- A request, by what its answer makes of a fact about the bus. -/
theorem perform_does {q : CecReq} {result : CecRep q → Except Exc α} {J : CecBus → Prop}
    {K : α → CecBus → Prop} (hJ : (cecWorld cfg).Stable J) (hK : ∀ v, (cecWorld cfg).Stable (K v))
    (hw : J w) (h : ∀ w₁ x w₂ v, J w₁ → AsksUpToDate cfg (.setVolume target) w₁ q x →
      w₁.answer cfg q x = some w₂ → result x = .ok v → K v w₂) :
    Does cfg target (perform q result) (fun v _ => K v) s w := by
  intro w₁ hd₁ x w₂ _ hans
  obtain ⟨hasks, hans⟩ := guarded_answer.mp hans
  have hw₁ := hJ.drifts hd₁.of_guarded hw
  refine ⟨trivial, fun w₃ hd₃ v hv => ?_⟩
  exact (hK v).drifts hd₃.of_guarded (h w₁ x w₂ v hw₁ hasks hans hv)

/-- A program that sends nothing leaves the amplifier alone. -/
theorem still_does {R : CecAmplifier → CecAmplifier → Prop} {p : Cec α}
    (hp : p.Frame R fun q => ∀ frame, q ≠ .send frame) (hw : w.amplifier = a) :
    Does cfg target p (fun _ _ w => w.amplifier = a) s w := by
  refine (safe_frame hp (J := fun w => w.amplifier = a) (stable_amplifier cfg a) (fun _ _ => trivial)
    ?_ hw).mono fun _ _ _ hw _ _ => hw
  intro q x w w' hq _ hw hans
  rw [CecBus.answer_still hq (guarded_answer.mp hans).2]
  exact hw

/-- A command that was sent has been obeyed. -/
theorem send_does {destination : Fin 16} {bytes : List Nat} (hw : w.amplifier = a) :
    Does cfg target (send destination bytes)
      (fun _ _ w => w.amplifier = a.obey cfg.logicalAddress ⟨destination, bytes⟩) s w := by
  refine perform_does (stable_amplifier cfg a) (fun _ => stable_amplifier cfg _) hw ?_
  rintro w₁ x w₂ v rfl - hans hv
  cases x with
  | written lines => exact CecBus.answer_written hans
  | failed reached e => exact nomatch hv

theorem pressKey_does {key : Nat} (hw : w.amplifier = a) :
    Does cfg target (pressKey cfg key)
      (fun _ _ w => w.amplifier = a.obey cfg.logicalAddress ⟨cfg.logicalAddress, [0x44, key]⟩) s w := by
  refine Safe.seq (send_does hw) fun _ s w hw => ?_
  have hrelease : Does cfg target (send cfg.logicalAddress [0x45]) (fun _ _ w => w.amplifier =
      Amplifier.obey cfg.logicalAddress _ ⟨cfg.logicalAddress, [0x45]⟩) s w := send_does hw
  rwa [Amplifier.obey_release] at hrelease

/-- **The loop**: the key is obeyed once for every round. -/
theorem pressVolumeKey_does {key n : Nat} (hw : w.amplifier = a) :
    Does cfg target (pressVolumeKey cfg key n) (fun _ _ w => w.amplifier =
      (fun a => a.obey cfg.logicalAddress ⟨cfg.logicalAddress, [0x44, key]⟩)^[n] a) s w := by
  induction n generalizing a s w with
  | zero => exact safe_pure fun w' hd _ _ => (stable_amplifier cfg a).drifts hd.of_guarded hw
  | succ n ih =>
    refine Safe.seq (pressKey_does hw) fun _ s w hw => ?_
    refine Safe.seq (still_does (R := fun _ _ => True) ⟨fun _ hq => (nomatch hq), fun _ => trivial⟩
      hw) fun _ s w hw => ?_
    rw [Function.iterate_succ_apply]
    exact ih hw

/-- **A query**: asked while the lines are up to date, what matches next is the status. -/
theorem queryStatus_does (htarget : 1 ≤ target) (hw : w.amplifier = a) :
    Does cfg target (queryStatus cfg) (fun status _ w => status = a.status ∧ w.amplifier = a) s w := by
  refine Safe.seq (P := fun _ _ => CecBus.Answered a) (perform_does (stable_amplifier cfg a)
    (fun _ => stable_answered cfg a) hw ?_) fun _ s w hw => ?_
  · rintro w₁ x w₂ v hw₁ hasks hans hv
    cases x with
    | written lines => exact CecBus.answer_query hw₁ (hasks (decide_eq_true htarget) rfl) hans
    | failed reached e => exact nomatch hv
  · refine perform_does (stable_answered cfg a) (fun v => ?_) hw ?_
    · exact fun w line w' hw h => ⟨hw.1, stable_amplifier cfg a w line w' hw.2 h⟩
    · rintro w₁ x w₂ v hw₁ - hans hv
      cases x with
      | matched status =>
        obtain rfl : status = v := Except.ok.inj hv
        exact CecBus.answer_read hw₁ hans
      | failed skipped e => exact nomatch hv

/-- Between its queries, a call that is to set a volume takes the amplifier there. -/
theorem adjust_does {requested : ℤ} (hreq : 1 ≤ requested) (hw : w.amplifier = a) :
    Does cfg target (adjust cfg requested a.status)
      (fun _ _ w => (w.amplifier.volume : ℤ) = logicalToCec cfg requested) s w := by
  obtain ⟨hvolume, hmuted⟩ := a.status_fields
  obtain ⟨hlow, hhigh⟩ := logicalToCec_safe cfg requested
  have hmin := cfg.nonneg
  have hmax := cfg.capped
  have hbound := a.bounded
  simp only [adjust, hvolume, hmuted]
  rw [if_neg (by omega)]
  refine Safe.seq (P := fun _ _ w => w.amplifier.volume = a.volume) ?_ fun _ s w hv => ?_
  · -- the mute key leaves the volume
    refine safe_when (fun _ => (pressKey_does hw).mono ?_) fun _ w' hd _ _ => ?_
    · rintro r s w hr v hv
      rw [hr v hv, Amplifier.obey_mute]
      rfl
    · have hw' : w'.amplifier = a := (stable_amplifier cfg a).drifts hd.of_guarded hw
      exact congrArg Amplifier.volume hw'
  · refine (pressVolumeKey_does rfl).mono ?_
    rintro r s w' hr v' hv'
    rw [hr v' hv']
    by_cases hup : logicalToCec cfg requested > a.volume
    · simp only [if_pos hup, Amplifier.obey_up]
      rw [Amplifier.up_iterate (by omega)]
      omega
    · simp only [if_neg hup, Amplifier.obey_down]
      rw [Amplifier.down_iterate]
      omega

/-- What is returned is read off the second answer. -/
theorem report_does (hw : w.amplifier = a) :
    Does cfg target (report cfg a.status) (fun r _ w => w.amplifier = a ∧
      r = (if a.muted then 0 else cecToLogical cfg a.volume, a.muted)) s w := by
  obtain ⟨hvolume, hmuted⟩ := a.status_fields
  simp only [report, hvolume, hmuted]
  refine Safe.seq (still_does (R := fun _ _ => True) ⟨fun _ hq => (nomatch hq), fun _ => trivial⟩
    hw) fun _ s w hw => ?_
  refine Safe.seq (still_does (R := fun _ _ => True) ⟨fun _ hq => (nomatch hq), fun _ => trivial⟩
    hw) fun _ s w hw => ?_
  refine safe_pure fun w' hd r hr => ?_
  rw [← Except.ok.inj hr]
  exact ⟨(stable_amplifier cfg a).drifts hd.of_guarded hw, rfl⟩

/-- The amplifier is at the volume `target` stands for, and `returned` is this volume on Music
    Assistant's scale, 0 when muted, and the mute state. -/
def AtTarget (cfg : AmplifierConfig) (target : ℤ) (returned : Option (ℤ × Bool)) (w : CecBus) :
    Prop :=
  (w.amplifier.volume : ℤ) = logicalToCec cfg target ∧
  returned = some (if w.amplifier.muted then 0 else cecToLogical cfg w.amplifier.volume,
    w.amplifier.muted)

/-- A failure is passed on after the session has been given up. -/
theorem exceptInvalidate_does {p : Cec α} {P : α → CecAmplifier → CecBus → Prop}
    (hp : Does cfg target p P s w) : Does cfg target (exceptInvalidate p) P s w := by
  refine Safe.catchError hp (fun _ _ _ h => h) fun e s w _ => ?_
  cases e with
  | exception text =>
    refine Safe.mono (P := fun r _ _ => ∀ v, r ≠ .ok v) (Ends.safe ?_ fun _ => trivial)
      fun r _ _ hr v hv => absurd hv (hr v)
    exact Ends.bind (ends_true _) (fun _ _ v => nofun) fun _ _ v => nofun
  | cancelled => exact fun _ _ _ hv => nomatch hv

/-- `_open` sends nothing. -/
theorem openProcess_frame : (openProcess cfg).Frame (fun _ _ => True)
    fun q => ∀ frame, q ≠ .send frame := by
  refine Frame.bind (frame_get fun _ => trivial) fun s => Frame.bind ?_ fun running => ?_
  · split
    · exact frame_ask fun _ hq => nomatch hq
    · trivial
  · refine frame_when fun _ => Frame.bind ⟨fun _ hq => (nomatch hq), fun _ => trivial⟩ fun _ => ?_
    exact frame_modify fun _ => trivial

/-- **A call** that is to set a volume and asks while the lines are up to date reaches its target,
    and returns what the amplifier is at. -/
theorem setVolume_does (htarget : 1 ≤ target) : Does cfg target (setVolume cfg target)
    (fun r _ w => AtTarget cfg target (some r) w) s w := by
  unfold setVolume
  split
  · exact fun _ _ _ hr => nomatch hr
  have hclamp : logicalToCec cfg (max 0 (min 100 target)) = logicalToCec cfg target := by
    have : max 1 (min 100 (max 0 (min 100 target))) = max 1 (min 100 target) := by omega
    simp only [logicalToCec, this]
  refine Safe.seq (still_does openProcess_frame rfl) fun _ s w _ => exceptInvalidate_does ?_
  -- the amplifier is followed from query to query
  refine Safe.seq (queryStatus_does htarget rfl) ?_
  rintro _ s w' ⟨rfl, hw'⟩
  refine Safe.seq (adjust_does (by omega) hw') fun _ s w hvolume => ?_
  rw [hclamp] at hvolume
  refine Safe.seq (queryStatus_does htarget rfl) ?_
  rintro _ s w' ⟨rfl, hw'⟩
  refine (report_does hw').mono ?_
  rintro r s w'' hr v hv
  obtain ⟨hw'', rfl⟩ := hr v hv
  unfold AtTarget
  rw [hw'']
  exact ⟨hvolume, rfl⟩

/-- What a call leaves behind, if it was to set a volume. -/
theorem program_safe (call : AmplifierCall) :
    (call.program cfg).Safe ((cecWorld cfg).guarded (AsksUpToDate cfg call)) (fun _ _ => True)
      (fun _ => True) (fun r s w => ∀ target, call = .setVolume target → 1 ≤ target → r = .ok () →
        AtTarget cfg target s.returned w) s w := by
  by_cases hset : ∃ target, call = .setVolume target ∧ 1 ≤ target
  · obtain ⟨target, rfl, htarget⟩ := hset
    refine Safe.mono (P := Returning fun _ s w => AtTarget cfg target s.returned w) ?_ ?_
    · refine Safe.seq (setVolume_does htarget) fun r s w hr => ?_
      intro w' hd _ _
      have hw' := (stable_amplifier cfg w.amplifier).drifts hd.of_guarded rfl
      unfold AtTarget
      rw [hw']
      exact hr
    · rintro r s w hr _ ⟨⟩ _ hok
      exact hr () hok
  · refine ((ends_true _).safe fun _ => trivial).mono ?_
    rintro r s w - target rfl htarget
    exact absurd ⟨target, rfl, htarget⟩ hset

variable {run : AmplifierRun}

/-- **The safe volume**: in every run in which `set_volume` asks for the status only while no stale
    report is the first unread one, a `set_volume(target)` with `target ≥ 1` that has returned has
    taken the amplifier to the volume `target` stands for, which the safe maximum bounds, and has
    returned that volume on Music Assistant's scale (0 when muted) and the mute state. -/
theorem safe_volume (h : (amplifierRuns cfg).Reach (QueriedUpToDate cfg) run)
    (hcall : run.current = some (.setVolume target)) (htarget : 1 ≤ target)
    (hdone : run.program = .done (.ok ())) :
    AtTarget cfg target run.own.returned run.world ∧
      (run.world.amplifier.volume : ℤ) ≤ cfg.volumeMax := by
  have hat : AtTarget cfg target run.own.returned run.world :=
    serve_post_guarded (fun _ _ _ hm => hm) (fun _ _ _ => program_safe _) h hcall hdone
      target rfl htarget rfl
  exact ⟨hat, hat.1 ▸ (logicalToCec_safe cfg target).2⟩

/-- A call and its end, as moves: `_open`, the two queries with the lines printed and the status
    read, and the presses in between. -/
def volumeCall (cfg : AmplifierConfig) (opened : AmplifierMove) (line₁ line₂ : String)
    (status₁ status₂ : Nat) (volume : ℤ) (presses : List AmplifierMove) : List AmplifierMove :=
  List.flatten
    [[.begin (.setVolume 100), opened, .answer (.send (audioQuery cfg)) (.written [line₁]),
        .answer (.readMatch .audioStatus 3) (.matched status₁)],
      presses,
      [.answer (.send (audioQuery cfg)) (.written [line₂]),
        .answer (.readMatch .audioStatus 3) (.matched status₂),
        .answer (.publish (.volume volume status₂ false true)) (.ok ()),
        .answer (.emit (.volumeChanged volume status₂ false)) (.ok ())]]

/-- A press of the key for one step up, after which `cec-client` prints `line`. -/
def pressUp (cfg : AmplifierConfig) (line : String) : List AmplifierMove :=
  [.answer (.send ⟨cfg.logicalAddress, [0x44, 0x41]⟩) (.written []), .drift line,
    .answer (.send ⟨cfg.logicalAddress, [0x45]⟩) (.written []), .answer (.sleep (3 / 100)) (.ok ())]

/-- An amplifier at 43 that reports only what it is asked for is taken to 45, and `(100, False)` is
    returned. -/
theorem safe_volume_full : ∃ run : AmplifierRun, run.own.returned = some (100, false) ∧
    AtTarget {} 100 run.own.returned run.world ∧ (run.world.amplifier.volume : ℤ) ≤ 45 := by
  obtain ⟨run, hrun, hreturned, hout, hcall⟩ := Machine.exists_reach
    (m := (amplifierRuns {}).guarded (QueriedUpToDate {}))
    (s := ⟨.done (.ok ()), {}, ⟨⟨43, false, by decide⟩, []⟩, none⟩)
    (l := volumeCall {} (.answer (.spawn "/dev/cec0") (.ok ())) ">> 51:7a:2b" ">> 51:7a:2d" 43 45 100
      (pressUp {} "<< 15:44:41" ++ pressUp {} "<< 15:44:41"))
    (fun run => run.own.returned = some (100, false) ∧ run.program.returned = true ∧
      run.current = some (.setVolume 100))
    ⟨rfl, rfl, rfl⟩ (by decide +kernel)
  exact ⟨run, hreturned, safe_volume hrun.of_guarded hcall (by decide) (returned_iff.mp hout)⟩

/-- An amplifier at 42 that also reports its status after every key: `set_volume(100)`, called
    twice.  The first call takes it to 45, but takes the report of 43 for its second answer and
    returns `(93, False)`; the second call takes the report of 44 for its first answer and presses
    once more, to 46, above the maximum. -/
theorem safe_volume_exceeded : ¬ ∀ (cfg : AmplifierConfig) (run : AmplifierRun) (target : ℤ),
    (amplifierRuns cfg).Reach Machine.anyMove run → run.current = some (.setVolume target) →
    1 ≤ target → run.program = .done (.ok ()) → AtTarget cfg target run.own.returned run.world ∧
      (run.world.amplifier.volume : ℤ) ≤ cfg.volumeMax := by
  intro hall
  obtain ⟨run, hrun, hvolume, hout, hcall⟩ := Machine.exists_reach (m := amplifierRuns {})
    (s := ⟨.done (.ok ()), {}, ⟨⟨42, false, by decide⟩, []⟩, none⟩)
    (l := volumeCall {} (.answer (.spawn "/dev/cec0") (.ok ())) ">> 51:7a:2a" ">> 51:7a:2d" 42 43 93
      (pressUp {} ">> 51:7a:2b" ++ pressUp {} ">> 51:7a:2c" ++ pressUp {} ">> 51:7a:2d") ++
      volumeCall {} (.answer .running true) ">> 51:7a:2d" ">> 51:7a:2e" 44 45 100
        (pressUp {} ">> 51:7a:2e"))
    (fun run => run.world.amplifier.volume = 46 ∧ run.program.returned = true ∧
      run.current = some (.setVolume 100))
    ⟨rfl, rfl, rfl⟩ (by decide +kernel)
  have hmax : (run.world.amplifier.volume : ℤ) ≤ 45 :=
    (hall {} run 100 hrun hcall (by decide) (returned_iff.mp hout)).2
  omega

end CecAmplifier

end PhonoConsole
