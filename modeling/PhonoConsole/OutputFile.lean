/-
  THE OUTPUT FILE: how the choice of the user survives (`run_daemon`, its first lines, and
  `persist_output_target`; `phono_console/runtime.py`).

  The daemon may die between any two system calls, and in the middle of a write, and is started again.
  What it finds then are the files of `state_dir`: the output file, its temporary, and two markers of
  older versions, which a start-up migrates and removes.

  * `StateDir`, `StateDir.resolve` — the files, and the target that a start-up reads from them;
  * `OutputFile`, `outputFile` — the daemon, system call by system call, with crashes anywhere;
  * `Kept`            — the invariant: what is in the output file at each point of the protocol;
  * `target_survives` — whatever was committed last is what every later start-up reads; an interrupted
    first start-up leaves everything to the next one; a running daemon has committed.

  A write that the kernel has taken is not lost: the daemon dies, not the machine.
-/
import PhonoConsole.Lib.Machine
import PhonoConsole.Lib.Text
import PhonoConsole.Policy
import Mathlib.Algebra.Order.Field.Rat
import Mathlib.Tactic.Linarith

namespace PhonoConsole

/-! ## Files -/

/-- What `read_text` finds: text, or bytes that are none (a `UnicodeDecodeError`, which is a
    `ValueError`). -/
inductive FileText
  | text (l : List Char)
  | undecodable
deriving DecidableEq

/-- `target.value`. -/
def OutputTarget.value : OutputTarget → List Char
  | .console => ['c', 'o', 'n', 's', 'o', 'l', 'e']
  | .downstairs => ['d', 'o', 'w', 'n', 's', 't', 'a', 'i', 'r', 's']

/-- `OutputTarget(text.strip())`; `none` where it raises `ValueError`. -/
def OutputTarget.read : FileText → Option OutputTarget
  | .undecodable => none
  | .text l =>
    if Text.strip l = OutputTarget.console.value then some .console
    else if Text.strip l = OutputTarget.downstairs.value then some .downstairs
    else none

/-- The text that is written for a target. -/
def OutputTarget.line (t : OutputTarget) : List Char := t.value ++ ['\n']

/-- The files of `state_dir`; a marker is known by its time of modification. -/
structure StateDir where
  outputTarget : Option FileText := none
  temporary : Option FileText := none
  localPlaybackOnly : Bool := false
  phonoDownstairs : Option ℚ := none
deriving DecidableEq

namespace StateDir

/-- The Downstairs marker of an older version is younger than the sticky interval. -/
def markerIsFresh (d : StateDir) (stickySeconds now : ℚ) : Bool :=
  d.phonoDownstairs.any fun mtime => now - mtime < stickySeconds

/-- The target that a start-up reads.  An output file that cannot be read leaves the default, and
    hides the markers. -/
def resolve (d : StateDir) (stickySeconds now : ℚ) : OutputTarget :=
  match d.outputTarget with
  | some file => (OutputTarget.read file).getD .console
  | none =>
    if d.localPlaybackOnly then .console
    else if d.markerIsFresh stickySeconds now then .downstairs
    else .console

end StateDir

/-! ## The daemon -/

/-- The next system call of the daemon, or where it waits.  A temporary is written in the start-up,
    and (`up`) for an intent. -/
inductive FilePhase
  | off
  | clearing (target : OutputTarget)
  | opening (up : Bool) (target : OutputTarget)
  | writing (up : Bool) (target : OutputTarget)
  | replacing (up : Bool) (target : OutputTarget)
  | unlinkingLocal (target : OutputTarget)
  | unlinkingPhono (target : OutputTarget)
  | running
deriving DecidableEq

/-- The files and the daemon, with the files of before the first start-up and the target committed last
    on record. -/
structure OutputFile where
  files : StateDir
  phase : FilePhase := .off
  now : ℚ
  initial : StateDir
  committed : Option OutputTarget := none
deriving DecidableEq

/-- Start-up, system calls, a choice, a failing write and a crash. -/
inductive FileMove
  | start
  | call
  | persist (target : OutputTarget)
  | fails (written : Nat)
  | crash (written : Nat)

namespace OutputFile

/-- What is read before the first change: the marker that is stale goes first. -/
def start (stickySeconds : ℚ) (s : OutputFile) : OutputFile :=
  let target := s.files.resolve stickySeconds s.now
  { s with
    phase :=
      if s.files.phonoDownstairs.isSome ∧ ¬ s.files.markerIsFresh stickySeconds s.now then
        .clearing target
      else .opening false target }

/-- The next system call. -/
def call (s : OutputFile) : OutputFile :=
  match s.phase with
  | .off | .running => s
  | .clearing target =>
      { s with files.phonoDownstairs := none, phase := .opening false target }
  | .opening up target =>
      { s with files.temporary := some (.text []), phase := .writing up target }
  | .writing up target =>
      { s with files.temporary := some (.text target.line), phase := .replacing up target }
  | .replacing up target =>
      { s with
        files.outputTarget := s.files.temporary
        files.temporary := none
        committed := some target
        phase := if up then .running else .unlinkingLocal target }
  | .unlinkingLocal target =>
      { s with files.localPlaybackOnly := false, phase := .unlinkingPhono target }
  | .unlinkingPhono _ => { s with files.phonoDownstairs := none, phase := .running }

/-- A write that is cut off. -/
def torn (s : OutputFile) (written : Nat) : StateDir :=
  match s.phase with
  | .writing _ target => { s.files with temporary := some (.text (target.line.take written)) }
  | _ => s.files

/-- What follows an `OSError` of a running daemon: the request fails. -/
def fails (s : OutputFile) (written : Nat) : Option OutputFile :=
  match s.phase with
  | .opening true _ | .writing true _ | .replacing true _ =>
      some { s with files := s.torn written, phase := .running }
  | _ => none

/-- The files after a move. -/
def next (stickySeconds : ℚ) (s : OutputFile) : FileMove → Option OutputFile
  | .start => if s.phase = .off then some (s.start stickySeconds) else none
  | .call => if s.phase = .off ∨ s.phase = .running then none else some s.call
  | .persist target =>
      if s.phase = .running then some { s with phase := .opening true target } else none
  | .fails written => s.fails written
  | .crash written => some { s with files := s.torn written, phase := .off }

end OutputFile

/-- Any start-ups, intents, failures and crashes, on a clock that is not set back. -/
def outputFile (stickySeconds : ℚ) : Machine OutputFile (ℚ × FileMove) where
  init s := ∃ files now, s = { files, now, initial := files }
  next s a := if s.now ≤ a.1 then { s with now := a.1 }.next stickySeconds a.2 else none

/-! ## Reading -/

/-- What is written is read back. -/
theorem OutputTarget.read_line (t : OutputTarget) : OutputTarget.read (.text t.line) = some t := by
  cases t <;> decide

namespace StateDir

variable {d d' : StateDir} {stickySeconds now now' : ℚ}

/-- A committed file decides. -/
theorem resolve_line {t : OutputTarget} (h : d.outputTarget = some (.text t.line)) :
    d.resolve stickySeconds now = t := by
  unfold resolve
  rw [h]
  simp only [OutputTarget.read_line, Option.getD_some]

/-- A marker that is stale stays stale. -/
theorem stale_later (h : d.markerIsFresh stickySeconds now = false) (hle : now ≤ now') :
    d.markerIsFresh stickySeconds now' = false := by
  unfold markerIsFresh at h ⊢
  cases hmarker : d.phonoDownstairs with
  | none => rfl
  | some mtime =>
    rw [hmarker] at h
    simp only [Option.any_some, decide_eq_false_iff_not, not_lt] at h ⊢
    linarith

/-- Only the freshness of the marker depends on it. -/
theorem resolve_congr (hfile : d'.outputTarget = d.outputTarget)
    (hlocal : d'.localPlaybackOnly = d.localPlaybackOnly)
    (hfresh : d'.markerIsFresh stickySeconds now = d.markerIsFresh stickySeconds now) :
    d'.resolve stickySeconds now = d.resolve stickySeconds now := by
  unfold resolve
  rw [hfile, hlocal, hfresh]

end StateDir

/-! ## The protocol -/

namespace OutputFile

variable {stickySeconds : ℚ} {s s' : OutputFile} {m : FileMove}

/-- The target of a start-up is the one committed last; before anything is committed, the one that the
    first files say. -/
def Chosen (stickySeconds : ℚ) (s : OutputFile) (t : OutputTarget) : Prop :=
  (∀ t₀, s.committed = some t₀ → t = t₀) ∧
  (s.committed = none → ∃ now ≤ s.now, t = s.initial.resolve stickySeconds now)

/-- A daemon that runs has committed, and removed the markers. -/
def Up (s : OutputFile) : Prop :=
  s.committed.isSome = true ∧ s.files.localPlaybackOnly = false ∧ s.files.phonoDownstairs = none

/-- What holds before each system call. -/
def At (stickySeconds : ℚ) (s : OutputFile) : FilePhase → Prop
  | .off => True
  | .clearing t => Chosen stickySeconds s t ∧ s.files.markerIsFresh stickySeconds s.now = false
  | .opening up t | .writing up t => if up then Up s else Chosen stickySeconds s t
  | .replacing up t => (if up then Up s else Chosen stickySeconds s t) ∧
      s.files.temporary = some (.text t.line)
  | .unlinkingLocal t => s.committed = some t
  | .unlinkingPhono t => s.committed = some t ∧ s.files.localPlaybackOnly = false
  | .running => Up s

/-- The invariant: what a start-up would read is what was committed, or what there was at
    first. -/
structure Kept (stickySeconds : ℚ) (s : OutputFile) : Prop where
  committed : ∀ t, s.committed = some t → s.files.outputTarget = some (.text t.line)
  initial : s.committed = none → s.files.outputTarget = s.initial.outputTarget ∧
    s.files.localPlaybackOnly = s.initial.localPlaybackOnly ∧
    ∀ now, s.now ≤ now →
      s.files.markerIsFresh stickySeconds now = s.initial.markerIsFresh stickySeconds now
  at_phase : At stickySeconds s s.phase

/-- An interrupted first start-up leaves everything to the next one. -/
theorem Kept.resolve_initial (h : Kept stickySeconds s) (hnone : s.committed = none) {now : ℚ}
    (hnow : s.now ≤ now) :
    s.files.resolve stickySeconds now = s.initial.resolve stickySeconds now := by
  obtain ⟨hfile, hlocal, hfresh⟩ := h.initial hnone
  exact StateDir.resolve_congr hfile hlocal (hfresh now hnow)

/-- Time passes. -/
theorem Kept.later (h : Kept stickySeconds s) {now : ℚ} (hnow : s.now ≤ now) :
    Kept stickySeconds { s with now } := by
  have hchosen : ∀ t, Chosen stickySeconds s t → Chosen stickySeconds { s with now } t := by
    rintro t ⟨hsome, hnone⟩
    refine ⟨hsome, fun hc => ?_⟩
    obtain ⟨time, hle, ht⟩ := hnone hc
    exact ⟨time, hle.trans hnow, ht⟩
  have hat := h.at_phase
  refine ⟨h.committed, fun hc => ?_, ?_⟩
  · obtain ⟨hfile, hlocal, hfresh⟩ := h.initial hc
    exact ⟨hfile, hlocal, fun time htime => hfresh time (hnow.trans htime)⟩
  · show At stickySeconds { s with now } s.phase
    cases hphase : s.phase with
    | off => trivial
    | clearing t =>
      rw [hphase] at hat
      exact ⟨hchosen t hat.1, StateDir.stale_later hat.2 hnow⟩
    | opening up t | writing up t =>
      rw [hphase] at hat
      cases up with
      | true => exact hat
      | false => exact hchosen t hat
    | replacing up t =>
      rw [hphase] at hat
      refine ⟨?_, hat.2⟩
      cases up with
      | true => exact hat.1
      | false => exact hchosen t hat.1
    | unlinkingLocal t | unlinkingPhono t | running =>
      rw [hphase] at hat
      exact hat

/-- A start-up reads the target. -/
theorem Kept.start (h : Kept stickySeconds s) : Kept stickySeconds (s.start stickySeconds) := by
  have hchosen : Chosen stickySeconds s (s.files.resolve stickySeconds s.now) := by
    refine ⟨fun t ht => ?_, fun hnone => ⟨s.now, le_refl _, ?_⟩⟩
    · exact StateDir.resolve_line (h.committed t ht)
    · exact h.resolve_initial hnone (le_refl _)
  refine ⟨h.committed, h.initial, ?_⟩
  show At stickySeconds _ (if _ then _ else _)
  split
  · rename_i hstale
    have hfresh : s.files.markerIsFresh stickySeconds s.now = false := Bool.eq_false_iff.mpr hstale.2
    exact ⟨hchosen, hfresh⟩
  · exact hchosen

/-- Other files may change under the daemon, but not these. -/
theorem Kept.files (h : Kept stickySeconds s) {files : StateDir} {phase : FilePhase}
    (hfile : files.outputTarget = s.files.outputTarget)
    (hlocal : files.localPlaybackOnly = s.files.localPlaybackOnly)
    (hphono : files.phonoDownstairs = s.files.phonoDownstairs)
    (hat : At stickySeconds { s with files, phase } phase) :
    Kept stickySeconds { s with files, phase } := by
  refine ⟨fun t ht => hfile.trans (h.committed t ht), fun hnone => ?_, hat⟩
  obtain ⟨hfile₀, hlocal₀, hfresh₀⟩ := h.initial hnone
  refine ⟨hfile.trans hfile₀, hlocal.trans hlocal₀, fun now hnow => ?_⟩
  rw [← hfresh₀ now hnow]
  show StateDir.markerIsFresh files _ _ = _
  unfold StateDir.markerIsFresh
  rw [hphono]

/-- Once something is committed only the output file matters. -/
theorem Kept.done {files : StateDir} {t : OutputTarget} (hc : s.committed = some t)
    (hfile : files.outputTarget = some (.text t.line)) {phase : FilePhase}
    (hat : At stickySeconds { s with files, phase } phase) :
    Kept stickySeconds { s with files, phase } := by
  refine ⟨fun t' ht' => ?_, fun hnone => ?_, hat⟩
  · obtain rfl := Option.some.inj (hc.symm.trans ht')
    exact hfile
  · exact nomatch hc.symm.trans hnone

/-- The next system call. -/
theorem Kept.call (h : Kept stickySeconds s) : Kept stickySeconds s.call := by
  have hat := h.at_phase
  unfold OutputFile.call
  split
  · exact h
  · exact h
  · -- the stale marker goes
    rename_i t hphase
    rw [hphase] at hat
    obtain ⟨hchosen, hstale⟩ := hat
    refine ⟨h.committed, fun hnone => ?_, hchosen⟩
    obtain ⟨hfile, hlocal, hfresh⟩ := h.initial hnone
    refine ⟨hfile, hlocal, fun now hnow => ?_⟩
    rw [← hfresh now hnow, StateDir.stale_later hstale hnow]
    rfl
  · rename_i up t hphase
    rw [hphase] at hat
    exact h.files rfl rfl rfl hat
  · rename_i up t hphase
    rw [hphase] at hat
    exact h.files rfl rfl rfl ⟨hat, rfl⟩
  · -- the temporary becomes the output file
    rename_i up t hphase
    rw [hphase] at hat
    obtain ⟨hwho, htemporary⟩ := hat
    refine ⟨fun t' ht' => ?_, nofun, ?_⟩
    · obtain rfl := Option.some.inj ht'
      exact htemporary
    · show At stickySeconds _ (if up = true then _ else _)
      cases up with
      | true => exact ⟨rfl, hwho.2⟩
      | false => rfl
  · rename_i t hphase
    rw [hphase] at hat
    apply Kept.done hat
    · exact h.committed t hat
    · exact ⟨hat, rfl⟩
  · rename_i t hphase
    rw [hphase] at hat
    apply Kept.done hat.1
    · exact h.committed t hat.1
    · exact ⟨Option.isSome_iff_exists.mpr ⟨t, hat.1⟩, hat.2, rfl⟩

/-- A torn write is in the temporary. -/
theorem torn_eq (s : OutputFile) (written : Nat) :
    (s.torn written).outputTarget = s.files.outputTarget ∧
    (s.torn written).localPlaybackOnly = s.files.localPlaybackOnly ∧
    (s.torn written).phonoDownstairs = s.files.phonoDownstairs := by
  unfold torn
  split <;> exact ⟨rfl, rfl, rfl⟩

/-- A request that fails leaves the daemon running. -/
theorem Kept.fails (h : Kept stickySeconds s) {written : Nat} (hnext : s.fails written = some s') :
    Kept stickySeconds s' := by
  have hat := h.at_phase
  obtain ⟨hfile, hlocal, hphono⟩ := s.torn_eq written
  have hup : Up s → Kept stickySeconds { s with files := s.torn written, phase := .running } :=
    fun hup => h.files hfile hlocal hphono ⟨hup.1, hlocal.trans hup.2.1, hphono.trans hup.2.2⟩
  unfold OutputFile.fails at hnext
  split at hnext
  · rename_i hphase
    rw [hphase] at hat
    obtain rfl := Option.some.inj hnext
    exact hup hat
  · rename_i hphase
    rw [hphase] at hat
    obtain rfl := Option.some.inj hnext
    exact hup hat
  · rename_i hphase
    rw [hphase] at hat
    obtain rfl := Option.some.inj hnext
    exact hup hat.1
  · cases hnext

theorem Kept.next (h : Kept stickySeconds s) (hnext : s.next stickySeconds m = some s') :
    Kept stickySeconds s' := by
  cases m with
  | start =>
    obtain ⟨-, hnext⟩ := Option.ite_none_right_eq_some.mp hnext
    obtain rfl := Option.some.inj hnext
    exact h.start
  | call =>
    obtain ⟨-, hnext⟩ := Option.ite_none_left_eq_some.mp hnext
    obtain rfl := Option.some.inj hnext
    exact h.call
  | persist target =>
    obtain ⟨hphase, hnext⟩ := Option.ite_none_right_eq_some.mp hnext
    obtain rfl := Option.some.inj hnext
    have hat := h.at_phase
    rw [hphase] at hat
    exact h.files rfl rfl rfl hat
  | fails written => exact h.fails hnext
  | crash written =>
    obtain rfl := Option.some.inj hnext
    obtain ⟨hfile, hlocal, hphono⟩ := s.torn_eq written
    exact h.files hfile hlocal hphono trivial

theorem Kept.reach (hs : (outputFile stickySeconds).Reach Machine.anyMove s) :
    Kept stickySeconds s := by
  refine hs.invariant ?_ ?_
  · rintro s ⟨files, now, rfl⟩
    exact ⟨nofun, fun _ => ⟨rfl, rfl, fun _ _ => rfl⟩, trivial⟩
  · intro s a s' h _ hnext
    obtain ⟨hnow, hnext⟩ := Option.ite_none_right_eq_some.mp hnext
    exact (h.later hnow).next hnext

/-- **The choice survives.**  Wherever the daemon dies or a write fails, and however often it is started:
    what was committed last is what every start-up reads from then on, and writes again; as long as
    nothing was committed, a start-up reads what the first files said, markers included; and a daemon
    that runs has committed a target, and removed the markers. -/
theorem target_survives (hs : (outputFile stickySeconds).Reach Machine.anyMove s) :
    (∀ t, s.committed = some t → ∀ now, s.files.resolve stickySeconds now = t) ∧
    (s.committed = none → ∀ now, s.now ≤ now →
      s.files.resolve stickySeconds now = s.initial.resolve stickySeconds now) ∧
    (∀ t, s.phase = .replacing false t → Chosen stickySeconds s t) ∧
    (s.phase = .running → Up s) := by
  have h := Kept.reach hs
  have hat := h.at_phase
  refine ⟨fun t ht now => StateDir.resolve_line (h.committed t ht),
    fun hnone now hnow => h.resolve_initial hnone hnow, fun t hphase => ?_, fun hphase => ?_⟩
  · rw [hphase] at hat
    exact hat.1
  · rw [hphase] at hat
    exact hat

/-- A marker of an older version, a start-up that dies before and one that dies after the replacement,
    and an intent that is cut off in its write. -/
def crashes : List (ℚ × FileMove) :=
  [(1, .start), (1, .call), (1, .crash 4), (2, .start), (2, .call), (2, .call), (2, .call),
    (2, .crash 0), (3, .start), (3, .call), (3, .call), (3, .call), (3, .call), (3, .call),
    (4, .persist .console), (4, .call), (4, .crash 3)]

theorem target_survives_crashes :
    ∃ s, (outputFile 3600).Reach Machine.anyMove s ∧ s.committed = some .downstairs ∧
      s.files.temporary = some (.text ['c', 'o', 'n']) ∧
      s.files.resolve 3600 100000 = .downstairs := by
  obtain ⟨s, hs, hcommitted, htorn⟩ := Machine.exists_reach (m := outputFile 3600)
    (s := { files := { phonoDownstairs := some 0 }, now := 0, initial := { phonoDownstairs := some 0 } })
    (l := crashes)
    (fun s => s.committed = some .downstairs ∧ s.files.temporary = some (.text ['c', 'o', 'n']))
    ⟨_, 0, rfl⟩ (by decide +kernel)
  exact ⟨s, hs, hcommitted, htorn, (target_survives hs).1 .downstairs hcommitted 100000⟩

end OutputFile

end PhonoConsole
