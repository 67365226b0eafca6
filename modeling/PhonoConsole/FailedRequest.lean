/-
  A FAILED DOWNSTAIRS REQUEST, served alone from a Console state.

  The rollback of `_set_canonical_output` restores the in-memory target.  What the action had
  done before it raised stays: once the file is written the flags are set too, before the next
  step that can raise.  So the request leaves nothing behind exactly when file and flags had those
  values already, as an earlier failed request leaves them, or when the disk has refused the file.
-/
import PhonoConsole.Intents

namespace PhonoConsole

namespace Hub

variable {s q q' : Hub}

/-- A state with target Console in which nothing is in flight. -/
structure Quiet (s : Hub) : Prop where
  target : s.outputTarget = .console
  done : ∀ g, (s.task g).pc.isDone = true
  api : s.apiLock.free = true
  transition : s.transitionLock.free = true

/-- The hub after a Downstairs request in the state `s`. -/
def serving (s : Hub) : Machine Hub HubMove where
  init q := q = s.request .downstairs
  next := next

/-- No other intent arrives. -/
def Alone (_ : Hub) : HubMove → Prop
  | .request _ | .press _ => False
  | .resume _ _ | .identify | .sense _ _ | .disk _ => True

/-- File and flags as the Downstairs action leaves them. -/
def Enabled (q : Hub) : Prop := q.file = .downstairs ∧ q.flags = Flags.for .downstairs

/-- How far the request from `s` has got, and what it has done by then. -/
inductive Stage (s q : Hub) : TaskPc → Prop
  | returned : Stage s q (.done .returned)
  | selecting {n : Nat} {source : Source} (hw : s.writable = true) (h : Enabled q) :
    Stage s q (.selecting n source)
  | playing {n : Nat} {source : Source} (hw : s.writable = true) (h : Enabled q) :
    Stage s q (.playing n source)
  | raised (hw : s.writable = true) (ht : q.outputTarget = .console) (h : Enabled q) :
    Stage s q (.done .raised)
  | refused (hw : s.writable = false) (ht : q.outputTarget = .console)
      (h : q.file = s.file ∧ q.flags = s.flags) : Stage s q (.done .raised)

theorem Stage.congr {pc : TaskPc} (h : Stage s q pc) (hout : q'.outputTarget = q.outputTarget)
    (hfile : q'.file = q.file) (hflags : q'.flags = q.flags) : Stage s q' pc := by
  have hen : Enabled q → Enabled q' := fun hen => ⟨hfile.trans hen.1, hflags.trans hen.2⟩
  cases h with
  | returned => exact .returned
  | selecting hw h => exact .selecting hw (hen h)
  | playing hw h => exact .playing hw (hen h)
  | raised hw ht h => exact .raised hw (hout.trans ht) (hen h)
  | refused hw ht h => exact .refused hw (hout.trans ht) ⟨hfile.trans h.1, hflags.trans h.2⟩

/-- The state while, and after, the one request is served. -/
structure Served (s q : Hub) : Prop where
  generation : q.routingGeneration = s.routingGeneration + 1
  others : ∀ g, g ≠ q.routingGeneration → (q.task g).pc.isDone = true
  target : (q.task q.routingGeneration).target = .downstairs
  caller : (q.task q.routingGeneration).caller = .api .console
  stage : Stage s q (q.task q.routingGeneration).pc

/-- The request's task moves, within its own generation. -/
theorem Served.framed (h : Served s q) (hf : Framed q q.routingGeneration q')
    (hstage : Stage s q' (q'.task q.routingGeneration).pc) : Served s q' where
  generation := hf.generation.trans h.generation
  others g hg := by
    rw [hf.generation] at hg
    rw [hf.others g hg]
    exact h.others g hg
  target := by rw [hf.generation, hf.target]; exact h.target
  caller := by rw [hf.generation, hf.caller]; exact h.caller
  stage := by rw [hf.generation]; exact hstage

/-- The newest request raises, and rolls its target back. -/
theorem actionRaises_newest (htarget : (q.task q.routingGeneration).target = .downstairs)
    (hcaller : (q.task q.routingGeneration).caller = .api .console) :
    q.actionRaises q.routingGeneration =
      (q.setOutputTarget .console false).finish q.routingGeneration .raised := by
  unfold actionRaises
  rw [hcaller]
  exact if_pos ⟨htarget, rfl⟩

/-- The recorded request owns both locks, and its action passes the target check. -/
theorem beginAction_served (hgen : q.routingGeneration = s.routingGeneration + 1)
    (hothers : ∀ g, g ≠ q.routingGeneration → (q.task g).pc.isDone = true)
    (hself : q.task q.routingGeneration = ⟨.downstairs, .api .console, .apiLock⟩)
    (hout : q.outputTarget = .downstairs) (hfile : q.file = s.file) (hflags : q.flags = s.flags)
    (hwritable : q.writable = s.writable) : Served s (q.beginAction q.routingGeneration) := by
  have hserved : ∀ q', Framed q q.routingGeneration q' →
      Stage s q' (q'.task q.routingGeneration).pc → Served s q' := fun q' hf hstage => by
    have hg := hf.generation
    refine ⟨hg.trans hgen, fun g hne => ?_, ?_, ?_, ?_⟩
    · rw [hg] at hne
      rw [hf.others g hne]
      exact hothers g hne
    · rw [hg, hf.target, hself]
    · rw [hg, hf.caller, hself]
    · rw [hg]
      exact hstage
  refine hserved _ (beginAction_called ..).framed ?_
  have hbegan := beginAction_began q q.routingGeneration
  cases hw : q.writable with
  | true =>
    generalize q.beginAction q.routingGeneration = q' at hbegan ⊢
    cases hbegan with
    | unwanted h =>
      rw [hself] at h
      exact absurd hout h
    | unwritten _ hno => exact absurd (hw.symm.trans hno) Bool.false_ne_true.symm
    | console ht _ =>
      rw [hself] at ht
      exact nomatch ht
    | unidentified _ _ _ r | waiting _ _ r =>
      rw [(moved_finish ..).pc_self]
      exact .returned
    | starting _ _ r =>
      rw [(moved_setPc ..).pc_self]
      exact .selecting (hwritable.symm.trans hw) ⟨rfl, rfl⟩
  | false =>
    -- the disk refuses the file: the target is rolled back, and nothing else has changed
    have hraises : q.beginAction q.routingGeneration = q.actionRaises q.routingGeneration := by
      unfold beginAction
      rw [hself]
      simp [hout, hw]
    rw [hraises, actionRaises_pc, actionRaises_newest (by rw [hself]) (by rw [hself])]
    exact .refused (hwritable.symm.trans hw) (finish_outputTarget ..)
      ⟨(finish_file ..).trans hfile, (finish_flags ..).trans hflags⟩

theorem request_served (hs : Quiet s) : Served s (s.request .downstairs) := by
  rw [request_of_free hs.api hs.transition, hs.target]
  refine beginAction_served (s := s) rfl (fun g hg => ?_)
    (record_self s .downstairs (.api .console) .apiLock) rfl rfl rfl rfl
  show ((s.record .downstairs (.api .console) .apiLock).task g).pc.isDone = true
  rw [record_other hg]
  exact hs.done g

theorem resume_served {g : Nat} {reply : HubReply} (h : Served s q)
    (hnext : q.resume g reply = some q') : Served s q' := by
  have hresumed := resume_resumed hnext
  have hg : g = q.routingGeneration := by
    by_contra hne
    exact absurd (hresumed.pending.symm.trans (h.others g hne)) Bool.false_ne_true
  subst hg
  have hstage := h.stage
  cases hresumed with
  | entered hpc _ | owns hpc _ | phono hpc | bluetooth hpc | stopping hpc | stopped hpc =>
    rw [hpc] at hstage
    exact nomatch hstage
  | playing hpc =>
    rw [hpc] at hstage
    cases hstage with
    | selecting hw hen =>
      refine h.framed (moved_setPc ..).framed ?_
      rw [(moved_setPc ..).pc_self]
      exact .playing hw hen
  | played _ =>
    refine h.framed (moved_finish ..).framed ?_
    rw [(moved_finish ..).pc_self]
    exact .returned
  | missing _ _ r =>
    refine h.framed ((moved_finish ..).framed.after rfl rfl rfl) ?_
    rw [(moved_finish ..).pc_self]
    exact .returned
  | raised hpc _ =>
    have hen : s.writable = true ∧ Enabled q := by
      generalize (q.task q.routingGeneration).pc = pc at hstage hpc
      cases hstage with
      | selecting hw hen | playing hw hen => exact ⟨hw, hen⟩
      | returned | raised | refused => exact nomatch hpc
    -- its generation is the newest, so the target is rolled back
    refine h.framed (actionRaises_framed ..) ?_
    rw [actionRaises_newest h.target h.caller, (moved_finish ..).pc_self]
    exact .raised hen.1 (finish_outputTarget ..)
      ⟨(finish_file ..).trans hen.2.1, (finish_flags ..).trans hen.2.2⟩

theorem next_served {m : HubMove} (h : Served s q) (hm : Alone q m)
    (hnext : q.next m = some q') : Served s q' := by
  cases m with
  | request | press => exact hm.elim
  | resume g reply => exact resume_served h hnext
  | identify | sense | disk =>
    rw [← Option.some.inj hnext]
    exact ⟨h.generation, h.others, h.target, h.caller, h.stage.congr rfl rfl rfl⟩

/-- **A failed request leaves nothing behind** exactly when the disk has refused the file, or there
    was nothing left to apply: the file said Downstairs already, and the flags were enabled. -/
theorem failed_request_iff (hs : Quiet s) (h : (serving s).Reach Alone q)
    (hfailed : (q.task q.routingGeneration).pc = .done .raised) :
    (q.outputTarget = s.outputTarget ∧ q.file = s.file ∧ q.flags = s.flags) ↔
      s.writable = false ∨ s.file = .downstairs ∧ s.flags = Flags.for .downstairs := by
  have hserved : Served s q :=
    h.invariant (fun q hq => by rw [hq]; exact request_served hs) fun _ _ _ => next_served
  have hstage := hserved.stage
  rw [hfailed] at hstage
  cases hstage with
  | raised hw htarget hen =>
    obtain ⟨hfile, hflags⟩ := hen
    constructor
    · rintro ⟨-, hf, hfl⟩
      exact .inr ⟨hf.symm.trans hfile, hfl.symm.trans hflags⟩
    · rintro (hno | ⟨hf, hfl⟩)
      · exact absurd (hw.symm.trans hno) Bool.false_ne_true.symm
      · exact ⟨htarget.trans hs.target.symm, hfile.trans hf.symm, hflags.trans hfl.symm⟩
  | refused hw htarget hsame =>
    exact ⟨fun _ => .inl hw, fun _ => ⟨htarget.trans hs.target.symm, hsame⟩⟩

/-- A record plays at a console whose publisher is identified. -/
def recordAtConsole : Hub := { consoleAtStart with clientKnown := true, activeSource := .phono }

/-- The request from that state, failing at the source selection. -/
def recordFailed : Hub := (recordAtConsole.request .downstairs).actionRaises 1

theorem recordAtConsole_quiet : Quiet recordAtConsole := ⟨rfl, fun _ => rfl, rfl, rfl⟩

theorem recordFailed_reach : (serving recordAtConsole).Reach Alone recordFailed :=
  .move (a := .resume 1 .raised) (.init rfl) trivial rfl

/-- The failed request has written the file, so by the criterion something is left behind. -/
theorem failed_request_record : recordFailed.outputTarget = .console ∧ recordFailed.file = .downstairs ∧
    ((recordFailed.outputTarget = recordAtConsole.outputTarget ∧
      recordFailed.file = recordAtConsole.file ∧ recordFailed.flags = recordAtConsole.flags) ↔
      recordAtConsole.writable = false ∨
        recordAtConsole.file = .downstairs ∧ recordAtConsole.flags = Flags.for .downstairs) :=
  ⟨rfl, rfl, failed_request_iff recordAtConsole_quiet recordFailed_reach rfl⟩

theorem failed_request_leaves_file : ¬ ∀ s q : Hub, Quiet s → (serving s).Reach Alone q →
    (q.task q.routingGeneration).pc = .done .raised →
    q.outputTarget = s.outputTarget ∧ q.file = s.file ∧ q.flags = s.flags := by
  intro hall
  have hsame := hall _ _ recordAtConsole_quiet recordFailed_reach rfl
  have hfile : OutputTarget.downstairs = OutputTarget.console := hsame.2.1
  exact nomatch hfile

end Hub

end PhonoConsole
