/-
  MACHINES: systems whose every move is determined by a label, and what holds along all runs.

  A cooperative scheduler decides nothing but ORDER: which waiting party is resumed next, and
  with which answer from outside.  Put both into a label and one move becomes a partial function
  `next : σ → α → Option σ`; a run is a list of labels, and "for every interleaving" is "for
  every list of labels".  This file supplies, once, what every such system needs:

  * `Machine.Reach ok s`  — `s` is reached by a run all of whose moves meet the condition `ok`
    (`ok := Machine.anyMove` for unconditional runs);
  * `Reach.invariant`     — the induction: an invariant of the initial states that every admitted
    move keeps holds in every state reached;
  * `Reach.invariant_of`  — the same, while a fact already known of all reached states is used
    in the step;
  * `exec`                — the run of a concrete list of labels, computable, with `reach_exec`
    connecting it to `Reach`, so that a concrete bad run can be replayed by evaluation;
  * `guarded`             — the system restricted to the moves that meet a condition, so that a
    concrete good run can be replayed too;
  * `recording`           — the system beside a record of its run, for properties of what has
    happened, with `Reach.fst` back to the system alone.
-/

/-- A labelled system: `next s a` is the state after the move `a`, `none` when `s` does not
    admit `a`. -/
structure Machine (σ α : Type) where
  init : σ → Prop
  next : σ → α → Option σ

namespace Machine

variable {σ α : Type}

/-- The condition every move meets. -/
def anyMove : σ → α → Prop := fun _ _ => True

/-- `m.Reach ok s`: some run from an initial state reaches `s`, each of its moves meeting `ok`
    in the state before it. -/
inductive Reach (m : Machine σ α) (ok : σ → α → Prop) : σ → Prop
  | init {s : σ} : m.init s → Reach m ok s
  | move {s s' : σ} {a : α} : Reach m ok s → ok s a → m.next s a = some s' → Reach m ok s'

/-- The induction along runs. -/
theorem Reach.invariant {m : Machine σ α} {ok : σ → α → Prop} {I : σ → Prop}
    (hinit : ∀ s, m.init s → I s)
    (hmove : ∀ s a s', I s → ok s a → m.next s a = some s' → I s')
    {s : σ} (h : m.Reach ok s) : I s := by
  induction h with
  | init hs => exact hinit _ hs
  | move _ hok hnext ih => exact hmove _ _ _ ih hok hnext

/-- The induction along runs, above a fact `J` that all reached states are known to have. -/
theorem Reach.invariant_of {m : Machine σ α} {ok : σ → α → Prop} {I J : σ → Prop}
    (hJ : ∀ s, m.Reach ok s → J s) (hinit : ∀ s, m.init s → I s)
    (hmove : ∀ s a s', J s → I s → ok s a → m.next s a = some s' → I s')
    {s : σ} (h : m.Reach ok s) : I s := by
  induction h with
  | init hs => exact hinit _ hs
  | move hr hok hnext ih => exact hmove _ _ _ (hJ _ hr) ih hok hnext

/-- A run under a condition is a run. -/
theorem Reach.forget {m : Machine σ α} {ok : σ → α → Prop} {s : σ} (h : m.Reach ok s) :
    m.Reach anyMove s := by
  induction h with
  | init hs => exact .init hs
  | move _ _ hnext ih => exact .move ih trivial hnext

/-- The state after a concrete list of moves. -/
def exec (m : Machine σ α) : σ → List α → Option σ
  | s, [] => some s
  | s, a :: l => (m.next s a).bind (m.exec · l)

/-- A list of moves continues a run. -/
theorem Reach.exec {m : Machine σ α} : ∀ {l : List α} {s s' : σ},
    m.Reach anyMove s → m.exec s l = some s' → m.Reach anyMove s'
  | [], s, s', hs, h => by
      have hss : s = s' := by simpa [Machine.exec] using h
      exact hss ▸ hs
  | a :: l, s, s', hs, h => by
      rw [Machine.exec] at h
      cases hn : m.next s a with
      | none => rw [hn] at h; nomatch h
      | some s₁ =>
        rw [hn] at h
        exact Reach.exec (.move hs trivial hn) h

/-- A concrete run from an initial state reaches its last state; `P` is what is observed there. -/
theorem exists_reach {m : Machine σ α} {s : σ} {l : List α} (P : σ → Prop) [DecidablePred P]
    (hs : m.init s) (h : (m.exec s l).any (fun s' => decide (P s')) = true) :
    ∃ s', m.Reach anyMove s' ∧ P s' := by
  obtain ⟨s', hl, hP⟩ := (Option.any_eq_true _ _).mp h
  exact ⟨s', Reach.exec (.init hs) hl, of_decide_eq_true hP⟩

/-- The system that admits a move only under `ok`, so that a run is checked while it is replayed. -/
def guarded (m : Machine σ α) (ok : σ → α → Prop) [∀ s a, Decidable (ok s a)] : Machine σ α where
  init := m.init
  next s a := if ok s a then m.next s a else none

theorem Reach.of_guarded {m : Machine σ α} {ok : σ → α → Prop} [∀ s a, Decidable (ok s a)]
    {s : σ} (h : (m.guarded ok).Reach anyMove s) : m.Reach ok s := by
  induction h with
  | init hs => exact .init hs
  | move _ _ hnext ih =>
    simp only [guarded] at hnext
    split at hnext
    · exact .move ih ‹_› hnext
    · exact nomatch hnext

/-- The system beside a record of its run: what is written down may depend on the state before the
    move, and changes nothing. -/
def recording {γ : Type} (m : Machine σ α) (blank : γ) (write : σ → α → γ → γ) :
    Machine (σ × γ) α where
  init x := m.init x.1 ∧ x.2 = blank
  next x a := (m.next x.1 a).map fun s => (s, write x.1 a x.2)

theorem recording_next {γ : Type} {m : Machine σ α} {blank : γ} {write : σ → α → γ → γ}
    {x x' : σ × γ} {a : α} (h : (m.recording blank write).next x a = some x') :
    m.next x.1 a = some x'.1 ∧ x'.2 = write x.1 a x.2 := by
  obtain ⟨s, hs, rfl⟩ := Option.map_eq_some_iff.mp h
  exact ⟨hs, rfl⟩

theorem Reach.fst {γ : Type} {m : Machine σ α} {blank : γ} {write : σ → α → γ → γ}
    {ok : σ × γ → α → Prop} {x : σ × γ} (h : (m.recording blank write).Reach ok x) :
    m.Reach anyMove x.1 := by
  induction h with
  | init hx => exact .init hx.1
  | move _ _ hnext ih => exact .move ih trivial (recording_next hnext).1

end Machine
