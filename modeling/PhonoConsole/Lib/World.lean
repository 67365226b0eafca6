/-
  PROGRAMS IN A WORLD: what coroutines do to a state they can only reach by requests.

  A `Coro` says what a program asks for; a `World` says what becomes of the rest of the world
  when it is answered, and how that rest moves by itself in between:

  * `answer w q a` — the world after the request `q` has been answered by `a` in the world `w`,
    `none` when `w` cannot give that answer;
  * `drift w d`    — the world after a move `d` of its own, at any moment.

  `p.Safe W ok I Q s w` is the weakest precondition of `p`: from the private state `s` and the
  world `w`, however the world drifts and whichever `ok` answers it gives, every world right after
  an answer satisfies `I`, and the end satisfies `Q`.

  * `Safe.bind`, `Safe.catchError`, `Safe.focus`, `Safe.mono`, `Safe.invariant` — the structural
    rules; `safe_frame` takes a whole program by what its requests keep;
  * `Returning P` — the postconditions that only speak of programs that return; a sequence goes
    through an assertion about the first half (`Safe.seq`);
  * `Safe.eval`  — the oracle reading: `Q` at the end of `eval o p s`, in the world its requests
    lead to;
  * `serve`      — the stepwise reading: calls served one after another, each suspended at its
    requests; `Served` is what holds of the server at every step, and `serve_invariant` reads
    `Safe` back along every run;
  * `guarded`    — the world that only gives the answers a condition on the world before admits;
    `serve_invariant_guarded` reads the safety of every call in its guarded world back along the
    runs of the whole world whose answers meet the condition (`serve_post_guarded` for calls that
    need nothing of each other, `serve_invariant_begun` for calls that only begin under a
    condition on the server).
-/
import PhonoConsole.Lib.Machine
import PhonoConsole.Lib.Coro

/-- A world that answers requests, and moves by itself. -/
structure World (Req : Type) (Rep : Req → Type) (ω δ : Type) where
  answer : ω → (q : Req) → Rep q → Option ω
  drift : ω → δ → Option ω

namespace World

variable {Req : Type} {Rep : Req → Type} {ω δ : Type}

/-- The worlds reached from a world without any answer. -/
inductive Drifts (W : World Req Rep ω δ) : ω → ω → Prop
  | refl {w : ω} : Drifts W w w
  | move {w w₁ w₂ : ω} {d : δ} : Drifts W w w₁ → W.drift w₁ d = some w₂ → Drifts W w w₂

theorem Drifts.trans {W : World Req Rep ω δ} {w₁ w₂ w₃ : ω} (h : W.Drifts w₁ w₂)
    (h' : W.Drifts w₂ w₃) : W.Drifts w₁ w₃ := by
  induction h' with
  | refl => exact h
  | move _ hd ih => exact ih.move hd

/-- A property of worlds that no drift destroys. -/
def Stable (W : World Req Rep ω δ) (J : ω → Prop) : Prop :=
  ∀ w d w', J w → W.drift w d = some w' → J w'

theorem Stable.drifts {W : World Req Rep ω δ} {J : ω → Prop} (hJ : W.Stable J) {w w' : ω}
    (h : W.Drifts w w') (hw : J w) : J w' := by
  induction h with
  | refl => exact hw
  | move _ hd ih => exact hJ _ _ _ ih hd

/-- The world that only gives the answers for which `G` holds in the world before. -/
noncomputable def guarded (W : World Req Rep ω δ) (G : ω → (q : Req) → Rep q → Prop) :
    World Req Rep ω δ where
  answer w q a := open Classical in if G w q a then W.answer w q a else none
  drift := W.drift

theorem guarded_answer {W : World Req Rep ω δ} {G : ω → (q : Req) → Rep q → Prop} {w w' : ω}
    {q : Req} {a : Rep q} : (W.guarded G).answer w q a = some w' ↔
      G w q a ∧ W.answer w q a = some w' := by
  by_cases hG : G w q a
  · simp [guarded, hG]
  · simp [guarded, hG]

/-- The guard changes no drift. -/
theorem Drifts.of_guarded {W : World Req Rep ω δ} {G : ω → (q : Req) → Rep q → Prop} {w w' : ω}
    (h : (W.guarded G).Drifts w w') : W.Drifts w w' := by
  induction h with
  | refl => exact .refl
  | move _ hd ih => exact ih.move hd

/-- The world after the requests `l`, all answered by `o`, without drift. -/
def follow (W : World Req Rep ω δ) (o : (q : Req) → Rep q) : ω → List Req → Option ω
  | w, [] => some w
  | w, q :: l => (W.answer w q (o q)).bind (W.follow o · l)

end World

namespace Coro

open World

variable {Req : Type} {Rep : Req → Type} {ω δ σ ε α β : Type}

/-- The weakest precondition: worlds after answers satisfy `I`, the end satisfies `Q`. -/
def Safe (W : World Req Rep ω δ) (ok : (q : Req) → Rep q → Prop) (I : ω → Prop) :
    Coro Req Rep σ ε α → (Except ε α → σ → ω → Prop) → σ → ω → Prop
  | done r, Q, s, w => ∀ w', W.Drifts w w' → Q r s w'
  | state f k, Q, s, w => (k s).Safe W ok I Q (f s) w
  | call q k, Q, s, w => ∀ w₁, W.Drifts w w₁ → ∀ a w₂, ok q a → W.answer w₁ q a = some w₂ →
      I w₂ ∧ (k a).Safe W ok I Q s w₂

variable {W : World Req Rep ω δ} {ok : (q : Req) → Rep q → Prop} {I : ω → Prop} {s : σ} {w w' : ω}

/-! ## Structural rules -/

/-- Being safe is not lost while the world drifts. -/
theorem Safe.drift {p : Coro Req Rep σ ε α} {Q : Except ε α → σ → ω → Prop}
    (h : p.Safe W ok I Q s w) (hd : W.Drifts w w') : p.Safe W ok I Q s w' := by
  induction p generalizing s with
  | done r => exact fun w₁ h₁ => h w₁ (hd.trans h₁)
  | state f k ih => exact ih s h
  | call q k _ => exact fun w₁ h₁ => h w₁ (hd.trans h₁)

theorem Safe.mono {p : Coro Req Rep σ ε α} {P Q : Except ε α → σ → ω → Prop}
    (h : p.Safe W ok I P s w) (hPQ : ∀ r s w, P r s w → Q r s w) : p.Safe W ok I Q s w := by
  induction p generalizing s w with
  | done r => exact fun w₁ h₁ => hPQ r s w₁ (h w₁ h₁)
  | state f k ih => exact ih s h
  | call q k ih =>
    intro w₁ h₁ a w₂ ha hw₂
    obtain ⟨hI, hk⟩ := h w₁ h₁ a w₂ ha hw₂
    exact ⟨hI, ih a hk⟩

/-- The invariant of the answers, once it holds, still holds at the end. -/
theorem Safe.invariant {p : Coro Req Rep σ ε α} {Q : Except ε α → σ → ω → Prop}
    (h : p.Safe W ok I Q s w) (hI : W.Stable I) (hw : I w) :
    p.Safe W ok I (fun r s w => I w ∧ Q r s w) s w := by
  induction p generalizing s w with
  | done r => exact fun w₁ h₁ => ⟨hI.drifts h₁ hw, h w₁ h₁⟩
  | state f k ih => exact ih s h hw
  | call q k ih =>
    intro w₁ h₁ a w₂ ha hw₂
    obtain ⟨hI₂, hk⟩ := h w₁ h₁ a w₂ ha hw₂
    exact ⟨hI₂, ih a hk hI₂⟩

/-- A condition on the answers alone may be asked of the world instead. -/
theorem Safe.guard {p : Coro Req Rep σ ε α} {Q : Except ε α → σ → ω → Prop}
    (h : p.Safe W ok I Q s w) :
    p.Safe (W.guarded fun _ q a => ok q a) (fun _ _ => True) I Q s w := by
  induction p generalizing s w with
  | done r => exact fun w' hw' => h w' hw'.of_guarded
  | state f k ih => exact ih s h
  | call q k ih =>
    intro w₁ hw₁ a w₂ _ hans
    obtain ⟨ha, hans⟩ := guarded_answer.mp hans
    obtain ⟨hI, hk⟩ := h w₁ hw₁.of_guarded a w₂ ha hans
    exact ⟨hI, ih a hk⟩

theorem safe_pure {a : α} {Q : Except ε α → σ → ω → Prop}
    (h : ∀ w', W.Drifts w w' → Q (.ok a) s w') :
    (pure a : Coro Req Rep σ ε α).Safe W ok I Q s w := h

theorem Safe.bind {p : Coro Req Rep σ ε α} {f : α → Coro Req Rep σ ε β}
    {P : Except ε α → σ → ω → Prop} {Q : Except ε β → σ → ω → Prop} (h : p.Safe W ok I P s w)
    (hok : ∀ a s w, P (.ok a) s w → (f a).Safe W ok I Q s w)
    (herr : ∀ e s w, P (.error e) s w → Q (.error e) s w) : (p >>= f).Safe W ok I Q s w := by
  show (p.bind f).Safe W ok I Q s w
  induction p generalizing s w with
  | done r =>
    cases r with
    | ok a => exact hok a s w (h w .refl)
    | error e => exact fun w₁ h₁ => herr e s w₁ (h w₁ h₁)
  | state g k ih => exact ih s h
  | call q k ih =>
    intro w₁ h₁ a w₂ ha hw₂
    obtain ⟨hI, hk⟩ := h w₁ h₁ a w₂ ha hw₂
    exact ⟨hI, ih a hk⟩

theorem Safe.catchError {p : Coro Req Rep σ ε α} {h : ε → Coro Req Rep σ ε α}
    {P Q : Except ε α → σ → ω → Prop} (hp : p.Safe W ok I P s w)
    (hok : ∀ a s w, P (.ok a) s w → Q (.ok a) s w)
    (hh : ∀ e s w, P (.error e) s w → (h e).Safe W ok I Q s w) :
    (p.catchError h).Safe W ok I Q s w := by
  induction p generalizing s w with
  | done r =>
    cases r with
    | ok a => exact fun w₁ h₁ => hok a s w₁ (hp w₁ h₁)
    | error e => exact hh e s w (hp w .refl)
  | state g k ih => exact ih s hp
  | call q k ih =>
    intro w₁ h₁ a w₂ ha hw₂
    obtain ⟨hI, hk⟩ := hp w₁ h₁ a w₂ ha hw₂
    exact ⟨hI, ih a hk⟩

/-- A component's program inside the whole: what holds of the component at its end holds of the
    whole with that component put in. -/
theorem Safe.focus {τ : Type} {put : τ → σ → σ} (hput : ∀ c c' s, put c (put c' s) = put c s)
    {p : Coro Req Rep τ ε α} {P : Except ε α → τ → ω → Prop} {Q : Except ε α → σ → ω → Prop}
    {c : τ} (h : p.Safe W ok I P c w) (hs : put c s = s)
    (hPQ : ∀ r c w, P r c w → Q r (put c s) w) : (p.focus put c).Safe W ok I Q s w := by
  suffices hall : ∀ t, put c s = t → (p.focus put c).Safe W ok I Q t w from hall s hs
  clear hs
  induction p generalizing c w with
  | done r =>
    rintro t rfl w' hw'
    exact hPQ r c w' (h w' hw')
  | state f k ih =>
    rintro t rfl
    exact ih c h _ (hput _ _ _).symm
  | call q k ih =>
    intro t ht w₁ h₁ a w₂ ha hw₂
    obtain ⟨hI, hk⟩ := h w₁ h₁ a w₂ ha hw₂
    exact ⟨hI, ih a hk t ht⟩

/-! ## Postconditions of programs that return -/

/-- `P` of the value, the private state and the world, of programs that return. -/
def Returning (P : α → σ → ω → Prop) : Except ε α → σ → ω → Prop :=
  fun r s w => ∀ a, r = .ok a → P a s w

theorem Safe.seq {p : Coro Req Rep σ ε α} {f : α → Coro Req Rep σ ε β} {P : α → σ → ω → Prop}
    {Q : β → σ → ω → Prop} (hp : p.Safe W ok I (Returning P) s w)
    (hf : ∀ a s w, P a s w → (f a).Safe W ok I (Returning Q) s w) :
    (p >>= f).Safe W ok I (Returning Q) s w :=
  Safe.bind hp (fun a s w ha => hf a s w (ha a rfl)) fun _ _ _ _ _ hb => nomatch hb

/-- What holds of the outcome whatever is answered, where the answers need nothing. -/
theorem Ends.safe {Q : Except ε α → Prop} {p : Coro Req Rep σ ε α} (hp : p.Ends ok Q)
    (hI : ∀ w, I w) : p.Safe W ok I (fun r _ _ => Q r) s w := by
  induction p generalizing s w with
  | done r => exact fun _ _ => hp
  | state f k ih => exact ih s (hp s)
  | call q k ih => exact fun w₁ _ a w₂ ha _ => ⟨hI w₂, ih a (hp a ha)⟩

/-! ## Primitive programs -/

theorem safe_get {Q : Except ε σ → σ → ω → Prop} (h : ∀ w', W.Drifts w w' → Q (.ok s) s w') :
    (get : Coro Req Rep σ ε σ).Safe W ok I Q s w := h

/-- A program that reads the private state first. -/
theorem safe_get_bind {f : σ → Coro Req Rep σ ε β} {Q : Except ε β → σ → ω → Prop}
    (h : (f s).Safe W ok I Q s w) : (get >>= f).Safe W ok I Q s w := h

theorem safe_when {b : Bool} {p : Coro Req Rep σ ε Unit} {Q : Except ε Unit → σ → ω → Prop}
    (hp : b = true → p.Safe W ok I Q s w)
    (hskip : b = false → ∀ w', W.Drifts w w' → Q (.ok ()) s w') :
    (when b p).Safe W ok I Q s w := by
  cases b
  · exact hskip rfl
  · exact hp rfl

theorem safe_when_bind {b : Bool} {p : Coro Req Rep σ ε Unit} {f : Unit → Coro Req Rep σ ε β}
    {Q : Except ε β → σ → ω → Prop} (hp : b = true → (p >>= f).Safe W ok I Q s w)
    (hskip : b = false → (f ()).Safe W ok I Q s w) : (when b p >>= f).Safe W ok I Q s w := by
  cases b
  · exact hskip rfl
  · exact hp rfl

/-- The frame of a program: requests that keep `J` leave it to the end. -/
theorem safe_frame {R : σ → σ → Prop} {C : Req → Prop} {J : ω → Prop}
    {p : Coro Req Rep σ ε α} (hp : p.Frame R C) (hJ : W.Stable J) (hI : ∀ w, J w → I w)
    (hC : ∀ q a w w', C q → ok q a → J w → W.answer w q a = some w' → J w') (hw : J w) :
    p.Safe W ok I (fun _ _ w => J w) s w := by
  induction p generalizing s w with
  | done r => exact fun w₁ h₁ => hJ.drifts h₁ hw
  | state f k ih => exact ih s (hp.2 s) hw
  | call q k ih =>
    intro w₁ h₁ a w₂ ha hw₂
    have hw₂' := hC q a w₁ w₂ hp.1 ha (hJ.drifts h₁ hw) hw₂
    exact ⟨hI w₂ hw₂', ih a (hp.2 a) hw₂'⟩

/-! ## The oracle reading -/

/-- What is safe holds at the end of the oracle's run, in the world its requests lead to. -/
theorem Safe.eval {o : (q : Req) → Rep q} {p : Coro Req Rep σ ε α}
    {Q : Except ε α → σ → ω → Prop} (h : p.Safe W ok I Q s w) (ho : ∀ q, ok q (o q))
    (hw : W.follow o w (eval o p s).2.2 = some w') : Q (eval o p s).1 (eval o p s).2.1 w' := by
  induction p generalizing s w with
  | done r =>
    obtain rfl : w = w' := Option.some.inj hw
    exact h w .refl
  | state f k ih => exact ih s h hw
  | call q k ih =>
    have hw₁ : (W.answer w q (o q)).bind (W.follow o · (Coro.eval o (k (o q)) s).2.2) = some w' := hw
    obtain ⟨w₁, hans, hrest⟩ := Option.bind_eq_some_iff.mp hw₁
    exact ih (o q) (h w .refl (o q) w₁ (ho q) hans).2 hrest

/-! ## The stepwise reading -/

/-- Settling keeps what is safe. -/
theorem Safe.settle {p : Coro Req Rep σ ε α} {Q : Except ε α → σ → ω → Prop}
    (h : p.Safe W ok I Q s w) : (p.settle s).1.Safe W ok I Q (p.settle s).2 w := by
  induction p generalizing s with
  | done r => exact h
  | state f k ih => exact ih s h
  | call q k _ => exact h

end Coro

/-! ## Calls served one after another -/

/-- A server between two of its steps: what is left of the current call, its own state, the
    world, and which call it is, if there has been one. -/
structure Serving (Req : Type) (Rep : Req → Type) (σ ε ω κ : Type) where
  program : Coro Req Rep σ ε Unit
  own : σ
  world : ω
  current : Option κ

/-- A step of a server: a new call, an answer to the pending request, or a drift of the world. -/
inductive ServeMove (Req : Type) (Rep : Req → Type) (δ κ : Type)
  | begin (k : κ)
  | answer (q : Req) (a : Rep q)
  | drift (d : δ)

namespace World

open Coro

variable {Req : Type} {Rep : Req → Type} {ω δ σ ε κ : Type}

section Served

variable (W : World Req Rep ω δ) (G : κ → ω → (q : Req) → Rep q → Prop) (I : ω → Prop)
  (Idle : σ → ω → Prop) (Post : κ → Except ε Unit → σ → ω → Prop)

/-- A server in a world that satisfies `I`: what is left of a call stays safe in its guarded world,
    and before the first call the server is idle. -/
structure Served (s : Serving Req Rep σ ε ω κ) : Prop where
  world : I s.world
  first : s.current = none → (∃ r, s.program = .done r) ∧ Idle s.own s.world
  call : ∀ k, s.current = some k → s.program.Safe (W.guarded (G k)) (fun _ _ => True) I
    (fun r own w => Idle own w ∧ Post k r own w) s.own s.world

variable {W G I Idle Post} {s : Serving Req Rep σ ε ω κ}

/-- A server that is done is idle. -/
theorem Served.idle (h : Served W G I Idle Post s) {r : Except ε Unit}
    (hr : s.program = .done r) : Idle s.own s.world := by
  cases hc : s.current with
  | none => exact (h.first hc).2
  | some k =>
    have hsafe := h.call k hc
    rw [hr] at hsafe
    exact (hsafe s.world .refl).1

/-- What is left of the current call. -/
theorem Served.of_call {p : Coro Req Rep σ ε Unit} {own : σ} {w : ω} {k : κ} (hw : I w)
    (hp : p.Safe (W.guarded (G k)) (fun _ _ => True) I
      (fun r own w => Idle own w ∧ Post k r own w) own w) :
    Served W G I Idle Post ⟨(p.settle own).1, (p.settle own).2, w, some k⟩ where
  world := hw
  first hno := nomatch hno
  call k' hk := by
    obtain rfl := Option.some.inj hk
    exact hp.settle

/-- An answer that meets the condition of the current call. -/
theorem Served.answer {own : σ} {w w' : ω} {cur : Option κ} {q : Req}
    {k : Rep q → Coro Req Rep σ ε Unit} {a : Rep q}
    (h : Served W G I Idle Post ⟨.call q k, own, w, cur⟩) (hG : ∀ k, cur = some k → G k w q a)
    (hans : W.answer w q a = some w') :
    Served W G I Idle Post ⟨((k a).settle own).1, ((k a).settle own).2, w', cur⟩ := by
  cases cur with
  | none =>
    obtain ⟨⟨r, hr⟩, -⟩ := h.first rfl
    exact nomatch hr
  | some k' =>
    obtain ⟨hw', hk⟩ := h.call k' rfl w .refl a w' trivial
      (guarded_answer.mpr ⟨hG k' rfl, hans⟩)
    exact .of_call hw' hk

theorem Served.drift {d : δ} {w' : ω} (h : Served W G I Idle Post s) (hI : W.Stable I)
    (hidle : ∀ s, W.Stable (Idle s)) (hd : W.drift s.world d = some w') :
    Served W G I Idle Post { s with world := w' } where
  world := hI _ _ _ h.world hd
  first hc := ⟨(h.first hc).1, hidle _ _ _ _ (h.first hc).2 hd⟩
  call k hk := (h.call k hk).drift (Drifts.refl.move hd)

end Served

variable [DecidableEq Req]

/-- Any sequence of calls of the programs `P`, one after another, in the world `W`. -/
def serve (W : World Req Rep ω δ) (P : κ → Coro Req Rep σ ε Unit) (start : σ → ω → Prop) :
    Machine (Serving Req Rep σ ε ω κ) (ServeMove Req Rep δ κ) where
  init s := s.program = .done (.ok ()) ∧ s.current = none ∧ start s.own s.world
  next s
    | .begin k =>
      match s.program with
      | .done _ => some ⟨((P k).settle s.own).1, ((P k).settle s.own).2, s.world, some k⟩
      | _ => none
    | .answer q a =>
      match s.program with
      | .call q' k =>
        if h : q = q' then
          (W.answer s.world q a).map fun w =>
            ⟨((k (h ▸ a)).settle s.own).1, ((k (h ▸ a)).settle s.own).2, w, s.current⟩
        else none
      | _ => none
    | .drift d => (W.drift s.world d).map fun w => { s with world := w }

/-- **Serial calls keep an invariant, under conditions on the server and on the world**: if every
    call that may begin, from an idle server and in the world guarded by the call's condition, is
    safe and leaves the server idle with its postcondition, then along every run whose calls may
    begin, and whose answers meet the condition of the call they are for, the world satisfies `I`,
    and a server that is done is idle and has the postcondition of its last call. -/
theorem serve_invariant_begun {W : World Req Rep ω δ} {P : κ → Coro Req Rep σ ε Unit}
    {start : σ → ω → Prop} {B : κ → σ → Prop} {G : κ → ω → (q : Req) → Rep q → Prop} {I : ω → Prop}
    {Idle : σ → ω → Prop} {Post : κ → Except ε Unit → σ → ω → Prop}
    {adm : Serving Req Rep σ ε ω κ → ServeMove Req Rep δ κ → Prop}
    (hbegin : ∀ s k, adm s (.begin k) → B k s.own)
    (hadm : ∀ s q a, adm s (.answer q a) → ∀ k, s.current = some k → G k s.world q a)
    (hI : W.Stable I) (hidle : ∀ s, W.Stable (Idle s)) (hstart : ∀ s w, start s w → Idle s w)
    (hIdle : ∀ s w, Idle s w → I w)
    (hcall : ∀ k s w, B k s → Idle s w → (P k).Safe (W.guarded (G k)) (fun _ _ => True) I
      (fun r s w => Idle s w ∧ Post k r s w) s w)
    {s : Serving Req Rep σ ε ω κ} (h : (W.serve P start).Reach adm s) :
    I s.world ∧ ∀ r, s.program = .done r →
      Idle s.own s.world ∧ ∀ k, s.current = some k → Post k r s.own s.world := by
  have hserved : Served W G I Idle Post s := by
    refine h.invariant (I := Served W G I Idle Post) ?_ ?_
    · rintro s ⟨hdone, hnone, hs⟩
      have hs := hstart _ _ hs
      exact ⟨hIdle _ _ hs, fun _ => ⟨⟨_, hdone⟩, hs⟩, fun k hk => nomatch hnone.symm.trans hk⟩
    · rintro ⟨p, own, w, cur⟩ m s' hs hm hnext
      cases m with
      | begin k =>
        cases p with
        | done r =>
          obtain rfl := Option.some.inj hnext
          exact .of_call hs.world (hcall k own w (hbegin _ _ hm) (hs.idle rfl))
        | state f k' => exact nomatch hnext
        | call q k' => exact nomatch hnext
      | answer q a =>
        cases p with
        | done r => exact nomatch hnext
        | state f k => exact nomatch hnext
        | call q' k =>
          simp only [serve] at hnext
          split at hnext
          · rename_i hq
            subst hq
            obtain ⟨w', hans, rfl⟩ := Option.map_eq_some_iff.mp hnext
            exact hs.answer (hadm _ _ _ hm) hans
          · exact nomatch hnext
      | drift d =>
        obtain ⟨w', hd, rfl⟩ := Option.map_eq_some_iff.mp hnext
        exact hs.drift hI hidle hd
  refine ⟨hserved.world, fun r hr => ⟨hserved.idle hr, fun k hk => ?_⟩⟩
  have hsafe := hserved.call k hk
  rw [hr] at hsafe
  exact (hsafe s.world .refl).2

/-- **Serial calls keep an invariant, under conditions on the world**: if every call, from an idle
    server and in the world guarded by the call's condition, is safe and leaves the server idle
    with its postcondition, then along every run whose answers meet the condition of the call
    they are for, the world satisfies `I`, and a server that is done is idle and has the
    postcondition of its last call. -/
theorem serve_invariant_guarded {W : World Req Rep ω δ} {P : κ → Coro Req Rep σ ε Unit}
    {start : σ → ω → Prop} {G : κ → ω → (q : Req) → Rep q → Prop} {I : ω → Prop}
    {Idle : σ → ω → Prop} {Post : κ → Except ε Unit → σ → ω → Prop}
    {adm : Serving Req Rep σ ε ω κ → ServeMove Req Rep δ κ → Prop}
    (hadm : ∀ s q a, adm s (.answer q a) → ∀ k, s.current = some k → G k s.world q a)
    (hI : W.Stable I) (hidle : ∀ s, W.Stable (Idle s)) (hstart : ∀ s w, start s w → Idle s w)
    (hIdle : ∀ s w, Idle s w → I w)
    (hcall : ∀ k s w, Idle s w → (P k).Safe (W.guarded (G k)) (fun _ _ => True) I
      (fun r s w => Idle s w ∧ Post k r s w) s w)
    {s : Serving Req Rep σ ε ω κ} (h : (W.serve P start).Reach adm s) :
    I s.world ∧ ∀ r, s.program = .done r →
      Idle s.own s.world ∧ ∀ k, s.current = some k → Post k r s.own s.world :=
  serve_invariant_begun (B := fun _ _ => True) (fun _ _ _ => trivial) hadm hI hidle hstart hIdle
    (fun k s w _ hs => hcall k s w hs) h

/-- Calls that need nothing of each other: each has its postcondition when it is done, along every
    run whose answers meet the condition of the call they are for. -/
theorem serve_post_guarded {W : World Req Rep ω δ} {P : κ → Coro Req Rep σ ε Unit}
    {start : σ → ω → Prop} {G : κ → ω → (q : Req) → Rep q → Prop}
    {Post : κ → Except ε Unit → σ → ω → Prop}
    {adm : Serving Req Rep σ ε ω κ → ServeMove Req Rep δ κ → Prop}
    (hadm : ∀ s q a, adm s (.answer q a) → ∀ k, s.current = some k → G k s.world q a)
    (hcall : ∀ k s w, (P k).Safe (W.guarded (G k)) (fun _ _ => True) (fun _ => True) (Post k) s w)
    {s : Serving Req Rep σ ε ω κ} (h : (W.serve P start).Reach adm s) {k : κ}
    {r : Except ε Unit} (hk : s.current = some k) (hr : s.program = .done r) :
    Post k r s.own s.world := by
  have hcall' : ∀ k s w, True → (P k).Safe (W.guarded (G k)) (fun _ _ => True) (fun _ => True)
      (fun r s w => True ∧ Post k r s w) s w :=
    fun k s w _ => (hcall k s w).mono fun _ _ _ hpost => ⟨trivial, hpost⟩
  have hinv := serve_invariant_guarded hadm (fun _ _ _ _ _ => trivial)
    (fun _ _ _ _ _ _ => trivial) (fun _ _ _ => trivial) (fun _ _ _ => trivial) hcall' h
  exact (hinv.2 r hr).2 k hk

/-- **Serial calls keep an invariant**: if every call, from an idle server, is safe and leaves the
    server idle with its postcondition, then along every run with `ok` answers the world satisfies
    `I`, and a server that is done is idle and has the postcondition of its last call. -/
theorem serve_invariant {W : World Req Rep ω δ} {P : κ → Coro Req Rep σ ε Unit}
    {start : σ → ω → Prop} {ok : (q : Req) → Rep q → Prop} {I : ω → Prop} {Idle : σ → ω → Prop}
    {Post : κ → Except ε Unit → σ → ω → Prop}
    {adm : Serving Req Rep σ ε ω κ → ServeMove Req Rep δ κ → Prop}
    (hadm : ∀ s q a, adm s (.answer q a) → ok q a) (hI : W.Stable I)
    (hidle : ∀ s, W.Stable (Idle s)) (hstart : ∀ s w, start s w → Idle s w)
    (hIdle : ∀ s w, Idle s w → I w)
    (hcall : ∀ k s w, Idle s w →
      (P k).Safe W ok I (fun r s w => Idle s w ∧ Post k r s w) s w)
    {s : Serving Req Rep σ ε ω κ} (h : (W.serve P start).Reach adm s) :
    I s.world ∧ ∀ r, s.program = .done r →
      Idle s.own s.world ∧ ∀ k, s.current = some k → Post k r s.own s.world := by
  exact serve_invariant_guarded (G := fun _ _ q a => ok q a) (fun s q a hm _ _ => hadm s q a hm)
    hI hidle hstart hIdle (fun k s w hs => (hcall k s w hs).guard) h

end World
