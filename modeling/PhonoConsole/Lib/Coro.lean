/-
  COROUTINES that call out: programs over a private state that may only touch the rest of the
  world by REQUESTS.

  `Coro Req Rep σ ε α` is the free monad over a typed signature: a request `q : Req` is answered
  by some `a : Rep q`, the private state `σ` is read and written in between, and the program ends
  in an `Except ε α`.  A request node is where such a program can be SUSPENDED: whoever answers it
  may let any amount of time and any other work pass first.  One program, three readings:

  * `eval o p s` — the ORACLE reading: every request `q` is answered by `o q`.  It returns the
    outcome, the final private state and the requests made, in order.  It is a total function,
    so that "for any results of the callbacks" is `∀ o`, and a concrete run is evaluated.
  * `drive r p s w` — the same against a responder `r` with a state of its own: the outcome of the
    program together with what it has done to its surroundings.
  * `settle p s` — the STEPWISE reading: run the private moves up to the next request (or the
    end).  A scheduler keeps the suspended program as data and resumes it with an answer.

  `focus` runs the program of a component inside the state of the whole.

  Reasoning rules:

  * `eval_bind_ok`, `eval_bind_error` — inversion of a sequence that succeeded, or failed;
  * `Gives o p Q s` — a postcondition of the oracle's run; a sequence goes through an intermediate
    assertion (`Gives.bind`, `Gives.catchError`);
  * `Frame R C p`   — every private move of `p` is related by `R` and every request satisfies `C`;
    compositional (`Frame.bind`, `Frame.catchError`), and read back by `Frame.eval`;
  * `Ends ok Q p`   — the outcome of `p` satisfies `Q` whenever all answers are `ok`;
    compositional (`Ends.bind`, `Ends.catchError`), stable under `settle` and answers.  For
    `Q := Avoids bad`, "no error of the kind `bad`", a sequence needs no intermediate assertion;
  * `Past ahead C p`, `Upon r Q p` — where a run of `p` is SUSPENDED: beyond the requests `ahead`
    only requests in `C` are left; after the request `r` is answered, what is left satisfies `Q`.
-/

/-- A program that makes requests: ended, about to change its private state, or waiting for the
    answer to a request. -/
inductive Coro (Req : Type) (Rep : Req → Type) (σ ε α : Type) : Type where
  | done (r : Except ε α)
  | state (f : σ → σ) (k : σ → Coro Req Rep σ ε α)
  | call (q : Req) (k : Rep q → Coro Req Rep σ ε α)

namespace Coro

variable {Req : Type} {Rep : Req → Type} {σ ε α β : Type}

/-! ## The monad -/

/-- Sequencing; an error ends the whole program. -/
def bind : Coro Req Rep σ ε α → (α → Coro Req Rep σ ε β) → Coro Req Rep σ ε β
  | done (.ok a), f => f a
  | done (.error e), _ => done (.error e)
  | state g k, f => state g fun s => (k s).bind f
  | call q k, f => call q fun a => (k a).bind f

instance : Monad (Coro Req Rep σ ε) where
  pure a := done (.ok a)
  bind := bind

/-- Sequencing is associative. -/
theorem bind_bind {γ : Type} (p : Coro Req Rep σ ε α) (f : α → Coro Req Rep σ ε β)
    (g : β → Coro Req Rep σ ε γ) : p >>= f >>= g = p >>= fun a => f a >>= g := by
  show (p.bind f).bind g = p.bind fun a => (f a).bind g
  induction p with
  | done r => cases r <;> rfl
  | state h k ih => exact congrArg (state h) (funext ih)
  | call q k ih => exact congrArg (call q) (funext ih)

/-- Handling of the errors of `p`. -/
def catchError : Coro Req Rep σ ε α → (ε → Coro Req Rep σ ε α) → Coro Req Rep σ ε α
  | done (.ok a), _ => done (.ok a)
  | done (.error e), h => h e
  | state g k, h => state g fun s => (k s).catchError h
  | call q k, h => call q fun a => (k a).catchError h

/-- Read the private state. -/
def get : Coro Req Rep σ ε σ := state id fun s => done (.ok s)

/-- Change the private state. -/
def modify (f : σ → σ) : Coro Req Rep σ ε Unit := state f fun _ => done (.ok ())

/-- Raise an error. -/
def throw (e : ε) : Coro Req Rep σ ε α := done (.error e)

/-- Make a request and return its answer. -/
def ask (q : Req) : Coro Req Rep σ ε (Rep q) := call q fun a => done (.ok a)

/-- Run `p` only when `b` holds. -/
def when (b : Bool) (p : Coro Req Rep σ ε Unit) : Coro Req Rep σ ε Unit :=
  if b then p else done (.ok ())

/-- Run a component's program `p` from the component's state `c` inside a larger state, into which
    `put` writes the component whenever it changes. -/
def focus {τ : Type} (put : τ → σ → σ) : Coro Req Rep τ ε α → τ → Coro Req Rep σ ε α
  | done r, _ => done r
  | state f k, c => state (put (f c)) fun _ => (k c).focus put (f c)
  | call q k, c => call q fun a => (k a).focus put c

/-! ## The oracle reading -/

/-- Run `p` from `s`, each request `q` answered by `o q`: the outcome, the private state at the
    end and the requests made. -/
def eval (o : (q : Req) → Rep q) : Coro Req Rep σ ε α → σ → Except ε α × σ × List Req
  | done r, s => (r, s, [])
  | state f k, s => eval o (k s) (f s)
  | call q k, s =>
    let (r, s', l) := eval o (k (o q)) s
    (r, s', q :: l)

variable {o : (q : Req) → Rep q}

@[simp] theorem eval_pure (a : α) (s : σ) :
    eval o (pure a : Coro Req Rep σ ε α) s = (.ok a, s, []) := rfl

@[simp] theorem eval_throw (e : ε) (s : σ) :
    eval o (throw e : Coro Req Rep σ ε α) s = (.error e, s, []) := rfl

@[simp] theorem eval_get (s : σ) :
    eval o (get : Coro Req Rep σ ε σ) s = (.ok s, s, []) := rfl

@[simp] theorem eval_modify (f : σ → σ) (s : σ) :
    eval o (modify f : Coro Req Rep σ ε Unit) s = (.ok (), f s, []) := rfl

@[simp] theorem eval_ask (q : Req) (s : σ) :
    eval o (ask q : Coro Req Rep σ ε (Rep q)) s = (.ok (o q), s, [q]) := rfl

@[simp] theorem eval_when (b : Bool) (p : Coro Req Rep σ ε Unit) (s : σ) :
    eval o (when b p) s = if b then eval o p s else (.ok (), s, []) := by
  cases b <;> rfl

/-- How a sequence runs: the second half starts where the first ended, unless that failed. -/
theorem eval_bind (p : Coro Req Rep σ ε α) (f : α → Coro Req Rep σ ε β) (s : σ) :
    eval o (p >>= f) s =
      match eval o p s with
      | (.ok a, s₁, l₁) => ((eval o (f a) s₁).1, (eval o (f a) s₁).2.1, l₁ ++ (eval o (f a) s₁).2.2)
      | (.error e, s₁, l₁) => (.error e, s₁, l₁) := by
  show eval o (p.bind f) s = _
  induction p generalizing s with
  | done r => cases r <;> simp [bind, eval]
  | state g k ih => rw [bind, eval, ih]; rfl
  | call q k ih =>
    rw [bind, eval, ih]
    simp only [eval]
    rcases hk : eval o (k (o q)) s with ⟨r, s₁, l₁⟩
    cases r <;> rfl

theorem eval_get_bind (f : σ → Coro Req Rep σ ε β) (s : σ) :
    eval o (get >>= f) s = eval o (f s) s := rfl

theorem eval_modify_bind (g : σ → σ) (f : Unit → Coro Req Rep σ ε β) (s : σ) :
    eval o (modify g >>= f) s = eval o (f ()) (g s) := rfl

theorem eval_ask_bind (q : Req) (f : Rep q → Coro Req Rep σ ε β) (s : σ) :
    eval o (ask q >>= f) s =
      ((eval o (f (o q)) s).1, (eval o (f (o q)) s).2.1, q :: (eval o (f (o q)) s).2.2) := rfl

/-- How a handler runs: it takes over where the error left off. -/
theorem eval_catchError (p : Coro Req Rep σ ε α) (h : ε → Coro Req Rep σ ε α) (s : σ) :
    eval o (p.catchError h) s =
      match eval o p s with
      | (.ok a, s₁, l₁) => (.ok a, s₁, l₁)
      | (.error e, s₁, l₁) =>
        ((eval o (h e) s₁).1, (eval o (h e) s₁).2.1, l₁ ++ (eval o (h e) s₁).2.2) := by
  induction p generalizing s with
  | done r => cases r <;> simp [catchError, eval]
  | state g k ih => rw [catchError, eval, ih]; rfl
  | call q k ih =>
    rw [catchError, eval, ih]
    simp only [eval]
    rcases hk : eval o (k (o q)) s with ⟨r, s₁, l₁⟩
    cases r <;> rfl

/-- A sequence that succeeded is a success of its first half followed by one of its second. -/
theorem eval_bind_ok {p : Coro Req Rep σ ε α} {f : α → Coro Req Rep σ ε β} {s s' : σ} {b : β}
    {l : List Req} (h : eval o (p >>= f) s = (.ok b, s', l)) :
    ∃ a s₁ l₁ l₂, eval o p s = (.ok a, s₁, l₁) ∧ eval o (f a) s₁ = (.ok b, s', l₂) ∧
      l = l₁ ++ l₂ := by
  rw [eval_bind] at h
  rcases hp : eval o p s with ⟨r, s₁, l₁⟩
  rw [hp] at h
  cases r with
  | error e => simp at h
  | ok a =>
    simp only [Prod.mk.injEq] at h
    exact ⟨a, s₁, l₁, _, rfl, Prod.ext h.1 (Prod.ext h.2.1 rfl), h.2.2.symm⟩

/-- A sequence that failed, failed in its first half, or in the second after a success. -/
theorem eval_bind_error {p : Coro Req Rep σ ε α} {f : α → Coro Req Rep σ ε β} {s s' : σ} {e : ε}
    {l : List Req} (h : eval o (p >>= f) s = (.error e, s', l)) :
    eval o p s = (.error e, s', l) ∨
    ∃ a s₁ l₁ l₂, eval o p s = (.ok a, s₁, l₁) ∧ eval o (f a) s₁ = (.error e, s', l₂) ∧
      l = l₁ ++ l₂ := by
  rw [eval_bind] at h
  rcases hp : eval o p s with ⟨r, s₁, l₁⟩
  rw [hp] at h
  cases r with
  | error e' =>
    simp only [Prod.mk.injEq, Except.error.injEq] at h
    obtain ⟨rfl, rfl, rfl⟩ := h
    exact .inl rfl
  | ok a =>
    simp only [Prod.mk.injEq] at h
    exact .inr ⟨a, s₁, l₁, _, rfl, Prod.ext h.1 (Prod.ext h.2.1 rfl), h.2.2.symm⟩

/-- A sequence, however it ends. -/
theorem eval_bind_cases {p : Coro Req Rep σ ε α} {f : α → Coro Req Rep σ ε β} {s s' : σ}
    {r : Except ε β} {l : List Req} (h : eval o (p >>= f) s = (r, s', l)) :
    (∃ e, r = .error e ∧ eval o p s = (.error e, s', l)) ∨
    ∃ a s₁ l₁ l₂, eval o p s = (.ok a, s₁, l₁) ∧ eval o (f a) s₁ = (r, s', l₂) ∧ l = l₁ ++ l₂ := by
  cases r with
  | ok b => exact .inr (eval_bind_ok h)
  | error e => exact (eval_bind_error h).imp (fun hp => ⟨e, rfl, hp⟩) id

/-! ## Postconditions of the oracle reading -/

/-- `Q` holds of the outcome and the state in which the oracle's run of `p` from `s` ends. -/
def Gives (o : (q : Req) → Rep q) (p : Coro Req Rep σ ε α) (Q : Except ε α → σ → Prop) (s : σ) :
    Prop :=
  Q (eval o p s).1 (eval o p s).2.1

/-- The rule of a sequence. -/
theorem Gives.bind {p : Coro Req Rep σ ε α} {f : α → Coro Req Rep σ ε β} {s : σ}
    {P : Except ε α → σ → Prop} {Q : Except ε β → σ → Prop} (hp : p.Gives o P s)
    (hok : ∀ a s', P (.ok a) s' → (f a).Gives o Q s')
    (herr : ∀ e s', P (.error e) s' → Q (.error e) s') : (p >>= f).Gives o Q s := by
  unfold Gives at hp ⊢
  rw [eval_bind]
  rcases hrun : eval o p s with ⟨r, s₁, l₁⟩
  rw [hrun] at hp
  cases r with
  | ok a => exact hok a s₁ hp
  | error e => exact herr e s₁ hp

/-- The rule of a handler. -/
theorem Gives.catchError {p : Coro Req Rep σ ε α} {h : ε → Coro Req Rep σ ε α} {s : σ}
    {P Q : Except ε α → σ → Prop} (hp : p.Gives o P s)
    (hok : ∀ a s', P (.ok a) s' → Q (.ok a) s')
    (hh : ∀ e s', P (.error e) s' → (h e).Gives o Q s') : (p.catchError h).Gives o Q s := by
  unfold Gives at hp ⊢
  rw [eval_catchError]
  rcases hrun : eval o p s with ⟨r, s₁, l₁⟩
  rw [hrun] at hp
  cases r with
  | ok a => exact hok a s₁ hp
  | error e => exact hh e s₁ hp

/-- The state is read. -/
theorem gives_get {f : σ → Coro Req Rep σ ε β} {s : σ} {Q : Except ε β → σ → Prop}
    (h : (f s).Gives o Q s) : (get >>= f).Gives o Q s := h

/-- The state is changed. -/
theorem gives_modify {g : σ → σ} {f : Unit → Coro Req Rep σ ε β} {s : σ}
    {Q : Except ε β → σ → Prop} (h : (f ()).Gives o Q (g s)) : (modify g >>= f).Gives o Q s := h

/-! ## The frame rule -/

/-- Every private move of `p` is related by `R`, and every request of `p` satisfies `C`. -/
def Frame (R : σ → σ → Prop) (C : Req → Prop) : Coro Req Rep σ ε α → Prop
  | done _ => True
  | state f k => (∀ s, R s (f s)) ∧ ∀ s, (k s).Frame R C
  | call q k => C q ∧ ∀ a, (k a).Frame R C

variable {R : σ → σ → Prop} {C : Req → Prop}

@[simp] theorem frame_get (hR : ∀ s, R s s) : Frame R C (get : Coro Req Rep σ ε σ) :=
  ⟨hR, fun _ => trivial⟩

@[simp] theorem frame_modify {f : σ → σ} (hf : ∀ s, R s (f s)) :
    Frame R C (modify f : Coro Req Rep σ ε Unit) :=
  ⟨hf, fun _ => trivial⟩

@[simp] theorem frame_ask {q : Req} (hq : C q) :
    Frame R C (ask q : Coro Req Rep σ ε (Rep q)) :=
  ⟨hq, fun _ => trivial⟩

/-- A program that may be left out. -/
theorem frame_when {b : Bool} {p : Coro Req Rep σ ε Unit} (hp : b = true → p.Frame R C) :
    (when b p).Frame R C := by
  cases b
  · trivial
  · exact hp rfl

/-- A sequence stays in the frame of its parts. -/
theorem Frame.bind {p : Coro Req Rep σ ε α} {f : α → Coro Req Rep σ ε β}
    (hp : p.Frame R C) (hf : ∀ a, (f a).Frame R C) : (p >>= f).Frame R C := by
  show (p.bind f).Frame R C
  induction p with
  | done r =>
    cases r with
    | ok a => exact hf a
    | error e => trivial
  | state g k ih => exact ⟨hp.1, fun s => ih s (hp.2 s)⟩
  | call q k ih => exact ⟨hp.1, fun a => ih a (hp.2 a)⟩

/-- So does a program with its handler. -/
theorem Frame.catchError {p : Coro Req Rep σ ε α} {h : ε → Coro Req Rep σ ε α}
    (hp : p.Frame R C) (hh : ∀ e, (h e).Frame R C) : (p.catchError h).Frame R C := by
  induction p with
  | done r =>
    cases r with
    | ok a => trivial
    | error e => exact hh e
  | state g k ih => exact ⟨hp.1, fun s => ih s (hp.2 s)⟩
  | call q k ih => exact ⟨hp.1, fun a => ih a (hp.2 a)⟩

/-- A wider frame. -/
theorem Frame.mono {R' : σ → σ → Prop} {p : Coro Req Rep σ ε α} (hp : p.Frame R' C)
    (hR : ∀ a b, R' a b → R a b) : p.Frame R C := by
  induction p with
  | done r => trivial
  | state g k ih => exact ⟨fun s => hR _ _ (hp.1 s), fun s => ih s (hp.2 s)⟩
  | call q k ih => exact ⟨hp.1, fun a => ih a (hp.2 a)⟩

/-- A frame with fewer requests. -/
theorem Frame.weaken {C' : Req → Prop} {p : Coro Req Rep σ ε α} (hp : p.Frame R C')
    (hC : ∀ q, C' q → C q) : p.Frame R C := by
  induction p with
  | done r => trivial
  | state f k ih => exact ⟨hp.1, fun s => ih s (hp.2 s)⟩
  | call q k ih => exact ⟨hC q hp.1, fun a => ih a (hp.2 a)⟩

/-- Reading a frame back: what one run of `p` did to the private state and asked for. -/
theorem Frame.eval (hrefl : ∀ s, R s s) (htrans : ∀ {a b c}, R a b → R b c → R a c)
    {p : Coro Req Rep σ ε α} (hp : p.Frame R C) (s : σ) :
    R s (eval o p s).2.1 ∧ ∀ q ∈ (eval o p s).2.2, C q := by
  induction p generalizing s with
  | done r => exact ⟨hrefl s, fun q hq => nomatch hq⟩
  | state g k ih =>
    obtain ⟨h1, h2⟩ := ih s (hp.2 s) (g s)
    exact ⟨htrans (hp.1 s) h1, h2⟩
  | call q k ih =>
    obtain ⟨h1, h2⟩ := ih (o q) (hp.2 (o q)) s
    refine ⟨h1, fun q' hq' => ?_⟩
    rcases List.mem_cons.mp hq' with rfl | hq'
    · exact hp.1
    · exact h2 q' hq'

/-! ## Outcomes under restricted answers -/

/-- The outcome of `p` satisfies `Q` in every run in which each answer is `ok`. -/
def Ends (ok : (q : Req) → Rep q → Prop) (Q : Except ε α → Prop) : Coro Req Rep σ ε α → Prop
  | done r => Q r
  | state _ k => ∀ s, (k s).Ends ok Q
  | call q k => ∀ a, ok q a → (k a).Ends ok Q

variable {ok : (q : Req) → Rep q → Prop} {Q : Except ε β → Prop}

theorem ends_true (p : Coro Req Rep σ ε α) : p.Ends ok fun _ => True := by
  induction p with
  | done r => trivial
  | state g k ih => exact fun s => ih s
  | call q k ih => exact fun a _ => ih a

/-- The rule of a sequence. -/
theorem Ends.bind {P : Except ε α → Prop} {p : Coro Req Rep σ ε α}
    {f : α → Coro Req Rep σ ε β} (hp : p.Ends ok P)
    (hf : ∀ a, P (.ok a) → (f a).Ends ok Q) (he : ∀ e, P (.error e) → Q (.error e)) :
    (p >>= f).Ends ok Q := by
  show (p.bind f).Ends ok Q
  induction p with
  | done r =>
    cases r with
    | ok a => exact hf a hp
    | error e => exact he e hp
  | state g k ih => exact fun s => ih s (hp s)
  | call q k ih => exact fun a ha => ih a (hp a ha)

/-- The rule of a handler. -/
theorem Ends.catchError {P : Except ε β → Prop} {p : Coro Req Rep σ ε β}
    {h : ε → Coro Req Rep σ ε β} (hp : p.Ends ok P) (hok : ∀ b, P (.ok b) → Q (.ok b))
    (hh : ∀ e, P (.error e) → (h e).Ends ok Q) : (p.catchError h).Ends ok Q := by
  induction p with
  | done r =>
    cases r with
    | ok a => exact hok a hp
    | error e => exact hh e hp
  | state g k ih => exact fun s => ih s (hp s)
  | call q k ih => exact fun a ha => ih a (hp a ha)

theorem Ends.when {Q : Except ε Unit → Prop} {b : Bool} {p : Coro Req Rep σ ε Unit}
    (hp : p.Ends ok Q) (hskip : Q (.ok ())) : (Coro.when b p).Ends ok Q := by
  cases b
  · exact hskip
  · exact hp

theorem Ends.mono {P : Except ε β → Prop} {p : Coro Req Rep σ ε β} (hp : p.Ends ok P)
    (hPQ : ∀ r, P r → Q r) : p.Ends ok Q := by
  induction p with
  | done r => exact hPQ r hp
  | state g k ih => exact fun s => ih s (hp s)
  | call q k ih => exact fun a ha => ih a (hp a ha)

/-- An outcome that is none of the errors `bad`. -/
def Avoids (bad : ε → Prop) (r : Except ε α) : Prop := ∀ e, r = .error e → ¬ bad e

theorem avoids_ok (bad : ε → Prop) (a : α) : Avoids bad (.ok a) := fun _ he => nomatch he

/-- For errors to be avoided a sequence needs no assertion in between. -/
theorem Ends.bind_avoids {bad : ε → Prop} {p : Coro Req Rep σ ε α} {f : α → Coro Req Rep σ ε β}
    (hp : p.Ends ok (Avoids bad)) (hf : ∀ a, (f a).Ends ok (Avoids bad)) :
    (p >>= f).Ends ok (Avoids bad) :=
  hp.bind (fun a _ => hf a) fun e he e' he' =>
    he e' (by rw [Except.error.inj he'])

/-- The frame of a sequence, where the second half depends on what the first can return. -/
theorem Frame.bind_ends {P : Except ε α → Prop} {p : Coro Req Rep σ ε α}
    {f : α → Coro Req Rep σ ε β} (hp : p.Frame R C) (hends : p.Ends (fun _ _ => True) P)
    (hf : ∀ a, P (.ok a) → (f a).Frame R C) : (p >>= f).Frame R C := by
  show (p.bind f).Frame R C
  induction p with
  | done r =>
    cases r with
    | ok a => exact hf a hends
    | error e => trivial
  | state g k ih => exact ⟨hp.1, fun s => ih s (hp.2 s) (hends s)⟩
  | call q k ih => exact ⟨hp.1, fun a => ih a (hp.2 a) (hends a trivial)⟩

/-- Reading an outcome back under an oracle all of whose answers are `ok`. -/
theorem Ends.eval {p : Coro Req Rep σ ε β} (hp : p.Ends ok Q) (ho : ∀ q, ok q (o q)) (s : σ) :
    Q (eval o p s).1 := by
  induction p generalizing s with
  | done r => exact hp
  | state g k ih => exact ih s (hp s) (g s)
  | call q k ih => exact ih (o q) (hp (o q) (ho q)) s

/-! ## Against a responder -/

/-- Run `p` from `s`, its requests answered by the responder `r`, which starts in the state `w`. -/
def drive {ω : Type} (r : ω → (q : Req) → Rep q × ω) :
    Coro Req Rep σ ε α → σ → ω → Except ε α × σ × ω
  | done x, s, w => (x, s, w)
  | state f k, s, w => drive r (k s) (f s) w
  | call q k, s, w => drive r (k (r w q).1) s (r w q).2

section Drive

variable {ω : Type} {r : ω → (q : Req) → Rep q × ω} {s s' : σ} {w w' : ω}

/-- A sequence whose first half returns. -/
theorem drive_bind {p : Coro Req Rep σ ε α} {f : α → Coro Req Rep σ ε β} {a : α}
    (h : drive r p s w = (.ok a, s', w')) : drive r (p >>= f) s w = drive r (f a) s' w' := by
  show drive r (p.bind f) s w = _
  induction p generalizing s w with
  | done x =>
    cases h
    rfl
  | state g k ih => exact ih s h
  | call q k ih => exact ih _ h

/-- A handler is not reached by a program that returns. -/
theorem drive_catchError {p : Coro Req Rep σ ε α} {handler : ε → Coro Req Rep σ ε α} {a : α}
    (h : drive r p s w = (.ok a, s', w')) : drive r (p.catchError handler) s w = (.ok a, s', w') := by
  induction p generalizing s w with
  | done x =>
    cases h
    rfl
  | state g k ih => exact ih s h
  | call q k ih => exact ih _ h

end Drive

/-! ## The stepwise reading -/

/-- Perform the private moves of `p` up to its next request or its end. -/
def settle : Coro Req Rep σ ε α → σ → Coro Req Rep σ ε α × σ
  | done r, s => (done r, s)
  | state f k, s => (k s).settle (f s)
  | call q k, s => (call q k, s)

/-- The program is suspended at a request, or has ended. -/
def settled : Coro Req Rep σ ε α → Bool
  | state _ _ => false
  | done _ | call _ _ => true

/-- Settling leads to a request, or to the end. -/
theorem settle_settled (p : Coro Req Rep σ ε α) (s : σ) : (p.settle s).1.settled = true := by
  induction p generalizing s with
  | done r => rfl
  | state f k ih => exact ih s (f s)
  | call q k _ => rfl

/-- The program has ended, and has raised nothing. -/
def returned : Coro Req Rep σ ε Unit → Bool
  | done (.ok _) => true
  | _ => false

/-- A program without a result has returned when it is over. -/
theorem returned_iff {p : Coro Req Rep σ ε Unit} : p.returned = true ↔ p = .done (.ok ()) := by
  constructor
  · intro h
    cases p with
    | done r =>
      cases r with
      | ok => rfl
      | error e => cases h
    | state f k => cases h
    | call q k => cases h
  · rintro rfl
    rfl

/-- Settling does not change which outcomes are possible. -/
theorem Ends.settle {p : Coro Req Rep σ ε β} (hp : p.Ends ok Q) (s : σ) :
    (p.settle s).1.Ends ok Q := by
  induction p generalizing s with
  | done r => exact hp
  | state g k ih => exact ih s (hp s) (g s)
  | call q k _ => exact hp

/-- Nor what private moves and requests there may be. -/
theorem Frame.settle {p : Coro Req Rep σ ε α} (hp : p.Frame R C) (s : σ) :
    (p.settle s).1.Frame R C := by
  induction p generalizing s with
  | done r => exact hp
  | state g k ih => exact ih s (hp.2 s) (g s)
  | call q k _ => exact hp

/-! ## Points of suspension -/

/-- Once a run of `p` from `s` is suspended at a request that is not `ahead`, this request and all
    later ones satisfy `C`. -/
def Past (ahead C : Req → Prop) : Coro Req Rep σ ε α → σ → Prop
  | done _, _ => True
  | state f k, s => (k s).Past ahead C (f s)
  | call q k, s =>
    (ahead q ∨ C q ∧ ∀ a, (k a).Frame (fun _ _ => True) C) ∧ ∀ a, (k a).Past ahead C s

variable {ahead : Req → Prop}

theorem Past.of_frame {p : Coro Req Rep σ ε α} (hp : p.Frame (fun _ _ => True) C) (s : σ) :
    p.Past ahead C s := by
  induction p generalizing s with
  | done r => trivial
  | state g k ih => exact ih s (hp.2 s) (g s)
  | call q k ih => exact ⟨.inr hp, fun a => ih a (hp.2 a) s⟩

/-- The first half of a sequence is still ahead. -/
theorem Past.bind {P : Except ε α → Prop} {p : Coro Req Rep σ ε α} {f : α → Coro Req Rep σ ε β}
    (hp : p.Frame R ahead) (hends : p.Ends (fun _ _ => True) P)
    (hf : ∀ a s', P (.ok a) → (f a).Past ahead C s') (s : σ) : (p >>= f).Past ahead C s := by
  show (p.bind f).Past ahead C s
  induction p generalizing s with
  | done r =>
    cases r with
    | ok a => exact hf a s hends
    | error e => trivial
  | state g k ih => exact ih s (hp.2 s) (hends s) (g s)
  | call q k ih => exact ⟨.inl hp.1, fun a => ih a (hp.2 a) (hends a trivial) s⟩

/-- A handler in the first half of a sequence. -/
theorem Past.bind_catchError {P : Except ε α → Prop} {p : Coro Req Rep σ ε α}
    {h : ε → Coro Req Rep σ ε α} {f : α → Coro Req Rep σ ε β} (hp : p.Frame R ahead)
    (hends : p.Ends (fun _ _ => True) P) (hf : ∀ a s', P (.ok a) → (f a).Past ahead C s')
    (hh : ∀ e s', (h e >>= f).Past ahead C s') (s : σ) :
    (p.catchError h >>= f).Past ahead C s := by
  show ((p.catchError h).bind f).Past ahead C s
  induction p generalizing s with
  | done r =>
    cases r with
    | ok a => exact hf a s hends
    | error e => exact hh e s
  | state g k ih => exact ih s (hp.2 s) (hends s) (g s)
  | call q k ih => exact ⟨.inl hp.1, fun a => ih a (hp.2 a) (hends a trivial) s⟩

/-- Settling does not move past a request. -/
theorem Past.settle {p : Coro Req Rep σ ε α} {s : σ} (hp : p.Past ahead C s) :
    (p.settle s).1.Past ahead C (p.settle s).2 := by
  induction p generalizing s with
  | done r => exact hp
  | state g k ih => exact ih s hp
  | call q k _ => exact hp

/-- When a run of `p` from `s` is first suspended at `r`, what any answer leaves satisfies `Q`. -/
def Upon (r : Req) (Q : Rep r → Coro Req Rep σ ε α → σ → Prop) : Coro Req Rep σ ε α → σ → Prop
  | done _, _ => True
  | state f k, s => (k s).Upon r Q (f s)
  | call q k, s => (∀ (h : q = r) (a : Rep q), Q (h ▸ a) (k a) s) ∧ (q ≠ r → ∀ a, (k a).Upon r Q s)

section Upon

variable {r : Req} {Q : Rep r → Coro Req Rep σ ε β → σ → Prop}

/-- The first half of a sequence does not make the request. -/
theorem Upon.bind {p : Coro Req Rep σ ε α} {f : α → Coro Req Rep σ ε β} (hp : p.Frame R (· ≠ r))
    (hf : ∀ a s', (f a).Upon r Q s') (s : σ) : (p >>= f).Upon r Q s := by
  show (p.bind f).Upon r Q s
  induction p generalizing s with
  | done x =>
    cases x with
    | ok a => exact hf a s
    | error e => trivial
  | state g k ih => exact ih s (hp.2 s) (g s)
  | call q k ih => exact ⟨fun h => absurd h hp.1, fun _ a => ih a (hp.2 a) s⟩

/-- Nor does it answer one. -/
theorem Upon.settle {p : Coro Req Rep σ ε β} {s : σ} (hp : p.Upon r Q s) :
    (p.settle s).1.Upon r Q (p.settle s).2 := by
  induction p generalizing s with
  | done x => exact hp
  | state g k ih => exact ih s hp
  | call q k _ => exact hp

end Upon

end Coro
