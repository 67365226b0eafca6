/-
  EXCLUSIVE OUTPUT: `ProcessAudioRouter` (`phono_console/router.py`).

  Three owners share one playback device, which only one child may hold.  The router stops the
  owners a route does not need before it starts the one it needs; both classes of owners forget
  a child only when it is dead, so whatever is alive is on record with its owner.

  * `ProcessAudioRouter.apply`  — `apply`, `reconcile` and `close`, over owners of both classes;
  * `routerRuns`                — any sequence of such calls, the children exiting at any moment;
  * `Recorded`                  — a living child is on record with the owner that launched it;
  * `exclusive_output`          — with a standard input on every playback child, one child at most
    is alive, launched into silence, and after a call it is the route's;
  * `output_not_exclusive`      — why the standard input is asked for: a factory whose playback child
    had none would have that child abandoned alive.
-/
import PhonoConsole.Policy
import PhonoConsole.Processes

namespace PhonoConsole

open Coro World

/-! ## Owners -/

/-- The owner of a loopback child. -/
inductive RouteProcess
  | managed (m : ManagedProcess)
  | timestamped (t : TimestampedLocalPlayback)

namespace RouteProcess

/-- The recorded child. -/
def child : RouteProcess → Option Nat
  | managed m => m.process
  | timestamped t => t.child

/-- `start` of either class. -/
def start (owner : Loopback) : RouteProcess → Child RouteProcess Unit
  | managed m => (ManagedProcess.start owner).focus (fun m _ => managed m) m
  | timestamped t => (TimestampedLocalPlayback.start owner).focus (fun t _ => timestamped t) t

/-- `stop` of either class. -/
def stop : RouteProcess → Child RouteProcess Unit
  | managed m => ManagedProcess.stop.focus (fun m _ => managed m) m
  | timestamped t => TimestampedLocalPlayback.stop.focus (fun t _ => timestamped t) t

/-- As constructed. -/
def Fresh : RouteProcess → Prop
  | managed m => m = { spec := m.spec }
  | timestamped t => t = {}

variable {p : RouteProcess} {w : Children}

theorem stop_safe (hw : Exclusive w) :
    Keeps p.stop (fun r _ w' => r = .ok () ∧ Shrinks w w' ∧
      ∀ child, p.child = some child → w'.alive child = false) p w := by
  cases p with
  | managed m =>
    show Keeps (ManagedProcess.stop.focus (fun m _ => managed m) m) _ _ _
    refine Safe.focus ?_ (ManagedProcess.stop_safe hw) ?_ ?_
    · exact fun _ _ _ => rfl
    · rfl
    rintro r m' w' ⟨hr, -, hs, hdead⟩
    exact ⟨hr, hs, hdead⟩
  | timestamped t =>
    show Keeps (TimestampedLocalPlayback.stop.focus (fun t _ => timestamped t) t) _ _ _
    refine Safe.focus ?_ (TimestampedLocalPlayback.stop_safe hw) ?_ ?_
    · exact fun _ _ _ => rfl
    · rfl
    rintro r t' w' ⟨hr, -, hs, hdead⟩
    refine ⟨hr, hs, fun child hchild => ?_⟩
    obtain ⟨process, hp, rfl⟩ := Option.map_eq_some_iff.mp hchild
    exact hdead process hp

theorem start_safe (owner : Loopback) (hw : Exclusive w) (hholds : Holds owner p.child w) :
    Keeps (p.start owner) (fun _ p' w' => Holds owner p'.child w') p w := by
  cases p with
  | managed m =>
    show Keeps ((ManagedProcess.start owner).focus (fun m _ => managed m) m) _ _ _
    refine Safe.focus ?_ (ManagedProcess.start_safe owner hw hholds) ?_ ?_
    · exact fun _ _ _ => rfl
    · rfl
    intro r m' w' h
    exact h
  | timestamped t =>
    show Keeps ((TimestampedLocalPlayback.start owner).focus (fun t _ => timestamped t) t) _ _ _
    refine Safe.focus ?_ (TimestampedLocalPlayback.start_safe owner hw hholds) ?_ ?_
    · exact fun _ _ _ => rfl
    · rfl
    intro r t' w' h
    exact h

end RouteProcess

/-! ## The router -/

/-- `ProcessAudioRouter`: the owners of the loopbacks. -/
structure ProcessAudioRouter where
  localLoopback : RouteProcess
  bluetoothLoopback : Option RouteProcess := none
  maLoopback : Option RouteProcess := none

/-- The owner whose child may play for a route. -/
def Route.loopback : Route → Option Loopback
  | .localPhono => some .phono
  | .localBluetooth => some .bluetooth
  | .maPlayback | .distributedPhono | .distributedBluetooth => some .ma
  | .idle => none

namespace ProcessAudioRouter

/-- The owner of a loopback, if there is one. -/
def component (r : ProcessAudioRouter) : Loopback → Option RouteProcess
  | .phono => some r.localLoopback
  | .bluetooth => r.bluetoothLoopback
  | .ma => r.maLoopback

/-- The router with another component. -/
def put (slot : Loopback) (p : RouteProcess) (r : ProcessAudioRouter) : ProcessAudioRouter :=
  match slot with
  | .phono => { r with localLoopback := p }
  | .bluetooth => { r with bluetoothLoopback := some p }
  | .ma => { r with maLoopback := some p }

/-- `start` of the owner of a loopback. -/
def start (slot : Loopback) : Child ProcessAudioRouter Unit := do
  let r ← get
  match r.component slot with
  | some p => (p.start slot).focus (put slot) p
  | none => pure ()

/-- `stop` of the owner of a loopback. -/
def stop (slot : Loopback) : Child ProcessAudioRouter Unit := do
  let r ← get
  match r.component slot with
  | some p => p.stop.focus (put slot) p
  | none => pure ()

/-- `apply`: the old owner is stopped before the new one is started. -/
def apply (route : Route) : Child ProcessAudioRouter Unit := do
  let phonoNeeded := route == .localPhono
  let bluetoothNeeded := route == .localBluetooth
  let maNeeded := [Route.maPlayback, .distributedPhono, .distributedBluetooth].contains route
  when (!phonoNeeded) (stop .phono)
  when (!bluetoothNeeded) (stop .bluetooth)
  when (!maNeeded) (stop .ma)
  if phonoNeeded then start .phono
  else if bluetoothNeeded then start .bluetooth
  else if maNeeded then start .ma
  else pure ()

/-- `reconcile`. -/
def reconcile (route : Route) : Child ProcessAudioRouter Unit := apply route

/-- `close`. -/
def close : Child ProcessAudioRouter Unit := do
  stop .phono
  stop .bluetooth
  stop .ma

end ProcessAudioRouter

/-- A call of the router. -/
inductive RouterCall
  | apply (route : Route)
  | reconcile (route : Route)
  | close

namespace RouterCall

/-- Its program. -/
def program : RouterCall → Child ProcessAudioRouter Unit
  | apply route => ProcessAudioRouter.apply route
  | reconcile route => ProcessAudioRouter.reconcile route
  | close => ProcessAudioRouter.close

/-- The owner whose child may be alive after the call. -/
def owner : RouterCall → Option Loopback
  | apply route | reconcile route => route.loopback
  | close => none

end RouterCall

/-- A router between two of its steps. -/
abbrev RouterRun := Serving ProcReq ProcRep ProcessAudioRouter String Children RouterCall

/-- Any sequence of calls of a new router. -/
def routerRuns : Machine RouterRun (ServeMove ProcReq ProcRep Nat RouterCall) :=
  childWorld.serve RouterCall.program fun r w =>
    (∀ slot p, r.component slot = some p → p.Fresh) ∧ w = {}

/-- Every playback child has a standard input, as those of the default factory have. -/
def ChildrenWired (_ : RouterRun) : ServeMove ProcReq ProcRep Nat RouterCall → Prop
  | .answer q a => HasInput q a
  | _ => True

instance (s : RouterRun) (m : ServeMove ProcReq ProcRep Nat RouterCall) :
    Decidable (ChildrenWired s m) :=
  match m with
  | .answer q a => inferInstanceAs (Decidable (HasInput q a))
  | .begin _ | .drift _ => inferInstanceAs (Decidable True)

/-! ## What a call does -/

/-- A living child is on record with the owner that launched it. -/
def Recorded (r : ProcessAudioRouter) (w : Children) : Prop :=
  ∀ i, w.alive i = true → (r.component (w.owner i)).bind RouteProcess.child = some i

/-- Every child of this owner is dead. -/
def Released (slot : Loopback) (w : Children) : Prop :=
  ∀ i, w.alive i = true → w.owner i ≠ slot

theorem Recorded.shrinks {r : ProcessAudioRouter} {w w' : Children} (h : Recorded r w)
    (hs : Shrinks w w') : Recorded r w' := fun i hi => by
  rw [hs.owner]
  exact h i (hs.alive i hi)

theorem Released.shrinks {slot : Loopback} {w w' : Children} (h : Released slot w)
    (hs : Shrinks w w') : Released slot w' := fun i hi => by
  rw [hs.owner]
  exact h i (hs.alive i hi)

namespace ProcessAudioRouter

variable {r : ProcessAudioRouter} {w : Children} {slot : Loopback} {p : RouteProcess}

@[simp] theorem component_put {slot' : Loopback} :
    (r.put slot p).component slot' = if slot' = slot then some p else r.component slot' := by
  cases slot <;> cases slot' <;> rfl

@[simp] theorem put_put {p' : RouteProcess} : (r.put slot p').put slot p = r.put slot p := by
  cases slot <;> rfl

theorem put_component (h : r.component slot = some p) : r.put slot p = r := by
  cases slot with
  | phono =>
    obtain rfl := Option.some.inj h
    rfl
  | bluetooth =>
    show { r with bluetoothLoopback := some p } = r
    rw [← show r.bluetoothLoopback = some p from h]
  | ma =>
    show { r with maLoopback := some p } = r
    rw [← show r.maLoopback = some p from h]

/-- **A stop** leaves no living child with its owner, and changes nothing for the others. -/
theorem stop_safe (hw : Exclusive w) (hr : Recorded r w) :
    Keeps (stop slot) (fun out r' w' => out = .ok () ∧ Shrinks w w' ∧ Recorded r' w' ∧
      Released slot w') r w := by
  unfold stop
  refine safe_get_bind ?_
  cases hc : r.component slot with
  | none =>
    refine keeps_pure fun w' hs => ⟨rfl, hs, hr.shrinks hs, fun i hi hslot => ?_⟩
    have hrec := hr.shrinks hs i hi
    rw [hslot, hc] at hrec
    exact nomatch hrec
  | some p =>
    refine Safe.focus ?_ (p.stop_safe hw) (put_component hc) ?_
    · exact fun _ _ _ => put_put
    · rintro out p' w' ⟨hout, hs, hdead⟩
      have hreleased : Released slot w' := by
        intro i hi hslot
        have hrec := hr.shrinks hs i hi
        rw [hslot, hc] at hrec
        rw [hdead i hrec] at hi
        exact nomatch hi
      refine ⟨hout, hs, fun i hi => ?_, hreleased⟩
      rw [component_put, if_neg (hreleased i hi)]
      exact hr.shrinks hs i hi

/-- **A start** when no other owner has a living child: however it ends, none has. -/
theorem start_safe (hw : Exclusive w) (hr : Recorded r w)
    (honly : ∀ i, w.alive i = true → w.owner i = slot) :
    Keeps (start slot) (fun _ r' w' => Recorded r' w' ∧
      ∀ i, w'.alive i = true → w'.owner i = slot) r w := by
  unfold start
  refine safe_get_bind ?_
  cases hc : r.component slot with
  | none =>
    refine keeps_pure fun w' hs => ⟨hr.shrinks hs, fun i hi => ?_⟩
    rw [hs.owner]
    exact honly i (hs.alive i hi)
  | some p =>
    have hholds : Holds slot p.child w := by
      intro i hi
      have hrec := hr i hi
      rw [honly i hi, hc] at hrec
      exact ⟨honly i hi, hrec⟩
    refine Safe.focus ?_ (p.start_safe slot hw hholds) (put_component hc) ?_
    · exact fun _ _ _ => put_put
    · intro out p' w' h
      refine ⟨fun i hi => ?_, fun i hi => (h i hi).1⟩
      rw [component_put, if_pos (h i hi).1]
      exact (h i hi).2

/-- `apply` in terms of the route's owner. -/
theorem apply_eq (route : Route) : apply route = (do
    when (route.loopback != some .phono) (stop .phono)
    when (route.loopback != some .bluetooth) (stop .bluetooth)
    when (route.loopback != some .ma) (stop .ma)
    match route.loopback with
    | some slot => start slot
    | none => pure ()) := by
  cases route <;> rfl

/-- A stop of an owner that is not needed. -/
theorem stop_unless_safe (needed : Option Loopback) (hw : Exclusive w) (hr : Recorded r w) :
    Keeps (when (needed != some slot) (stop slot)) (fun out r' w' => out = .ok () ∧ Shrinks w w' ∧
      Recorded r' w' ∧ (needed ≠ some slot → Released slot w')) r w := by
  refine safe_when (fun _ => (stop_safe hw hr).mono ?_) fun hb w' hd => ?_
  · rintro out r' w' ⟨hout, hs, hr', hreleased⟩
    exact ⟨hout, hs, hr', fun _ => hreleased⟩
  · have hs := Shrinks.drifts hd
    exact ⟨rfl, hs, hr.shrinks hs, fun hne => absurd (by simpa using hb) hne⟩

theorem apply_safe (route : Route) (hw : Exclusive w) (hr : Recorded r w) :
    Keeps (apply route) (fun _ r' w' => Recorded r' w' ∧
      ∀ i, w'.alive i = true → route.loopback = some (w'.owner i)) r w := by
  rw [apply_eq]
  refine Safe.bind (stop_unless_safe route.loopback hw hr) ?_ fun _ _ _ h => nomatch h.1
  rintro _ r₁ w₁ ⟨-, h₁, hr₁, hphono⟩
  have hw₁ := hw.shrinks h₁
  refine Safe.bind (stop_unless_safe route.loopback hw₁ hr₁) ?_ fun _ _ _ h => nomatch h.1
  rintro _ r₂ w₂ ⟨-, h₂, hr₂, hbluetooth⟩
  have hw₂ := hw₁.shrinks h₂
  refine Safe.bind (stop_unless_safe route.loopback hw₂ hr₂) ?_ fun _ _ _ h => nomatch h.1
  rintro _ r₃ w₃ ⟨-, h₃, hr₃, hma⟩
  -- whatever is still alive is the route's
  have honly : ∀ i, w₃.alive i = true → route.loopback = some (w₃.owner i) := by
    intro i hi
    by_contra hne
    cases ho : w₃.owner i with
    | phono => exact (hphono (ho ▸ hne)).shrinks (h₂.trans h₃) i hi ho
    | bluetooth => exact (hbluetooth (ho ▸ hne)).shrinks h₃ i hi ho
    | ma => exact hma (ho ▸ hne) i hi ho
  cases hslot : route.loopback with
  | none =>
    rw [hslot] at honly
    exact keeps_pure fun w' hs => ⟨hr₃.shrinks hs, fun i hi => nomatch honly i (hs.alive i hi)⟩
  | some slot =>
    rw [hslot] at honly
    refine (start_safe (hw₂.shrinks h₃) hr₃ fun i hi => ?_).mono ?_
    · exact (Option.some.inj (honly i hi)).symm
    · rintro _ r' w' ⟨hr', hown⟩
      exact ⟨hr', fun i hi => by rw [hown i hi]⟩

theorem close_safe (hw : Exclusive w) (hr : Recorded r w) :
    Keeps close (fun _ r' w' => Recorded r' w' ∧ ∀ i, w'.alive i = true → False) r w := by
  refine Safe.bind (stop_safe hw hr) ?_ fun _ _ _ h => nomatch h.1
  rintro _ r₁ w₁ ⟨-, h₁, hr₁, hphono⟩
  have hw₁ := hw.shrinks h₁
  refine Safe.bind (stop_safe hw₁ hr₁) ?_ fun _ _ _ h => nomatch h.1
  rintro _ r₂ w₂ ⟨-, h₂, hr₂, hbluetooth⟩
  refine (stop_safe (hw₁.shrinks h₂) hr₂).mono ?_
  rintro _ r₃ w₃ ⟨-, h₃, hr₃, hma⟩
  refine ⟨hr₃, fun i hi => ?_⟩
  cases ho : w₃.owner i with
  | phono => exact hphono.shrinks (h₂.trans h₃) i hi ho
  | bluetooth => exact hbluetooth.shrinks h₃ i hi ho
  | ma => exact hma i hi ho

end ProcessAudioRouter

theorem RouterCall.safe {r : ProcessAudioRouter} {w : Children} (call : RouterCall)
    (hw : Exclusive w) (hr : Recorded r w) :
    Keeps call.program (fun _ r' w' => Recorded r' w' ∧
      ∀ i, w'.alive i = true → call.owner = some (w'.owner i)) r w := by
  cases call with
  | apply route => exact ProcessAudioRouter.apply_safe route hw hr
  | reconcile route => exact ProcessAudioRouter.apply_safe route hw hr
  | close =>
    refine (ProcessAudioRouter.close_safe hw hr).mono ?_
    rintro _ r' w' ⟨hr', hnone⟩
    exact ⟨hr', fun i hi => (hnone i hi).elim⟩

/-! ## Runs -/

/-- An idle router: one child at most is alive, and it is on record. -/
structure Orderly (r : ProcessAudioRouter) (w : Children) : Prop where
  exclusive : Exclusive w
  recorded : Recorded r w

theorem stable_exclusive : childWorld.Stable Exclusive :=
  fun _ _ _ hw hd => hw.shrinks (.drifts (Drifts.refl.move hd))

theorem Orderly.stable (r : ProcessAudioRouter) : childWorld.Stable (Orderly r) := by
  rintro w d w' ⟨hw, hr⟩ hd
  have hs := Shrinks.drifts (Drifts.refl.move hd)
  exact ⟨hw.shrinks hs, hr.shrinks hs⟩

/-- A call from an idle router to an idle router. -/
theorem RouterCall.orderly (call : RouterCall) {r : ProcessAudioRouter} {w : Children}
    (h : Orderly r w) :
    Keeps call.program (fun _ r' w' => Orderly r' w' ∧
      ∀ i, w'.alive i = true → call.owner = some (w'.owner i)) r w := by
  refine ((call.safe h.exclusive h.recorded).invariant stable_exclusive h.exclusive).mono ?_
  rintro out r' w' ⟨hw', hr', hown⟩
  exact ⟨⟨hw', hr'⟩, hown⟩

namespace ProcessAudioRouter

variable {s : RouterRun}

/-- Along a run one child at most is alive; after a call it is on record, and the call's. -/
theorem runs_invariant (h : routerRuns.Reach ChildrenWired s) :
    Exclusive s.world ∧ ∀ out, s.program = .done out → Orderly s.own s.world ∧
      ∀ call, s.current = some call →
        ∀ i, s.world.alive i = true → call.owner = some (s.world.owner i) := by
  refine serve_invariant (I := Exclusive) (fun _ _ _ hm => hm) stable_exclusive Orderly.stable ?_
    (fun _ _ h => h.exclusive) (fun call r w h => call.orderly h) h
  rintro r w ⟨-, rfl⟩
  exact ⟨⟨fun i hi => (nomatch hi), fun i j hi => (nomatch hi)⟩, fun i hi => (nomatch hi)⟩

/-- A launch while the living children are exclusive before and after it is one into silence. -/
theorem launched_into_silence {s' : RouterRun} {q : ProcReq} {a : ProcRep q}
    (hw : Exclusive s.world) (hw' : Exclusive s'.world)
    (hnext : routerRuns.next s (.answer q a) = some s') (hl : (launched q a).isSome = true) :
    Silent s.world := by
  obtain ⟨⟨owner, child⟩, hlaunched⟩ := Option.isSome_iff_exists.mp hl
  -- the answered request has been pending, and the world is the one after the launch
  have hborn : s'.world = s.world.born owner := by
    simp only [routerRuns, serve] at hnext
    split at hnext
    · split at hnext
      · obtain ⟨w', hans, rfl⟩ := Option.map_eq_some_iff.mp hnext
        simp only [childWorld, hlaunched] at hans
        split at hans
        · exact (Option.some.inj hans).symm
        · cases hans
      · cases hnext
    · cases hnext
  rw [hborn] at hw'
  intro i
  by_contra hno
  have hi := Bool.eq_true_of_not_eq_false hno
  have hsame : i = s.world.count :=
    hw'.unique i s.world.count (Children.born_alive.mpr (.inr hi)) (Children.born_alive.mpr (.inl rfl))
  have := hw.launched i hi
  omega

/-- **Exclusive output**: in every run whose playback children have a standard input, one child at
    most is alive at every moment, a child is launched only while none is alive, and after a call,
    returned or raised, none is alive but the owner's whom the call is for. -/
theorem exclusive_output (h : routerRuns.Reach ChildrenWired s) :
    (∀ i j, s.world.alive i = true → s.world.alive j = true → i = j) ∧
    (∀ q a s', ChildrenWired s (.answer q a) → routerRuns.next s (.answer q a) = some s' →
      (launched q a).isSome = true → ∀ i, s.world.alive i = false) ∧
    (∀ call out, s.current = some call → s.program = .done out →
      ∀ i, s.world.alive i = true → call.owner = some (s.world.owner i)) := by
  obtain ⟨hw, hdone⟩ := runs_invariant h
  refine ⟨hw.unique, ?_, ?_⟩
  · intro q a s' hwired hnext hl
    exact launched_into_silence hw (runs_invariant (h.move hwired hnext)).1 hnext hl
  · intro call out hcall hout
    exact (hdone out hout).2 call hcall

/-- A playback output next to two commands. -/
def bluetoothRouter : ProcessAudioRouter where
  localLoopback := .managed { spec := { name := "loopback", argv := ["loop"], argv_ne := by decide } }
  bluetoothLoopback := some (.timestamped {})
  maLoopback := some (.managed { spec := { name := "ma", argv := ["ma"], argv_ne := by decide } })

theorem bluetoothRouter_init :
    routerRuns.init ⟨.done (.ok ()), bluetoothRouter, {}, none⟩ := by
  refine ⟨rfl, rfl, fun slot p hp => ?_, rfl⟩
  cases slot <;> obtain rfl := Option.some.inj hp <;> rfl

/-- Playback over Bluetooth gives way to Music Assistant, though its child has to be killed. -/
theorem exclusive_output_handover : ∃ s : RouterRun, s.world.alive 1 = true ∧
    (∀ i j, s.world.alive i = true → s.world.alive j = true → i = j) ∧
    ∀ i, s.world.alive i = true → s.world.owner i = .ma := by
  obtain ⟨s, hs, hone, hout, hma, hcall⟩ := Machine.exists_reach (m := routerRuns.guarded ChildrenWired)
    (l := [.begin (.apply .localBluetooth), .answer (.processFactory .bluetooth) (.ok ⟨0, true⟩),
      .answer (.emit (.started "timestamped_bluetooth_playback")) (),
      .begin (.apply .maPlayback), .answer .cancelPump (), .answer (.closeStdin 0) (),
      .answer (.returncode 0) none, .answer (.terminate 0) (), .answer (.waitFor 0 3) false,
      .answer (.kill 0) (), .drift 0, .answer (.wait 0) (), .answer (.returncode 0) (some (-9)),
      .answer (.emit (.stopped "timestamped_bluetooth_playback" (some (-9)))) (),
      .answer .monotonic 0, .answer (.launch .ma ["ma"]) (.ok 1),
      .answer (.emit (.started "ma")) ()])
    (fun s => s.world.alive 1 = true ∧ s.program.returned = true ∧
      s.current.all (RouterCall.owner · == some .ma) = true ∧ s.current.isSome = true)
    bluetoothRouter_init (by decide +kernel)
  obtain ⟨call, hcall⟩ := Option.isSome_iff_exists.mp hcall
  obtain ⟨hunique, -, hown⟩ := exclusive_output hs.of_guarded
  refine ⟨s, hone, hunique, fun i hi => ?_⟩
  rw [hcall, Option.all_some, beq_iff_eq] at hma
  exact (Option.some.inj (hma.symm.trans (hown _ _ hcall (returned_iff.mp hout) i hi))).symm

/-- With a factory of another kind: a playback child without a standard input is dropped while it is
    alive, and the next owner's child is launched beside it. -/
theorem output_not_exclusive : ¬ ∀ s : RouterRun, routerRuns.Reach Machine.anyMove s →
    ∀ i j, s.world.alive i = true → s.world.alive j = true → i = j := by
  intro hall
  obtain ⟨s, hs, h₀, h₁⟩ := Machine.exists_reach (m := routerRuns)
    (l := [.begin (.apply .localBluetooth), .answer (.processFactory .bluetooth) (.ok ⟨0, false⟩),
      .begin (.apply .maPlayback), .answer .monotonic 0, .answer (.launch .ma ["ma"]) (.ok 1)])
    (fun s => s.world.alive 0 = true ∧ s.world.alive 1 = true)
    bluetoothRouter_init (by decide +kernel)
  exact nomatch hall s hs 0 1 h₀ h₁

end ProcessAudioRouter

end PhonoConsole
