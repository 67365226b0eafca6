/-
  THE PHONE'S VOLUME: `_refresh_transport_volume` (`phono_console/bluetooth.py`).

  Every poll reads the raw volume of the phone's transport; a changed one is mapped into the
  configured range and handed to the volume action.  The change detector remembers the raw volume
  before the action has run, so that a volume whose action failed is taken for an old one as long as
  the phone keeps it.

  * `parseTransportVolume`, `mapTransportVolume` — the two functions on raw volumes;
  * `refreshTransportVolume` — one poll, as a program that asks `bluetoothctl`, the state store, the
    event sink and the volume action;
  * `phoneWorld`    — what the outside has seen: the raw volume read last, the volume of the last
    action that completed, and the raw volume announced since;
  * `Remembered`    — the raw volume remembered was applied, or is still to be;
  * `refresh_keeps` — a poll that does not read a volume still to be applied;
  * `phone_followed`, `phone_lost` — so for every sequence of such polls, and not for every other.
-/
import PhonoConsole.Amplifier

namespace PhonoConsole

open Coro World

/-! ## Raw volumes -/

/-- The lines of `transport.show` that `parse_transport_volume` looks at: whether the state is
    active, whether the UUID is an audio sink, and the first number of the volume. -/
structure TransportDetails where
  active : Bool
  audioSink : Bool
  volume : Option ℤ
deriving DecidableEq

/-- `parse_transport_volume`. -/
def parseTransportVolume (details : TransportDetails) : Option ℤ :=
  if !details.active then none
  else if !details.audioSink then none
  else details.volume.map fun volume => max 0 (min 127 volume)

/-- `raw_volume` after one `transport.show`. -/
def shownVolume (code : ℤ) (details : TransportDetails) : Option ℤ :=
  if code = 0 then parseTransportVolume details else none

/-- `volume_min` and `volume_max` of the section `[bluetooth]`. -/
structure BluetoothVolumes where
  volumeMin : ℤ
  volumeMax : ℤ
  nonneg : 0 ≤ volumeMin
  ordered : volumeMin < volumeMax
  capped : volumeMax ≤ 100

/-- `map_transport_volume`.  The quotients are rounded the same as floats: none is close to a half
    without being one. -/
def mapTransportVolume (rawVolume minimum maximum : ℤ) : ℤ :=
  let raw := max 0 (min 127 rawVolume)
  if raw = 0 then 0 else pyRound (minimum + (raw - 1) * (maximum - minimum) / 126)

example : [0, 1, 64, 127].map (mapTransportVolume · 20 80) = [0, 20, 50, 80] := by decide +kernel

/-! ## One poll -/

/-- What a poll asks for. -/
inductive PhoneReq
  | transportList
  | transportShow (path : String)
  | publish (bluetoothVolume bluetoothVolumeRaw : ℤ)
  | volumeChanged (volume rawVolume : ℤ)
  | volumeAction (volume : ℤ)
deriving DecidableEq

/-- The answers: an exit code with what was printed; the others return or raise. -/
abbrev PhoneRep : PhoneReq → Type
  | .transportList => Except Exc (ℤ × List String)
  | .transportShow _ => Except Exc (ℤ × TransportDetails)
  | .publish _ _ | .volumeChanged _ _ | .volumeAction _ => Except Exc Unit

/-- The attributes of the manager that a poll uses. -/
structure TransportWatch where
  lastTransportVolume : Option ℤ
  /-- `self._volume_action is not None` -/
  volumeAction : Bool
deriving DecidableEq

/-- A method of the manager. -/
abbrev Phone (α : Type) : Type := Coro PhoneReq PhoneRep TransportWatch Exc α

namespace TransportWatch

/-- A request that raises or returns. -/
def perform (q : PhoneReq) {α : Type} (result : PhoneRep q → Except Exc α) : Phone α := do
  let a ← ask q
  .done (result a)

/-- The loop over the transport paths: the first volume there is. -/
def readVolume : List String → Phone (Option ℤ)
  | [] => pure none
  | path :: paths => do
    let (code, details) ← perform (.transportShow path) id
    match shownVolume code details with
    | some raw => pure (some raw)
    | none => readVolume paths

variable (cfg : BluetoothVolumes)

/-- What follows a raw volume that has changed. -/
def volumeChanged (raw : ℤ) : Phone Unit := do
  modify fun s => { s with lastTransportVolume := some raw }
  let volume := mapTransportVolume raw cfg.volumeMin cfg.volumeMax
  perform (.publish volume raw) id
  perform (.volumeChanged volume raw) id
  let s ← get
  when s.volumeAction (perform (.volumeAction volume) id)

/-- `_refresh_transport_volume`. -/
def refreshTransportVolume : Phone Unit := do
  let (code, paths) ← perform .transportList id
  if code ≠ 0 then pure ()
  else
    let rawVolume ← readVolume paths
    let s ← get
    match rawVolume with
    | none => pure ()
    | some raw => if some raw = s.lastTransportVolume then pure () else volumeChanged cfg raw

end TransportWatch

/-! ## What the outside has seen -/

/-- The raw volume the present poll has read, the volume of the last action that completed, and the
    raw volume announced since then. -/
structure PhoneRecord where
  read : Option ℤ
  applied : Option ℤ
  announced : Option ℤ
deriving DecidableEq

/-- How an answer shows. -/
def PhoneRecord.note (w : PhoneRecord) : (q : PhoneReq) → PhoneRep q → PhoneRecord
  | .transportList, _ => { w with read := none }
  | .transportShow _, .ok (code, details) =>
      { w with read := shownVolume code details }
  | .transportShow _, .error _ => w
  | .publish _ raw, _ => { w with announced := some raw }
  | .volumeChanged _ _, _ => w
  | .volumeAction volume, .ok () => { w with applied := some volume, announced := none }
  | .volumeAction _, .error _ => w

/-- Any answers. -/
def phoneWorld : World PhoneReq PhoneRep PhoneRecord Unit where
  answer w q a := some (w.note q a)
  drift _ _ := none

/-- A manager whose action has been set, before its first poll. -/
def TransportWatch.initial : TransportWatch := ⟨none, true⟩

/-- The manager, suspended in a poll or between two. -/
abbrev PhoneRun := Serving PhoneReq PhoneRep TransportWatch Exc PhoneRecord Unit

/-- A poll begins, or a callback answers. -/
abbrev PhoneMove := ServeMove PhoneReq PhoneRep Unit Unit

/-- Any sequence of polls. -/
def phoneRuns (cfg : BluetoothVolumes) : Machine PhoneRun PhoneMove :=
  phoneWorld.serve (fun _ => TransportWatch.refreshTransportVolume cfg)
    fun s w => s = TransportWatch.initial ∧ w = ⟨none, none, none⟩

/-! ## One poll keeps what is remembered -/

/-- The answer does not show a volume that was announced and is still to be applied. -/
def Fresh (w : PhoneRecord) : (q : PhoneReq) → PhoneRep q → Prop
  | .transportShow _, .ok (code, details) =>
      shownVolume code details = none ∨ shownVolume code details ≠ w.announced
  | _, _ => True

instance Fresh.decidable : ∀ (w : PhoneRecord) (q : PhoneReq) (a : PhoneRep q),
    Decidable (Fresh w q a)
  | w, .transportShow _, .ok (code, details) =>
      inferInstanceAs (Decidable
        (shownVolume code details = none ∨ shownVolume code details ≠ w.announced))
  | _, .transportShow _, .error _ => isTrue trivial
  | _, .transportList, _ => isTrue trivial
  | _, .publish _ _, _ => isTrue trivial
  | _, .volumeChanged _ _, _ => isTrue trivial
  | _, .volumeAction _, _ => isTrue trivial

/-- The same condition on the steps of a run. -/
def ReadsFresh (run : PhoneRun) : PhoneMove → Prop
  | .answer q a => Fresh run.world q a
  | _ => True

instance ReadsFresh.decidable : ∀ (run : PhoneRun) (m : PhoneMove), Decidable (ReadsFresh run m)
  | run, .answer q a => Fresh.decidable run.world q a
  | _, .begin _ | _, .drift _ => isTrue trivial

namespace TransportWatch

variable {cfg : BluetoothVolumes} {s : TransportWatch} {w w' : PhoneRecord}

/-- The raw volume remembered was applied, or is still to be. -/
def Remembered (cfg : BluetoothVolumes) (s : TransportWatch) (w : PhoneRecord) : Prop :=
  s.volumeAction = true ∧ ∀ raw, s.lastTransportVolume = some raw →
    w.announced = some raw ∨ w.applied = some (mapTransportVolume raw cfg.volumeMin cfg.volumeMax)

/-- The poll has applied the volume it has read. -/
def Followed (cfg : BluetoothVolumes) (w : PhoneRecord) : Prop :=
  ∀ raw, w.read = some raw →
    w.applied = some (mapTransportVolume raw cfg.volumeMin cfg.volumeMax)

theorem drifts_eq {G : PhoneRecord → (q : PhoneReq) → PhoneRep q → Prop}
    (h : (phoneWorld.guarded G).Drifts w w') : w' = w := by
  induction h with
  | refl => rfl
  | move _ hd => cases hd

/-- From `s` and `w` the program ends as `Q` says, whatever fresh answers it gets. -/
abbrev Leads {α : Type} (p : Phone α) (Q : Except Exc α → TransportWatch → PhoneRecord → Prop)
    (s : TransportWatch) (w : PhoneRecord) : Prop :=
  p.Safe (phoneWorld.guarded Fresh) (fun _ _ => True) (fun _ => True) Q s w

theorem leads_pure {α : Type} {a : α} {Q : Except Exc α → TransportWatch → PhoneRecord → Prop}
    (h : Q (.ok a) s w) : Leads (pure a) Q s w := by
  refine safe_pure fun w' hw' => ?_
  rw [drifts_eq hw']
  exact h

theorem perform_leads {q : PhoneReq} {α : Type} {result : PhoneRep q → Except Exc α}
    {Q : Except Exc α → TransportWatch → PhoneRecord → Prop}
    (h : ∀ a, Fresh w q a → Q (result a) s (w.note q a)) : Leads (perform q result) Q s w := by
  intro w₁ hw₁ a w₂ _ hans
  obtain ⟨hfresh, hans⟩ := guarded_answer.mp hans
  rw [drifts_eq hw₁] at hfresh hans
  cases hans
  refine ⟨trivial, fun w₃ hw₃ => ?_⟩
  rw [drifts_eq hw₃]
  exact h a hfresh

/-- A request, and what follows when it returns. -/
theorem perform_then {q : PhoneReq} {α β : Type} {result : PhoneRep q → Except Exc α}
    {f : α → Phone β} {Q : Except Exc β → TransportWatch → PhoneRecord → Prop}
    (herr : ∀ a e, result a = .error e → Q (.error e) s (w.note q a))
    (hok : ∀ a v, Fresh w q a → result a = .ok v → Leads (f v) Q s (w.note q a)) :
    Leads (perform q result >>= f) Q s w := by
  have hperform : Leads (perform q result)
      (fun r s' w' => s' = s ∧ ∃ a, Fresh w q a ∧ result a = r ∧ w' = w.note q a) s w :=
    perform_leads fun a hfresh => ⟨rfl, a, hfresh, rfl, rfl⟩
  refine Safe.bind hperform ?_ ?_
  · rintro v _ _ ⟨rfl, a, hfresh, hresult, rfl⟩
    exact hok a v hfresh hresult
  · rintro e _ _ ⟨rfl, a, -, hresult, rfl⟩
    exact herr a e hresult

/-- The loop over the paths changes nothing but what has been read, and that is not a volume
    still to be applied. -/
theorem readVolume_leads (paths : List String) (hread : w.read = none) :
    Leads (readVolume paths) (fun r s' w' => s' = s ∧ w'.announced = w.announced ∧
      w'.applied = w.applied ∧
      ∀ raw, r = .ok raw → w'.read = raw ∧ (raw = none ∨ raw ≠ w.announced)) s w := by
  induction paths generalizing w with
  | nil =>
    refine leads_pure ⟨rfl, rfl, rfl, ?_⟩
    rintro raw ⟨⟩
    exact ⟨hread, .inl rfl⟩
  | cons path paths ih =>
    refine perform_then ?_ ?_
    · rintro a e rfl
      exact ⟨rfl, rfl, rfl, fun _ h => nomatch h⟩
    · rintro _ ⟨code, details⟩ hfresh rfl
      show Leads (match shownVolume code details with
        | some raw => pure (some raw)
        | none => readVolume paths) _ s _
      cases hshown : shownVolume code details with
      | some raw =>
        -- the first transport that shows a volume ends the loop
        refine leads_pure ⟨rfl, rfl, rfl, ?_⟩
        rintro _ ⟨⟩
        refine ⟨hshown, ?_⟩
        rw [← hshown]
        exact hfresh
      | none => exact ih (w := { w with read := shownVolume code details }) hshown

/-- What follows a changed volume: it is remembered and announced, and applied unless something
    raises. -/
theorem volumeChanged_leads {raw : ℤ} (hs : s.volumeAction = true) :
    Leads (volumeChanged cfg raw) (fun r s' w' => Remembered cfg s' w' ∧ w'.read = w.read ∧
      (r = .ok () → w'.applied = some (mapTransportVolume raw cfg.volumeMin cfg.volumeMax)))
      s w := by
  obtain ⟨last, action⟩ := s
  obtain rfl : action = true := hs
  -- from here on the volume is remembered, and announced before anything can raise
  have hannounced : ∀ w', w'.announced = some raw → Remembered cfg ⟨some raw, true⟩ w' :=
    fun w' h => ⟨rfl, fun _ hlast => .inl (h.trans hlast)⟩
  show Leads (perform (.publish _ raw) id >>= fun _ => _) _ ⟨some raw, true⟩ w
  refine perform_then (fun a e _ => ⟨hannounced _ rfl, rfl, fun h => nomatch h⟩) fun _ _ _ _ => ?_
  refine perform_then (fun a e _ => ⟨hannounced _ rfl, rfl, fun h => nomatch h⟩) fun _ _ _ _ => ?_
  show Leads (perform (.volumeAction _) id) _ ⟨some raw, true⟩ _
  refine perform_leads fun a _ => ?_
  cases a with
  | error e => exact ⟨hannounced _ rfl, rfl, fun h => nomatch h⟩
  | ok => exact ⟨⟨rfl, fun _ hlast => .inr (by cases hlast; rfl)⟩, rfl, fun _ => rfl⟩

/-- A poll keeps what is remembered, and applies what it reads unless it raises. -/
theorem refresh_keeps (hs : Remembered cfg s w) :
    Leads (refreshTransportVolume cfg)
      (fun r s' w' => Remembered cfg s' w' ∧ (r = .ok () → Followed cfg w')) s w := by
  refine perform_then (fun a e _ => ⟨hs, fun h => nomatch h⟩) ?_
  rintro _ ⟨code, paths⟩ - rfl
  show Leads (if code ≠ 0 then pure () else _) _ s { w with read := none }
  split
  · exact leads_pure ⟨hs, fun _ _ hread => nomatch hread⟩
  · refine Safe.bind (readVolume_leads paths rfl) ?_ ?_
    · rintro rawVolume s' w' ⟨rfl, hannounced, happlied, hraw⟩
      obtain ⟨hread, hfresh⟩ := hraw rawVolume rfl
      have hs' : Remembered cfg s' w' := ⟨hs.1, fun raw hlast => by
        rw [hannounced, happlied]
        exact hs.2 raw hlast⟩
      show Leads (match rawVolume with
        | none => pure ()
        | some raw => if some raw = s'.lastTransportVolume then pure () else volumeChanged cfg raw)
        _ s' w'
      cases rawVolume with
      | none => exact leads_pure ⟨hs', fun _ raw h => nomatch hread.symm.trans h⟩
      | some raw =>
        dsimp only
        split
        · -- an old volume, and none that is still to be applied
          rename_i hold
          refine leads_pure ⟨hs', fun _ raw' hread' => ?_⟩
          obtain rfl : raw = raw' := Option.some.inj (hread.symm.trans hread')
          refine (hs'.2 raw hold.symm).resolve_left fun hstale => ?_
          rcases hfresh with hnone | hne
          · cases hnone
          · exact hne (hstale.symm.trans hannounced)
        · refine (volumeChanged_leads hs'.1).mono ?_
          rintro r s'' w'' ⟨hkept, hread'', hdone⟩
          refine ⟨hkept, fun hok raw' hread' => ?_⟩
          obtain rfl : raw = raw' :=
            Option.some.inj ((hread''.trans hread).symm.trans hread')
          exact hdone hok
    · rintro e s' w' ⟨rfl, hannounced, happlied, -⟩
      refine ⟨⟨hs.1, fun raw hlast => ?_⟩, fun h => nomatch h⟩
      rw [hannounced, happlied]
      exact hs.2 raw hlast

/-! ## Every sequence of polls -/

/-- In every run in which no poll reads a raw volume that was announced and whose action has not
    completed since: after a poll that returned, the volume last applied is that of the raw volume
    it read. -/
theorem phone_followed {run : PhoneRun} {raw : ℤ} (h : (phoneRuns cfg).Reach ReadsFresh run)
    (hpoll : run.current = some ()) (hreturned : run.program = .done (.ok ()))
    (hread : run.world.read = some raw) :
    run.world.applied = some (mapTransportVolume raw cfg.volumeMin cfg.volumeMax) := by
  have hcall : ∀ (_ : Unit) (s : TransportWatch) (w : PhoneRecord), Remembered cfg s w →
      Leads (refreshTransportVolume cfg)
        (fun r s w => Remembered cfg s w ∧ (r = .ok () → Followed cfg w)) s w :=
    fun _ _ _ hs => refresh_keeps hs
  have hinv := serve_invariant_guarded (fun _ _ _ hm _ _ => hm) (fun _ _ _ _ _ => trivial)
    (fun _ _ _ _ _ hd => nomatch hd) ?_ (fun _ _ _ => trivial) hcall h
  · exact (hinv.2 _ hreturned).2 () hpoll rfl raw hread
  · rintro s w ⟨rfl, -⟩
    exact ⟨rfl, fun _ hlast => nomatch hlast⟩

/-- The defaults of the section `[bluetooth]`. -/
def defaultVolumes : BluetoothVolumes := ⟨20, 80, by norm_num, by norm_num, by norm_num⟩

/-- The start of a poll that reads a raw volume. -/
def reads (raw : ℤ) : List PhoneMove :=
  [.begin (), .answer .transportList (.ok (0, ["/transport/0"])),
    .answer (.transportShow "/transport/0") (.ok (0, ⟨true, true, some raw⟩))]

/-- A changed volume is announced, and its action ends with `result`. -/
def acts (volume raw : ℤ) (result : Except Exc Unit) : List PhoneMove :=
  [.answer (.publish volume raw) (.ok ()), .answer (.volumeChanged volume raw) (.ok ()),
    .answer (.volumeAction volume) result]

/-- A volume whose action fails, and another one after it. -/
theorem phone_followed_next : ∃ run : PhoneRun, run.world.read = some 127 ∧
    run.world.applied = some (mapTransportVolume 127 20 80) := by
  obtain ⟨run, hrun, hread, hreturned, hpoll⟩ := Machine.exists_reach
    (m := (phoneRuns defaultVolumes).guarded ReadsFresh)
    (s := ⟨.done (.ok ()), TransportWatch.initial, ⟨none, none, none⟩, none⟩)
    (l := reads 64 ++ acts 50 64 (.error (.exception "timed out")) ++
      reads 127 ++ acts 80 127 (.ok ()))
    (fun run => run.world.read = some 127 ∧ run.program.returned = true ∧ run.current = some ())
    ⟨rfl, rfl, rfl, rfl⟩ (by decide +kernel)
  have happlied := phone_followed hrun.of_guarded hpoll (returned_iff.mp hreturned) hread
  exact ⟨run, hread, happlied⟩

/-- A volume whose action fails, and the same one at the next poll: that poll returns, and the
    volume has not been applied. -/
theorem phone_lost : ¬ ∀ (cfg : BluetoothVolumes) (run : PhoneRun) (raw : ℤ),
    (phoneRuns cfg).Reach Machine.anyMove run → run.current = some () →
    run.program = .done (.ok ()) → run.world.read = some raw →
    run.world.applied = some (mapTransportVolume raw cfg.volumeMin cfg.volumeMax) := by
  intro hall
  obtain ⟨run, hrun, hread, hreturned, hpoll, hnever⟩ := Machine.exists_reach
    (m := phoneRuns defaultVolumes)
    (s := ⟨.done (.ok ()), TransportWatch.initial, ⟨none, none, none⟩, none⟩)
    (l := reads 64 ++ acts 50 64 (.error (.exception "timed out")) ++ reads 64)
    (fun run => run.world.read = some 64 ∧ run.program.returned = true ∧ run.current = some () ∧
      run.world.applied = none)
    ⟨rfl, rfl, rfl, rfl⟩ (by decide +kernel)
  have happlied := hall defaultVolumes run 64 hrun hpoll (returned_iff.mp hreturned) hread
  rw [hnever] at happlied
  cases happlied

end TransportWatch

end PhonoConsole
