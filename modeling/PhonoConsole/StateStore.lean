/-
  THE STATE STORE (`phono_console/state.py`), and who publishes Bluetooth's state in it
  (`phono_console/bluetooth.py`).

  Every setter takes the lock of `changed`, changes a field and notifies.  Tasks read a field before
  they set it: the agent, the pairing window, the volume poll and the media poll all write the one
  dictionary `bluetooth`, each from the dictionary it has just read.

  * `StateStore`, `perform` — the store, and the setters that a task calls one after another; a task
    for which the lock is not free is suspended;
  * `BluetoothPublication`, `refreshed` — what `_publish` and `_refresh_media_state` write;
  * `stateStore`        — any tasks in any order, with the answers of `bluetoothctl` and cancellations;
  * `next_calm`         — the lock is never kept over a suspension: a move is its setters, at once;
  * `publications_kept` — no publication overwrites another: each key has what was published last;
  * `components_kept`   — a component is dated by its last transition, and health follows from what
    was given last.
-/
import PhonoConsole.Lib.Dict
import PhonoConsole.Lib.FifoLock
import PhonoConsole.Lib.Machine
import PhonoConsole.BluetoothText
import Mathlib.Data.List.Dedup
import Mathlib.Data.List.DropRight
import Mathlib.Data.String.Basic

namespace PhonoConsole

/-! ## Values -/

/-- What the dictionaries of the store hold. -/
inductive Value
  | none
  | bool (b : Bool)
  | int (n : ℤ)
  | real (x : ℚ)
  | text (s : String)
  | track (t : BluetoothText.Track)
  | devices (l : List (String × String))
deriving DecidableEq

/-- A dictionary of the store. -/
abbrev Fields := Dict String Value

/-- An event, with the time at which it was emitted. -/
structure RecordedEvent where
  timestamp : ℚ
  event : String
  details : Fields
deriving DecidableEq

/-- The keyword arguments of `set_component` beside its own; nobody passes the time. -/
structure Details where
  fields : Fields
  named : ∀ key ∈ ["name", "status", "message", "updated_at"], key ∉ Dict.keys fields
deriving DecidableEq

/-! ## The store -/

/-- What is done under the lock: `set_component`, `set_bluetooth_state`, `emit`, `set_status`, and the
    setters of the fields that are modelled elsewhere. -/
inductive Setter
  | component (name status message : String) (details : Details)
  | bluetooth (state : Fields)
  | emit (event : String) (details : Fields)
  | status
  | other
deriving DecidableEq

/-- Where a task is suspended: nowhere, in `bluetoothctl`, or at the lock before these setters. -/
inductive StorePc
  | idle
  | showing
  | acquiring (setters : List Setter)
deriving DecidableEq

/-- The store: its dictionaries, the lock of `changed`, and the tasks that call it. -/
structure StateStore where
  lastStatusMonotonic : Option ℚ := none
  bluetooth : Fields := []
  components : Dict String Fields := []
  events : List RecordedEvent := []
  maxEvents : Nat := 100
  changed : FifoLock Nat := .unlocked
  pc : Nat → StorePc := fun _ => .idle
  now : ℚ := 0

namespace StateStore

/-- The dictionary of a component, before its time of transition is put back. -/
def payload (status message : String) (details : Details) (now : ℚ) : Fields :=
  Dict.update [("updated_at", .real now), ("status", .text status), ("message", .text message)]
    details.fields

/-- `previous.get(key) == value` for the keys of the new dictionary but its time. -/
def Unchanged (previous payload : Fields) : Prop :=
  ∀ key ∈ Dict.keys payload, key ≠ "updated_at" →
    (Dict.get previous key).getD .none = (Dict.get payload key).getD .none

instance (previous payload : Fields) : Decidable (Unchanged previous payload) :=
  inferInstanceAs (Decidable (∀ key ∈ Dict.keys payload, key ≠ "updated_at" → _))

/-- What `set_component` stores over `previous`. -/
def stamped (previous : Option Fields) (payload : Fields) : Fields :=
  match previous with
  | some previous =>
    if Unchanged previous payload then
      ("updated_at", (Dict.get previous "updated_at").getD .none) :: payload
    else payload
  | none => payload

/-- The body of a setter. -/
def apply (s : StateStore) : Setter → StateStore
  | .component name status message details =>
    { s with components := (name, stamped (Dict.get s.components name)
        (payload status message details s.now)) :: s.components }
  | .bluetooth state => { s with bluetooth := state }
  | .emit event details =>
    -- a `deque(maxlen=max_events)`
    { s with events := (s.events ++ [RecordedEvent.mk s.now event details]).rtake s.maxEvents }
  | .status => { s with lastStatusMonotonic := some s.now }
  | .other => s

/-- The task `t` comes to the point `pc`. -/
def setPc (s : StateStore) (t : Nat) (pc : StorePc) : StateStore :=
  { s with pc := fun i => if i = t then pc else s.pc i }

/-- `async with self.changed`, by the task that has got the lock; nobody waits to be notified. -/
def locked (s : StateStore) (t : Nat) (f : Setter) : StateStore :=
  let s := { s with changed := s.changed.acquire t }.apply f
  { s with changed := s.changed.release }

/-- The setters that a task calls one after another, until it is suspended or through with them. -/
def perform (s : StateStore) (t : Nat) : List Setter → StateStore
  | [] => s.setPc t .idle
  | f :: rest =>
    if s.changed.free then (s.locked t f).perform t rest
    else { s with changed := s.changed.acquire t }.setPc t (.acquiring (f :: rest))

/-- The components with a status, sorted. -/
def withStatus (s : StateStore) (status : String) : List String :=
  ((Dict.keys s.components).dedup.filter fun name =>
    (Dict.get s.components name).bind (Dict.get · "status") = some (.text status)).mergeSort

/-- What `health_snapshot` returns. -/
structure Health where
  operational : Bool
  status : String
  controllerFresh : Bool
  failedComponents : List String
  degradedComponents : List String
deriving DecidableEq

/-- `health_snapshot`, at a time. -/
def healthSnapshot (s : StateStore) (now staleAfterSeconds : ℚ) : Health :=
  let statusAge := s.lastStatusMonotonic.map fun last => max 0 (now - last)
  let controllerFresh := statusAge.any fun age => decide (age ≤ staleAfterSeconds)
  let failed := s.withStatus "failed"
  let degraded := s.withStatus "degraded"
  let operational := controllerFresh && failed.isEmpty
  { operational
    status := if operational && degraded.isEmpty then "ok" else "degraded"
    controllerFresh
    failedComponents := failed
    degradedComponents := degraded }

end StateStore

/-! ## Bluetooth's state -/

/-- The calls of `_publish`. -/
inductive BluetoothPublication
  | disabled
  | agentStarted
  | agentFailed (error : String)
  | closed
  | pairingOpened (seconds : ℤ)
  | pairingClosed (devices : List (String × String))
  | volume (level raw : ℤ)
deriving DecidableEq

/-- What `_publish` is given by each of its callers. -/
def BluetoothPublication.values : BluetoothPublication → Fields
  | .disabled => [("enabled", .bool false), ("agent", .bool false), ("pairing", .bool false)]
  | .agentStarted => [("enabled", .bool true), ("agent", .bool true), ("pairing", .bool false)]
  | .agentFailed error => [("enabled", .bool true), ("agent", .bool false), ("error", .text error)]
  | .closed => [("agent", .bool false), ("pairing", .bool false)]
  | .pairingOpened seconds => [("pairing", .bool true), ("pairing_seconds", .int seconds)]
  | .pairingClosed devices =>
    [("pairing", .bool false), ("pairing_seconds", .int 0), ("trusted_devices", .devices devices)]
  | .volume level raw => [("bluetooth_volume", .int level), ("bluetooth_volume_raw", .int raw)]

/-- `key.startswith("media_")`. -/
def isMedia (key : String) : Bool := "media_".toList.isPrefixOf key.toList

open BluetoothText

/-- The dictionary that `parse_player_show` returns. -/
def mediaFields : Option PlayerState → Fields
  | none => [("media_available", .bool false)]
  | some p =>
    [("media_available", .bool true),
      ("media_player_path", .text (.ofList p.path)),
      ("media_player_name", p.name.elim .none fun name => .text (.ofList name)),
      ("media_status", .text (.ofList p.status)),
      ("media_position_ms", p.positionMs.elim .none .int),
      ("media_track", .track p.track)]

/-- `media`, of the answer to `player.show`; it would raise where the parser does. -/
def shownMedia (code : ℤ) (stdout stderr : List Char) : Except ParseError Fields :=
  if code = 0 then (parsePlayerShow stdout).map mediaFields
  else .ok [("media_available", .bool false), ("media_error", .text (.ofList (Text.strip stderr)))]

/-- `media.get("media_available")`, as a condition. -/
def isAvailable (media : Fields) : Bool := Dict.get media "media_available" = some (.bool true)

/-- The event of a change; a track of which nothing is known is left out. -/
def mediaUpdated (media : Fields) : Setter :=
  .emit "bluetooth_media_updated"
    (("status", (Dict.get media "media_status").getD (.text "unknown")) ::
      match Dict.get media "media_track" with
      | some (.track track) =>
        if track = ⟨none, none, none, none, none, none⟩ then [] else [("track", .track track)]
      | _ => [])

/-- What `_refresh_media_state` writes after the answer. -/
def refreshed (bluetooth media : Fields) : List Setter :=
  let previous := Dict.keep isMedia bluetooth
  if Dict.Same media previous then []
  else
    .bluetooth (Dict.update (Dict.keep (fun key => !isMedia key) bluetooth) media) ::
      if isAvailable media then [mediaUpdated media] else []

/-! ## The tasks -/

/-- Calls of the store, answers of `bluetoothctl`, the lock, and cancellations. -/
inductive StoreMove
  | set (t : Nat) (f : Setter)
  | publish (t : Nat) (p : BluetoothPublication)
  | refresh (t : Nat)
  | shown (t : Nat) (code : ℤ) (stdout stderr : List Char)
  | resume (t : Nat)
  | cancel (t : Nat)
deriving DecidableEq

namespace StateStore

/-- What a call of a setter from elsewhere comes to: another status raises before the lock, and the
    callers of `set_bluetooth_state` are the publications. -/
def asked : Setter → List Setter
  | .component name status message details =>
    if status ∈ ["ok", "degraded", "failed"] then [.component name status message details] else []
  | .bluetooth _ => []
  | f => [f]

/-- What is called after an answer; a parser that raised would leave everything as it is. -/
def answered (s : StateStore) (code : ℤ) (stdout stderr : List Char) : List Setter :=
  match shownMedia code stdout stderr with
  | .ok media => refreshed s.bluetooth media
  | .error _ => []

/-- A task that is not suspended here calls something. -/
def calls (s : StateStore) (t : Nat) (setters : List Setter) : Option StateStore :=
  if s.pc t = .idle then some (s.perform t setters) else none

/-- The store after a move of its tasks. -/
def next (s : StateStore) : StoreMove → Option StateStore
  | .set t f => s.calls t (asked f)
  | .publish t p => s.calls t [.bluetooth (Dict.update s.bluetooth p.values)]
  | .refresh t => if s.pc t = .idle then some (s.setPc t .showing) else none
  | .shown t code stdout stderr =>
    if s.pc t = .showing then some (s.perform t (s.answered code stdout stderr)) else none
  | .resume t =>
    match s.pc t with
    | .acquiring (f :: rest) =>
      if s.changed.holder = some t then
        let s := s.apply f
        some ({ s with changed := s.changed.release }.perform t rest)
      else none
    | _ => none
  | .cancel t =>
    match s.pc t with
    | .idle => none
    | .showing => some (s.setPc t .idle)
    | .acquiring _ => some ({ s with changed := s.changed.leave t }.setPc t .idle)

end StateStore

/-- Any moves, at times that do not go back. -/
def stateStore (maxEvents : Nat) : Machine StateStore (ℚ × StoreMove) where
  init s := s = { maxEvents }
  next s a := if s.now ≤ a.1 then { s with now := a.1 }.next a.2 else none

/-! ## A free lock -/

namespace StateStore

variable {s s' : StateStore} {t : Nat} {f : Setter} {setters : List Setter} {a : StoreMove}

/-- What some setters make of the store, without the lock. -/
def applied (s : StateStore) (setters : List Setter) : StateStore := setters.foldl apply s

theorem apply_changed (s : StateStore) (f : Setter) : (s.apply f).changed = s.changed := by
  cases f <;> rfl

theorem apply_pc (s : StateStore) (f : Setter) : (s.apply f).pc = s.pc := by
  cases f <;> rfl

/-- A lock that was free is free after a setter. -/
theorem acquire_release {l : FifoLock Nat} (h : l.free = true) (t : Nat) : (l.acquire t).release = l := by
  obtain ⟨holder, waiters, idle⟩ := l
  obtain rfl : holder = none := Option.isNone_iff_eq_none.mp h
  obtain rfl := idle rfl
  rfl

/-- With a free lock a setter is its body. -/
theorem locked_eq (h : s.changed.free = true) : s.locked t f = s.apply f := by
  unfold locked
  dsimp only
  rw [apply_changed]
  show { ({ s with changed := s.changed.acquire t } : StateStore).apply f with
    changed := (s.changed.acquire t).release } = _
  rw [acquire_release h]
  cases f <;> rfl

/-- With a free lock, the setters of a task are run at once. -/
theorem perform_eq (h : s.changed.free = true) :
    s.perform t setters = (s.applied setters).setPc t .idle := by
  induction setters generalizing s with
  | nil => rfl
  | cons f rest ih =>
    rw [perform, if_pos h, locked_eq h]
    exact ih (by rwa [apply_changed])

theorem applied_changed (s : StateStore) (setters : List Setter) :
    (s.applied setters).changed = s.changed := by
  induction setters generalizing s with
  | nil => rfl
  | cons f rest ih => exact (ih _).trans (apply_changed s f)

theorem applied_pc (s : StateStore) (setters : List Setter) : (s.applied setters).pc = s.pc := by
  induction setters generalizing s with
  | nil => rfl
  | cons f rest ih => exact (ih _).trans (apply_pc s f)

/-- Nobody holds the lock, and nobody waits for it. -/
structure Calm (s : StateStore) : Prop where
  free : s.changed.free = true
  nobody : ∀ t, s.pc t = .idle ∨ s.pc t = .showing

/-- The setters of a move that begins with the lock free. -/
def performs (s : StateStore) : StoreMove → List Setter
  | .set _ f => asked f
  | .publish _ p => [.bluetooth (Dict.update s.bluetooth p.values)]
  | .shown _ code stdout stderr => s.answered code stdout stderr
  | .refresh _ | .resume _ | .cancel _ => []

/-- A move is its setters, one after another, at once. -/
theorem next_calm (hs : s.Calm) (hnext : s.next a = some s') :
    ∃ t pc, (pc = .idle ∨ pc = .showing) ∧ s' = (s.applied (s.performs a)).setPc t pc := by
  have hcall : ∀ {t setters}, s.calls t setters = some s' →
      s' = (s.applied setters).setPc t .idle := by
    intro t setters hcalls
    obtain ⟨-, hsome⟩ := Option.ite_none_right_eq_some.mp hcalls
    rw [← Option.some.inj hsome, perform_eq hs.free]
  cases a with
  | set t f => exact ⟨t, .idle, .inl rfl, hcall hnext⟩
  | publish t p => exact ⟨t, .idle, .inl rfl, hcall hnext⟩
  | refresh t =>
    obtain ⟨-, hsome⟩ := Option.ite_none_right_eq_some.mp hnext
    exact ⟨t, .showing, .inr rfl, (Option.some.inj hsome).symm⟩
  | shown t code stdout stderr =>
    obtain ⟨-, hsome⟩ := Option.ite_none_right_eq_some.mp hnext
    exact ⟨t, .idle, .inl rfl, by rw [← Option.some.inj hsome, perform_eq hs.free]; rfl⟩
  | resume t =>
    dsimp only [StateStore.next] at hnext
    rcases hs.nobody t with hpc | hpc <;> rw [hpc] at hnext <;> cases hnext
  | cancel t =>
    dsimp only [StateStore.next] at hnext
    rcases hs.nobody t with hpc | hpc <;> rw [hpc] at hnext
    · cases hnext
    · exact ⟨t, .idle, .inl rfl, (Option.some.inj hnext).symm⟩

/-- A move leaves the lock free, and nobody at it. -/
theorem Calm.next (hs : s.Calm) (hnext : s.next a = some s') : s'.Calm := by
  obtain ⟨t, pc, hpc, rfl⟩ := next_calm hs hnext
  refine ⟨?_, fun i => ?_⟩
  · show (s.applied (s.performs a)).changed.free = true
    rw [applied_changed]
    exact hs.free
  · show (if i = t then pc else (s.applied (s.performs a)).pc i) = _ ∨
      (if i = t then pc else (s.applied (s.performs a)).pc i) = _
    rw [applied_pc]
    split
    · exact hpc
    · exact hs.nobody i

end StateStore

/-! ## Publications -/

/-- What was published, and what `bluetoothctl` said of the media, and the events of the answers. -/
structure StoreRecord where
  published : List BluetoothPublication := []
  media : List Fields := []
  announced : List Setter := []
deriving DecidableEq

/-- The events among some setters. -/
def Setter.isEmit : Setter → Bool
  | .emit _ _ => true
  | _ => false

/-- The record beside a move: what was published, what was said of the media. -/
def StoreRecord.write (s : StateStore) (r : StoreRecord) : StoreMove → StoreRecord
  | .publish _ p => { r with published := r.published ++ [p] }
  | .shown _ code stdout stderr =>
    match shownMedia code stdout stderr with
    | .ok media =>
      { r with
        media := r.media ++ [media]
        announced := r.announced ++ (s.answered code stdout stderr).filter Setter.isEmit }
    | .error _ => r
  | _ => r

/-- The store, with the record. -/
def storeRuns (maxEvents : Nat) : Machine (StateStore × StoreRecord) (ℚ × StoreMove) :=
  (stateStore maxEvents).recording {} fun s a r => r.write { s with now := a.1 } a.2

/-- The events of the answers that differ from the one before. -/
def changes (previous : Fields) : List Fields → List Setter
  | [] => []
  | media :: rest =>
    (if Dict.Same media previous ∨ isAvailable media = false then [] else [mediaUpdated media]) ++
      changes media rest

namespace StoreRecord

variable {maxEvents : Nat} {x x' : StateStore × StoreRecord} {a : ℚ × StoreMove}

/-- What is published last of a key. -/
def last (r : StoreRecord) (key : String) : Option Value :=
  r.published.reverse.findSome? fun p => Dict.get p.values key

/-- What was said last of the media. -/
def lastMedia (r : StoreRecord) : Fields := r.media.getLast?.getD []

/-- The dictionary is two independent ones. -/
structure Kept (x : StateStore × StoreRecord) : Prop where
  calm : x.1.Calm
  media : ∀ key, isMedia key = true → Dict.get x.1.bluetooth key = Dict.get x.2.lastMedia key
  rest : ∀ key, isMedia key = false → Dict.get x.1.bluetooth key = x.2.last key
  keys : ∀ e ∈ x.2.lastMedia, isMedia e.1 = true
  announced : x.2.announced = changes [] x.2.media

/-- No publication touches the media. -/
theorem values_not_media (p : BluetoothPublication) : ∀ e ∈ p.values, isMedia e.1 = false := by
  have hkeys : ∀ key ∈ ["enabled", "agent", "pairing", "error", "pairing_seconds", "trusted_devices",
      "bluetooth_volume", "bluetooth_volume_raw"], isMedia key = false := by decide
  intro e he
  apply hkeys
  cases p <;> simp only [BluetoothPublication.values, List.mem_cons, List.not_mem_nil, or_false] at he <;>
    rcases he with rfl | rfl | rfl <;> simp

/-- An answer is a dictionary of the media's keys. -/
theorem shownMedia_ok (code : ℤ) (stdout stderr : List Char) :
    ∃ media, shownMedia code stdout stderr = .ok media ∧ ∀ e ∈ media, isMedia e.1 = true := by
  unfold shownMedia
  split
  · obtain ⟨state, hstate⟩ := parsePlayerShow_ok stdout
    refine ⟨mediaFields state, by rw [hstate]; rfl, ?_⟩
    have hkeys : ∀ key ∈ ["media_available", "media_player_path", "media_player_name", "media_status",
        "media_position_ms", "media_track"], isMedia key = true := by decide
    intro e he
    apply hkeys
    cases state with
    | none =>
      obtain rfl := List.mem_singleton.mp he
      simp
    | some p =>
      simp only [mediaFields, List.mem_cons, List.not_mem_nil, or_false] at he
      rcases he with rfl | rfl | rfl | rfl | rfl | rfl <;> simp
  · refine ⟨_, rfl, ?_⟩
    have hkeys : ∀ key ∈ ["media_available", "media_error"], isMedia key = true := by decide
    intro e he
    apply hkeys
    simp only [List.mem_cons, List.not_mem_nil, or_false] at he
    rcases he with rfl | rfl <;> simp

/-- One answer more: an event if it differs and has a player. -/
theorem changes_append (previous : Fields) (l : List Fields) (media : Fields) :
    changes previous (l ++ [media]) = changes previous l ++
      if Dict.Same media (l.getLast?.getD previous) ∨ isAvailable media = false then []
      else [mediaUpdated media] := by
  induction l generalizing previous with
  | nil =>
    show (if _ then _ else _) ++ [] = [] ++ if _ then _ else _
    rw [List.append_nil, List.nil_append]
    rfl
  | cons m rest ih =>
    rw [List.cons_append, changes, ih, changes, List.append_assoc]
    cases rest with
    | nil => rfl
    | cons m' rest => rw [List.getLast?_cons_cons, List.getLast?_cons]; rfl

/-- Other setters leave Bluetooth's state alone. -/
theorem asked_bluetooth (s : StateStore) (f : Setter) :
    (s.applied (StateStore.asked f)).bluetooth = s.bluetooth := by
  cases f with
  | component name status message details =>
    unfold StateStore.asked
    dsimp only
    split <;> rfl
  | bluetooth state => rfl
  | emit event details => rfl
  | status => rfl
  | other => rfl

/-- What the media poll makes of Bluetooth's state. -/
theorem refreshed_bluetooth (s : StateStore) (media : Fields) :
    (s.applied (refreshed s.bluetooth media)).bluetooth =
      if Dict.Same media (Dict.keep isMedia s.bluetooth) then s.bluetooth
      else Dict.update (Dict.keep (fun key => !isMedia key) s.bluetooth) media := by
  unfold refreshed
  dsimp only
  split
  · rfl
  · split <;> rfl

/-- What it tells of the answer. -/
theorem refreshed_events (bluetooth media : Fields) :
    (refreshed bluetooth media).filter Setter.isEmit =
      if Dict.Same media (Dict.keep isMedia bluetooth) ∨ isAvailable media = false then []
      else [mediaUpdated media] := by
  unfold refreshed
  dsimp only
  by_cases hsame : Dict.Same media (Dict.keep isMedia bluetooth)
  · rw [if_pos hsame, if_pos (.inl hsame)]
    rfl
  · rw [if_neg hsame]
    cases havailable : isAvailable media with
    | false =>
      rw [if_neg Bool.false_ne_true, if_pos (.inr rfl)]
      rfl
    | true =>
      rw [if_pos rfl, if_neg (by simp [hsame])]
      rfl

/-- A publication leaves the media alone. -/
theorem Kept.publish (h : Kept x) (p : BluetoothPublication) {s' : StateStore} (hcalm : s'.Calm)
    (hbluetooth : s'.bluetooth = Dict.update x.1.bluetooth p.values) :
    Kept (s', { x.2 with published := x.2.published ++ [p] }) := by
  refine ⟨hcalm, fun key hkey => ?_, fun key hkey => ?_, h.keys, h.announced⟩
  · have hnone : Dict.get p.values key = none := Dict.get_eq_none fun e he heq => by
      rw [← heq, values_not_media p e he] at hkey
      cases hkey
    show Dict.get s'.bluetooth key = _
    rw [hbluetooth, Dict.get_update, hnone]
    exact h.media key hkey
  · show Dict.get s'.bluetooth key = _
    rw [hbluetooth, Dict.get_update, h.rest key hkey]
    show _ = ((x.2.published ++ [p]).reverse).findSome? _
    rw [List.reverse_append, List.reverse_singleton, List.singleton_append, List.findSome?_cons]
    cases Dict.get p.values key <;> rfl

/-- An answer leaves the rest alone. -/
theorem Kept.shown (h : Kept x) {media : Fields} (hmedia : ∀ e ∈ media, isMedia e.1 = true)
    {s' : StateStore} (hcalm : s'.Calm)
    (hbluetooth : s'.bluetooth = (x.1.applied (refreshed x.1.bluetooth media)).bluetooth) :
    Kept (s', { x.2 with
      media := x.2.media ++ [media]
      announced := x.2.announced ++ (refreshed x.1.bluetooth media).filter Setter.isEmit }) := by
  have hlast : (x.2.media ++ [media]).getLast?.getD [] = media := by
    rw [List.getLast?_concat]
    rfl
  have hother : ∀ key, isMedia key = false → Dict.get media key = none := fun key hkey =>
    Dict.get_eq_none fun e he heq => by
      rw [← heq, hmedia e he] at hkey
      cases hkey
  have hprevious : ∀ key, Dict.get (Dict.keep isMedia x.1.bluetooth) key = Dict.get x.2.lastMedia key := by
    intro key
    rw [Dict.get_keep]
    split
    · rename_i hkey
      exact h.media key hkey
    · rename_i hkey
      refine (Dict.get_eq_none fun e he heq => ?_).symm
      exact hkey (heq ▸ h.keys e he)
  have hsame : Dict.Same media (Dict.keep isMedia x.1.bluetooth) ↔ Dict.Same media x.2.lastMedia :=
    forall_congr' fun key => by rw [hprevious]
  have hget : (∀ key, isMedia key = true → Dict.get s'.bluetooth key = Dict.get media key) ∧
      ∀ key, isMedia key = false → Dict.get s'.bluetooth key = Dict.get x.1.bluetooth key := by
    rw [hbluetooth, refreshed_bluetooth]
    split
    · rename_i hkept
      exact ⟨fun key hkey => (h.media key hkey).trans (hsame.mp hkept key).symm, fun _ _ => rfl⟩
    · refine ⟨fun key hkey => ?_, fun key hkey => ?_⟩
      · rw [Dict.get_update, Dict.get_keep, if_neg (by simp [hkey]), Option.or_none]
      · rw [Dict.get_update, Dict.get_keep, if_pos (by simp [hkey]), hother key hkey, Option.none_or]
  refine ⟨hcalm, fun key hkey => ?_, fun key hkey => ?_, ?_, ?_⟩
  · show Dict.get s'.bluetooth key = Dict.get ((x.2.media ++ [media]).getLast?.getD []) key
    rw [hlast]
    exact hget.1 key hkey
  · exact (hget.2 key hkey).trans (h.rest key hkey)
  · show ∀ e ∈ (x.2.media ++ [media]).getLast?.getD [], _
    rw [hlast]
    exact hmedia
  · show x.2.announced ++ _ = changes [] (x.2.media ++ [media])
    rw [changes_append, h.announced, refreshed_events]
    congr 1
    exact if_congr (or_congr_left hsame) rfl rfl

/-- Every move keeps the books. -/
theorem Kept.next (h : Kept x) (hnext : (storeRuns maxEvents).next x a = some x') : Kept x' := by
  obtain ⟨hmove, hwrite⟩ := Machine.recording_next hnext
  obtain ⟨s', r'⟩ := x'
  obtain ⟨-, hmove⟩ := Option.ite_none_right_eq_some.mp hmove
  replace hmove : ({ x.1 with now := a.1 } : StateStore).next a.2 = some s' := hmove
  have hnow : Kept ({ x.1 with now := a.1 }, x.2) :=
    ⟨⟨h.calm.free, h.calm.nobody⟩, h.media, h.rest, h.keys, h.announced⟩
  have hcalm : s'.Calm := hnow.calm.next hmove
  obtain ⟨t, pc, -, hs'⟩ := StateStore.next_calm hnow.calm hmove
  have hbluetooth : s'.bluetooth =
      (({ x.1 with now := a.1 } : StateStore).applied
        (({ x.1 with now := a.1 } : StateStore).performs a.2)).bluetooth := by
    rw [hs']
    rfl
  obtain rfl : r' = _ := hwrite
  have hsame : s'.bluetooth = x.1.bluetooth → Kept (s', x.2) := fun heq =>
    ⟨hcalm, fun key hkey => by rw [← h.media key hkey, ← heq], fun key hkey => by
      rw [← h.rest key hkey, ← heq], h.keys, h.announced⟩
  cases haction : a.2 with
  | set t f =>
    rw [haction] at hbluetooth
    exact hsame (hbluetooth.trans (asked_bluetooth _ f))
  | publish t p =>
    rw [haction] at hbluetooth
    exact hnow.publish p hcalm hbluetooth
  | shown t code stdout stderr =>
    rw [haction] at hbluetooth
    obtain ⟨media, hmedia, hkeys⟩ := shownMedia_ok code stdout stderr
    have hanswered : ({ x.1 with now := a.1 } : StateStore).answered code stdout stderr =
        refreshed x.1.bluetooth media := by
      rw [StateStore.answered, hmedia]
    simp only [StoreRecord.write, hmedia]
    rw [hanswered]
    refine hnow.shown hkeys hcalm ?_
    rw [hbluetooth]
    exact congrArg (fun setters => (StateStore.applied _ setters).bluetooth) hanswered
  | refresh t | resume t | cancel t =>
    rw [haction] at hbluetooth
    exact hsame hbluetooth

/-- They are right in every state reached. -/
theorem Kept.reach (h : (storeRuns maxEvents).Reach Machine.anyMove x) : Kept x := by
  refine h.invariant ?_ fun x a x' hx _ hnext => hx.next hnext
  rintro ⟨s, r⟩ ⟨hs, hr⟩
  obtain rfl : s = _ := hs
  obtain rfl : r = _ := hr
  exact ⟨⟨rfl, fun _ => .inl rfl⟩, fun _ _ => rfl, fun _ _ => rfl, by simp [StoreRecord.lastMedia], rfl⟩

/-- **Publications are kept.**  However the tasks that publish Bluetooth's state interleave: no setter
    waits for the lock; each key of the media has what `bluetoothctl` said of it last, each other key
    the value that was published of it last; and an event tells of each answer with a player that
    differs from the answer before, and of no other. -/
theorem publications_kept (h : (storeRuns maxEvents).Reach Machine.anyMove x) :
    (x.1.changed.free = true ∧ ∀ t, x.1.pc t = .idle ∨ x.1.pc t = .showing) ∧
    (∀ key, Dict.get x.1.bluetooth key =
      if isMedia key then Dict.get x.2.lastMedia key else x.2.last key) ∧
    x.2.announced = changes [] x.2.media := by
  have hkept := Kept.reach h
  refine ⟨⟨hkept.calm.free, hkept.calm.nobody⟩, fun key => ?_, hkept.announced⟩
  split
  · rename_i hkey
    exact hkept.media key hkey
  · rename_i hkey
    exact hkept.rest key (Bool.eq_false_of_not_eq_true hkey)

/-- What `player.show` prints of a phone that plays. -/
def phoneText : List Char := "Player /player0 [default]\n\tStatus: playing".toList

/-- A phone plays, which is told of, and is taken away. -/
theorem publications_kept_phone :
    ∃ x, (storeRuns 100).Reach Machine.anyMove x ∧
      (x.1.changed.free = true ∧ ∀ t, x.1.pc t = .idle ∨ x.1.pc t = .showing) ∧
      Dict.get x.1.bluetooth "media_error" = some (.text "gone") ∧
      x.2.announced = [.emit "bluetooth_media_updated" [("status", .text "playing")]] := by
  obtain ⟨x, hx, herror, hchanges⟩ := Machine.exists_reach (m := storeRuns 100)
    (s := ({ maxEvents := 100 }, {}))
    (l := [(0, .publish 0 .agentStarted), (1, .refresh 1), (1, .publish 0 (.pairingOpened 60)),
      (2, .shown 1 0 phoneText []), (3, .publish 2 (.volume 40 51)), (4, .refresh 1),
      (5, .shown 1 1 [] " gone".toList)])
    (fun x => x.2.lastMedia = [("media_available", .bool false), ("media_error", .text "gone")] ∧
      changes [] x.2.media = [.emit "bluetooth_media_updated" [("status", .text "playing")]])
    ⟨rfl, rfl⟩ (by decide +kernel)
  obtain ⟨hcalm, hkeys, hannounced⟩ := publications_kept hx
  refine ⟨x, hx, hcalm, ?_, hannounced.trans hchanges⟩
  rw [hkeys, if_pos (by decide), herror]
  rfl

end StoreRecord

/-! ## Components, events and health -/

/-- The setters that were run, with their times. -/
def setterRuns (maxEvents : Nat) : Machine (StateStore × List (ℚ × Setter)) (ℚ × StoreMove) :=
  (stateStore maxEvents).recording [] fun s a done =>
    done ++ (({ s with now := a.1 } : StateStore).performs a.2).map (a.1, ·)

namespace StateStore

/-- The dictionaries that were given for a component. -/
def given (name : String) (done : List (ℚ × Setter)) : List (ℚ × Fields) :=
  done.filterMap fun d =>
    match d.2 with
    | .component n status message details =>
      if n = name then some (d.1, payload status message details d.1) else none
    | _ => none

/-- The events that were emitted. -/
def emitted (done : List (ℚ × Setter)) : List RecordedEvent :=
  done.filterMap fun d =>
    match d.2 with
    | .emit event details => some ⟨d.1, event, details⟩
    | _ => none

/-- The times at which a status was set. -/
def statusTimes (done : List (ℚ × Setter)) : List ℚ :=
  done.filterMap fun d => if d.2 = .status then some d.1 else none

/-- What is stored of a component: what was given last, dated by the first of the dictionaries that
    followed each other unchanged. -/
inductive Dated : Option Fields → List (ℚ × Fields) → Prop
  | never : Dated none []
  | since {stored : Fields} {before run : List (ℚ × Fields)} {first : ℚ × Fields} :
      (first :: run).IsChain (fun a b => Unchanged a.2 b.2) →
      (∀ b ∈ before.getLast?, ¬ Unchanged b.2 first.2) →
      Dict.get stored "updated_at" = some (.real first.1) →
      (∀ key, key ≠ "updated_at" → Dict.get stored key =
        Dict.get ((first :: run).getLast (List.cons_ne_nil _ _)).2 key) →
      Dated (some stored) (before ++ first :: run)

/-- A payload says when it was made, and of what status. -/
theorem get_payload {status message : String} {details : Details} {now : ℚ} :
    Dict.get (payload status message details now) "updated_at" = some (.real now) ∧
    Dict.get (payload status message details now) "status" = some (.text status) := by
  have hnone : ∀ key ∈ ["name", "status", "message", "updated_at"],
      Dict.get details.fields key = none := fun key hkey =>
    Dict.get_of_not_mem_keys (details.named key hkey)
  unfold payload
  rw [Dict.get_update, Dict.get_update, hnone "updated_at" (by decide), hnone "status" (by decide)]
  exact ⟨rfl, rfl⟩

/-- Whether a payload is unchanged does not depend on its date. -/
theorem unchanged_congr {f f' g : Fields}
    (h : ∀ key, key ≠ "updated_at" → Dict.get f key = Dict.get f' key) :
    Unchanged f g ↔ Unchanged f' g :=
  forall₃_congr fun key _ hkey => by rw [h key hkey]

theorem Dated.stamp_blank {now : ℚ} {g : Fields} (hg : Dict.get g "updated_at" = some (.real now)) :
    Dated (some (stamped none g)) ([] ++ [(now, g)]) :=
  .since (.singleton _) (fun _ hb => absurd hb (Option.not_mem_none _)) hg fun _ _ => rfl

/-- One more dictionary. -/
theorem Dated.stamp {stored : Option Fields} {l : List (ℚ × Fields)} (h : Dated stored l) {now : ℚ}
    {g : Fields} (hg : Dict.get g "updated_at" = some (.real now)) :
    Dated (some (stamped stored g)) (l ++ [(now, g)]) := by
  cases h with
  | never => exact Dated.stamp_blank hg
  | @since stored before run first hchain hbefore htime hrest =>
    unfold stamped
    dsimp only
    have hcongr : Unchanged stored g ↔
        Unchanged ((first :: run).getLast (List.cons_ne_nil _ _)).2 g := unchanged_congr hrest
    split
    · -- the run goes on, and its first dictionary dates it still
      rename_i hsame
      have hlast : (first :: (run ++ [(now, g)])).getLast (List.cons_ne_nil _ _) = (now, g) :=
        List.getLast_append_singleton (first :: run)
      have hmore : (first :: (run ++ [(now, g)])).IsChain fun a b => Unchanged a.2 b.2 := by
        refine List.isChain_append.mpr ⟨hchain, .singleton _, fun b hb c hc => ?_⟩
        obtain rfl : (now, g) = c := Option.some.inj hc
        rw [List.getLast?_eq_some_getLast (List.cons_ne_nil first run)] at hb
        obtain rfl := Option.some.inj hb
        exact hcongr.mp hsame
      rw [List.append_assoc]
      refine .since hmore hbefore ?_ fun key hkey => ?_
      · rw [Dict.get_cons, if_pos rfl, htime]
        rfl
      · rw [Dict.get_cons, if_neg hkey]
        exact (congrArg (fun b => Dict.get b.2 key) hlast).symm
    · -- a run of its own begins, after all that was given before
      rename_i hchanged
      have hlast : ∀ b ∈ (before ++ first :: run).getLast?, ¬ Unchanged b.2 g := by
        intro b hb hsame
        rw [List.getLast?_append, List.getLast?_eq_some_getLast (List.cons_ne_nil first run)] at hb
        obtain rfl := Option.some.inj hb
        exact hchanged (hcongr.mpr hsame)
      exact .since (.singleton _) hlast hg fun _ _ => rfl

/-- The entries of a dictionary of a component are those of the last one given. -/
theorem Dated.status {stored : Option Fields} {l : List (ℚ × Fields)} (h : Dated stored l) :
    stored.bind (Dict.get · "status") = l.getLast?.bind fun g => Dict.get g.2 "status" := by
  cases h with
  | never => rfl
  | since _ _ _ hrest =>
    rw [List.getLast?_append, List.getLast?_eq_some_getLast (List.cons_ne_nil _ _)]
    exact hrest "status" (by decide)

/-- `deque.append` of a full deque drops the oldest. -/
theorem rtake_append_rtake {α : Type} (l : List α) (e : α) (n : Nat) :
    (l.rtake n ++ [e]).rtake n = (l ++ [e]).rtake n := by
  cases n with
  | zero => simp
  | succ n =>
    rw [List.rtake_concat_succ, List.rtake_concat_succ, List.rtake_eq_reverse_take_reverse,
      List.rtake_eq_reverse_take_reverse, List.reverse_reverse, List.take_take,
      min_eq_left (Nat.le_succ n), ← List.rtake_eq_reverse_take_reverse]

/-- The fields are what was done to them. -/
structure Accounted (s : StateStore) (done : List (ℚ × Setter)) : Prop where
  components : ∀ name, Dated (Dict.get s.components name) (given name done)
  events : s.events = (emitted done).rtake s.maxEvents
  status : s.lastStatusMonotonic = (statusTimes done).getLast?

/-- A setter is run. -/
theorem Accounted.apply {done : List (ℚ × Setter)} (h : Accounted s done) (f : Setter) :
    Accounted (s.apply f) (done ++ [(s.now, f)]) := by
  refine ⟨fun name => ?_, ?_, ?_⟩
  · have hname := h.components name
    have hgiven : given name (done ++ [(s.now, f)]) = given name done ++ given name [(s.now, f)] :=
      List.filterMap_append
    rw [hgiven]
    cases f with
    | component n status message details =>
      show Dated (Dict.get ((n, _) :: s.components) name) _
      rw [Dict.get_cons]
      by_cases hn : name = n
      · subst hn
        have hone : given name [(s.now, .component name status message details)] =
            [(s.now, payload status message details s.now)] := by simp [given]
        rw [if_pos rfl, hone]
        exact hname.stamp get_payload.1
      · have hnothing : given name [(s.now, .component n status message details)] = [] := by
          simp [given, Ne.symm hn]
        rw [if_neg hn, hnothing, List.append_nil]
        exact hname
    | bluetooth state | emit event details | status | other =>
      exact (List.append_nil (given name done)).symm ▸ hname
  · rw [emitted, List.filterMap_append]
    cases f with
    | emit event details =>
      show (s.events ++ [_]).rtake s.maxEvents = (emitted done ++ [_]).rtake s.maxEvents
      rw [h.events, rtake_append_rtake]
    | component n status message details | bluetooth state | status | other =>
      exact h.events.trans (congrArg (List.rtake · s.maxEvents) (List.append_nil (emitted done)).symm)
  · rw [statusTimes, List.filterMap_append]
    cases f with
    | status => exact (List.getLast?_concat (l := statusTimes done)).symm
    | component n status message details | bluetooth state | emit event details | other =>
      exact h.status.trans (congrArg List.getLast? (List.append_nil (statusTimes done)).symm)

theorem apply_now (s : StateStore) (f : Setter) : (s.apply f).now = s.now := by
  cases f <;> rfl

/-- Some setters, one after another. -/
theorem Accounted.applied {done : List (ℚ × Setter)} (h : Accounted s done) (setters : List Setter) :
    Accounted (s.applied setters) (done ++ setters.map (s.now, ·)) := by
  induction setters generalizing s done with
  | nil => exact (List.append_nil done).symm ▸ h
  | cons f rest ih =>
    have hrest := ih (h.apply f)
    rw [apply_now, List.append_assoc] at hrest
    exact hrest

theorem apply_maxEvents (s : StateStore) (f : Setter) : (s.apply f).maxEvents = s.maxEvents := by
  cases f <;> rfl

theorem applied_maxEvents (s : StateStore) (setters : List Setter) :
    (s.applied setters).maxEvents = s.maxEvents := by
  induction setters generalizing s with
  | nil => rfl
  | cons f rest ih => exact (ih _).trans (apply_maxEvents s f)

variable {maxEvents : Nat} {x : StateStore × List (ℚ × Setter)}

/-- The accounts are right in every state reached. -/
theorem Accounted.reach (h : (setterRuns maxEvents).Reach Machine.anyMove x) :
    x.1.Calm ∧ x.1.maxEvents = maxEvents ∧ Accounted x.1 x.2 := by
  refine h.invariant (I := fun x => x.1.Calm ∧ x.1.maxEvents = maxEvents ∧ Accounted x.1 x.2) ?_
    fun x a x' hx _ hnext => ?_
  · rintro ⟨s, done⟩ ⟨hs, hdone⟩
    obtain rfl : s = _ := hs
    obtain rfl : done = _ := hdone
    exact ⟨⟨rfl, fun _ => .inl rfl⟩, rfl, fun _ => .never, (List.rtake_nil _).symm, rfl⟩
  · obtain ⟨hcalm, hmax, haccounted⟩ := hx
    obtain ⟨hmove, hwrite⟩ := Machine.recording_next hnext
    obtain ⟨-, hmove⟩ := Option.ite_none_right_eq_some.mp hmove
    have hnow : ({ x.1 with now := a.1 } : StateStore).Calm := ⟨hcalm.free, hcalm.nobody⟩
    obtain ⟨t, pc, -, hs'⟩ := next_calm hnow hmove
    refine ⟨hnow.next hmove, ?_, ?_⟩
    · rw [hs']
      exact (applied_maxEvents _ _).trans hmax
    · have hdone := Accounted.applied (s := { x.1 with now := a.1 })
        ⟨haccounted.components, haccounted.events, haccounted.status⟩
        (({ x.1 with now := a.1 } : StateStore).performs a.2)
      rw [hs', hwrite]
      exact ⟨hdone.components, hdone.events, hdone.status⟩

/-- A component has the status that was given last. -/
theorem mem_withStatus {done : List (ℚ × Setter)} (h : Accounted s done) {name status : String} :
    name ∈ s.withStatus status ↔
      ∃ g ∈ (given name done).getLast?, Dict.get g.2 "status" = some (.text status) := by
  -- the names of the components are the keys that have a dictionary
  have hname : name ∈ s.withStatus status ↔
      (Dict.get s.components name).bind (Dict.get · "status") = some (.text status) := by
    rw [withStatus, List.mem_mergeSort, List.mem_filter, List.mem_dedup, decide_eq_true_iff]
    refine and_iff_right_of_imp fun hstatus => by_contra fun hnone => ?_
    rw [Dict.get_of_not_mem_keys hnone] at hstatus
    cases hstatus
  rw [hname, (h.components name).status, Option.bind_eq_some_iff]
  exact Iff.rfl

/-- **The store keeps what it was told.**  In every run of any setters of any tasks: a component has
    what was given for it last, dated by the first of the unchanged ones up to it; the events are the
    last ones; and the store is operational just while a status was set lately and no component was
    last given as failed. -/
theorem components_kept (h : (setterRuns maxEvents).Reach Machine.anyMove x) :
    (∀ name, Dated (Dict.get x.1.components name) (given name x.2)) ∧
    x.1.events = (emitted x.2).rtake maxEvents ∧
    ∀ now staleAfterSeconds, (x.1.healthSnapshot now staleAfterSeconds).operational = true ↔
      (∃ t ∈ (statusTimes x.2).getLast?, max 0 (now - t) ≤ staleAfterSeconds) ∧
      ∀ name, ∀ g ∈ (given name x.2).getLast?, Dict.get g.2 "status" ≠ some (.text "failed") := by
  obtain ⟨-, hmax, haccounted⟩ := Accounted.reach h
  refine ⟨haccounted.components, hmax ▸ haccounted.events, fun now staleAfterSeconds => ?_⟩
  have hfresh : ((x.1.lastStatusMonotonic.map fun last => max 0 (now - last)).any
      fun age => decide (age ≤ staleAfterSeconds)) = true ↔
      ∃ t ∈ (statusTimes x.2).getLast?, max 0 (now - t) ≤ staleAfterSeconds := by
    rw [haccounted.status]
    cases (statusTimes x.2).getLast? with
    | none => simp
    | some t => simp
  have hfailed : (x.1.withStatus "failed").isEmpty = true ↔
      ∀ name, ∀ g ∈ (given name x.2).getLast?, Dict.get g.2 "status" ≠ some (.text "failed") := by
    rw [List.isEmpty_iff, List.eq_nil_iff_forall_not_mem]
    refine forall_congr' fun name => ?_
    rw [mem_withStatus haccounted]
    exact ⟨fun hnone g hg hstatus => hnone ⟨g, hg, hstatus⟩, fun hall ⟨g, hg, hstatus⟩ => hall g hg hstatus⟩
  exact (Bool.and_eq_true _ _).to_iff.trans (and_congr hfresh hfailed)

/-- The router is found well twice, and then a status is set. -/
theorem components_kept_router :
    ∃ x, (setterRuns 100).Reach Machine.anyMove x ∧
      (Dict.get x.1.components "router").bind (Dict.get · "updated_at") = some (.real 0) ∧
      (∀ name, Dated (Dict.get x.1.components name) (given name x.2)) ∧
      ∀ name, ∀ g ∈ (given name x.2).getLast?, Dict.get g.2 "status" ≠ some (.text "failed") := by
  obtain ⟨x, hx, hsince, hoperational⟩ := Machine.exists_reach (m := setterRuns 100)
    (s := ({ maxEvents := 100 }, []))
    (l := [(0, .set 0 (.component "router" "ok" "" ⟨[], fun _ _ => List.not_mem_nil⟩)),
      (5, .set 0 (.component "router" "ok" "" ⟨[], fun _ _ => List.not_mem_nil⟩)), (7, .set 1 .status)])
    (fun x => (Dict.get x.1.components "router").bind (Dict.get · "updated_at") = some (.real 0) ∧
      (x.1.healthSnapshot 9 3).operational = true)
    ⟨rfl, rfl⟩ (by decide +kernel)
  obtain ⟨hdated, -, hhealth⟩ := components_kept hx
  exact ⟨x, hx, hsince, hdated, ((hhealth 9 3).mp hoperational).2⟩

end StateStore

end PhonoConsole
