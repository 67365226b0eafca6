/-
  A START AFTER A STOP: `play_vinyl_source` and `stop_players` (`phono_console/ma.py`) of any
  number of tasks, for one source and one target.

  A stop first empties the table of play requests and cancels what was in flight, then connects,
  and only then sends its stop command.  Nothing serialises these awaits with the starts of other
  tasks: a request submitted in between may be played by Music Assistant BEFORE the stop command
  and stay in the table AFTER it, as a request that is still settling.

  * `Playback`, `playback` — the request tasks, the stops and the calls of `play_vinyl_source`,
    each advanced one await at a time, and the commands numbered as Music Assistant receives them;
  * `StopsFindNothing`     — the condition: a stop command does not arrive while a request that
    Music Assistant has already received is in the table;
  * `Playback.Ordered`     — the invariant: what is in the table, or was joined after a stop has
    returned, is received after that stop's command;
  * `start_after_stop`     — so a start that begins after a stop really starts.
-/
import PhonoConsole.Lib.Machine
import PhonoConsole.MusicAssistant

namespace PhonoConsole

/-! ## The tasks -/

/-- How far `_play_vinyl_source_once` has got. -/
inductive RequestStage
  /-- at `ma_play_media_submitted` or `_ensure_connected` -/
  | connecting
  /-- the target was not found -/
  | missing
  /-- `play_media` is on its way -/
  | sent
  /-- Music Assistant has received `play_media`, as its command `number` -/
  | received (number : Nat)
deriving DecidableEq

/-- Music Assistant has received the play command. -/
def RequestStage.isReceived : RequestStage → Bool
  | .received _ => true
  | _ => false

/-- How far a `stop_players` call has got. -/
inductive StopStage
  /-- in the `gather` of `invalidate_play_requests` -/
  | gathering (tasks : List Nat)
  /-- in `_ensure_connected` -/
  | connecting
  /-- the stop command is on its way -/
  | sent
  /-- Music Assistant has received the stop command -/
  | received (number : Nat)
  | returned
  | raised
deriving DecidableEq

/-- A `play_vinyl_source` call: the request it awaits, the stop commands of the calls that had
    returned when it began, and how it ended. -/
structure PlayCall where
  requestId : Nat
  after : List Nat
  outcome : Option (Except Exc (List String)) := none

/-- The request table, the tasks, and the number of commands that Music Assistant has received,
    with those of the stops, and of the stops that have returned. -/
structure Playback where
  requests : PlayRequests := {}
  stage : Nat → RequestStage := fun _ => .connecting
  stops : List StopStage := []
  calls : List PlayCall := []
  commands : Nat := 0
  stopCommands : List Nat := []
  returned : List Nat := []

/-- One await of one of the tasks comes back, or a new call begins. -/
inductive PlaybackMove
  /-- `play_vinyl_source` joins a request or submits one -/
  | play (now : ℚ)
  /-- the request awaited by a call is done -/
  | resume (call : Nat)
  /-- the caller is cancelled: `shield` keeps the request running -/
  | abandon (call : Nat)
  /-- a request is connected, and looks its target up -/
  | send (requestId : Nat) (found : Bool)
  | playReceived (requestId : Nat)
  | requestReturns (requestId : Nat) (playerId : String)
  | requestRaises (requestId : Nat) (text : String)
  /-- the cancellation reaches the request's task -/
  | requestCancelled (requestId : Nat)
  /-- `stop_players` begins, and invalidates -/
  | stop
  | gathered (stop : Nat)
  /-- a stop is connected, and looks its target up -/
  | sendStop (stop : Nat) (found : Bool)
  | stopReceived (stop : Nat)
  | stopReturns (stop : Nat)
  /-- a stop fails, or its caller is cancelled -/
  | stopRaises (stop : Nat)

namespace Playback

/-- The task of a submitted request that is not done. -/
def unfinished (s : Playback) (id : Nat) : Bool :=
  decide (id ≤ s.requests.sequence) && !(s.requests.task id).isDone

section Moves

variable (key : PlayKey) (timeout : ℚ)

/-- Console, requests and Music Assistant after a move. -/
def next (s : Playback) : PlaybackMove → Option Playback
  | .play now =>
    let (requests, requestId) := s.requests.playVinylSource key now timeout
    some { s with requests, calls := s.calls ++ [{ requestId, after := s.returned }] }
  | .resume i =>
    match s.calls[i]? with
    | some call =>
      match call.outcome, s.requests.task call.requestId with
      | none, .done (.error (.exception text)) =>
        some { s with
          requests := s.requests.forget key call.requestId
          calls := s.calls.set i { call with outcome := some (.error (.exception text)) } }
      | none, .done result =>
        some { s with calls := s.calls.set i { call with outcome := some result } }
      | _, _ => none
    | none => none
  | .abandon i =>
    match s.calls[i]? with
    | some call =>
      match call.outcome with
      | none => some { s with calls := s.calls.set i { call with outcome := some (.error .cancelled) } }
      | some _ => none
    | none => none
  | .send id found =>
    if s.unfinished id && s.requests.task id == .running && s.stage id == .connecting then
      some { s with stage := Function.update s.stage id (if found then .sent else .missing) }
    else none
  | .playReceived id =>
    if s.stage id = .sent then
      some { s with
        stage := Function.update s.stage id (.received s.commands)
        commands := s.commands + 1 }
    else none
  | .requestReturns id playerId =>
    if s.unfinished id && s.requests.task id == .running then
      match s.stage id with
      | .received _ => some { s with requests := s.requests.settle id (.ok [playerId]) }
      | .missing => some { s with requests := s.requests.settle id (.ok []) }
      | _ => none
    else none
  | .requestRaises id text =>
    if s.unfinished id then
      some { s with requests := s.requests.settle id (.error (.exception text)) }
    else none
  | .requestCancelled id =>
    if s.requests.task id = .cancelling then
      some { s with requests := s.requests.settle id (.error .cancelled) }
    else none
  | .stop =>
    some { s with
      requests := s.requests.invalidate
      stops := s.stops ++ [.gathering (s.requests.entries.map fun e => e.2.requestId)] }
  | .gathered i =>
    match s.stops[i]? with
    | some (.gathering tasks) =>
      if tasks.all fun id => (s.requests.task id).isDone then
        some { s with stops := s.stops.set i .connecting }
      else none
    | _ => none
  | .sendStop i found =>
    match s.stops[i]? with
    | some .connecting => some { s with stops := s.stops.set i (if found then .sent else .returned) }
    | _ => none
  | .stopReceived i =>
    match s.stops[i]? with
    | some .sent =>
      some { s with
        stops := s.stops.set i (.received s.commands)
        commands := s.commands + 1
        stopCommands := s.commands :: s.stopCommands }
    | _ => none
  | .stopReturns i =>
    match s.stops[i]? with
    | some (.received number) =>
      some { s with stops := s.stops.set i .returned, returned := number :: s.returned }
    | _ => none
  | .stopRaises i =>
    match s.stops[i]? with
    | some .returned | some .raised | none => none
    | some _ => some { s with stops := s.stops.set i .raised }

end Moves

end Playback

/-- Runs of the calls for one source and target, with any delays of Music Assistant. -/
def playback (key : PlayKey) (timeout : ℚ) : Machine Playback PlaybackMove where
  init s := s = {}
  next := Playback.next key timeout

/-- A stop command does not arrive while a request that Music Assistant has received before is
    in the table. -/
def StopsFindNothing (s : Playback) : PlaybackMove → Prop
  | .stopReceived _ => ∀ e ∈ s.requests.entries, (s.stage e.2.requestId).isReceived = false
  | _ => True

namespace Playback

variable {key : PlayKey} {timeout : ℚ} {s s' : Playback}

/-! ## The order of the commands -/

/-- If Music Assistant has received the request `id`, it did so after the commands `l`. -/
def Follows (s : Playback) (id : Nat) (l : List Nat) : Prop :=
  ∀ n, s.stage id = .received n → ∀ k ∈ l, k < n

/-- What is in the table, and what was joined after a stop had returned, is received after the
    command of that stop. -/
structure Ordered (s : Playback) : Prop where
  unborn : ∀ id, s.requests.sequence < id → s.stage id = .connecting
  received : ∀ id n, s.stage id = .received n → n < s.commands
  stopped : ∀ k ∈ s.stopCommands, k < s.commands
  stops : ∀ k, .received k ∈ s.stops → k ∈ s.stopCommands
  returned : ∀ k ∈ s.returned, k ∈ s.stopCommands
  cached : ∀ e ∈ s.requests.entries,
    e.2.requestId ≤ s.requests.sequence ∧ s.Follows e.2.requestId s.stopCommands
  calls : ∀ c ∈ s.calls, c.requestId ≤ s.requests.sequence ∧ (∀ k ∈ c.after, k ∈ s.stopCommands) ∧
    s.Follows c.requestId c.after

/-- What a move without a command keeps: it may drop entries, end calls and let stops return. -/
structure Kept (s s' : Playback) : Prop where
  stage : s'.stage = s.stage := by rfl
  commands : s'.commands = s.commands := by rfl
  stopCommands : s'.stopCommands = s.stopCommands := by rfl
  sequence : s'.requests.sequence = s.requests.sequence := by rfl
  stops : ∀ k, .received k ∈ s'.stops → .received k ∈ s.stops := by exact fun _ h => h
  returned : ∀ k ∈ s'.returned, k ∈ s.returned ∨ .received k ∈ s.stops := by
    exact fun _ h => .inl h
  entries : ∀ e ∈ s'.requests.entries, e ∈ s.requests.entries := by exact fun _ h => h
  calls : ∀ c ∈ s'.calls, ∃ c' ∈ s.calls, c.requestId = c'.requestId ∧ c.after = c'.after := by
    exact fun c h => ⟨c, h, rfl, rfl⟩

theorem Follows.congr {id : Nat} {l : List Nat} (h : s.Follows id l) (hstage : s'.stage = s.stage) :
    s'.Follows id l := by
  unfold Follows
  rw [hstage]
  exact h

theorem Ordered.kept (h : s.Ordered) (hk : Kept s s') : s'.Ordered where
  unborn id hid := by
    rw [hk.stage]
    exact h.unborn id (hk.sequence ▸ hid)
  received id n hn := by
    rw [hk.commands]
    exact h.received id n (hk.stage ▸ hn)
  stopped k hm := by
    rw [hk.commands]
    exact h.stopped k (hk.stopCommands ▸ hm)
  stops k hm := by
    rw [hk.stopCommands]
    exact h.stops k (hk.stops k hm)
  returned k hm := by
    rw [hk.stopCommands]
    exact (hk.returned k hm).elim (h.returned k) (h.stops k)
  cached e he := by
    obtain ⟨hle, hfollows⟩ := h.cached e (hk.entries e he)
    rw [hk.sequence, hk.stopCommands]
    exact ⟨hle, hfollows.congr hk.stage⟩
  calls c hc := by
    obtain ⟨c', hc', hid, hafter⟩ := hk.calls c hc
    obtain ⟨hle, hmem, hfollows⟩ := h.calls c' hc'
    rw [hid, hafter, hk.sequence, hk.stopCommands]
    exact ⟨hle, hmem, hfollows.congr hk.stage⟩

/-- A request that has not been received follows everything. -/
theorem follows_of_not_received {id : Nat} {l : List Nat} (h : ∀ n, s.stage id ≠ .received n) :
    s.Follows id l :=
  fun n hn => absurd hn (h n)

/-- `play_vinyl_source` joins a request of the table, or submits the next one. -/
theorem playVinylSource_cases (r : PlayRequests) (key : PlayKey) (now timeout : ℚ) :
    (∃ e ∈ r.entries, r.playVinylSource key now timeout = (r, e.2.requestId)) ∨
    r.playVinylSource key now timeout = r.submit key now timeout := by
  unfold PlayRequests.playVinylSource
  split
  · rename_i e hlookup
    split
    · obtain ⟨k, hmem⟩ := PlayRequests.mem_of_lookup hlookup
      exact .inl ⟨(k, e), hmem, rfl⟩
    · exact .inr rfl
  · exact .inr rfl

theorem Ordered.play (h : s.Ordered) {now : ℚ} (hnext : next key timeout s (.play now) = some s') :
    s'.Ordered := by
  rcases playVinylSource_cases s.requests key now timeout with ⟨e, he, hr⟩ | hr
  · -- joined: the entry is received after every stop command so far
    simp only [next, hr, Option.some.injEq] at hnext
    subst hnext
    obtain ⟨hle, hfollows⟩ := h.cached e he
    refine { h with calls := fun c hc => ?_ }
    rcases List.mem_append.mp hc with hc | hc
    · exact h.calls c hc
    · obtain rfl := List.mem_singleton.mp hc
      exact ⟨hle, h.returned, fun n hn k hk => hfollows n hn k (h.returned k hk)⟩
  · -- submitted: the new request has not been received
    simp only [next, hr, Option.some.injEq] at hnext
    subst hnext
    have hnew : ∀ n, s.stage (s.requests.sequence + 1) ≠ .received n := by
      intro n hn
      rw [h.unborn _ (Nat.lt_succ_self _)] at hn
      exact nomatch hn
    refine { h with unborn := fun id hid => ?_, cached := fun e he => ?_, calls := fun c hc => ?_ }
    · exact h.unborn id (Nat.lt_of_succ_lt hid)
    · rcases List.mem_cons.mp he with rfl | he
      · exact ⟨Nat.le_refl _, follows_of_not_received hnew⟩
      · obtain ⟨hle, hfollows⟩ := h.cached e (List.mem_filter.mp he).1
        exact ⟨Nat.le_succ_of_le hle, hfollows⟩
    · rcases List.mem_append.mp hc with hc | hc
      · obtain ⟨hle, hrest⟩ := h.calls c hc
        exact ⟨Nat.le_succ_of_le hle, hrest⟩
      · obtain rfl := List.mem_singleton.mp hc
        exact ⟨Nat.le_refl _, h.returned, follows_of_not_received hnew⟩

/-- The stage of one request changes without it being received. -/
theorem Ordered.update (h : s.Ordered) {id : Nat} {stage : RequestStage}
    (hid : id ≤ s.requests.sequence) (hstage : ∀ n, stage ≠ .received n) :
    Ordered { s with stage := Function.update s.stage id stage } := by
  have hback : ∀ i n, Function.update s.stage id stage i = .received n → s.stage i = .received n := by
    intro i n hn
    by_cases hi : i = id
    · subst hi
      rw [Function.update_self] at hn
      exact absurd hn (hstage n)
    · rwa [Function.update_of_ne hi] at hn
  refine { h with unborn := fun i hi => ?_, received := fun i n hn => ?_,
                  cached := fun e he => ?_, calls := fun c hc => ?_ }
  · show Function.update s.stage id stage i = _
    rw [Function.update_of_ne (Nat.ne_of_gt (Nat.lt_of_le_of_lt hid hi))]
    exact h.unborn i hi
  · exact h.received i n (hback i n hn)
  · exact ⟨(h.cached e he).1, fun n hn => (h.cached e he).2 n (hback _ n hn)⟩
  · exact ⟨(h.calls c hc).1, (h.calls c hc).2.1, fun n hn => (h.calls c hc).2.2 n (hback _ n hn)⟩

/-- Music Assistant receives a `play_media`: it comes after every command so far. -/
theorem Ordered.playReceived (h : s.Ordered) {id : Nat} (hsent : s.stage id = .sent) :
    Ordered { s with
      stage := Function.update s.stage id (.received s.commands)
      commands := s.commands + 1 } := by
  have hborn : id ≤ s.requests.sequence := by
    by_contra hgt
    rw [h.unborn id (Nat.lt_of_not_le hgt)] at hsent
    exact nomatch hsent
  have hnew : ∀ i n, Function.update s.stage id (.received s.commands) i = .received n →
      (i = id ∧ n = s.commands) ∨ s.stage i = .received n := by
    intro i n hn
    by_cases hi : i = id
    · subst hi
      rw [Function.update_self] at hn
      exact .inl ⟨rfl, (RequestStage.received.inj hn).symm⟩
    · rw [Function.update_of_ne hi] at hn
      exact .inr hn
  refine { h with unborn := fun i hi => ?_, received := fun i n hn => ?_,
                  stopped := fun k hk => ?_, cached := fun e he => ?_, calls := fun c hc => ?_ }
  · show Function.update s.stage id _ i = _
    rw [Function.update_of_ne (Nat.ne_of_gt (Nat.lt_of_le_of_lt hborn hi))]
    exact h.unborn i hi
  · rcases hnew i n hn with ⟨-, rfl⟩ | hn
    · exact Nat.lt_succ_self _
    · exact Nat.lt_succ_of_lt (h.received i n hn)
  · exact Nat.lt_succ_of_lt (h.stopped k hk)
  · refine ⟨(h.cached e he).1, fun n hn k hk => ?_⟩
    rcases hnew _ n hn with ⟨-, rfl⟩ | hn
    · exact h.stopped k hk
    · exact (h.cached e he).2 n hn k hk
  · obtain ⟨hle, hmem, hfollows⟩ := h.calls c hc
    refine ⟨hle, hmem, fun n hn k hk => ?_⟩
    rcases hnew _ n hn with ⟨-, rfl⟩ | hn
    · exact h.stopped k (hmem k hk)
    · exact hfollows n hn k hk

/-- Music Assistant receives a stop command and finds none of the table's requests. -/
theorem Ordered.stopReceived (h : s.Ordered) {i : Nat}
    (hnone : ∀ e ∈ s.requests.entries, (s.stage e.2.requestId).isReceived = false) :
    Ordered { s with
      stops := s.stops.set i (.received s.commands)
      commands := s.commands + 1
      stopCommands := s.commands :: s.stopCommands } := by
  refine { h with received := fun id n hn => ?_, stopped := fun k hk => ?_, stops := fun k hk => ?_,
                  returned := fun k hk => ?_, cached := fun e he => ?_, calls := fun c hc => ?_ }
  · exact Nat.lt_succ_of_lt (h.received id n hn)
  · rcases List.mem_cons.mp hk with rfl | hk
    · exact Nat.lt_succ_self _
    · exact Nat.lt_succ_of_lt (h.stopped k hk)
  · rcases List.mem_or_eq_of_mem_set hk with hk | hk
    · exact List.mem_cons_of_mem _ (h.stops k hk)
    · rw [StopStage.received.inj hk]
      exact List.mem_cons_self
  · exact List.mem_cons_of_mem _ (h.returned k hk)
  · refine ⟨(h.cached e he).1, follows_of_not_received fun n hn => ?_⟩
    have hno := hnone e he
    rw [hn] at hno
    exact nomatch hno
  · obtain ⟨hle, hmem, hfollows⟩ := h.calls c hc
    exact ⟨hle, fun k hk => List.mem_cons_of_mem _ (hmem k hk), hfollows⟩

/-! ## What the other moves keep -/

/-- The calls after one of them has ended. -/
theorem calls_set {i : Nat} {call : PlayCall} {outcome : Option (Except Exc (List String))}
    (hcall : s.calls[i]? = some call) :
    ∀ c ∈ s.calls.set i { call with outcome }, ∃ c' ∈ s.calls,
      c.requestId = c'.requestId ∧ c.after = c'.after := by
  intro c hc
  rcases List.mem_or_eq_of_mem_set hc with hc | rfl
  · exact ⟨c, hc, rfl, rfl⟩
  · exact ⟨call, List.mem_of_getElem? hcall, rfl, rfl⟩

/-- The stops after one of them has gone on without a command being received. -/
theorem stops_set {i : Nat} {stage : StopStage} (hstage : ∀ k, stage ≠ .received k) :
    ∀ k, .received k ∈ s.stops.set i stage → .received k ∈ s.stops := by
  intro k hk
  rcases List.mem_or_eq_of_mem_set hk with hk | hk
  · exact hk
  · exact absurd hk.symm (hstage k)

theorem forget_entries {r : PlayRequests} {id : Nat} :
    ∀ e ∈ (r.forget key id).entries, e ∈ r.entries := by
  unfold PlayRequests.forget
  split
  · split
    · exact fun e he => (List.mem_filter.mp he).1
    · exact fun e he => he
  · exact fun e he => he

theorem forget_sequence {r : PlayRequests} {id : Nat} :
    (r.forget key id).sequence = r.sequence := by
  unfold PlayRequests.forget
  split
  · split <;> rfl
  · rfl

theorem unfinished_le {id : Nat} (h : s.unfinished id = true) : id ≤ s.requests.sequence := by
  simp only [unfinished, Bool.and_eq_true, decide_eq_true_eq] at h
  exact h.1

/-! ## The results of the calls -/

/-- What every move does to the tasks and the calls: a finished task stays as it is, a task that
    finishes with a player has been received, and a call ends with the result of its task. -/
structure Advances (s s' : Playback) : Prop where
  task : ∀ id ≤ s.requests.sequence, (s.requests.task id).isDone = true →
    s'.requests.task id = s.requests.task id := by exact fun _ _ _ => rfl
  stage : ∀ id n, s.stage id = .received n → s'.stage id = .received n := by exact fun _ _ h => h
  started : ∀ id players, s'.requests.task id = .done (.ok players) → players ≠ [] →
    s.requests.task id = .done (.ok players) ∨ ∃ n, s'.stage id = .received n := by
      exact fun _ _ h _ => .inl h
  outcomes : ∀ c ∈ s'.calls, ∀ players, c.outcome = some (.ok players) →
    c ∈ s.calls ∨ s.requests.task c.requestId = .done (.ok players) ∧
      c.requestId ≤ s.requests.sequence := by exact fun _ h _ _ => .inl h

/-- A task that finishes with a player has been received, and a call that returned has the result
    of its task. -/
structure Settled (s : Playback) : Prop where
  started : ∀ id players, s.requests.task id = .done (.ok players) → players ≠ [] →
    ∃ n, s.stage id = .received n
  outcomes : ∀ c ∈ s.calls, ∀ players, c.outcome = some (.ok players) →
    s.requests.task c.requestId = .done (.ok players)

theorem Settled.advances (h : s.Settled) (ho : s.Ordered) (ha : Advances s s') : s'.Settled where
  started id players hdone hne := by
    rcases ha.started id players hdone hne with hold | hnew
    · obtain ⟨n, hn⟩ := h.started id players hold hne
      exact ⟨n, ha.stage id n hn⟩
    · exact hnew
  outcomes c hc players hout := by
    have hback : s.requests.task c.requestId = .done (.ok players) ∧
        c.requestId ≤ s.requests.sequence := by
      rcases ha.outcomes c hc players hout with hold | hnew
      · exact ⟨h.outcomes c hold players hout, (ho.calls c hold).1⟩
      · exact hnew
    rw [ha.task c.requestId hback.2 (by rw [hback.1]; rfl), hback.1]

/-- A request's task ends. -/
theorem advances_settle {id : Nat} {result : Except Exc (List String)}
    (hopen : (s.requests.task id).isDone = false)
    (hplayed : ∀ players, result = .ok players → players ≠ [] → ∃ n, s.stage id = .received n) :
    Advances s { s with requests := s.requests.settle id result } where
  task i _ hi := by
    have hne : i ≠ id := fun h => by
      rw [h, hopen] at hi
      exact nomatch hi
    exact Function.update_of_ne hne _ _
  started i players hdone hne := by
    by_cases hi : i = id
    · subst hi
      have hr : RequestTask.done result = .done (.ok players) :=
        (Function.update_self i _ s.requests.task).symm.trans hdone
      exact .inr (hplayed players (RequestTask.done.inj hr) hne)
    · exact .inl ((Function.update_of_ne hi _ _).symm.trans hdone)

/-- A call of `play_vinyl_source` ends. -/
theorem advances_call {i : Nat} {call : PlayCall} {requests : PlayRequests}
    {result : Except Exc (List String)} (ho : s.Ordered) (hcall : s.calls[i]? = some call)
    (htask : requests.task = s.requests.task)
    (hresult : ∀ players, result = .ok players →
      s.requests.task call.requestId = .done (.ok players)) :
    Advances s { s with
      requests
      calls := s.calls.set i { call with outcome := some result } } where
  task id _ _ := congrFun htask id
  started id players hdone _ := .inl ((congrFun htask id).symm.trans hdone)
  outcomes c hc players hout := by
    rcases List.mem_or_eq_of_mem_set hc with hc | rfl
    · exact .inl hc
    · exact .inr ⟨hresult players (Option.some.inj hout),
        (ho.calls call (List.mem_of_getElem? hcall)).1⟩

theorem advances_play (now : ℚ) (hnext : next key timeout s (.play now) = some s') :
    Advances s s' := by
  have hcalls : ∀ id, ∀ c ∈ s.calls ++ [{ requestId := id, after := s.returned }], ∀ players,
      c.outcome = some (.ok players) → c ∈ s.calls ∨
        s.requests.task c.requestId = .done (.ok players) ∧ c.requestId ≤ s.requests.sequence := by
    intro id c hc players hout
    rcases List.mem_append.mp hc with hc | hc
    · exact .inl hc
    · obtain rfl := List.mem_singleton.mp hc
      exact nomatch hout
  rcases playVinylSource_cases s.requests key now timeout with ⟨e, -, hr⟩ | hr
  · simp only [next, hr, Option.some.injEq] at hnext
    subst hnext
    exact { outcomes := hcalls _ }
  · simp only [next, hr, Option.some.injEq] at hnext
    subst hnext
    refine { task := fun id hid _ => ?_, started := fun id players hdone _ => .inl ?_,
             outcomes := hcalls _ }
    · exact Function.update_of_ne (Nat.ne_of_lt (Nat.lt_succ_of_le hid)) _ _
    · by_cases hid : id = s.requests.sequence + 1
      · subst hid
        exact nomatch (Function.update_self _ _ s.requests.task).symm.trans hdone
      · exact (Function.update_of_ne hid _ _).symm.trans hdone

theorem advances_stop : Advances s { s with
    requests := s.requests.invalidate
    stops := s.stops ++ [.gathering (s.requests.entries.map fun e => e.2.requestId)] } where
  task _ _ hdone := PlayRequests.invalidate_task hdone
  started id players hdone _ := by
    left
    have hif : (if s.requests.entries.any (fun e => e.2.requestId == id)
        && !(s.requests.task id).isDone then RequestTask.cancelling else s.requests.task id) =
          .done (.ok players) := hdone
    split at hif
    · exact nomatch hif
    · exact hif

/-- The stage of a request that has not been received changes. -/
theorem advances_stage {id commands : Nat} {stage : RequestStage}
    (h : ∀ n, s.stage id ≠ .received n) :
    Advances s { s with stage := Function.update s.stage id stage, commands } where
  stage i n hi := by
    have hne : i ≠ id := fun hid => h n (hid ▸ hi)
    exact (Function.update_of_ne hne _ _).trans hi

/-! ## One move -/

/-- An awaited request is done; one that raised is dropped from the table. -/
theorem Ordered.resume_next (h : s.Ordered) {i : Nat}
    (hnext : Playback.next key timeout s (.resume i) = some s') : s'.Ordered ∧ Advances s s' := by
  simp only [Playback.next] at hnext
  split at hnext
  · rename_i call hcall
    split at hnext
    · -- the request raised: the entry is dropped
      obtain rfl := Option.some.inj hnext
      constructor
      · exact h.kept {
          sequence := forget_sequence, entries := forget_entries, calls := calls_set hcall }
      · exact advances_call h hcall (PlayRequests.forget_task _ _ _) fun _ hr => nomatch hr
    · rename_i result _ hdone
      obtain rfl := Option.some.inj hnext
      exact ⟨h.kept { calls := calls_set hcall },
        advances_call h hcall rfl fun players hr => hr ▸ hdone⟩
    · exact nomatch hnext
  · exact nomatch hnext

/-- A connected request has not been received so far. -/
theorem Ordered.send_next (h : s.Ordered) {id : Nat} {found : Bool}
    (hnext : Playback.next key timeout s (.send id found) = some s') :
    s'.Ordered ∧ Advances s s' := by
  obtain ⟨hguard, hnext⟩ := Option.ite_none_right_eq_some.mp hnext
  simp only [Bool.and_eq_true, beq_iff_eq] at hguard
  obtain ⟨⟨hopen, -⟩, hconnecting⟩ := hguard
  obtain rfl := Option.some.inj hnext
  exact ⟨h.update (unfinished_le hopen) (by cases found <;> simp),
    advances_stage fun n hn => by cases hconnecting.symm.trans hn⟩

/-- A request ends with its player only after it has been received. -/
theorem Ordered.requestReturns_next (h : s.Ordered) {id : Nat} {playerId : String}
    (hnext : Playback.next key timeout s (.requestReturns id playerId) = some s') :
    s'.Ordered ∧ Advances s s' := by
  obtain ⟨hguard, hnext⟩ := Option.ite_none_right_eq_some.mp hnext
  simp only [Bool.and_eq_true, beq_iff_eq] at hguard
  have hopen : (s.requests.task id).isDone = false := by
    rw [hguard.2]
    rfl
  split at hnext
  · rename_i n hn
    obtain rfl := Option.some.inj hnext
    exact ⟨h.kept {}, advances_settle hopen fun _ _ _ => ⟨n, hn⟩⟩
  · obtain rfl := Option.some.inj hnext
    exact ⟨h.kept {}, advances_settle hopen fun _ hr hne => absurd (Except.ok.inj hr).symm hne⟩
  · cases hnext

/-- A stop that returns had its command received. -/
theorem Ordered.stopReturns_next (h : s.Ordered) {i : Nat}
    (hnext : Playback.next key timeout s (.stopReturns i) = some s') : s'.Ordered ∧ Advances s s' := by
  simp only [Playback.next] at hnext
  split at hnext
  · rename_i number hstop
    obtain rfl := Option.some.inj hnext
    have hreturned : ∀ k ∈ number :: s.returned, k ∈ s.returned ∨ .received k ∈ s.stops := by
      intro k hk
      rcases List.mem_cons.mp hk with rfl | hk
      · exact .inr (List.mem_of_getElem? hstop)
      · exact .inl hk
    exact ⟨h.kept { stops := stops_set (fun k hk => nomatch hk), returned := hreturned }, {}⟩
  · exact nomatch hnext

/-- **One move** keeps the order of the commands, and advances the tasks and the calls. -/
theorem Ordered.next (h : s.Ordered) {a : PlaybackMove} (hok : StopsFindNothing s a)
    (hnext : Playback.next key timeout s a = some s') : s'.Ordered ∧ Advances s s' := by
  cases a with
  | play now => exact ⟨h.play hnext, advances_play now hnext⟩
  | resume i => exact h.resume_next hnext
  | abandon i =>
    simp only [Playback.next] at hnext
    split at hnext
    · rename_i call hcall
      split at hnext
      · obtain rfl := Option.some.inj hnext
        exact ⟨h.kept { calls := calls_set hcall },
          advances_call h hcall rfl fun _ hr => nomatch hr⟩
      · exact nomatch hnext
    · exact nomatch hnext
  | send id found => exact h.send_next hnext
  | playReceived id =>
    obtain ⟨hsent, hnext⟩ := Option.ite_none_right_eq_some.mp hnext
    obtain rfl := Option.some.inj hnext
    exact ⟨h.playReceived hsent, advances_stage fun n hn => nomatch hsent.symm.trans hn⟩
  | requestReturns id playerId => exact h.requestReturns_next hnext
  | requestRaises id text =>
    obtain ⟨hopen, hnext⟩ := Option.ite_none_right_eq_some.mp hnext
    simp only [unfinished, Bool.and_eq_true, Bool.not_eq_true'] at hopen
    obtain rfl := Option.some.inj hnext
    exact ⟨h.kept {}, advances_settle hopen.2 fun _ hr => nomatch hr⟩
  | requestCancelled id =>
    obtain ⟨hcancelling, hnext⟩ := Option.ite_none_right_eq_some.mp hnext
    obtain rfl := Option.some.inj hnext
    exact ⟨h.kept {}, advances_settle (by rw [hcancelling]; rfl) fun _ hr => nomatch hr⟩
  | stop =>
    obtain rfl := Option.some.inj hnext
    refine ⟨h.kept { stops := fun k hk => ?_, entries := fun e he => nomatch he }, advances_stop⟩
    rcases List.mem_append.mp hk with hk | hk
    · exact hk
    · exact nomatch List.mem_singleton.mp hk
  | gathered i =>
    simp only [Playback.next] at hnext
    split at hnext
    · obtain ⟨-, hnext⟩ := Option.ite_none_right_eq_some.mp hnext
      obtain rfl := Option.some.inj hnext
      exact ⟨h.kept { stops := stops_set fun k hk => nomatch hk }, {}⟩
    · exact nomatch hnext
  | sendStop i found =>
    simp only [Playback.next] at hnext
    split at hnext
    · obtain rfl := Option.some.inj hnext
      exact ⟨h.kept { stops := stops_set (by cases found <;> simp) }, {}⟩
    · exact nomatch hnext
  | stopReceived i =>
    simp only [Playback.next] at hnext
    split at hnext
    · obtain rfl := Option.some.inj hnext
      exact ⟨h.stopReceived hok, {}⟩
    · exact nomatch hnext
  | stopReturns i => exact h.stopReturns_next hnext
  | stopRaises i =>
    simp only [Playback.next] at hnext
    split at hnext
    · exact nomatch hnext
    · exact nomatch hnext
    · exact nomatch hnext
    · obtain rfl := Option.some.inj hnext
      exact ⟨h.kept { stops := stops_set fun k hk => nomatch hk }, {}⟩

/-! ## Whole runs -/

theorem initial : Ordered {} ∧ Settled {} where
  left := {
    unborn := fun _ _ => rfl
    received := fun _ _ h => nomatch h
    stopped := fun _ h => nomatch h
    stops := fun _ h => nomatch h
    returned := fun _ h => nomatch h
    cached := fun _ h => nomatch h
    calls := fun _ h => nomatch h }
  right := {
    started := fun _ _ h => nomatch h
    outcomes := fun _ h => nomatch h }

theorem reach_ordered (h : (playback key timeout).Reach StopsFindNothing s) :
    s.Ordered ∧ s.Settled := by
  refine h.invariant (I := fun s => s.Ordered ∧ s.Settled) (fun s hs => ?_) fun s a s' hi hok hnext => ?_
  · rw [show s = _ from hs]
    exact initial
  · obtain ⟨hordered, hadvances⟩ := hi.1.next hok hnext
    exact ⟨hordered, hi.2.advances hi.1 hadvances⟩

/-- **A start after a stop**: in every run whose stop commands find nothing received in the
    table, a call that returns a player has the result of a request whose `play_media` was
    received after the stop command of every stop that had returned before the call began. -/
theorem start_after_stop (h : (playback key timeout).Reach StopsFindNothing s)
    {call : PlayCall} (hcall : call ∈ s.calls) {players : List String}
    (hout : call.outcome = some (.ok players)) (hne : players ≠ []) :
    s.requests.task call.requestId = .done (.ok players) ∧
      ∃ n, s.stage call.requestId = .received n ∧ ∀ k ∈ call.after, k < n := by
  obtain ⟨hordered, hsettled⟩ := reach_ordered h
  have htask := hsettled.outcomes call hcall players hout
  obtain ⟨n, hn⟩ := hsettled.started _ players htask hne
  exact ⟨htask, n, hn, (hordered.calls call hcall).2.2 n hn⟩

/-! ## Two runs -/

instance : ∀ (s : Playback) (a : PlaybackMove), Decidable (StopsFindNothing s a)
  | s, .stopReceived _ =>
    inferInstanceAs (Decidable (∀ e ∈ s.requests.entries, (s.stage e.2.requestId).isReceived = false))
  | _, .play _ | _, .resume _ | _, .abandon _ | _, .send _ _ | _, .playReceived _
  | _, .requestReturns _ _ | _, .requestRaises _ _ | _, .requestCancelled _ | _, .stop
  | _, .gathered _ | _, .sendStop _ _ | _, .stopReturns _ | _, .stopRaises _ => isTrue trivial

/-- The request `id` runs from its submission to its result. -/
def plays (id : Nat) : List PlaybackMove :=
  [.send id true, .playReceived id, .requestReturns id "downstairs"]

/-- A record, for the player downstairs. -/
def recordKey : PlayKey := ("phono", ["Downstairs"])

/-- The call `i` has returned the player, `after` these stop commands. -/
def Returned (s : Playback) (i : Nat) (after : List Nat) : Prop :=
  s.calls[i]?.any (fun c => c.outcome == some (.ok ["downstairs"]) && c.after == after) = true

instance (s : Playback) (i : Nat) (after : List Nat) : Decidable (Returned s i after) :=
  inferInstanceAs (Decidable (_ = _))

theorem Returned.elim {i : Nat} {after : List Nat} (h : Returned s i after) :
    ∃ call ∈ s.calls, s.calls[i]? = some call ∧
      call.outcome = some (.ok ["downstairs"]) ∧ call.after = after := by
  obtain ⟨call, hcall, hP⟩ := (Option.any_eq_true _ _).mp h
  simp only [Bool.and_eq_true, beq_iff_eq] at hP
  exact ⟨call, List.mem_of_getElem? hcall, hcall, hP.1, hP.2⟩

/-- A start, a stop, and a start again within the settling time of the first. -/
theorem start_after_stop_again : ∃ (s : Playback) (call : PlayCall), call.after = [1] ∧
    s.requests.task call.requestId = .done (.ok ["downstairs"]) ∧
      ∃ n, s.stage call.requestId = .received n ∧ ∀ k ∈ call.after, k < n := by
  obtain ⟨s, hs, hret⟩ := Machine.exists_reach
    (m := (playback recordKey 10).guarded StopsFindNothing)
    (l := List.flatten [[.play 0], plays 1, [.resume 0, .stop, .gathered 0, .sendStop 0 true,
      .stopReceived 0, .stopReturns 0, .play 1], plays 2, [.resume 1]])
    (fun s => Returned s 1 [1]) (show _ = ({} : Playback) from rfl) (by decide +kernel)
  obtain ⟨call, hcall, -, hout, hafter⟩ := hret.elim
  exact ⟨s, call, hafter, start_after_stop hs.of_guarded hcall hout (by simp)⟩

/-- While a stop waits for the request it has cancelled, another task starts the source again;
    Music Assistant receives that start before the stop command.  The next start joins the
    request that the stop has ended. -/
theorem not_start_after_stop :
    ¬ ∀ (s : Playback) (call : PlayCall) (players : List String),
      (playback recordKey 10).Reach Machine.anyMove s → call ∈ s.calls →
      call.outcome = some (.ok players) → players ≠ [] →
      ∃ n, s.stage call.requestId = .received n ∧ ∀ k ∈ call.after, k < n := by
  intro hall
  obtain ⟨s, hs, hret, hstage⟩ := Machine.exists_reach (m := playback recordKey 10)
    (l := [.play 0, .send 1 true, .stop, .play 1, .requestCancelled 1, .resume 0,
      .send 2 true, .gathered 0, .sendStop 0 true, .playReceived 2, .stopReceived 0,
      .requestReturns 2 "downstairs", .resume 1, .stopReturns 0, .play 2, .resume 2])
    (fun s => Returned s 2 [1] ∧
      s.calls[2]?.any (fun c => s.stage c.requestId == .received 0) = true)
    (show _ = ({} : Playback) from rfl) (by decide +kernel)
  obtain ⟨call, hcall, hget, hout, hafter⟩ := hret.elim
  simp only [hget, Option.any_some, beq_iff_eq] at hstage
  obtain ⟨n, hn, hlater⟩ := hall s call _ hs hcall hout (by simp)
  have hbefore := hlater 1 (by rw [hafter]; simp)
  rw [hstage] at hn
  obtain rfl := RequestStage.received.inj hn
  cases hbefore

end Playback

end PhonoConsole
