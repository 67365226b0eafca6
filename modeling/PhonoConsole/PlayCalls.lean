/-
  COALESCED PLAY REQUESTS: the callers of `play_vinyl_source` (`phono_console/ma.py`).

  Every call decides at once, on the table of requests: it joins the request of its key that is in
  flight or settling, or submits a new one.  Then it tells the event sink, and waits for the task
  behind `asyncio.shield`: it may be cancelled without the task, and when the task raises, it drops
  the entry, if the entry is still that task's.  Calls, completions and cancellations come in any
  order; nothing invalidates the table.

  * `playCalls`     — the callers, the request tasks and the clock as a machine; the submissions are
    on record with their times;
  * `Past`          — a request that stands in no newer one's way: it has ended, and either failed
    or had its time;
  * `Coalesced`     — every submission is the current one of its key, or past;
  * `coalesced_next` — every move keeps that;
  * `play_requests_coalesced` — one unfinished request per key; a call joins one or submits one; a
    new submission finds every earlier one of its key past; a failure removes its own entry only.
-/
import PhonoConsole.Lib.Machine
import PhonoConsole.MusicAssistant
import Mathlib.Tactic.NormNum

namespace PhonoConsole

/-! ## The callers -/

/-- The reason a call gives for joining. -/
inductive SuppressReason
  | inFlight
  | settling
deriving DecidableEq

/-- What a call tells the event sink before it waits. -/
inductive PlayNotice
  | timeout (expiredRequestId : Nat)
  | suppressed (requestId : Nat) (reason : SuppressReason)
deriving DecidableEq

/-- Where a call is: with notices left to emit, waiting for its task, or ended. -/
inductive CallPc
  | emitting (notice : PlayNotice)
  | waiting
  | ended (result : Except Exc (List String))
deriving DecidableEq

/-- A call, with the request it has joined or submitted. -/
structure PlayCaller where
  key : PlayKey
  request : Nat
  pc : CallPc
deriving DecidableEq

/-- A request as it was submitted. -/
structure Submission where
  requestId : Nat
  key : PlayKey
  submittedAt : ℚ
deriving DecidableEq

/-- The requests with the clock, their callers and what was submitted. -/
structure PlayCalls where
  requests : PlayRequests
  now : ℚ
  calls : List PlayCaller
  submissions : List Submission

/-- What can happen. -/
inductive PlayMove
  | tick (d : ℚ)
  | call (key : PlayKey)
  | emitted (n : Nat) (result : Except Exc Unit)
  | resume (n : Nat)
  | cancel (n : Nat)
  | complete (requestId : Nat) (result : Except Exc (List String))
deriving DecidableEq

namespace PlayCalls

variable (timeout : ℚ)

/-- Whether the decision for a key submits a new request. -/
def submits (s : PlayCalls) (key : PlayKey) : Bool :=
  match s.requests.entries.lookup key with
  | some existing =>
      (s.requests.task existing.requestId).isDone && decide (existing.retryAt ≤ s.now)
  | none => true

/-- The notice a call has to emit first: for a submission, that the former request has expired. -/
def notice (s : PlayCalls) (key : PlayKey) : Option PlayNotice :=
  match s.requests.entries.lookup key with
  | some existing =>
      if s.submits key then some (.timeout existing.requestId)
      else if (s.requests.task existing.requestId).isDone then
        some (.suppressed existing.requestId .settling)
      else some (.suppressed existing.requestId .inFlight)
  | none => none

/-- Where a call is after its decision. -/
def decided (s : PlayCalls) (key : PlayKey) : CallPc :=
  match s.notice key with
  | some notice => .emitting notice
  | none => .waiting

/-- `play_vinyl_source` up to its first suspension. -/
def begin (s : PlayCalls) (key : PlayKey) : PlayCalls :=
  let (requests, request) := s.requests.playVinylSource key s.now timeout
  { s with
    requests
    calls := s.calls ++ [⟨key, request, s.decided key⟩]
    submissions :=
      if s.submits key then s.submissions ++ [⟨request, key, s.now⟩] else s.submissions }

/-- A call goes on to `pc`. -/
def goTo (s : PlayCalls) (n : Nat) (c : PlayCaller) (pc : CallPc) : PlayCalls :=
  { s with calls := s.calls.set n { c with pc } }

/-- The calls after a move. -/
def next (s : PlayCalls) : PlayMove → Option PlayCalls
  | .tick d => if 0 ≤ d then some { s with now := s.now + d } else none
  | .call key => some (s.begin timeout key)
  | .emitted n result =>
      match s.calls[n]? with
      | some c =>
        match c.pc, result with
        | .emitting _, .ok () => some (s.goTo n c .waiting)
        | .emitting _, .error e => some (s.goTo n c (.ended (.error e)))
        | _, _ => none
      | none => none
  | .resume n =>
      match s.calls[n]? with
      | some c =>
        match c.pc, s.requests.task c.request with
        | .waiting, .done (.ok players) => some (s.goTo n c (.ended (.ok players)))
        -- `except Exception` does not see a cancellation
        | .waiting, .done (.error (.exception text)) =>
            some { s.goTo n c (.ended (.error (.exception text))) with
              requests := s.requests.forget c.key c.request }
        | .waiting, .done (.error .cancelled) => some (s.goTo n c (.ended (.error .cancelled)))
        | _, _ => none
      | none => none
  | .cancel n =>
      match s.calls[n]? with
      | some c =>
        match c.pc with
        | .ended _ => none
        | _ => some (s.goTo n c (.ended (.error .cancelled)))
      | none => none
  | .complete requestId result =>
      if s.submissions.any (·.requestId == requestId) ∧ s.requests.task requestId = .running then
        some { s with requests := s.requests.settle requestId result }
      else none

/-- Nobody has called. -/
def initial : PlayCalls := ⟨{}, 0, [], []⟩

end PlayCalls

/-- Any calls, completions and cancellations, at any times. -/
def playCalls (timeout : ℚ) : Machine PlayCalls PlayMove where
  init s := s = PlayCalls.initial
  next s move := s.next timeout move

/-! ## The table -/

namespace PlayRequests

variable {r : PlayRequests} {key : PlayKey} {now timeout : ℚ} {id : Nat}

theorem lookup_filter (l : List (PlayKey × PlayEntry)) (key k : PlayKey) :
    (l.filter (·.1 != key)).lookup k = if k = key then none else l.lookup k := by
  induction l with
  | nil => simp
  | cons e l ih =>
    obtain ⟨k', e⟩ := e
    by_cases hk' : k' = key
    · subst hk'
      rw [List.filter_cons_of_neg (by simp), ih, List.lookup_cons]
      by_cases hk : k = k'
      · rw [if_pos hk, if_pos hk]
      · rw [if_neg hk, if_neg hk, beq_eq_false_iff_ne.mpr hk]
    · rw [List.filter_cons_of_pos (by simpa using hk'), List.lookup_cons, List.lookup_cons, ih]
      by_cases hk : k = k'
      · subst hk
        simp [hk']
      · rw [beq_eq_false_iff_ne.mpr hk]

/-- A submission is its key's entry from then on. -/
theorem submit_lookup (k : PlayKey) : (r.submit key now timeout).1.entries.lookup k =
    if k = key then some ⟨r.sequence + 1, now + timeout⟩ else r.entries.lookup k := by
  show ((key, (⟨r.sequence + 1, now + timeout⟩ : PlayEntry)) ::
    r.entries.filter (·.1 != key)).lookup k = _
  rw [List.lookup_cons, lookup_filter]
  by_cases hk : k = key
  · subst hk
    simp
  · rw [beq_eq_false_iff_ne.mpr hk]
    simp [hk]

/-- Only the entry of that very request is dropped. -/
theorem forget_lookup (k : PlayKey) : (r.forget key id).entries.lookup k =
    if k = key ∧ (r.entries.lookup key).map PlayEntry.requestId = some id then none
    else r.entries.lookup k := by
  unfold forget
  cases hcurrent : r.entries.lookup key with
  | none => simp
  | some current =>
    dsimp only
    by_cases hid : current.requestId = id
    · rw [if_pos hid]
      dsimp only
      rw [lookup_filter]
      simp [hid]
    · rw [if_neg hid]
      simp [hid]

end PlayRequests

/-! ## Submissions -/

namespace PlayCalls

variable {timeout : ℚ} {s s' : PlayCalls} {move : PlayMove}

/-- The request's task has ended. -/
def Ended (s : PlayCalls) (id : Nat) : Prop := (s.requests.task id).isDone = true

/-- It has ended with an exception. -/
def Failed (s : PlayCalls) (id : Nat) : Prop := ∃ e, s.requests.task id = .done (.error e)

/-- The submission has ended, and either failed or had its time. -/
def Past (timeout : ℚ) (s : PlayCalls) (a : Submission) : Prop :=
  s.Ended a.requestId ∧ (s.Failed a.requestId ∨ a.submittedAt + timeout ≤ s.now)

/-- The submission is the entry of its key. -/
def Current (timeout : ℚ) (s : PlayCalls) (a : Submission) : Prop :=
  s.requests.entries.lookup a.key = some ⟨a.requestId, a.submittedAt + timeout⟩

/-- Every submission is the current one of its key or past; entries, calls and numbers go back to
    submissions. -/
structure Coalesced (timeout : ℚ) (s : PlayCalls) : Prop where
  numbered : ∀ a ∈ s.submissions, a.requestId ≤ s.requests.sequence
  distinct : ∀ a ∈ s.submissions, ∀ b ∈ s.submissions, a.requestId = b.requestId → a = b
  settled : ∀ a ∈ s.submissions, s.Current timeout a ∨ s.Past timeout a
  recorded : ∀ k e, s.requests.entries.lookup k = some e →
    ∃ a ∈ s.submissions, a.key = k ∧ a.requestId = e.requestId ∧ s.Current timeout a
  joined : ∀ c ∈ s.calls, ∃ a ∈ s.submissions, a.key = c.key ∧ a.requestId = c.request

/-- A decision that submits finds every earlier submission of the key past. -/
theorem Coalesced.past_of_submits (h : Coalesced timeout s) {key : PlayKey}
    (hsubmits : s.submits key = true) {a : Submission} (ha : a ∈ s.submissions) (hkey : a.key = key) :
    s.Past timeout a := by
  rcases h.settled a ha with hcurrent | hpast
  · unfold Current at hcurrent
    rw [hkey] at hcurrent
    unfold submits at hsubmits
    rw [hcurrent] at hsubmits
    obtain ⟨hdone, hretry⟩ := (Bool.and_eq_true _ _).mp hsubmits
    exact ⟨hdone, .inr (of_decide_eq_true hretry)⟩
  · exact hpast

/-- Two unfinished submissions of one key are the same. -/
theorem Coalesced.one_unfinished (h : Coalesced timeout s) {a b : Submission}
    (ha : a ∈ s.submissions) (hb : b ∈ s.submissions) (hkey : a.key = b.key)
    (hna : ¬ s.Ended a.requestId) (hnb : ¬ s.Ended b.requestId) : a = b := by
  have hcurrent : ∀ c ∈ s.submissions, ¬ s.Ended c.requestId → s.Current timeout c :=
    fun c hc hn => (h.settled c hc).resolve_right fun hpast => hn hpast.1
  have hca := hcurrent a ha hna
  have hcb := hcurrent b hb hnb
  unfold Current at hca hcb
  rw [hkey, hcb] at hca
  exact h.distinct a ha b hb (PlayEntry.mk.inj (Option.some.inj hca)).1.symm

theorem playVinylSource_submits {key : PlayKey} (h : s.submits key = true) :
    s.requests.playVinylSource key s.now timeout = s.requests.submit key s.now timeout := by
  unfold submits at h
  unfold PlayRequests.playVinylSource
  cases hlookup : s.requests.entries.lookup key with
  | none => rfl
  | some e =>
    rw [hlookup] at h
    obtain ⟨hdone, hretry⟩ := (Bool.and_eq_true _ _).mp h
    have hlate : ¬ s.now < e.retryAt := not_lt.mpr (of_decide_eq_true hretry)
    exact if_neg (by simp [hdone, hlate])

theorem playVinylSource_joins (timeout : ℚ) {key : PlayKey} (h : s.submits key = false) :
    ∃ e, s.requests.entries.lookup key = some e ∧
      s.requests.playVinylSource key s.now timeout = (s.requests, e.requestId) := by
  unfold submits at h
  unfold PlayRequests.playVinylSource
  cases hlookup : s.requests.entries.lookup key with
  | none =>
    rw [hlookup] at h
    cases h
  | some e =>
    rw [hlookup] at h
    refine ⟨e, rfl, if_pos ?_⟩
    rcases Bool.and_eq_false_iff.mp h with hdone | hretry
    · simp [hdone]
    · have hearly : s.now < e.retryAt := not_le.mp (of_decide_eq_false hretry)
      simp [hearly]

/-- The decision, as a case distinction: a new request under the next number, or the request of
    the entry, with nothing changed. -/
theorem begin_cases (timeout : ℚ) (s : PlayCalls) (key : PlayKey) :
    (s.submits key = true ∧
      (s.begin timeout key).requests = (s.requests.submit key s.now timeout).1 ∧
      (s.begin timeout key).submissions =
        s.submissions ++ [⟨s.requests.sequence + 1, key, s.now⟩] ∧
      (s.begin timeout key).calls =
        s.calls ++ [⟨key, s.requests.sequence + 1, s.decided key⟩]) ∨
    (∃ e, s.requests.entries.lookup key = some e ∧ s.submits key = false ∧
      (s.begin timeout key).requests = s.requests ∧
      (s.begin timeout key).submissions = s.submissions ∧
      (s.begin timeout key).calls = s.calls ++ [⟨key, e.requestId, s.decided key⟩]) := by
  cases hsubmits : s.submits key with
  | true =>
    refine .inl ⟨rfl, ?_⟩
    rw [begin, playVinylSource_submits hsubmits, hsubmits]
    exact ⟨rfl, rfl, rfl⟩
  | false =>
    obtain ⟨e, hlookup, hplay⟩ := playVinylSource_joins timeout hsubmits
    refine .inr ⟨e, hlookup, rfl, ?_⟩
    rw [begin, hplay, hsubmits]
    exact ⟨rfl, rfl, rfl⟩

/-! ## Moves -/

/-- A move lets time pass, is a call's decision, takes a call further, lets a call drop the entry of
    its failed request, or ends a request that was running. -/
theorem next_cases (h : s.next timeout move = some s') :
    (∃ d, 0 ≤ d ∧ s' = { s with now := s.now + d }) ∨
    (∃ key, move = .call key ∧ s' = s.begin timeout key) ∨
    (∃ n c pc, s.calls[n]? = some c ∧ s' = s.goTo n c pc) ∨
    (∃ n c text, move = .resume n ∧ s.calls[n]? = some c ∧
      s.requests.task c.request = .done (.error (.exception text)) ∧
      s' = { s.goTo n c (.ended (.error (.exception text))) with
        requests := s.requests.forget c.key c.request }) ∨
    (∃ id result, s.requests.task id = .running ∧
      s' = { s with requests := s.requests.settle id result }) := by
  cases move with
  | tick d =>
    simp only [next] at h
    split at h
    · rename_i hd
      exact .inl ⟨d, hd, (Option.some.inj h).symm⟩
    · cases h
  | call key => exact .inr (.inl ⟨key, rfl, (Option.some.inj h).symm⟩)
  | emitted n result =>
    simp only [next] at h
    split at h
    · rename_i c hc
      split at h
      · exact .inr (.inr (.inl ⟨n, c, _, hc, (Option.some.inj h).symm⟩))
      · exact .inr (.inr (.inl ⟨n, c, _, hc, (Option.some.inj h).symm⟩))
      · cases h
    · cases h
  | resume n =>
    simp only [next] at h
    split at h
    · rename_i c hc
      split at h
      · exact .inr (.inr (.inl ⟨n, c, _, hc, (Option.some.inj h).symm⟩))
      · rename_i text _ htask
        exact .inr (.inr (.inr (.inl ⟨n, c, text, rfl, hc, htask, (Option.some.inj h).symm⟩)))
      · exact .inr (.inr (.inl ⟨n, c, _, hc, (Option.some.inj h).symm⟩))
      · cases h
    · cases h
  | cancel n =>
    simp only [next] at h
    split at h
    · rename_i c hc
      split at h
      · cases h
      · exact .inr (.inr (.inl ⟨n, c, _, hc, (Option.some.inj h).symm⟩))
    · cases h
  | complete id result =>
    simp only [next] at h
    split at h
    · rename_i hrunning
      exact .inr (.inr (.inr (.inr ⟨id, result, hrunning.2, (Option.some.inj h).symm⟩)))
    · cases h

/-! ## Every move keeps the requests coalesced -/

/-- What is past stays past while its task is left alone. -/
theorem Past.mono {a : Submission} (h : s.Past timeout a)
    (htask : s'.requests.task a.requestId = s.requests.task a.requestId) (hnow : s.now ≤ s'.now) :
    s'.Past timeout a := by
  unfold Past Ended Failed at *
  rw [htask]
  exact ⟨h.1, h.2.imp id fun hlate => hlate.trans hnow⟩

theorem Coalesced.tick (h : Coalesced timeout s) {d : ℚ} (hd : 0 ≤ d) :
    Coalesced timeout { s with now := s.now + d } where
  numbered := h.numbered
  distinct := h.distinct
  settled a ha := (h.settled a ha).imp id fun hpast => hpast.mono rfl (le_add_of_nonneg_right hd)
  recorded := h.recorded
  joined := h.joined

theorem Coalesced.goTo (h : Coalesced timeout s) {n : Nat} {c : PlayCaller} {pc : CallPc}
    (hc : s.calls[n]? = some c) : Coalesced timeout (s.goTo n c pc) where
  numbered := h.numbered
  distinct := h.distinct
  settled := h.settled
  recorded := h.recorded
  joined c' hc' := by
    rcases List.mem_or_eq_of_mem_set hc' with hold | rfl
    · exact h.joined c' hold
    · exact h.joined c (List.mem_of_getElem? hc)

theorem Coalesced.settle (h : Coalesced timeout s) {id : Nat} {result : Except Exc (List String)}
    (hrunning : s.requests.task id = .running) :
    Coalesced timeout { s with requests := s.requests.settle id result } where
  numbered := h.numbered
  distinct := h.distinct
  settled a ha := by
    refine (h.settled a ha).imp (fun hcurrent => hcurrent) fun hpast => ?_
    -- a task that ends now was not past
    have hne : a.requestId ≠ id := by
      intro heq
      have hended := hpast.1
      unfold Ended at hended
      rw [heq, hrunning] at hended
      cases hended
    exact hpast.mono (Function.update_of_ne hne _ _) le_rfl
  recorded := h.recorded
  joined := h.joined

theorem Coalesced.forget (h : Coalesced timeout s) {key : PlayKey} {id : Nat}
    (hfailed : ∃ e, s.requests.task id = .done (.error e)) :
    Coalesced timeout { s with requests := s.requests.forget key id } where
  numbered := by
    have hsequence : (s.requests.forget key id).sequence = s.requests.sequence := by
      unfold PlayRequests.forget
      split
      · split <;> rfl
      · rfl
    show ∀ a ∈ s.submissions, a.requestId ≤ (s.requests.forget key id).sequence
    rw [hsequence]
    exact h.numbered
  distinct := h.distinct
  settled a ha := by
    have htask : (s.requests.forget key id).task a.requestId = s.requests.task a.requestId := by
      rw [PlayRequests.forget_task]
    rcases h.settled a ha with hcurrent | hpast
    · by_cases hdropped : a.key = key ∧
          (s.requests.entries.lookup key).map PlayEntry.requestId = some id
      · -- the entry that is dropped is the one of a failed request
        right
        have hid : a.requestId = id := by
          unfold Current at hcurrent
          rw [← hdropped.1, hcurrent] at hdropped
          exact Option.some.inj hdropped.2
        obtain ⟨e, he⟩ := hfailed
        rw [← hid] at he
        refine ⟨?_, .inl ⟨e, htask.trans he⟩⟩
        show ((s.requests.forget key id).task a.requestId).isDone = true
        rw [htask, he]
        rfl
      · left
        show (s.requests.forget key id).entries.lookup a.key = _
        rw [PlayRequests.forget_lookup, if_neg hdropped]
        exact hcurrent
    · exact .inr (hpast.mono htask le_rfl)
  recorded k e he := by
    have hold : s.requests.entries.lookup k = some e := by
      have he' : (s.requests.forget key id).entries.lookup k = some e := he
      rw [PlayRequests.forget_lookup] at he'
      split at he'
      · cases he'
      · exact he'
    obtain ⟨a, ha, rfl, hid, hcurrent⟩ := h.recorded k e hold
    refine ⟨a, ha, rfl, hid, ?_⟩
    unfold Current at hcurrent ⊢
    rw [← hcurrent, hold]
    exact he
  joined := h.joined

theorem Coalesced.begin (h : Coalesced timeout s) (key : PlayKey) :
    Coalesced timeout (s.begin timeout key) := by
  rcases begin_cases timeout s key with ⟨hsubmits, hrequests, hsubmissions, hcalls⟩ |
    ⟨e, hlookup, -, hrequests, hsubmissions, hcalls⟩
  · -- a new request, with a number above every number in use
    have hold : ∀ a ∈ s.submissions,
        (s.begin timeout key).requests.task a.requestId = s.requests.task a.requestId := by
      intro a ha
      have hnumber := h.numbered a ha
      rw [hrequests]
      exact Function.update_of_ne (by omega) _ _
    have hnow : (s.begin timeout key).now = s.now := rfl
    have hother : ∀ a ∈ s.submissions, a.key ≠ key → s.Current timeout a →
        (s.begin timeout key).Current timeout a := by
      intro a _ hkey hcurrent
      unfold Current
      rw [hrequests, PlayRequests.submit_lookup, if_neg hkey]
      exact hcurrent
    have hnew : (s.begin timeout key).Current timeout ⟨s.requests.sequence + 1, key, s.now⟩ := by
      unfold Current
      rw [hrequests, PlayRequests.submit_lookup, if_pos rfl]
    refine ⟨?_, ?_, ?_, ?_, ?_⟩
    · intro a ha
      have hsequence : (s.begin timeout key).requests.sequence = s.requests.sequence + 1 := by
        rw [hrequests]
        rfl
      rw [hsubmissions] at ha
      rw [hsequence]
      rcases List.mem_append.mp ha with ha | ha
      · exact (h.numbered a ha).trans (Nat.le_succ _)
      · rw [List.mem_singleton.mp ha]
    · intro a ha b hb hid
      rw [hsubmissions] at ha hb
      rcases List.mem_append.mp ha with ha | ha <;> rcases List.mem_append.mp hb with hb | hb
      · exact h.distinct a ha b hb hid
      · have hle := h.numbered a ha
        rw [hid, List.mem_singleton.mp hb] at hle
        exact absurd hle (Nat.not_succ_le_self _)
      · have hle := h.numbered b hb
        rw [← hid, List.mem_singleton.mp ha] at hle
        exact absurd hle (Nat.not_succ_le_self _)
      · rw [List.mem_singleton.mp ha, List.mem_singleton.mp hb]
    · intro a ha
      rw [hsubmissions] at ha
      rcases List.mem_append.mp ha with ha | ha
      · by_cases hkey : a.key = key
        · -- the entry gives way, and its request has ended or it would have been joined
          exact .inr ((h.past_of_submits hsubmits ha hkey).mono (hold a ha) hnow.ge)
        · exact (h.settled a ha).imp (hother a ha hkey) fun hpast => hpast.mono (hold a ha) hnow.ge
      · rw [List.mem_singleton.mp ha]
        exact .inl hnew
    · intro k e he
      rw [hrequests, PlayRequests.submit_lookup] at he
      rw [hsubmissions]
      by_cases hk : k = key
      · rw [if_pos hk] at he
        obtain rfl := Option.some.inj he
        exact ⟨_, List.mem_append_right _ List.mem_cons_self, hk.symm, rfl, hnew⟩
      · rw [if_neg hk] at he
        obtain ⟨a, ha, rfl, hid, hcurrent⟩ := h.recorded k e he
        exact ⟨a, List.mem_append_left _ ha, rfl, hid, hother a ha hk hcurrent⟩
    · intro c hc
      rw [hcalls] at hc
      rw [hsubmissions]
      rcases List.mem_append.mp hc with hc | hc
      · obtain ⟨a, ha, hjoined⟩ := h.joined c hc
        exact ⟨a, List.mem_append_left _ ha, hjoined⟩
      · rw [List.mem_singleton.mp hc]
        exact ⟨_, List.mem_append_right _ List.mem_cons_self, rfl, rfl⟩
  · -- a request is joined: only the call is new
    have hcurrent : ∀ a, s.Current timeout a → (s.begin timeout key).Current timeout a := by
      intro a ha
      unfold Current
      rw [hrequests]
      exact ha
    refine ⟨?_, ?_, ?_, ?_, ?_⟩
    · rw [hrequests, hsubmissions]
      exact h.numbered
    · rw [hsubmissions]
      exact h.distinct
    · rw [hsubmissions]
      intro a ha
      exact (h.settled a ha).imp (hcurrent a) fun hpast => hpast.mono (by rw [hrequests]) le_rfl
    · rw [hrequests, hsubmissions]
      intro k e he
      obtain ⟨a, ha, hkey, hid, hc⟩ := h.recorded k e he
      exact ⟨a, ha, hkey, hid, hcurrent a hc⟩
    · rw [hsubmissions, hcalls]
      intro c hc
      rcases List.mem_append.mp hc with hc | hc
      · exact h.joined c hc
      · obtain ⟨a, ha, hkey, hid, -⟩ := h.recorded key e hlookup
        rw [List.mem_singleton.mp hc]
        exact ⟨a, ha, hkey, hid⟩

/-- Every move keeps the requests coalesced. -/
theorem coalesced_next (h : Coalesced timeout s) (hnext : s.next timeout move = some s') :
    Coalesced timeout s' := by
  rcases next_cases hnext with ⟨d, hd, rfl⟩ | ⟨key, -, rfl⟩ | ⟨n, c, pc, hc, rfl⟩ |
    ⟨n, c, text, -, hc, hfailed, rfl⟩ | ⟨id, result, hrunning, rfl⟩
  · exact h.tick hd
  · exact h.begin key
  · exact h.goTo hc
  · exact (h.goTo hc).forget ⟨_, hfailed⟩
  · exact h.settle hrunning

theorem initial_coalesced (timeout : ℚ) : Coalesced timeout initial := by
  constructor <;> simp [initial]

/-! ## Every run -/

/-- A move that is a call's decision submits one request, under a number not used before, or joins
    one that was submitted for its key. -/
theorem call_cases (h : Coalesced timeout s) (key : PlayKey) :
    (∃ id, (∀ a ∈ s.submissions, a.requestId ≠ id) ∧
      (s.begin timeout key).submissions = s.submissions ++ [⟨id, key, s.now⟩] ∧
      (s.begin timeout key).calls = s.calls ++ [⟨key, id, s.decided key⟩]) ∨
    (∃ a ∈ s.submissions, a.key = key ∧
      (s.begin timeout key).submissions = s.submissions ∧
      (s.begin timeout key).calls = s.calls ++ [⟨key, a.requestId, s.decided key⟩]) := by
  rcases begin_cases timeout s key with ⟨-, -, hsubmissions, hcalls⟩ |
    ⟨e, hlookup, -, -, hsubmissions, hcalls⟩
  · refine .inl ⟨_, fun a ha => ?_, hsubmissions, hcalls⟩
    have hnumber := h.numbered a ha
    omega
  · obtain ⟨a, ha, hkey, hid, -⟩ := h.recorded key e hlookup
    rw [← hid] at hcalls
    exact .inr ⟨a, ha, hkey, hsubmissions, hcalls⟩

/-- A request is only submitted when every earlier one of its key is past. -/
theorem submission_after (h : Coalesced timeout s) (hnext : s.next timeout move = some s')
    {a b : Submission} (hnew : s'.submissions = s.submissions ++ [b]) (ha : a ∈ s.submissions)
    (hkey : a.key = b.key) : s.Ended a.requestId ∧
      (s.Failed a.requestId ∨ a.submittedAt + timeout ≤ b.submittedAt) := by
  have hgrows : s'.submissions ≠ s.submissions := by
    rw [hnew]
    simp
  rcases next_cases hnext with ⟨d, -, rfl⟩ | ⟨key, -, rfl⟩ | ⟨n, c, pc, -, rfl⟩ |
    ⟨n, c, text, -, -, -, rfl⟩ | ⟨id, result, -, rfl⟩
  · exact absurd rfl hgrows
  · rcases begin_cases timeout s key with ⟨hsubmits, -, hsubmissions, -⟩ |
      ⟨-, -, -, -, hsubmissions, -⟩
    · rw [hsubmissions] at hnew
      obtain rfl := List.cons.inj (List.append_cancel_left hnew) |>.1
      exact h.past_of_submits hsubmits ha hkey
    · exact absurd hsubmissions hgrows
  · exact absurd rfl hgrows
  · exact absurd rfl hgrows
  · exact absurd rfl hgrows

/-- What becomes of an entry: it stays, gives way to a newer request, or is dropped by a call whose
    request it is, and which failed. -/
theorem entry_cases (h : Coalesced timeout s) (hnext : s.next timeout move = some s')
    {k : PlayKey} {e : PlayEntry} (he : s.requests.entries.lookup k = some e) :
    s'.requests.entries.lookup k = some e ∨
    (∃ e', s'.requests.entries.lookup k = some e' ∧ e.requestId < e'.requestId) ∨
    (∃ n c, move = .resume n ∧ s.calls[n]? = some c ∧ c.request = e.requestId ∧
      s.Failed e.requestId) := by
  rcases next_cases hnext with ⟨d, -, rfl⟩ | ⟨key, -, rfl⟩ | ⟨n, c, pc, -, rfl⟩ |
    ⟨n, c, text, hmove, hc, hfailed, rfl⟩ | ⟨id, result, -, rfl⟩
  · exact .inl he
  · rcases begin_cases timeout s key with ⟨-, hrequests, -, -⟩ | ⟨-, -, -, hrequests, -, -⟩
    · rw [hrequests, PlayRequests.submit_lookup]
      by_cases hk : k = key
      · obtain ⟨a, ha, -, hid, -⟩ := h.recorded k e he
        have hnumber := h.numbered a ha
        rw [if_pos hk]
        refine .inr (.inl ⟨_, rfl, ?_⟩)
        show e.requestId < s.requests.sequence + 1
        omega
      · rw [if_neg hk]
        exact .inl he
    · rw [hrequests]
      exact .inl he
  · exact .inl he
  · show (s.requests.forget c.key c.request).entries.lookup k = some e ∨ _
    rw [PlayRequests.forget_lookup]
    by_cases hdropped : k = c.key ∧
        (s.requests.entries.lookup c.key).map PlayEntry.requestId = some c.request
    · have hid : c.request = e.requestId := by
        rw [← hdropped.1, he] at hdropped
        exact (Option.some.inj hdropped.2).symm
      rw [hid] at hfailed
      exact .inr (.inr ⟨n, c, hmove, hc, hid, _, hfailed⟩)
    · rw [if_neg hdropped]
      exact .inl he
  · exact .inl he

/-- In every run: of each key at most one request is unfinished; every call's decision submits one
    request or joins one; a request is submitted only after every earlier one of its key has ended,
    and `timeout` after its submission unless it failed; and an entry is only ever dropped for the
    failure of its own request. -/
theorem play_requests_coalesced (h : (playCalls timeout).Reach Machine.anyMove s) :
    (∀ a ∈ s.submissions, ∀ b ∈ s.submissions, a.key = b.key → ¬ s.Ended a.requestId →
      ¬ s.Ended b.requestId → a = b) ∧
    (∀ key, (∃ id, (∀ a ∈ s.submissions, a.requestId ≠ id) ∧
        (s.begin timeout key).submissions = s.submissions ++ [⟨id, key, s.now⟩] ∧
        (s.begin timeout key).calls = s.calls ++ [⟨key, id, s.decided key⟩]) ∨
      (∃ a ∈ s.submissions, a.key = key ∧ (s.begin timeout key).submissions = s.submissions ∧
        (s.begin timeout key).calls = s.calls ++ [⟨key, a.requestId, s.decided key⟩])) ∧
    (∀ move s' b, s.next timeout move = some s' → s'.submissions = s.submissions ++ [b] →
      ∀ a ∈ s.submissions, a.key = b.key → s.Ended a.requestId ∧
        (s.Failed a.requestId ∨ a.submittedAt + timeout ≤ b.submittedAt)) ∧
    (∀ move s' k e, s.next timeout move = some s' → s.requests.entries.lookup k = some e →
      s'.requests.entries.lookup k = some e ∨
      (∃ e', s'.requests.entries.lookup k = some e' ∧ e.requestId < e'.requestId) ∨
      (∃ n c, move = .resume n ∧ s.calls[n]? = some c ∧ c.request = e.requestId ∧
        s.Failed e.requestId)) := by
  have hcoalesced : Coalesced timeout s := by
    refine h.invariant (I := Coalesced timeout) ?_ ?_
    · rintro s rfl
      exact initial_coalesced timeout
    · intro s move s' hs _ hnext
      exact coalesced_next hs hnext
  exact ⟨fun a ha b hb => hcoalesced.one_unfinished ha hb, call_cases hcoalesced,
    fun move s' b hnext hnew a ha => submission_after hcoalesced hnext hnew ha,
    fun move s' k e hnext => entry_cases hcoalesced hnext⟩

/-- The console as the only player of a source. -/
def downstairsKey : PlayKey := ("phono-console", ["Downstairs"])

/-- Two calls share a request; it fails, and the first drops the entry: a third call submits again
    within the timeout. -/
theorem play_requests_coalesced_retry : ∃ s s' : PlayCalls,
    s.next 5 (.call downstairsKey) = some s' ∧
    s'.submissions = [⟨1, downstairsKey, 0⟩, ⟨2, downstairsKey, 1⟩] ∧ s.Failed 1 := by
  obtain ⟨s, hs, hsubmissions, hnew⟩ := Machine.exists_reach (m := playCalls 5)
    (l := [.call downstairsKey, .call downstairsKey, .emitted 1 (.ok ()), .tick 1,
      .complete 1 (.error (.exception "no queue")), .resume 0])
    (fun s => s.submissions = [⟨1, downstairsKey, 0⟩] ∧
      (s.begin 5 downstairsKey).submissions = [⟨1, downstairsKey, 0⟩, ⟨2, downstairsKey, 1⟩])
    (show _ = PlayCalls.initial from rfl) (by decide +kernel)
  have hpast := (play_requests_coalesced hs).2.2.1 (.call downstairsKey) _ ⟨2, downstairsKey, 1⟩
    rfl (by rw [hsubmissions]; exact hnew) ⟨1, downstairsKey, 0⟩ (by rw [hsubmissions]; simp) rfl
  refine ⟨s, _, rfl, hnew, hpast.2.resolve_right ?_⟩
  norm_num

end PlayCalls

end PhonoConsole
