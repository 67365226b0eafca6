/-
  THE PLAY REQUESTS of `MusicAssistantState` (`phono_console/ma.py`).

  `play_vinyl_source` submits one request task per (source, players) key and lets every caller of
  the same key await that same task, behind `asyncio.shield`, until it is done and its settling
  time is over.  `invalidate_play_requests` empties the table and cancels the unfinished tasks;
  `stop_players` starts with it.

  Both decide under `_play_request_lock`, which nobody holds across a suspension, so each decision
  is one atomic operation on `PlayRequests` here.  What a request does with the Music Assistant
  client is not modelled, only that it runs, and ends in a list of started players, in an
  exception, or cancelled.
-/
import Mathlib.Data.Rat.Defs
import Mathlib.Algebra.Order.Ring.Rat
import PhonoConsole.Controller

namespace PhonoConsole

/-- The key of a request: the source's client id and the players. -/
abbrev PlayKey := String × List String

/-- An entry of `_play_requests`; the task is named by its request id. -/
structure PlayEntry where
  requestId : Nat
  retryAt : ℚ
deriving DecidableEq

/-- A request task: `cancelling` after `task.cancel()`, until the cancellation is delivered. -/
inductive RequestTask
  | running
  | cancelling
  | done (result : Except Exc (List String))
deriving DecidableEq

/-- `task.done()`. -/
def RequestTask.isDone : RequestTask → Bool
  | .done _ => true
  | _ => false

/-- A task that has not been cancelled: awaiting it does not raise `CancelledError`. -/
def RequestTask.Live : RequestTask → Prop
  | .running => True
  | .cancelling => False
  | .done result => result ≠ .error .cancelled

/-- `_play_requests`, `_play_request_sequence` and the tasks created so far. -/
structure PlayRequests where
  entries : List (PlayKey × PlayEntry) := []
  sequence : Nat := 0
  task : Nat → RequestTask := fun _ => .running

namespace PlayRequests

/-- Create the next request for `key`. -/
def submit (r : PlayRequests) (key : PlayKey) (now timeout : ℚ) : PlayRequests × Nat :=
  ({ entries := (key, ⟨r.sequence + 1, now + timeout⟩) :: r.entries.filter (·.1 != key)
     sequence := r.sequence + 1
     task := Function.update r.task (r.sequence + 1) .running },
    r.sequence + 1)

/-- The decision of `play_vinyl_source`: the request whose task the caller awaits. -/
def playVinylSource (r : PlayRequests) (key : PlayKey) (now timeout : ℚ) : PlayRequests × Nat :=
  match r.entries.lookup key with
  | some existing =>
    if !(r.task existing.requestId).isDone || decide (now < existing.retryAt) then
      (r, existing.requestId)
    else r.submit key now timeout
  | none => r.submit key now timeout

/-- A caller whose awaited request raised drops the entry, if it is still that request's. -/
def forget (r : PlayRequests) (key : PlayKey) (requestId : Nat) : PlayRequests :=
  match r.entries.lookup key with
  | some current =>
    if current.requestId = requestId then { r with entries := r.entries.filter (·.1 != key) } else r
  | none => r

/-- The end of a request task. -/
def settle (r : PlayRequests) (requestId : Nat) (result : Except Exc (List String)) :
    PlayRequests :=
  { r with task := Function.update r.task requestId (.done result) }

/-- `invalidate_play_requests`, up to its `gather`. -/
def invalidate (r : PlayRequests) : PlayRequests where
  entries := []
  sequence := r.sequence
  task id :=
    if r.entries.any (fun e => e.2.requestId == id) && !(r.task id).isDone then .cancelling
    else r.task id

/-! ## Live requests -/

/-- Every task in the table is live. -/
def Live (r : PlayRequests) : Prop := ∀ e ∈ r.entries, (r.task e.2.requestId).Live

variable {r : PlayRequests} {key : PlayKey} {now timeout : ℚ} {id : Nat}

theorem submit_task (h : (r.task id).Live) : ((r.submit key now timeout).1.task id).Live := by
  show (Function.update r.task (r.sequence + 1) .running id).Live
  by_cases hid : id = r.sequence + 1
  · rw [hid, Function.update_self]
    trivial
  · rw [Function.update_of_ne hid]
    exact h

theorem submit_live (h : r.Live) :
    (r.submit key now timeout).1.Live ∧
      ((r.submit key now timeout).1.task (r.submit key now timeout).2).Live := by
  have hnew : ((r.submit key now timeout).1.task (r.sequence + 1)).Live := by
    show (Function.update r.task (r.sequence + 1) .running (r.sequence + 1)).Live
    rw [Function.update_self]
    trivial
  refine ⟨fun e he => ?_, hnew⟩
  rcases List.mem_cons.mp he with rfl | he
  · exact hnew
  · exact submit_task (h e (List.mem_filter.mp he).1)

theorem mem_of_lookup {e : PlayEntry} (h : r.entries.lookup key = some e) :
    ∃ k, (k, e) ∈ r.entries := by
  obtain ⟨l₁, l₂, hl, -⟩ := List.lookup_eq_some_iff.mp h
  exact ⟨key, by rw [hl]; simp⟩

/-- **Joining or submitting**: the awaited task is live, and no other task is touched. -/
theorem playVinylSource_live (h : r.Live) (key : PlayKey) (now timeout : ℚ) :
    (r.playVinylSource key now timeout).1.Live ∧
      ((r.playVinylSource key now timeout).1.task (r.playVinylSource key now timeout).2).Live := by
  unfold playVinylSource
  split
  · rename_i existing hlookup
    split
    · obtain ⟨k, hmem⟩ := mem_of_lookup hlookup
      exact ⟨h, h _ hmem⟩
    · exact submit_live h
  · exact submit_live h

theorem playVinylSource_task (h : (r.task id).Live) :
    ((r.playVinylSource key now timeout).1.task id).Live := by
  unfold playVinylSource
  split
  · split
    · exact h
    · exact submit_task h
  · exact submit_task h

theorem forget_live (h : r.Live) : (r.forget key id).Live := by
  unfold forget
  split
  · split
    · exact fun e he => h e (List.mem_filter.mp he).1
    · exact h
  · exact h

@[simp] theorem forget_task (r : PlayRequests) (key : PlayKey) (id : Nat) :
    (r.forget key id).task = r.task := by
  unfold forget
  split
  · split <;> rfl
  · rfl

theorem settle_task {i : Nat} {result : Except Exc (List String)}
    (hr : i = id → result ≠ .error .cancelled) (h : (r.task i).Live) :
    ((r.settle id result).task i).Live := by
  show (Function.update r.task id (.done result) i).Live
  by_cases hi : i = id
  · subst hi
    rw [Function.update_self]
    exact hr rfl
  · rw [Function.update_of_ne hi]
    exact h

/-- An invalidation leaves an empty table, and finished tasks as they are. -/
theorem invalidate_live (r : PlayRequests) : r.invalidate.Live := fun _ he => nomatch he

theorem invalidate_task (h : (r.task id).isDone = true) : r.invalidate.task id = r.task id := by
  show (if _ then _ else _) = _
  simp [h]

end PlayRequests

end PhonoConsole
