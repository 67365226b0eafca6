/-
  THE SUBSCRIPTIONS of one `FrameFanout`, for all its sources and consumers.

  A consumer is a call of `frames` that has made its first read: it has claimed the queue of its
  source, which keeps filling while nobody has it, or has got a queue of its own with a replay.
  What becomes of every frame of its queue is on record: delivered, or evicted to make room.

  * `Fanouts`, `subscribing` — the fanout and the record of its consumers, as a machine;
  * `queueOf`      — the queue that a reader stands for, and what the operations do to it;
  * `Owned`        — every queue that is read has exactly one live consumer;
  * `Accounted`    — what was removed from a consumer's queue and what is still there make up its
    backlog and everything published since;
  * `Delivering`   — both for all consumers, with the bounds of the queues and the metric;
  * `fanout_delivers` — so in every run.
-/
import PhonoConsole.Fanout
import PhonoConsole.Protocol
import Mathlib.Algebra.BigOperators.Group.List.Basic

namespace PhonoConsole

namespace FrameFanout

variable {size : QueueFrames} {f f' : FrameFanout} {frame : TimestampedPcm}
  {reader reader' : Reader} {replayFrames : Nat}

/-! ## Queues -/

/-- The queue a reader stands for. -/
def queueOf (f : FrameFanout) (reader : Reader) : List TimestampedPcm :=
  ((f.consumer reader).map Consumer.queue).getD []

/-- A full queue holds a frame and another one behind it, two being the least size. -/
theorem full_cons_cons {queue : List TimestampedPcm} (h : size.1 ≤ queue.length) :
    ∃ head behind rest, queue = head :: behind :: rest := by
  have htwo := Nat.le_trans size.2 h
  rcases queue with _ | ⟨head, _ | ⟨behind, rest⟩⟩
  · exact absurd htwo (by decide)
  · exact absurd htwo (by simp)
  · exact ⟨head, behind, rest, rfl⟩

/-- A queue after a frame was put into it. -/
def putQueue (size : QueueFrames) (frame : TimestampedPcm) (queue : List TimestampedPcm) :
    List TimestampedPcm :=
  if size.1 ≤ queue.length then queue.tail ++ [{ frame with flags.discontinuity := true }]
  else queue ++ [frame]

theorem put_queue (c : Consumer) : (c.put size frame).queue = putQueue size frame c.queue := by
  unfold Consumer.put putQueue
  split <;> rfl

/-- The primary's queue is a subscriber whether it is read or not. -/
theorem queueOf_publish_primary :
    (f.publish size frame).queueOf .primary = putQueue size frame (f.queueOf .primary) :=
  put_queue f.primary

/-- A frame is put into the queue of each reader. -/
theorem queueOf_publish (h : f.reading reader = true) :
    (f.publish size frame).queueOf reader = putQueue size frame (f.queueOf reader) := by
  cases reader with
  | primary => exact queueOf_publish_primary
  | secondary i =>
    obtain ⟨c, hc, hsubscribed⟩ := (Option.any_eq_true _ _).mp h
    simp [queueOf, consumer, publish, hc, hsubscribed, put_queue]

/-- A closed subscriber keeps its queue. -/
theorem queueOf_publish_closed {i : Nat} (h : f.reading (.secondary i) = false) :
    (f.publish size frame).queueOf (.secondary i) = f.queueOf (.secondary i) := by
  have hany : f.secondaries[i]?.any Consumer.subscribed = false := h
  cases hc : f.secondaries[i]? with
  | none => simp [queueOf, consumer, publish, hc]
  | some c =>
    rw [hc, Option.any_some] at hany
    simp [queueOf, consumer, publish, hc, hany]

/-- Publishing neither opens nor closes. -/
theorem reading_publish : (f.publish size frame).reading reader = f.reading reader := by
  cases reader with
  | primary => rfl
  | secondary i =>
    cases hc : f.secondaries[i]? with
    | none => simp [reading, publish, hc]
    | some c => by_cases hsubscribed : c.subscribed <;>
        simp [reading, publish, hc, hsubscribed, put_subscribed]

/-- The reader of a new consumer. -/
def newReader (f : FrameFanout) : Reader :=
  if f.primaryClaimed then .secondary f.secondaries.length else .primary

theorem newReader_free (h : f.primaryClaimed = false) : f.newReader = .primary := if_neg (by simp [h])

/-- A new reader was not reading. -/
theorem reading_newReader : f.reading f.newReader = false := by
  unfold newReader
  split
  · simp [reading]
  · rename_i hfree
    simpa [reading] using hfree

/-- The second reader of a source is a subscriber. -/
theorem frames_claimed (h : f.primaryClaimed = true) : f.frames size replayFrames =
    { f with secondaries :=
      f.secondaries ++ [{ queue := replay size (recent f.history replayFrames) }] } := if_pos h

/-- The first one is the owner. -/
theorem frames_free (h : f.primaryClaimed = false) :
    f.frames size replayFrames = { f with primaryClaimed := true } := if_neg (by simp [h])

/-- A new reader leaves the other queues alone. -/
theorem queueOf_frames (h : reader ≠ f.newReader) :
    (f.frames size replayFrames).queueOf reader = f.queueOf reader := by
  cases hclaimed : f.primaryClaimed with
  | false =>
    rw [frames_free hclaimed]
    rfl
  | true =>
    rw [frames_claimed hclaimed]
    cases reader with
    | primary => rfl
    | secondary i =>
      have hi : i ≠ f.secondaries.length := by
        rintro rfl
        exact h (by simp [newReader, hclaimed])
      simp only [queueOf, consumer, List.getElem?_append]
      split
      · rfl
      · rename_i hlength
        rw [List.getElem?_eq_none (by simp; omega), List.getElem?_eq_none (by omega)]

/-- After a subscription there is one reader more. -/
theorem reading_frames : (f.frames size replayFrames).reading reader =
    (f.reading reader || reader == f.newReader) := by
  cases hclaimed : f.primaryClaimed with
  | false =>
    rw [frames_free hclaimed]
    cases reader with
    | primary => simp [reading, newReader, hclaimed]
    | secondary i => simp [reading, newReader, hclaimed]
  | true =>
    rw [frames_claimed hclaimed]
    cases reader with
    | primary => simp [reading, newReader, hclaimed]
    | secondary i =>
      simp only [reading, newReader, hclaimed, if_true, List.getElem?_append]
      rcases lt_trichotomy i f.secondaries.length with hlt | rfl | hgt
      · rw [if_pos hlt]
        simp [hlt.ne]
      · simp
      · rw [if_neg (by omega), List.getElem?_eq_none (by simp; omega),
          List.getElem?_eq_none (by omega)]
        simp [hgt.ne']

theorem queueOf_frames_primary :
    (f.frames size replayFrames).queueOf .primary = f.queueOf .primary := by
  unfold FrameFanout.frames
  split <;> rfl

/-- A `get` takes the head of one queue, and no consumer joins or leaves. -/
theorem queueOf_read (h : f.read reader = some f') :
    ∃ frame, f.queueOf reader = frame :: f'.queueOf reader ∧
      (∀ reader', reader' ≠ reader → f'.queueOf reader' = f.queueOf reader') ∧
      ∀ reader', f'.reading reader' = f.reading reader' := by
  cases reader with
  | primary =>
    simp only [FrameFanout.read] at h
    split at h
    · rename_i frame queue hqueue
      obtain rfl := Option.some.inj h
      refine ⟨frame, hqueue, fun reader' hne => ?_, fun reader' => ?_⟩
      · cases reader' with
        | primary => exact absurd rfl hne
        | secondary i => rfl
      · cases reader' <;> rfl
    · cases h
  | secondary i =>
    simp only [FrameFanout.read] at h
    split at h
    · rename_i c hc
      split at h
      · rename_i frame queue hqueue
        obtain rfl := Option.some.inj h
        obtain ⟨hlt, hget⟩ := List.getElem?_eq_some_iff.mp hc
        refine ⟨frame, ?_, fun reader' hne => ?_, fun reader' => ?_⟩
        · simp [queueOf, consumer, hget, hqueue, hlt, Consumer.deliver]
        · cases reader' with
          | primary => rfl
          | secondary j =>
            have hij : i ≠ j := fun hij => hne (by rw [hij])
            simp [queueOf, consumer, List.getElem?_set_ne hij]
        · cases reader' with
          | primary => rfl
          | secondary j =>
            by_cases hij : i = j
            · subst hij
              simp [reading, hget, hlt, Consumer.deliver]
            · simp [reading, List.getElem?_set_ne hij]
      · cases h
    · cases h

/-- Closing leaves the other queues alone. -/
theorem queueOf_close (h : reader' ≠ reader) :
    (f.close reader).queueOf reader' = f.queueOf reader' := by
  cases reader with
  | primary =>
    cases reader' with
    | primary => exact absurd rfl h
    | secondary j => rfl
  | secondary i =>
    cases reader' with
    | primary => rfl
    | secondary j =>
      have hij : i ≠ j := fun hij => h (by rw [hij])
      simp [queueOf, consumer, FrameFanout.close, hij]

/-- What a closed secondary's queue still holds is not taken out; the primary's is emptied. -/
theorem queueOf_close_suffix : (f.close reader).queueOf reader <:+ f.queueOf reader := by
  cases reader with
  | primary => exact List.nil_suffix
  | secondary i =>
    simp only [queueOf, consumer, FrameFanout.close, List.getElem?_modify]
    cases f.secondaries[i]? <;> simp

/-- After a close there is one reader less. -/
theorem reading_close : (f.close reader).reading reader' =
    (f.reading reader' && reader' != reader) := by
  cases reader with
  | primary => cases reader' <;> simp [reading, FrameFanout.close]
  | secondary i =>
    cases reader' with
    | primary => simp [reading, FrameFanout.close]
    | secondary j =>
      simp only [reading, FrameFanout.close, List.getElem?_modify]
      by_cases hij : i = j
      · subst hij
        cases f.secondaries[i]? <;> simp
      · have hji : ¬ j = i := fun hji => hij hji.symm
        cases f.secondaries[j]? <;> simp [hij, hji]

/-- A replay that fits is the replayed frames. -/
theorem replay_eq {frames : List TimestampedPcm} (h : frames.length ≤ size.1) :
    replay size frames = frames := by
  induction frames using List.reverseRecOn with
  | nil => rfl
  | append_singleton frames frame ih =>
    rw [List.length_append, List.length_singleton] at h
    have ih : replay size frames = frames := ih (by omega)
    unfold replay at ih ⊢
    rw [List.foldl_append, ih]
    simp only [List.foldl_cons, List.foldl_nil]
    rw [if_neg (by omega)]

end FrameFanout

/-! ## The consumers on record -/

/-- A frame that has left a queue: delivered, or evicted from a queue that held so many. -/
structure Removal where
  frame : TimestampedPcm
  evictedFrom : Option Nat
deriving DecidableEq

/-- A consumer, from its first read on. -/
structure Subscription where
  source : Protocol.AudioSource
  reader : Reader
  live : Bool
  replayFrames : Nat
  /-- what was published for its source before it subscribed -/
  before : List TimestampedPcm
  /-- what its queue held then -/
  backlog : List TimestampedPcm
  /-- what was published since, while it was live -/
  since : List TimestampedPcm
  removed : List Removal
  /-- what its queue held when it was closed -/
  left : List TimestampedPcm
deriving DecidableEq

namespace Subscription

/-- The frames delivered to the consumer, in their order. -/
def received (c : Subscription) : List TimestampedPcm :=
  (c.removed.filter (·.evictedFrom.isNone)).map Removal.frame

/-- How many frames were evicted from its queue. -/
def evictions (c : Subscription) : Nat := c.removed.countP (·.evictedFrom.isSome)

/-- A frame is published while the queue holds `queue`. -/
def hear (size : QueueFrames) (queue : List TimestampedPcm) (frame : TimestampedPcm)
    (c : Subscription) : Subscription :=
  { c with
    since := c.since ++ [frame]
    removed := c.removed ++
      (if size.1 ≤ queue.length then queue.head?.toList.map (⟨·, some queue.length⟩) else []) }

@[simp] theorem hear_source (size : QueueFrames) (queue : List TimestampedPcm)
    (frame : TimestampedPcm) (c : Subscription) : (c.hear size queue frame).source = c.source := rfl

end Subscription

/-- The fanout, source by source, and the record: the consumers in the order in which they
    subscribed, what was published, and how often the primary's queue overflowed while nobody had
    claimed it. -/
structure Fanouts where
  fanout : Protocol.AudioSource → FrameFanout
  subscriptions : List Subscription
  published : Protocol.AudioSource → List TimestampedPcm
  unclaimed : Protocol.AudioSource → Nat

/-- What the publisher and the consumers of the fanouts do. -/
inductive FanoutMove
  | publish (source : Protocol.AudioSource) (frame : TimestampedPcm)
  | subscribe (source : Protocol.AudioSource) (replayFrames : Nat)
  | read (n : Nat)
  | close (n : Nat)

namespace Fanouts

open FrameFanout

variable (size : QueueFrames)

/-- What the queue of a consumer holds. -/
def queue (s : Fanouts) (c : Subscription) : List TimestampedPcm :=
  (s.fanout c.source).queueOf c.reader

/-- `publish`. -/
def publish (s : Fanouts) (source : Protocol.AudioSource) (frame : TimestampedPcm) : Fanouts where
  fanout := Function.update s.fanout source ((s.fanout source).publish size frame)
  subscriptions := s.subscriptions.map fun c =>
    if c.live ∧ c.source = source then c.hear size (s.queue c) frame else c
  published := Function.update s.published source (s.published source ++ [frame])
  unclaimed := Function.update s.unclaimed source (s.unclaimed source +
    if !(s.fanout source).primaryClaimed ∧ size.1 ≤ ((s.fanout source).queueOf .primary).length
      then 1 else 0)

/-- The first read of `frames`, up to its `get`. -/
def subscribe (s : Fanouts) (source : Protocol.AudioSource) (replayFrames : Nat) : Fanouts :=
  let fanout := (s.fanout source).frames size replayFrames
  let reader := (s.fanout source).newReader
  { s with
    fanout := Function.update s.fanout source fanout
    subscriptions := s.subscriptions ++ [{
      source
      reader
      live := true
      replayFrames
      before := s.published source
      backlog := fanout.queueOf reader
      since := []
      removed := []
      left := [] }] }

/-- A `get` of consumer `n`. -/
def read (s : Fanouts) (n : Nat) : Option Fanouts :=
  match s.subscriptions[n]? with
  | some c =>
    if c.live then
      match (s.fanout c.source).read c.reader, s.queue c with
      | some fanout, frame :: _ =>
          some { s with
            fanout := Function.update s.fanout c.source fanout
            subscriptions := s.subscriptions.set n
              { c with removed := c.removed ++ [⟨frame, none⟩] } }
      | _, _ => none
    else none
  | none => none

/-- Consumer `n` is closed. -/
def close (s : Fanouts) (n : Nat) : Option Fanouts :=
  match s.subscriptions[n]? with
  | some c =>
    if c.live then
      some { s with
        fanout := Function.update s.fanout c.source ((s.fanout c.source).close c.reader)
        subscriptions := s.subscriptions.set n { c with live := false, left := s.queue c } }
    else none
  | none => none

/-- The fanouts after a move. -/
def next (s : Fanouts) : FanoutMove → Option Fanouts
  | .publish source frame => some (s.publish size source frame)
  | .subscribe source replayFrames => some (s.subscribe size source replayFrames)
  | .read n => s.read n
  | .close n => s.close n

/-- A fanout as it is constructed. -/
def initial : Fanouts := ⟨fun _ => {}, [], fun _ => [], fun _ => 0⟩

end Fanouts

/-- Any publications, subscriptions, reads and closings. -/
def subscribing (size : QueueFrames) : Machine Fanouts FanoutMove where
  init s := s = Fanouts.initial
  next s move := s.next size move

/-! ## Every frame is accounted for -/

/-- Frames, flags aside. -/
def unflagged (frames : List TimestampedPcm) : List TimestampedPcm :=
  frames.map fun frame => { frame with flags := {} }

@[simp] theorem unflagged_append (xs ys : List TimestampedPcm) :
    unflagged (xs ++ ys) = unflagged xs ++ unflagged ys := List.map_append

/-- A frame put into a queue is behind what the queue gives up and what stays. -/
theorem put_behind (size : QueueFrames) (frame : TimestampedPcm) (queue : List TimestampedPcm) :
    ∃ frame', unflagged [frame'] = unflagged [frame] ∧
      (if size.1 ≤ queue.length then queue.head?.toList else []) ++
        FrameFanout.putQueue size frame queue = queue ++ [frame'] := by
  unfold FrameFanout.putQueue
  split
  · rename_i hfull
    obtain ⟨head, behind, tail, rfl⟩ := FrameFanout.full_cons_cons hfull
    exact ⟨{ frame with flags.discontinuity := true }, rfl, rfl⟩
  · exact ⟨frame, rfl, rfl⟩

/-- A queue never outgrows its bound. -/
theorem length_putQueue {size : QueueFrames} {frame : TimestampedPcm} {queue : List TimestampedPcm}
    (h : queue.length ≤ size.1) : (FrameFanout.putQueue size frame queue).length ≤ size.1 := by
  have hsize := size.2
  unfold FrameFanout.putQueue
  split
  · simp only [List.length_append, List.length_tail, List.length_singleton]
    omega
  · simp only [List.length_append, List.length_singleton]
    omega

/-- An account of a consumer of a queue that holds `queue`, in a source that has `published`. -/
structure Subscription.Accounted (size : QueueFrames) (published queue : List TimestampedPcm)
    (c : Subscription) : Prop where
  /-- What left the queue, delivered or evicted, and what is still there, or was when it was
      closed, is the backlog and everything published since. -/
  frames : unflagged (c.removed.map Removal.frame ++ if c.live then queue else c.left) =
    unflagged (c.backlog ++ c.since)
  /-- An overflow marks no frame of the backlog. -/
  unmarked : c.backlog <+: c.removed.map Removal.frame ++ if c.live then queue else c.left
  evicted : ∀ removal ∈ c.removed, ∀ held, removal.evictedFrom = some held → held = size.1
  course : c.before ++ c.since <+: published
  current : c.live = true → published = c.before ++ c.since
  /-- The backlog is the end of what was published before, for a queue of its own unchanged and of
      the length that was asked for. -/
  backlog : unflagged c.backlog <:+ unflagged c.before
  replay : c.reader ≠ .primary → c.backlog <:+ c.before ∧
    c.backlog.length = min c.replayFrames (min size.1 c.before.length)

namespace Subscription

variable {size : QueueFrames} {published queue : List TimestampedPcm} {frame : TimestampedPcm}
  {c : Subscription}

/-- What is received is among the backlog and what was published since, in that order. -/
theorem Accounted.received (h : c.Accounted size published queue) :
    (unflagged c.received).Sublist (unflagged (c.backlog ++ c.since)) := by
  rw [← h.frames]
  have hremoved : c.received.Sublist (c.removed.map Removal.frame) := List.filter_sublist.map _
  exact (hremoved.trans (List.sublist_append_left _ _)).map _

/-- What a consumer's queue has given up and what it holds grow by the frame. -/
theorem hear_behind (size : QueueFrames) (queue : List TimestampedPcm) (frame : TimestampedPcm)
    (c : Subscription) : ∃ frame', unflagged [frame'] = unflagged [frame] ∧
      (c.hear size queue frame).removed.map Removal.frame ++
        FrameFanout.putQueue size frame queue =
      c.removed.map Removal.frame ++ queue ++ [frame'] := by
  obtain ⟨frame', hflags, hput⟩ := put_behind size frame queue
  have hevicted : (c.hear size queue frame).removed.map Removal.frame =
      c.removed.map Removal.frame ++
        if size.1 ≤ queue.length then queue.head?.toList else [] := by
    unfold Subscription.hear
    split
    · cases queue <;> simp
    · simp
  exact ⟨frame', hflags, by rw [hevicted, List.append_assoc, hput, List.append_assoc]⟩

/-- A publication for a live consumer. -/
theorem Accounted.hear (h : c.Accounted size published queue) (hlive : c.live = true)
    (hfits : queue.length ≤ size.1) :
    (c.hear size queue frame).Accounted size (published ++ [frame])
      (FrameFanout.putQueue size frame queue) where
  frames := by
    have hframes := h.frames
    rw [if_pos hlive] at hframes
    obtain ⟨frame', hflags, hheard⟩ := hear_behind size queue frame c
    show unflagged (_ ++ if c.live then _ else _) = unflagged (c.backlog ++ (c.since ++ [frame]))
    rw [if_pos hlive, hheard, unflagged_append, hflags, hframes, ← unflagged_append,
      List.append_assoc]
  unmarked := by
    have hunmarked := h.unmarked
    rw [if_pos hlive] at hunmarked
    obtain ⟨frame', -, hheard⟩ := hear_behind size queue frame c
    show c.backlog <+: _ ++ if c.live then _ else _
    rw [if_pos hlive, hheard]
    exact hunmarked.trans (List.prefix_append _ _)
  evicted := by
    intro removal hremoval held heq
    rcases List.mem_append.mp hremoval with hold | hnew
    · exact h.evicted removal hold held heq
    · split at hnew
      · -- only a full queue evicts, and no queue is longer than its bound
        rename_i hfull
        obtain ⟨head, -, rfl⟩ := List.mem_map.mp hnew
        obtain rfl := Option.some.inj heq
        exact Nat.le_antisymm hfits hfull
      · cases hnew
  course := by
    rw [h.current hlive]
    show c.before ++ (c.since ++ [frame]) <+: _
    exact ⟨[], by rw [List.append_nil, List.append_assoc]⟩
  current := fun _ => by
    rw [h.current hlive]
    exact List.append_assoc _ _ _
  backlog := h.backlog
  replay := h.replay

/-- A `get` of a live consumer. -/
theorem Accounted.read (h : c.Accounted size published (frame :: queue)) (hlive : c.live = true) :
    Accounted size published queue { c with removed := c.removed ++ [⟨frame, none⟩] } where
  frames := by
    have hframes := h.frames
    rw [if_pos hlive] at hframes ⊢
    rw [← hframes, List.map_append, List.append_assoc]
    rfl
  unmarked := by
    have hunmarked := h.unmarked
    rw [if_pos hlive] at hunmarked ⊢
    rw [List.map_append, List.append_assoc]
    exact hunmarked
  evicted := by
    intro removal hremoval held heq
    rcases List.mem_append.mp hremoval with hold | hnew
    · exact h.evicted removal hold held heq
    · obtain rfl := List.mem_singleton.mp hnew
      cases heq
  course := h.course
  current := h.current
  backlog := h.backlog
  replay := h.replay

/-- What a closed consumer leaves stays on record, whatever becomes of the queue. -/
theorem Accounted.close {queue' : List TimestampedPcm} (h : c.Accounted size published queue)
    (hlive : c.live = true) :
    Accounted size published queue' { c with live := false, left := queue } where
  frames := by
    have hframes := h.frames
    rwa [if_pos hlive] at hframes
  unmarked := by
    have hunmarked := h.unmarked
    rwa [if_pos hlive] at hunmarked
  evicted := h.evicted
  course := h.course
  current := fun hno => by cases hno
  backlog := h.backlog
  replay := h.replay

/-- A closed consumer's account outlasts later publications. -/
theorem Accounted.later {published' queue' : List TimestampedPcm}
    (h : c.Accounted size published queue) (hlive : c.live = false)
    (hpublished : published <+: published') : c.Accounted size published' queue' where
  frames := by
    have hframes := h.frames
    rw [if_neg (by simp [hlive])] at hframes ⊢
    exact hframes
  unmarked := by
    have hunmarked := h.unmarked
    rw [if_neg (by simp [hlive])] at hunmarked ⊢
    exact hunmarked
  evicted := h.evicted
  course := h.course.trans hpublished
  current := fun hyes => by rw [hlive] at hyes; cases hyes
  backlog := h.backlog
  replay := h.replay

end Subscription

/-! ## Every queue that is read has one consumer -/

namespace FrameFanout

variable {f : FrameFanout} {reader : Reader}

/-- The readers of a fanout. -/
def openReaders (f : FrameFanout) : List Reader :=
  (if f.primaryClaimed then [.primary] else []) ++
    ((List.range f.secondaries.length).filter fun i => f.reading (.secondary i)).map .secondary

/-- The open readers are those that read. -/
theorem mem_openReaders : reader ∈ f.openReaders ↔ f.reading reader = true := by
  cases reader with
  | primary => cases hclaimed : f.primaryClaimed <;> simp [openReaders, reading, hclaimed]
  | secondary i =>
    have hlength : f.reading (.secondary i) = true → i < f.secondaries.length := fun h => by
      obtain ⟨c, hc, -⟩ := (Option.any_eq_true _ _).mp h
      exact (List.getElem?_eq_some_iff.mp hc).1
    cases hclaimed : f.primaryClaimed <;> simp [openReaders, hclaimed] <;> exact hlength

theorem openReaders_nodup : f.openReaders.Nodup := by
  have hsecondaries : (((List.range f.secondaries.length).filter fun i =>
      f.reading (.secondary i)).map Reader.secondary).Nodup :=
    List.Pairwise.map Reader.secondary (fun i j hne heq => hne (by injection heq))
      (List.nodup_range.filter _)
  unfold openReaders
  split
  · exact List.nodup_cons.mpr ⟨by simp, hsecondaries⟩
  · exact hsecondaries

/-- Each of them once. -/
theorem count_openReaders : f.openReaders.count reader = (f.reading reader).toNat := by
  rw [openReaders_nodup.count]
  cases h : f.reading reader <;> simp [mem_openReaders, h]

theorem countP_range {α : Type} (p : α → Bool) (l : List α) :
    ((List.range l.length).countP fun i => l[i]?.any p) = l.countP p := by
  induction l using List.reverseRecOn with
  | nil => rfl
  | append_singleton l a ih =>
    have hfront : ((List.range l.length).countP fun i => (l ++ [a])[i]?.any p) =
        (List.range l.length).countP fun i => l[i]?.any p :=
      List.countP_congr fun i hi => by
        rw [List.getElem?_append_left (List.mem_range.mp hi)]
    rw [List.length_append, List.length_singleton, List.range_succ, List.countP_append,
      List.countP_append, hfront, ih]
    simp

/-- The queues that `publish` fills are those of the readers, and the primary's in any case. -/
theorem countP_subscribers (full : List TimestampedPcm → Bool) :
    f.subscribers.countP (fun c => full c.queue) =
      (!f.primaryClaimed && full (f.queueOf .primary)).toNat +
        f.openReaders.countP (fun reader => full (f.queueOf reader)) := by
  have hsecondaries : (((List.range f.secondaries.length).filter fun i =>
      f.reading (.secondary i)).map Reader.secondary).countP (fun r => full (f.queueOf r)) =
      (f.secondaries.filter Consumer.subscribed).countP fun c => full c.queue := by
    rw [List.countP_map, List.countP_filter, List.countP_filter, ← countP_range _ f.secondaries]
    refine List.countP_congr fun i _ => ?_
    cases hi : f.secondaries[i]? <;> simp [queueOf, consumer, reading, hi]
  have hprimary : f.queueOf .primary = f.primary.queue := rfl
  unfold subscribers openReaders
  rw [List.countP_cons, List.countP_append, hsecondaries]
  cases hfull : full f.primary.queue <;> cases f.primaryClaimed <;>
    simp [hprimary, hfull, Nat.add_comm]

end FrameFanout

namespace Fanouts

open FrameFanout

variable {size : QueueFrames} {s s' : Fanouts} {source : Protocol.AudioSource} {reader : Reader}
  {c : Subscription} {frame : TimestampedPcm} {n : Nat}

/-- The consumer stands for a reader of a source. -/
def Stands (source : Protocol.AudioSource) (reader : Reader) (c : Subscription) : Bool :=
  decide (c.live = true ∧ c.source = source ∧ c.reader = reader)

/-- Whoever is read for has one live consumer, and nobody else has one. -/
def Owned (s : Fanouts) : Prop :=
  ∀ source reader,
    s.subscriptions.countP (Stands source reader) = ((s.fanout source).reading reader).toNat

/-- A live subscription is read. -/
theorem Owned.reading (h : s.Owned) (hc : c ∈ s.subscriptions) (hlive : c.live = true) :
    (s.fanout c.source).reading c.reader = true := by
  have hpos : 0 < s.subscriptions.countP (Stands c.source c.reader) :=
    List.countP_pos_iff.mpr ⟨c, hc, by simp [Stands, hlive]⟩
  rw [h c.source c.reader] at hpos
  revert hpos
  cases (s.fanout c.source).reading c.reader <;> simp

theorem pairwise_of_countP {α β : Type} {p : β → α → Bool} {l : List α}
    (h : ∀ key, l.countP (p key) ≤ 1) : l.Pairwise fun a b => ∀ key, p key a → ¬ p key b := by
  induction l with
  | nil => exact .nil
  | cons a l ih =>
    refine .cons (fun b hb key ha hbkey => ?_) (ih fun key => ?_)
    · have hpos : 0 < l.countP (p key) := List.countP_pos_iff.mpr ⟨b, hb, hbkey⟩
      have hle := h key
      rw [List.countP_cons_of_pos ha] at hle
      omega
    · exact Nat.le_trans ((List.sublist_cons_self a l).countP_le) (h key)

/-- No two live consumers share a queue. -/
theorem Owned.distinct (h : s.Owned) : s.subscriptions.Pairwise fun c c' =>
    c.live = true → c'.live = true → c.source = c'.source → c.reader ≠ c'.reader := by
  have hcount : ∀ key : Protocol.AudioSource × Reader,
      s.subscriptions.countP (Stands key.1 key.2) ≤ 1 := fun key => by
    rw [h key.1 key.2]
    exact Bool.toNat_le _
  refine (pairwise_of_countP hcount).imp fun hne hlive hlive' hsource hreader => ?_
  exact hne (_, _) (decide_eq_true ⟨hlive, rfl, rfl⟩)
    (decide_eq_true ⟨hlive', hsource.symm, hreader.symm⟩)

/-- The live consumers of a source are its readers. -/
theorem Owned.perm (h : s.Owned) (source : Protocol.AudioSource) :
    ((s.subscriptions.filter fun c => decide (c.live = true ∧ c.source = source)).map
      Subscription.reader).Perm (s.fanout source).openReaders := by
  refine List.perm_iff_count.mpr fun reader => ?_
  rw [count_openReaders, ← h source reader, List.count_eq_countP, List.countP_map,
    List.countP_filter]
  refine List.countP_congr fun c _ => ?_
  simp [Stands, and_comm, and_left_comm]

/-! ## Every move keeps the accounts -/

/-- How many frames were evicted from the queues of a source's consumers. -/
def evictions (s : Fanouts) (source : Protocol.AudioSource) : Nat :=
  (s.subscriptions.map fun c => if c.source = source then c.evictions else 0).sum

/-- What holds in every run. -/
structure Delivering (size : QueueFrames) (s : Fanouts) : Prop where
  owned : s.Owned
  fits : ∀ source reader, ((s.fanout source).queueOf reader).length ≤ size.1
  history : ∀ source, (s.fanout source).history =
    (s.published source).drop ((s.published source).length - size.1)
  /-- The primary's queue is the end of what was published, whether it is claimed or not. -/
  retained : ∀ source,
    unflagged ((s.fanout source).queueOf .primary) <:+ unflagged (s.published source)
  accounts : ∀ c ∈ s.subscriptions, c.Accounted size (s.published c.source) (s.queue c)
  dropped : ∀ source,
    (s.fanout source).metrics.dropped = s.unclaimed source + s.evictions source

theorem map_set {α β : Type} {f : α → β} {l : List α} {n : Nat} {a b : α} (h : l[n]? = some a)
    (heq : f b = f a) : (l.set n b).map f = l.map f := by
  obtain ⟨hn, rfl⟩ := List.getElem?_eq_some_iff.mp h
  rw [List.map_set, heq, ← List.getElem_map f (h := by simpa using hn), List.set_getElem_self]

/-- A consumer whose record grows is still the same consumer. -/
theorem countP_set_stands {b : Subscription} (h : s.subscriptions[n]? = some c)
    (hlive : b.live = c.live) (hsource : b.source = c.source) (hreader : b.reader = c.reader) :
    (s.subscriptions.set n b).countP (Stands source reader) =
      s.subscriptions.countP (Stands source reader) := by
  have hmap := map_set (f := Stands source reader) h (b := b)
    (by simp [Stands, hlive, hsource, hreader])
  have hid := congrArg (List.countP id) hmap
  rwa [List.countP_map, List.countP_map, Function.id_comp] at hid

theorem sum_map_add {α : Type} {f g : α → Nat} {p : α → Bool} {l : List α}
    (h : ∀ a ∈ l, g a = f a + (p a).toNat) : (l.map g).sum = (l.map f).sum + l.countP p := by
  induction l with
  | nil => rfl
  | cons a l ih =>
    have hhead := h a List.mem_cons_self
    have htail := ih fun b hb => h b (List.mem_cons_of_mem a hb)
    rw [List.map_cons, List.map_cons, List.sum_cons, List.sum_cons, List.countP_cons, htail, hhead]
    cases p a <;> simp <;> omega

/-- A full queue loses a frame by each new one. -/
theorem evictions_hear {queue : List TimestampedPcm} : (c.hear size queue frame).evictions =
    c.evictions + (decide (size.1 ≤ queue.length)).toNat := by
  unfold Subscription.evictions Subscription.hear
  by_cases hfull : size.1 ≤ queue.length
  · obtain ⟨head, behind, tail, rfl⟩ := FrameFanout.full_cons_cons hfull
    simp only [if_pos hfull, decide_eq_true hfull, List.countP_append]
    rfl
  · simp [hfull]

theorem Delivering.initial : Delivering size Fanouts.initial where
  owned := fun source reader => by cases reader <;> rfl
  fits := fun source reader => by cases reader <;> simp [Fanouts.initial, queueOf, consumer]
  history := fun source => by simp [Fanouts.initial]
  retained := fun source => List.suffix_refl []
  accounts := fun c hc => by cases hc
  dropped := fun source => rfl

/-- The end of what was published, after one more frame. -/
theorem drop_append_last {published : List TimestampedPcm} {k : Nat} (hk : 1 ≤ k) :
    let history := published.drop (published.length - k) ++ [frame]
    history.drop (history.length - k) =
      (published ++ [frame]).drop ((published ++ [frame]).length - k) := by
  intro history
  have hhistory : history = (published ++ [frame]).drop (published.length - k) :=
    (List.drop_append_of_le_length (by omega)).symm
  rw [hhistory, List.drop_drop]
  congr 1
  simp only [List.length_drop, List.length_append, List.length_singleton]
  omega

theorem putQueue_suffix {queue : List TimestampedPcm} :
    unflagged (putQueue size frame queue) <:+ unflagged (queue ++ [frame]) := by
  obtain ⟨frame', hflags, hput⟩ := put_behind size frame queue
  rw [unflagged_append, ← hflags, ← unflagged_append, ← hput, unflagged_append]
  exact List.suffix_append _ _

theorem queueOf_publish_length {f : FrameFanout} (h : (f.queueOf reader).length ≤ size.1) :
    ((f.publish size frame).queueOf reader).length ≤ size.1 := by
  cases hreading : f.reading reader with
  | true =>
    rw [queueOf_publish hreading]
    exact length_putQueue h
  | false =>
    cases reader with
    | primary =>
      rw [queueOf_publish_primary]
      exact length_putQueue h
    | secondary i => rwa [queueOf_publish_closed hreading]

/-- The evictions of a publication, in the metric and on record. -/
theorem Owned.publish_dropped (h : s.Owned) (source : Protocol.AudioSource) :
    (s.fanout source).subscribers.countP (fun c => decide (size.1 ≤ c.queue.length)) =
      (if !(s.fanout source).primaryClaimed ∧
          size.1 ≤ ((s.fanout source).queueOf .primary).length then 1 else 0) +
        s.subscriptions.countP fun c =>
          decide (c.live = true ∧ c.source = source) && decide (size.1 ≤ (s.queue c).length) := by
  have hreaders := (h.perm source).countP_eq fun reader =>
    decide (size.1 ≤ ((s.fanout source).queueOf reader).length)
  rw [List.countP_map, List.countP_filter] at hreaders
  rw [countP_subscribers fun queue => decide (size.1 ≤ queue.length), ← hreaders]
  congr 1
  · cases (s.fanout source).primaryClaimed <;>
      by_cases hfull : size.1 ≤ ((s.fanout source).queueOf .primary).length <;> simp [hfull]
  · refine List.countP_congr fun c _ => ?_
    simp only [Function.comp, Bool.and_eq_true, decide_eq_true_eq]
    constructor
    · rintro ⟨hfull, hlive, rfl⟩
      exact ⟨⟨hlive, rfl⟩, hfull⟩
    · rintro ⟨⟨hlive, rfl⟩, hfull⟩
      exact ⟨hfull, hlive, rfl⟩

theorem evictions_publish (source' : Protocol.AudioSource) :
    (s.publish size source frame).evictions source' = s.evictions source' +
      if source' = source then
        s.subscriptions.countP fun c =>
          decide (c.live = true ∧ c.source = source) && decide (size.1 ≤ (s.queue c).length)
      else 0 := by
  unfold evictions publish
  rw [List.map_map]
  by_cases hsource : source' = source
  · subst hsource
    rw [if_pos rfl]
    refine sum_map_add fun c _ => ?_
    simp only [Function.comp]
    by_cases hhears : c.live = true ∧ c.source = source'
    · rw [if_pos hhears, Subscription.hear_source, if_pos hhears.2, if_pos hhears.2, evictions_hear,
        decide_eq_true hhears, Bool.true_and]
    · rw [if_neg hhears, decide_eq_false hhears]
      rfl
  · rw [if_neg hsource, Nat.add_zero]
    refine congrArg List.sum (List.map_congr_left fun c _ => ?_)
    simp only [Function.comp]
    split
    · rename_i hhears
      have hother : c.source ≠ source' := fun heq => hsource (heq.symm.trans hhears.2)
      rw [Subscription.hear_source, if_neg hother, if_neg hother]
    · rfl

theorem Owned.publish (h : s.Owned) : (s.publish size source frame).Owned := by
  intro source' reader
  have hcount : (s.publish size source frame).subscriptions.countP (Stands source' reader) =
      s.subscriptions.countP (Stands source' reader) := by
    unfold Fanouts.publish
    rw [List.countP_map]
    refine List.countP_congr fun c _ => ?_
    simp only [Function.comp]
    split <;> rfl
  rw [hcount, h source' reader]
  show _ = ((Function.update s.fanout source _ source').reading reader).toNat
  rw [Function.update_apply]
  split
  · rename_i heq
    rw [heq, reading_publish]
  · rfl

theorem Owned.queue_publish (h : s.Owned) (hc : c ∈ s.subscriptions) (hlive : c.live = true) :
    (s.publish size c.source frame).queue c = putQueue size frame (s.queue c) := by
  show (Function.update s.fanout c.source _ c.source).queueOf c.reader = _
  rw [Function.update_self]
  exact queueOf_publish (h.reading hc hlive)

/-- A frame is published. -/
theorem Delivering.publish (h : Delivering size s) :
    Delivering size (s.publish size source frame) where
  owned := h.owned.publish
  fits := fun source' reader => by
    show ((Function.update s.fanout source _ source').queueOf reader).length ≤ _
    rw [Function.update_apply]
    split
    · exact queueOf_publish_length (h.fits source reader)
    · exact h.fits source' reader
  history := fun source' => by
    show (Function.update s.fanout source _ source').history =
      (Function.update s.published source _ source').drop
        ((Function.update s.published source _ source').length - size.1)
    rw [Function.update_apply, Function.update_apply]
    split
    · rw [← drop_append_last (Nat.le_trans (by decide) size.2), ← h.history source]
      rfl
    · exact h.history source'
  retained := fun source' => by
    show unflagged ((Function.update s.fanout source _ source').queueOf .primary) <:+
      unflagged (Function.update s.published source _ source')
    rw [Function.update_apply, Function.update_apply]
    split
    · rw [queueOf_publish_primary]
      refine putQueue_suffix.trans ?_
      rw [unflagged_append, unflagged_append]
      obtain ⟨front, hfront⟩ := h.retained source
      exact ⟨front, by rw [← hfront, List.append_assoc]⟩
    · exact h.retained source'
  accounts := fun c' hc' => by
    obtain ⟨c, hc, rfl⟩ := List.mem_map.mp hc'
    have haccount := h.accounts c hc
    split
    · rename_i hhears
      obtain ⟨hlive, rfl⟩ := hhears
      have hqueue : (s.publish size c.source frame).queue (c.hear size (s.queue c) frame) =
          putQueue size frame (s.queue c) := h.owned.queue_publish hc hlive
      have hpublished : (s.publish size c.source frame).published c.source =
          s.published c.source ++ [frame] := Function.update_self ..
      rw [hqueue]
      exact hpublished ▸ haccount.hear hlive (h.fits c.source c.reader)
    · -- whoever does not hear is closed, or of another source
      rename_i hhears
      by_cases hsource : c.source = source
      · have hlive : c.live = false := Bool.eq_false_iff.mpr fun hlive => hhears ⟨hlive, hsource⟩
        refine haccount.later hlive ?_
        show _ <+: Function.update s.published source _ c.source
        rw [hsource, Function.update_self]
        exact List.prefix_append _ _
      · have hpublished : (s.publish size source frame).published c.source =
            s.published c.source := Function.update_of_ne hsource ..
        have hqueue : (s.publish size source frame).queue c = s.queue c := by
          show (Function.update s.fanout source _ c.source).queueOf c.reader = _
          rw [Function.update_of_ne hsource]
          rfl
        rw [hpublished, hqueue]
        exact haccount
  dropped := fun source' => by
    rw [evictions_publish]
    show (Function.update s.fanout source _ source').metrics.dropped =
      Function.update s.unclaimed source _ source' + _
    rw [Function.update_apply, Function.update_apply]
    split
    · rename_i heq
      subst heq
      show (s.fanout source').metrics.dropped + _ = _
      rw [h.dropped source', h.owned.publish_dropped source']
      omega
    · exact h.dropped source'

/-- A subscription takes a reader that is its own. -/
theorem Owned.subscribe {replayFrames : Nat} (h : s.Owned) :
    (s.subscribe size source replayFrames).Owned := by
  intro source' reader
  show (s.subscriptions ++ [_]).countP (Stands source' reader) =
    ((Function.update s.fanout source _ source').reading reader).toNat
  rw [List.countP_append, h source' reader, List.countP_singleton, Function.update_apply]
  by_cases hsource : source' = source
  · subst hsource
    rw [if_pos rfl, reading_frames]
    by_cases hnew : reader = (s.fanout source').newReader
    · subst hnew
      simp [Stands, reading_newReader]
    · simp [Stands, beq_false_of_ne hnew, Ne.symm hnew]
  · rw [if_neg hsource]
    simp [Stands, Ne.symm hsource]

/-- What a new consumer takes over. -/
theorem queueOf_newReader {f : FrameFanout} {replayFrames : Nat}
    (hhistory : f.history.length ≤ size.1) : (f.frames size replayFrames).queueOf f.newReader =
      if f.primaryClaimed then recent f.history replayFrames else f.queueOf .primary := by
  cases hclaimed : f.primaryClaimed with
  | false =>
    rw [newReader_free hclaimed, queueOf_frames_primary]
    rfl
  | true =>
    have hrecent : (recent f.history replayFrames).length ≤ size.1 :=
      Nat.le_trans (recent_suffix _ _).length_le hhistory
    rw [frames_claimed hclaimed]
    simp only [queueOf, consumer, newReader, hclaimed, if_true]
    simp [replay_eq hrecent]

theorem backlog_secondary {f : FrameFanout} {replayFrames : Nat} (hclaimed : f.primaryClaimed = true)
    {published : List TimestampedPcm}
    (hhistory : f.history = published.drop (published.length - size.1)) :
    (f.frames size replayFrames).queueOf f.newReader <:+ published ∧
      ((f.frames size replayFrames).queueOf f.newReader).length =
        min replayFrames (min size.1 published.length) := by
  have hlength : f.history.length = min size.1 published.length := by
    rw [hhistory, List.length_drop]
    omega
  rw [queueOf_newReader (by omega), if_pos hclaimed]
  refine ⟨(recent_suffix _ _).trans (hhistory ▸ List.drop_suffix _ _), ?_⟩
  unfold recent
  split
  · simp only [List.length_drop]
    omega
  · simp only [List.length_nil]
    omega

/-- A new consumer takes over what its queue holds. -/
theorem Delivering.subscribe {replayFrames : Nat} (h : Delivering size s) :
    Delivering size (s.subscribe size source replayFrames) where
  owned := h.owned.subscribe
  fits := fun source' reader => by
    show ((Function.update s.fanout source _ source').queueOf reader).length ≤ _
    rw [Function.update_apply]
    split
    · by_cases hnew : reader = (s.fanout source).newReader
      · subst hnew
        cases hclaimed : (s.fanout source).primaryClaimed with
        | false =>
          rw [frames_free hclaimed]
          exact h.fits source _
        | true =>
          rw [(backlog_secondary hclaimed (h.history source)).2]
          omega
      · rw [queueOf_frames hnew]
        exact h.fits source reader
    · exact h.fits source' reader
  history := fun source' => by
    show (Function.update s.fanout source _ source').history = _
    rw [Function.update_apply]
    split
    · rename_i heq
      rw [(frames_same replayFrames).history, heq]
      exact h.history source
    · exact h.history source'
  retained := fun source' => by
    show unflagged ((Function.update s.fanout source _ source').queueOf .primary) <:+ _
    rw [Function.update_apply]
    split
    · rename_i heq
      rw [queueOf_frames_primary, heq]
      exact h.retained source
    · exact h.retained source'
  accounts := fun c' hc' => by
    rcases List.mem_append.mp hc' with hc | hc
    · -- nobody else's queue is touched
      have hqueue : c'.live = true →
          (s.subscribe size source replayFrames).queue c' = s.queue c' := fun hlive => by
        show (Function.update s.fanout source _ c'.source).queueOf c'.reader = _
        rw [Function.update_apply]
        split
        · rename_i heq
          have hne : c'.reader ≠ (s.fanout source).newReader := fun hnew => by
            have hreading := h.owned.reading hc hlive
            rw [heq, hnew, reading_newReader] at hreading
            cases hreading
          rw [queueOf_frames hne, ← heq]
          rfl
        · rfl
      cases hlive : c'.live with
      | true =>
        rw [hqueue hlive]
        exact h.accounts c' hc
      | false => exact (h.accounts c' hc).later hlive (List.prefix_refl _)
    · -- the new one has removed nothing: what its queue holds is its backlog
      obtain rfl := List.mem_singleton.mp hc
      have hqueue : (Function.update s.fanout source
          ((s.fanout source).frames size replayFrames) source).queueOf (s.fanout source).newReader =
          ((s.fanout source).frames size replayFrames).queueOf (s.fanout source).newReader := by
        rw [Function.update_self]
      refine ⟨?_, ?_, fun _ hremoval => (by cases hremoval), ?_, fun _ => (List.append_nil _).symm, ?_,
        fun hsecondary => ?_⟩
      · rw [List.append_nil]
        exact congrArg unflagged hqueue
      · exact hqueue ▸ List.prefix_refl _
      · show s.published source ++ [] <+: s.published source
        exact ⟨[], by rw [List.append_nil, List.append_nil]⟩
      · show unflagged (((s.fanout source).frames size replayFrames).queueOf
          (s.fanout source).newReader) <:+ unflagged (s.published source)
        cases hclaimed : (s.fanout source).primaryClaimed with
        | false =>
          rw [newReader_free hclaimed, queueOf_frames_primary]
          exact h.retained source
        | true => exact (backlog_secondary hclaimed (h.history source)).1.map _
      · refine backlog_secondary ?_ (h.history source)
        refine Bool.eq_true_of_not_eq_false fun hfree => ?_
        exact hsecondary (newReader_free hfree)
  dropped := fun source' => by
    have hevictions : (s.subscribe size source replayFrames).evictions source' =
        s.evictions source' := by
      show ((s.subscriptions ++ [_]).map _).sum = _
      rw [List.map_append, List.sum_append]
      simp [evictions, Subscription.evictions]
    rw [hevictions]
    show (Function.update s.fanout source _ source').metrics.dropped = s.unclaimed source' + _
    rw [Function.update_apply]
    split
    · rename_i heq
      rw [(frames_same replayFrames).metrics, heq]
      exact h.dropped source
    · exact h.dropped source'

/-- What `read` does. -/
theorem read_eq (h : s.read n = some s') : ∃ c f' frame,
    s.subscriptions[n]? = some c ∧ c.live = true ∧ (s.fanout c.source).read c.reader = some f' ∧
      (s.fanout c.source).queueOf c.reader = frame :: f'.queueOf c.reader ∧
      s' = { s with
        fanout := Function.update s.fanout c.source f'
        subscriptions := s.subscriptions.set n
          { c with removed := c.removed ++ [⟨frame, none⟩] } } := by
  unfold Fanouts.read at h
  split at h
  · rename_i c hc
    split at h
    · rename_i hlive
      split at h
      · rename_i f' frame queue hread hqueue
        obtain rfl := Option.some.inj h
        obtain ⟨head, hhead, -⟩ := queueOf_read hread
        have heq : frame = head := by
          have hcons := hqueue.symm.trans hhead
          injection hcons
        exact ⟨c, f', frame, hc, hlive, hread, heq ▸ hhead, rfl⟩
      · cases h
    · cases h
  · cases h

/-- A consumer on its own queue: no other live consumer stands for its reader. -/
theorem Owned.alone {m : Nat} {c' : Subscription} (h : s.Owned)
    (hc : s.subscriptions[n]? = some c) (hc' : s.subscriptions[m]? = some c') (hmn : n ≠ m)
    (hlive : c.live = true) (hlive' : c'.live = true) (hsource : c'.source = c.source) :
    c'.reader ≠ c.reader := by
  have hpairwise := List.pairwise_iff_getElem.mp h.distinct
  obtain ⟨hn, rfl⟩ := List.getElem?_eq_some_iff.mp hc
  obtain ⟨hm, rfl⟩ := List.getElem?_eq_some_iff.mp hc'
  rcases Nat.lt_or_gt_of_ne hmn with hlt | hgt
  · exact (hpairwise n m hn hm hlt hlive hlive' hsource.symm).symm
  · exact hpairwise m n hm hn hgt hlive' hlive hsource

/-- A move of one live consumer, which only takes from its queue. -/
theorem Delivering.set {f₂ : FrameFanout} {c₂ : Subscription} (h : Delivering size s)
    (hc : s.subscriptions[n]? = some c) (hlive : c.live = true) (hsource : c₂.source = c.source)
    (hsame : SameFrames (s.fanout c.source) f₂)
    (hothers : ∀ reader, reader ≠ c.reader →
      f₂.queueOf reader = (s.fanout c.source).queueOf reader)
    (hqueue : f₂.queueOf c.reader <:+ (s.fanout c.source).queueOf c.reader)
    (hevictions : c₂.evictions = c.evictions)
    (haccount : c₂.Accounted size (s.published c.source) (f₂.queueOf c₂.reader))
    (howned : Owned { s with
      fanout := Function.update s.fanout c.source f₂, subscriptions := s.subscriptions.set n c₂ }) :
    Delivering size { s with
      fanout := Function.update s.fanout c.source f₂
      subscriptions := s.subscriptions.set n c₂ } where
  owned := howned
  fits := fun source' reader => by
    show ((Function.update s.fanout c.source f₂ source').queueOf reader).length ≤ _
    rw [Function.update_apply]
    split
    · by_cases hreader : reader = c.reader
      · exact Nat.le_trans (hreader ▸ hqueue.length_le) (h.fits c.source c.reader)
      · rw [hothers reader hreader]
        exact h.fits c.source reader
    · exact h.fits source' reader
  history := fun source' => by
    show (Function.update s.fanout c.source f₂ source').history = _
    rw [Function.update_apply]
    split
    · rename_i heq
      rw [hsame.history, heq]
      exact h.history c.source
    · exact h.history source'
  retained := fun source' => by
    show unflagged ((Function.update s.fanout c.source f₂ source').queueOf .primary) <:+ _
    rw [Function.update_apply]
    split
    · rename_i heq
      subst heq
      by_cases hreader : Reader.primary = c.reader
      · have hprimary : f₂.queueOf .primary <:+ (s.fanout c.source).queueOf .primary :=
          hreader ▸ hqueue
        exact (hprimary.map _).trans (h.retained c.source)
      · rw [hothers _ hreader]
        exact h.retained c.source
    · exact h.retained source'
  accounts := fun c' hc' => by
    obtain ⟨m, hm⟩ := List.mem_iff_getElem?.mp hc'
    rw [List.getElem?_set] at hm
    split at hm
    · -- the consumer itself
      have hc₂ : c' = c₂ := by
        split at hm
        · exact (Option.some.inj hm).symm
        · cases hm
      subst hc₂
      have hself : (Function.update s.fanout c.source f₂ c'.source).queueOf c'.reader =
          f₂.queueOf c'.reader := by rw [hsource, Function.update_self]
      show c'.Accounted size (s.published c'.source)
        ((Function.update s.fanout c.source f₂ c'.source).queueOf c'.reader)
      rw [hself, hsource]
      exact haccount
    · rename_i hmn
      have haccount' := h.accounts c' (List.mem_of_getElem? hm)
      cases hlive' : c'.live with
      | false => exact haccount'.later hlive' (List.prefix_refl _)
      | true =>
        have hqueue' : (Function.update s.fanout c.source f₂ c'.source).queueOf c'.reader =
            s.queue c' := by
          rw [Function.update_apply]
          split
          · rename_i heq
            rw [hothers _ (h.owned.alone hc hm hmn hlive hlive' heq), ← heq]
            rfl
          · rfl
        show c'.Accounted size (s.published c'.source)
          ((Function.update s.fanout c.source f₂ c'.source).queueOf c'.reader)
        rw [hqueue']
        exact haccount'
  dropped := fun source' => by
    have hmap := map_set (f := fun c : Subscription => if c.source = source' then c.evictions else 0)
      hc (b := c₂) (by simp only [hsource, hevictions])
    show (Function.update s.fanout c.source f₂ source').metrics.dropped = s.unclaimed source' +
      ((s.subscriptions.set n c₂).map _).sum
    rw [hmap, Function.update_apply]
    split
    · rename_i heq
      rw [hsame.metrics, heq]
      exact h.dropped c.source
    · exact h.dropped source'

/-- A frame is read. -/
theorem Delivering.read (h : Delivering size s) (hread : s.read n = some s') :
    Delivering size s' := by
  obtain ⟨c, f', frame, hc, hlive, hfanout, hqueue, rfl⟩ := read_eq hread
  obtain ⟨-, -, hothers, hreading⟩ := queueOf_read hfanout
  have haccount : c.Accounted size (s.published c.source) (frame :: f'.queueOf c.reader) :=
    hqueue ▸ h.accounts c (List.mem_of_getElem? hc)
  refine h.set hc hlive rfl (read_same hfanout) hothers ⟨[frame], hqueue.symm⟩ ?_
    (haccount.read hlive) fun source reader => ?_
  · simp [Subscription.evictions]
  · show (s.subscriptions.set n _).countP (Stands source reader) =
      ((Function.update s.fanout c.source f' source).reading reader).toNat
    rw [countP_set_stands hc (b := { c with removed := c.removed ++ [⟨frame, none⟩] }) rfl rfl rfl,
      h.owned source reader, Function.update_apply]
    split
    · rename_i heq
      rw [hreading, heq]
    · rfl

theorem close_eq (h : s.close n = some s') : ∃ c, s.subscriptions[n]? = some c ∧ c.live = true ∧
    s' = { s with
      fanout := Function.update s.fanout c.source ((s.fanout c.source).close c.reader)
      subscriptions := s.subscriptions.set n { c with live := false, left := s.queue c } } := by
  unfold Fanouts.close at h
  split at h
  · rename_i c hc
    split at h
    · rename_i hlive
      exact ⟨c, hc, hlive, (Option.some.inj h).symm⟩
    · cases h
  · cases h

/-- A closed consumer gives its reader up. -/
theorem Owned.close {left : List TimestampedPcm} (h : s.Owned) (hc : s.subscriptions[n]? = some c)
    (hlive : c.live = true) : Owned { s with
      fanout := Function.update s.fanout c.source ((s.fanout c.source).close c.reader)
      subscriptions := s.subscriptions.set n { c with live := false, left } } := by
  intro source reader
  have hreading := h.reading (List.mem_of_getElem? hc) hlive
  obtain ⟨hn, hget⟩ := List.getElem?_eq_some_iff.mp hc
  have hclosed : Stands source reader { c with live := false, left } = false := by simp [Stands]
  show (s.subscriptions.set n _).countP (Stands source reader) =
    ((Function.update s.fanout c.source _ source).reading reader).toNat
  rw [List.countP_set hn, hget, h source reader, hclosed, Function.update_apply]
  by_cases hsource : source = c.source
  · subst hsource
    rw [if_pos rfl, reading_close]
    by_cases hreader : reader = c.reader
    · subst hreader
      simp [Stands, hlive, hreading]
    · simp [Stands, bne_iff_ne.mpr hreader, Ne.symm hreader]
  · simp [Stands, hsource, Ne.symm hsource]

/-- A subscription is closed. -/
theorem Delivering.close (h : Delivering size s) (hclose : s.close n = some s') :
    Delivering size s' := by
  obtain ⟨c, hc, hlive, rfl⟩ := close_eq hclose
  exact h.set hc hlive rfl (close_same c.reader) (fun reader hne => queueOf_close hne)
    queueOf_close_suffix rfl ((h.accounts c (List.mem_of_getElem? hc)).close hlive)
    (h.owned.close hc hlive)

/-- The accounts are right in every state reached. -/
theorem delivering {ok : Fanouts → FanoutMove → Prop} (h : (subscribing size).Reach ok s) :
    Delivering size s := by
  refine Machine.Reach.invariant (fun s hs => ?_) (fun s move s' hi _ hnext => ?_) h
  · obtain rfl : s = Fanouts.initial := hs
    exact .initial
  · cases move with
    | publish source frame =>
      obtain rfl := Option.some.inj hnext
      exact hi.publish
    | subscribe source replayFrames =>
      obtain rfl := Option.some.inj hnext
      exact hi.subscribe
    | read n => exact hi.read hnext
    | close n => exact hi.close hnext

/-- **The fan-out delivers everything once and in order**: every consumer's account balances, no
    two live consumers share a queue, no queue exceeds its bound, and the metric is the number of
    evictions. -/
theorem fanout_delivers (h : (subscribing size).Reach Machine.anyMove s) :
    (∀ c ∈ s.subscriptions, c.Accounted size (s.published c.source) (s.queue c) ∧
      (unflagged c.received).Sublist (unflagged (c.backlog ++ c.since))) ∧
    (s.subscriptions.Pairwise fun c c' =>
      c.live = true → c'.live = true → c.source = c'.source → c.reader ≠ c'.reader) ∧
    (∀ source reader, ((s.fanout source).queueOf reader).length ≤ size.1) ∧
    ∀ source, (s.fanout source).metrics.dropped = s.unclaimed source + s.evictions source := by
  have hdelivering := delivering h
  refine ⟨fun c hc => ?_, hdelivering.owned.distinct, hdelivering.fits, hdelivering.dropped⟩
  have haccount := hdelivering.accounts c hc
  exact ⟨haccount, haccount.received⟩

/-- Three frames for two consumers with queues of two; the second joins after two of them with a
    replay, and both lose the first. -/
theorem fanout_delivers_two : ∃ s : Fanouts,
    s.subscriptions.map Subscription.received = [[], [frameAt 1 false]] ∧
    s.subscriptions.map Subscription.evictions = [1, 1] ∧
    (s.fanout .phono).metrics.dropped = s.unclaimed .phono + s.evictions .phono := by
  obtain ⟨s, hs, hreceived, hevictions⟩ := Machine.exists_reach
    (m := subscribing ⟨2, le_rfl⟩)
    (l := [.publish .phono (frameAt 0 false), .subscribe .phono 0, .publish .phono (frameAt 1 false),
      .subscribe .phono 2, .publish .phono (frameAt 2 false), .read 1, .close 0])
    (fun s => s.subscriptions.map Subscription.received = [[], [frameAt 1 false]] ∧
      s.subscriptions.map Subscription.evictions = [1, 1])
    (show _ = Fanouts.initial from rfl) (by decide +kernel)
  exact ⟨s, hreceived, hevictions, (fanout_delivers hs).2.2.2 .phono⟩

end Fanouts

end PhonoConsole
