/-
  THE FRAME FANOUT (`FrameFanout` of `phono_console/audio_engine_client.py`), for the frames of
  one source.

  `publish` puts every frame into the bounded queue of every consumer.  When a queue is full its
  OLDEST frame is dropped, and the frame that is marked with `DISCONTINUITY` is the one put at the
  other end.  Between the two lie the frames that are still queued: the reader meets the gap
  before them, unmarked, and the mark after them, where nothing is missing.

  * `Consumer.put`, `publish`, `frames` — the fanout, in the source's words; every consumer also
    keeps what was delivered to it and dropped for it;
  * `ConsumerMove`      — everything that one move can do to one consumer;
  * `Gapless`           — the invariant of a consumer whose queue always had room;
  * `gaps_marked`       — such a consumer finds its gaps marked (there are none);
  * `overflow_mismarks` — the converse: one overflow, and the reader that drains its queue meets a
    `DISCONTINUITY` right after the predecessor of the frame.
-/
import PhonoConsole.Lib.Machine
import Mathlib.Data.List.Chain

namespace PhonoConsole

/-! ## Frames, queues and the fanout -/

/-- The flags of a frame. -/
structure FrameFlags where
  discontinuity : Bool := false
  xrunRecovered : Bool := false
  clockReset : Bool := false
  endOfStream : Bool := false
deriving DecidableEq

/-- A frame of the source, without the format and the samples, which the fanout hands on. -/
structure TimestampedPcm where
  flags : FrameFlags := {}
  sequence : Nat
  firstSampleTimeUs : Int
  epoch : Nat
deriving DecidableEq

/-- `queue_frames`; the constructor raises below 2. -/
abbrev QueueFrames := { n : Nat // 2 ≤ n }

/-- `SourceMetrics`. -/
structure SourceMetrics where
  received : Nat := 0
  dropped : Nat := 0
  discontinuities : Nat := 0
  sequenceGaps : Nat := 0
  lastSequence : Option Nat := none
  lastEpoch : Option Nat := none
  lastTimestampUs : Option Int := none
deriving DecidableEq

/-- A consumer's queue, whether it is among the subscribers, and the sequence numbers dropped for
    it and the frames delivered to it so far. -/
structure Consumer where
  queue : List TimestampedPcm := []
  subscribed : Bool := true
  dropped : List Nat := []
  delivered : List TimestampedPcm := []
deriving DecidableEq

/-- One round of the loop of `publish`: a full queue gives up its head, and marks the new frame. -/
def Consumer.put (size : QueueFrames) (frame : TimestampedPcm) (c : Consumer) : Consumer :=
  if size.1 ≤ c.queue.length then
    { c with
      queue := c.queue.tail ++ [{ frame with flags.discontinuity := true }]
      dropped := c.dropped ++ c.queue.head?.toList.map TimestampedPcm.sequence }
  else { c with queue := c.queue ++ [frame] }

/-- A `get` that finds `frame` before `queue`. -/
def Consumer.deliver (frame : TimestampedPcm) (queue : List TimestampedPcm) (c : Consumer) :
    Consumer :=
  { c with queue, delivered := c.delivered ++ [frame] }

/-- The fanout's fields for the source.  The primary's queue is a subscriber before and after it
    is claimed. -/
structure FrameFanout where
  metrics : SourceMetrics := {}
  history : List TimestampedPcm := []
  primary : Consumer := {}
  primaryClaimed : Bool := false
  secondaries : List Consumer := []
deriving DecidableEq

/-- A consumer of a fanout: `frames` of the owner, or one of its subscribers. -/
inductive Reader
  | primary
  | secondary (i : Nat)
deriving DecidableEq

namespace FrameFanout

/-- The metrics after a frame that `dropped` queues had no room for. -/
def measure (metric : SourceMetrics) (frame : TimestampedPcm) (dropped : Nat) : SourceMetrics :=
  let newEpoch := metric.lastEpoch.any (· != frame.epoch)
  let marked := frame.flags.discontinuity || newEpoch
  let gap := metric.lastSequence.any (fun last => frame.sequence != last + 1)
  { received := metric.received + 1
    dropped := metric.dropped + dropped
    discontinuities := metric.discontinuities + marked.toNat
    sequenceGaps := metric.sequenceGaps + (!marked && gap).toNat
    lastSequence := some frame.sequence
    lastEpoch := some frame.epoch
    lastTimestampUs := some frame.firstSampleTimeUs }

/-- The subscribed consumers. -/
def subscribers (s : FrameFanout) : List Consumer :=
  s.primary :: s.secondaries.filter Consumer.subscribed

/-- `publish`: counted, kept for replays, and put into each queue. -/
def publish (size : QueueFrames) (s : FrameFanout) (frame : TimestampedPcm) : FrameFanout :=
  let full := s.subscribers.countP fun c => size.1 ≤ c.queue.length
  let history := s.history ++ [frame]
  { s with
    metrics := measure s.metrics frame full
    history := history.drop (history.length - size.1)
    primary := s.primary.put size frame
    secondaries := s.secondaries.map fun c => if c.subscribed then c.put size frame else c }

/-- `history[-replay_frames:]`, none for 0. -/
def recent (history : List TimestampedPcm) (replayFrames : Nat) : List TimestampedPcm :=
  if 0 < replayFrames then history.drop (history.length - replayFrames) else []

/-- The replay into a new queue, which gives up its head when it is full. -/
def replay (size : QueueFrames) (frames : List TimestampedPcm) : List TimestampedPcm :=
  frames.foldl (fun queue frame =>
    (if size.1 ≤ queue.length then queue.tail else queue) ++ [frame]) []

/-- `frames`, up to its first `get`. -/
def frames (size : QueueFrames) (s : FrameFanout) (replayFrames : Nat) : FrameFanout :=
  if s.primaryClaimed then
    { s with
      secondaries := s.secondaries ++ [{ queue := replay size (recent s.history replayFrames) }] }
  else { s with primaryClaimed := true }

/-- The `finally` of `frames`: the primary's queue is emptied for the next primary consumer. -/
def close (s : FrameFanout) : Reader → FrameFanout
  | .primary => { s with primaryClaimed := false, primary := {} }
  | .secondary i => { s with secondaries := s.secondaries.modify i ({ · with subscribed := false }) }

/-- The consumer that a reader stands for. -/
def consumer (s : FrameFanout) : Reader → Option Consumer
  | .primary => some s.primary
  | .secondary i => s.secondaries[i]?

/-- The consumer reads: it was claimed, and not closed. -/
def reading (s : FrameFanout) : Reader → Bool
  | .primary => s.primaryClaimed
  | .secondary i => s.secondaries[i]?.any Consumer.subscribed

/-- A `get` of a consumer; it waits while the queue is empty. -/
def read (s : FrameFanout) : Reader → Option FrameFanout
  | .primary =>
    match s.primary.queue with
    | frame :: queue => some { s with primary := s.primary.deliver frame queue }
    | [] => none
  | .secondary i =>
    match s.secondaries[i]? with
    | some c =>
      match c.queue with
      | frame :: queue => some { s with secondaries := s.secondaries.set i (c.deliver frame queue) }
      | [] => none
    | none => none

/-- What the publisher and the consumers do. -/
inductive Move
  | publish (frame : TimestampedPcm)
  | frames (replayFrames : Nat)
  | read (reader : Reader)
  | close (reader : Reader)

/-- The next frame of the source: of the same epoch, without a flag, and the next in sequence. -/
def Continues (m : SourceMetrics) (frame : TimestampedPcm) : Prop :=
  frame.flags = {} ∧ (∀ n, m.lastSequence = some n → frame.sequence = n + 1) ∧
    ∀ e, m.lastEpoch = some e → frame.epoch = e

instance (m : SourceMetrics) (frame : TimestampedPcm) : Decidable (Continues m frame) :=
  decidable_of_iff (frame.flags = {} ∧ m.lastSequence.all (fun n => frame.sequence == n + 1) = true ∧
    m.lastEpoch.all (fun e => frame.epoch == e) = true) (by
      simp only [Continues, Option.all_eq_true, beq_iff_eq])

end FrameFanout

/-- Every interleaving of the publications of one source and epoch with its consumers. -/
def frameFanout (size : QueueFrames) : Machine FrameFanout FrameFanout.Move where
  init s := s = {}
  next s
    | .publish frame =>
      if FrameFanout.Continues s.metrics frame then some (s.publish size frame) else none
    | .frames replayFrames => some (s.frames size replayFrames)
    | .read reader => if s.reading reader then s.read reader else none
    | .close reader => if s.reading reader then some (s.close reader) else none

namespace FrameFanout

variable {size : QueueFrames} {s s' : FrameFanout} {a : Move} {reader : Reader} {c c' : Consumer}
  {frame : TimestampedPcm}

/-! ## What the moves of the consumers keep -/

/-- What only a publication changes; the primary's queue stays a subscriber. -/
structure SameFrames (s s' : FrameFanout) : Prop where
  metrics : s'.metrics = s.metrics
  history : s'.history = s.history
  primary : s.primary.subscribed = true → s'.primary.subscribed = true

/-- A new reader changes no frame. -/
theorem frames_same (replayFrames : Nat) : SameFrames s (s.frames size replayFrames) := by
  unfold FrameFanout.frames
  split
  · exact ⟨rfl, rfl, id⟩
  · exact ⟨rfl, rfl, id⟩

/-- Nor does a read. -/
theorem read_same (hread : s.read reader = some s') : SameFrames s s' := by
  cases reader with
  | primary =>
    simp only [FrameFanout.read] at hread
    split at hread
    · obtain rfl := Option.some.inj hread
      exact ⟨rfl, rfl, id⟩
    · exact nomatch hread
  | secondary j =>
    simp only [FrameFanout.read] at hread
    split at hread
    · split at hread
      · obtain rfl := Option.some.inj hread
        exact ⟨rfl, rfl, id⟩
      · exact nomatch hread
    · exact nomatch hread

/-- Nor a close. -/
theorem close_same (closing : Reader) : SameFrames s (s.close closing) := by
  cases closing with
  | primary => exact ⟨rfl, rfl, fun _ => rfl⟩
  | secondary j => exact ⟨rfl, rfl, id⟩

/-! ## What one move does to one consumer -/

/-- Everything that the move `a` can do to a consumer (`none` before it joins), together with the
    sequence number published last, in a fanout with this `history`. -/
inductive ConsumerMove (size : QueueFrames) (history : List TimestampedPcm) :
    Move → Option Nat → Option Consumer → Option Nat → Consumer → Prop
  | joins {a : Move} {last : Option Nat} (replayFrames : Nat) :
    ConsumerMove size history a last none last
      { queue := replay size (recent history replayFrames) }
  | stays {a : Move} {last last' : Option Nat} {c : Consumer} :
    (last' = last ∨ c.subscribed = false) → ConsumerMove size history a last (some c) last' c
  | puts {last : Option Nat} {c : Consumer} {frame : TimestampedPcm} :
    c.subscribed = true → frame.flags = {} → (∀ n, last = some n → frame.sequence = n + 1) →
    ConsumerMove size history (.publish frame) last (some c) (some frame.sequence) (c.put size frame)
  | reads {a : Move} {last : Option Nat} {c : Consumer} {frame : TimestampedPcm}
      {queue : List TimestampedPcm} :
    c.queue = frame :: queue →
    ConsumerMove size history a last (some c) last (c.deliver frame queue)
  | leaves {a : Move} {last : Option Nat} {c : Consumer} :
    ConsumerMove size history a last (some c) last { c with subscribed := false }
  | resets {a : Move} {last : Option Nat} {c : Consumer} :
    ConsumerMove size history a last (some c) last {}

/-- A consumer that the move does not touch. -/
theorem ConsumerMove.same {history : List TimestampedPcm} {last : Option Nat}
    (h : s.consumer reader = some c) :
    ConsumerMove size history a last (s.consumer reader) last c := by
  rw [h]
  exact .stays (.inl rfl)

/-- The primary stays a subscriber. -/
theorem publish_move (hprimary : s.primary.subscribed = true) (hcont : Continues s.metrics frame)
    (hc : (s.publish size frame).consumer reader = some c') :
    ConsumerMove size s.history (.publish frame) s.metrics.lastSequence (s.consumer reader)
      (some frame.sequence) c' := by
  cases reader with
  | primary =>
    obtain rfl := Option.some.inj hc
    exact .puts hprimary hcont.1 hcont.2.1
  | secondary i =>
    rw [consumer, publish, List.getElem?_map, Option.map_eq_some_iff] at hc
    obtain ⟨c, hget, rfl⟩ := hc
    rw [consumer, hget]
    cases hsub : c.subscribed
    · exact .stays (.inr hsub)
    · exact .puts hsub hcont.1 hcont.2.1

/-- A consumer joins behind all others, unless the primary is free. -/
theorem frames_move {last : Option Nat} {replayFrames : Nat}
    (hc : (s.frames size replayFrames).consumer reader = some c') :
    ConsumerMove size s.history a last (s.consumer reader) last c' := by
  unfold FrameFanout.frames at hc
  split at hc
  · cases reader with
    | primary => exact .same hc
    | secondary i =>
      rw [consumer, List.getElem?_append] at hc
      split at hc
      · exact .same hc
      · rename_i hlen
        rw [List.getElem?_singleton] at hc
        split at hc
        · obtain rfl := Option.some.inj hc
          rw [consumer, List.getElem?_eq_none (Nat.le_of_not_lt hlen)]
          exact .joins replayFrames
        · exact nomatch hc
  · refine .same ?_
    cases reader <;> exact hc

/-- A `get` takes the head of one queue. -/
theorem read_move {last : Option Nat} {reading : Reader} (hread : s.read reading = some s')
    (hc : s'.consumer reader = some c') :
    ConsumerMove size s.history a last (s.consumer reader) last c' := by
  cases reading with
  | primary =>
    simp only [FrameFanout.read] at hread
    split at hread
    · rename_i frame queue hqueue
      obtain rfl := Option.some.inj hread
      cases reader with
      | primary =>
        obtain rfl := Option.some.inj hc
        exact .reads hqueue
      | secondary i => exact .same hc
    · exact nomatch hread
  | secondary j =>
    simp only [FrameFanout.read] at hread
    split at hread
    · rename_i c hget
      split at hread
      · rename_i frame queue hqueue
        obtain rfl := Option.some.inj hread
        cases reader with
        | primary => exact .same hc
        | secondary i =>
          rw [consumer, List.getElem?_set] at hc
          split at hc
          · rename_i hji
            subst hji
            split at hc
            · obtain rfl := Option.some.inj hc
              rw [consumer, hget]
              exact .reads hqueue
            · exact nomatch hc
          · exact .same hc
      · exact nomatch hread
    · exact nomatch hread

/-- A consumer that is closed leaves; the primary's queue is empty for the next one. -/
theorem close_move {last : Option Nat} {closing : Reader}
    (hc : (s.close closing).consumer reader = some c') :
    ConsumerMove size s.history a last (s.consumer reader) last c' := by
  cases closing with
  | primary =>
    cases reader with
    | primary =>
      obtain rfl := Option.some.inj hc
      exact .resets
    | secondary i => exact .same hc
  | secondary j =>
    cases reader with
    | primary => exact .same hc
    | secondary i =>
      rw [consumer, FrameFanout.close, List.getElem?_modify] at hc
      obtain ⟨c, hget, hif⟩ := Option.map_eq_some_iff.mp hc
      rw [consumer, hget]
      by_cases hji : j = i
      · simp only [hji, if_true] at hif
        subst hif
        exact .leaves
      · simp only [hji, if_false] at hif
        subst hif
        exact .stays (.inl rfl)

/-- Only a publication changes the number published last. -/
theorem consumer_move (hprimary : s.primary.subscribed = true)
    (hnext : (frameFanout size).next s a = some s') (hc : s'.consumer reader = some c') :
    ConsumerMove size s.history a s.metrics.lastSequence (s.consumer reader)
      s'.metrics.lastSequence c' := by
  cases a with
  | publish frame =>
    obtain ⟨hcont, hnext⟩ := Option.ite_none_right_eq_some.mp hnext
    obtain rfl := Option.some.inj hnext
    exact publish_move hprimary hcont hc
  | frames replayFrames =>
    obtain rfl := Option.some.inj hnext
    rw [(frames_same replayFrames).metrics]
    exact frames_move hc
  | read reading =>
    obtain ⟨-, hread⟩ := Option.ite_none_right_eq_some.mp hnext
    rw [(read_same hread).metrics]
    exact read_move hread hc
  | close closing =>
    obtain ⟨-, hnext⟩ := Option.ite_none_right_eq_some.mp hnext
    obtain rfl := Option.some.inj hnext
    rw [(close_same closing).metrics]
    exact close_move hc

/-! ## Consecutive frames -/

/-- `frame` comes right after `previous`. -/
def Next (previous frame : TimestampedPcm) : Prop := frame.sequence = previous.sequence + 1

/-- Consecutive frames up to the one published last. -/
structure Timeline (last : Option Nat) (l : List TimestampedPcm) : Prop where
  consecutive : l.IsChain Next
  upTo : ∀ f ∈ l.getLast?, last = some f.sequence

/-- A frame that continues the timeline. -/
theorem Timeline.push {last : Option Nat} {l : List TimestampedPcm} (h : Timeline last l)
    (hframe : ∀ n, last = some n → frame.sequence = n + 1) :
    Timeline (some frame.sequence) (l ++ [frame]) where
  consecutive := by
    refine h.consecutive.append (.singleton frame) fun f hf g hg => ?_
    obtain rfl := Option.some.inj hg
    exact hframe _ (h.upTo f hf)
  upTo f hf := by
    rw [List.getLast?_concat] at hf
    exact congrArg (fun g : TimestampedPcm => some g.sequence) (Option.some.inj hf)

/-- The later part of a timeline. -/
theorem Timeline.suffix {last : Option Nat} {l l' : List TimestampedPcm} (h : Timeline last l)
    (hl : l' <:+ l) : Timeline last l' where
  consecutive := h.consecutive.suffix hl
  upTo f hf := h.upTo f (by
    obtain ⟨l₀, rfl⟩ := hl
    have hne : l' ≠ [] := fun hnil => by
      rw [hnil] at hf
      exact nomatch hf
    rwa [List.getLast?_append_of_ne_nil _ hne])

theorem recent_suffix (history : List TimestampedPcm) (k : Nat) : recent history k <:+ history := by
  unfold recent
  split
  · exact List.drop_suffix _ _
  · exact List.nil_suffix

/-- The replay is the end of what was replayed. -/
theorem replay_suffix (l : List TimestampedPcm) : replay size l <:+ l := by
  induction l using List.reverseRecOn with
  | nil => exact List.suffix_rfl
  | append_singleton l frame ih =>
    rw [replay, List.foldl_append]
    show (if size.1 ≤ (replay size l).length then (replay size l).tail else replay size l) ++ [frame]
      <:+ l ++ [frame]
    have hkept : (if size.1 ≤ (replay size l).length then (replay size l).tail
        else replay size l) <:+ l := by
      split
      · exact (List.tail_suffix _).trans ih
      · exact ih
    obtain ⟨l₀, hl₀⟩ := hkept
    exact ⟨l₀, by rw [← List.append_assoc, hl₀]⟩

/-- A later frame has a greater sequence number. -/
theorem sequence_lt {l : List TimestampedPcm} (h : l.IsChain Next) :
    l.Pairwise (fun f g => f.sequence < g.sequence) := by
  have hlt : l.IsChain (fun f g => f.sequence < g.sequence) :=
    h.imp fun f g (hfg : g.sequence = f.sequence + 1) => hfg ▸ Nat.lt_succ_self _
  have : IsTrans TimestampedPcm (fun f g => f.sequence < g.sequence) := ⟨fun _ _ _ => Nat.lt_trans⟩
  exact hlt.pairwise

/-! ## Invariants of all runs -/

/-- The primary's queue is a subscriber; the history ends with the frame published last and has
    no mark. -/
structure Sound (s : FrameFanout) : Prop where
  primary : s.primary.subscribed = true
  history : Timeline s.metrics.lastSequence s.history
  plain : ∀ f ∈ s.history, f.flags.discontinuity = false

/-- A put opens no consumer. -/
theorem put_subscribed (c : Consumer) : (c.put size frame).subscribed = c.subscribed := by
  unfold Consumer.put
  split <;> rfl

theorem Sound.same (h : s.Sound) (hs : SameFrames s s') : s'.Sound where
  primary := hs.primary h.primary
  history := by
    rw [hs.metrics, hs.history]
    exact h.history
  plain := by
    rw [hs.history]
    exact h.plain

/-- A frame is published that continues the stream. -/
theorem Sound.publish (h : s.Sound) (hcont : Continues s.metrics frame) :
    (s.publish size frame).Sound := by
  have hdrop : (s.history ++ [frame]).drop ((s.history ++ [frame]).length - size.1) <:+
      s.history ++ [frame] := List.drop_suffix _ _
  refine ⟨(put_subscribed s.primary).trans h.primary, ?_, fun f hf => ?_⟩
  · exact (h.history.push hcont.2.1).suffix hdrop
  · rcases List.mem_append.mp (hdrop.subset hf) with hf | hf
    · exact h.plain f hf
    · rw [List.mem_singleton.mp hf, hcont.1]

/-- Every move keeps the invariant. -/
theorem Sound.next (h : s.Sound) (hnext : (frameFanout size).next s a = some s') : s'.Sound := by
  cases a with
  | publish frame =>
    obtain ⟨hcont, hnext⟩ := Option.ite_none_right_eq_some.mp hnext
    obtain rfl := Option.some.inj hnext
    exact h.publish hcont
  | frames replayFrames =>
    obtain rfl := Option.some.inj hnext
    exact h.same (frames_same replayFrames)
  | read reading =>
    obtain ⟨-, hread⟩ := Option.ite_none_right_eq_some.mp hnext
    exact h.same (read_same hread)
  | close closing =>
    obtain ⟨-, hnext⟩ := Option.ite_none_right_eq_some.mp hnext
    obtain rfl := Option.some.inj hnext
    exact h.same (close_same closing)

/-- It holds of every state reached. -/
theorem sound {ok : FrameFanout → Move → Prop} (h : (frameFanout size).Reach ok s) : s.Sound := by
  refine h.invariant (I := Sound) (fun s hs => ?_) fun s a s' hi _ hnext => hi.next hnext
  rw [show s = _ from hs]
  exact ⟨rfl, ⟨.nil, fun _ hf => nomatch hf⟩, fun _ hf => nomatch hf⟩

/-- **One consumer along a run**: what an empty consumer has, and every move to the consumer
    keeps, it has in every state reached. -/
theorem consumer_invariant {ok : FrameFanout → Move → Prop} {P : Option Nat → Consumer → Prop}
    (hinit : P none {})
    (hmove : ∀ (s : FrameFanout) (a : Move) (last : Option Nat) (c : Consumer), s.Sound → ok s a →
      (∀ c, s.consumer reader = some c → P s.metrics.lastSequence c) →
      ConsumerMove size s.history a s.metrics.lastSequence (s.consumer reader) last c → P last c)
    (h : (frameFanout size).Reach ok s) :
    ∀ c, s.consumer reader = some c → P s.metrics.lastSequence c := by
  refine h.invariant_of (J := Sound)
    (I := fun s => ∀ c, s.consumer reader = some c → P s.metrics.lastSequence c)
    (fun s hs => sound hs) (fun s hs c hc => ?_) fun s a s' hsound hi hok hnext c hc => ?_
  · rw [show s = _ from hs] at hc ⊢
    cases reader with
    | primary =>
      obtain rfl := Option.some.inj hc
      exact hinit
    | secondary i => exact nomatch hc
  · exact hmove s a _ c hsound hok hi (consumer_move hsound.primary hnext hc)

/-! ## Gaps and marks -/

/-- What the frame contract asks of a consumer: where two frames delivered one after the other are
    not consecutive the second one is marked, and a marked frame's predecessor was dropped. -/
structure Marked (c : Consumer) : Prop where
  gaps : c.delivered.IsChain fun f g => ¬ Next f g → g.flags.discontinuity = true
  marks : ∀ f ∈ c.delivered, f.flags.discontinuity = true → ∃ d ∈ c.dropped, d + 1 = f.sequence

/-- No publication finds the queue of `reader` full. -/
def FindsRoom (size : QueueFrames) (reader : Reader) (s : FrameFanout) : Move → Prop
  | .publish _ => ∀ c, s.consumer reader = some c → c.subscribed = true → c.queue.length < size.1
  | _ => True

/-- The frames delivered and queued are consecutive, up to the one published last, and unmarked. -/
structure Gapless (last : Option Nat) (c : Consumer) : Prop where
  consecutive : (c.delivered ++ c.queue).IsChain Next
  upTo : c.subscribed = true → Timeline last (c.delivered ++ c.queue)
  plain : ∀ f ∈ c.delivered ++ c.queue, f.flags.discontinuity = false

/-- Without gaps there is nothing to mark. -/
theorem Gapless.marked {last : Option Nat} (h : Gapless last c) : Marked c where
  gaps := h.consecutive.left_of_append.imp fun _ _ hnext hno => absurd hnext hno
  marks f hf hmark := by
    rw [h.plain f (List.mem_append_left _ hf)] at hmark
    exact nomatch hmark

/-- A frame that is delivered leaves the queue. -/
theorem deliver_append {queue : List TimestampedPcm} (h : c.queue = frame :: queue) :
    (c.deliver frame queue).delivered ++ (c.deliver frame queue).queue = c.delivered ++ c.queue := by
  rw [h]
  exact List.append_assoc c.delivered [frame] queue

/-- The consumer's next move, with room in its queue. -/
theorem Gapless.move {last : Option Nat} (hsound : s.Sound) (hroom : FindsRoom size reader s a)
    (h : ∀ c, s.consumer reader = some c → Gapless s.metrics.lastSequence c)
    (hmove : ConsumerMove size s.history a s.metrics.lastSequence (s.consumer reader) last c) :
    Gapless last c := by
  cases hread : s.consumer reader with
  | none =>
    rw [hread] at hmove
    cases hmove with
    | joins replayFrames =>
      -- a new consumer starts with the end of the history
      have hsuffix : replay size (recent s.history replayFrames) <:+ s.history :=
        (replay_suffix _).trans (recent_suffix _ _)
      have htime := hsound.history.suffix hsuffix
      exact ⟨htime.consecutive, fun _ => htime, fun f hf => hsound.plain f (hsuffix.subset hf)⟩
  | some c₀ =>
    have h₀ := h c₀ hread
    rw [hread] at hmove
    cases hmove with
    | stays hlast =>
      refine ⟨h₀.consecutive, fun hsub => ?_, h₀.plain⟩
      rcases hlast with rfl | hno
      · exact h₀.upTo hsub
      · rw [hno] at hsub
        exact nomatch hsub
    | puts hsub hflags hseq =>
      rename_i frame
      have hput : c₀.put size frame = { c₀ with queue := c₀.queue ++ [frame] } := by
        unfold Consumer.put
        exact if_neg (Nat.not_le_of_lt (hroom c₀ hread hsub))
      have htime : Timeline (some frame.sequence) (c₀.delivered ++ (c₀.queue ++ [frame])) := by
        rw [← List.append_assoc]
        exact (h₀.upTo hsub).push hseq
      rw [hput]
      refine ⟨htime.consecutive, fun _ => htime, fun f hf => ?_⟩
      rcases List.mem_append.mp (List.append_assoc _ _ _ ▸ hf) with hf | hf
      · exact h₀.plain f hf
      · rw [List.mem_singleton.mp hf, hflags]
    | reads hqueue =>
      refine ⟨?_, fun hsub => ?_, ?_⟩
      · rw [deliver_append hqueue]
        exact h₀.consecutive
      · rw [deliver_append hqueue]
        exact h₀.upTo hsub
      · rw [deliver_append hqueue]
        exact h₀.plain
    | leaves => exact ⟨h₀.consecutive, fun hsub => (nomatch hsub), h₀.plain⟩
    | resets =>
      exact ⟨.nil, fun _ => ⟨.nil, fun _ hf => (nomatch hf)⟩, fun _ hf => (nomatch hf)⟩

/-- **Gaps are marked**, in every run whose publications find the consumer's queue with room. -/
theorem gaps_marked (h : (frameFanout size).Reach (FindsRoom size reader) s)
    (hc : s.consumer reader = some c) : Marked c := by
  refine (consumer_invariant (P := Gapless) ?_ (fun s a last c hsound hroom hi hmove => ?_) h c
    hc).marked
  · exact ⟨.nil, fun _ => ⟨.nil, fun _ hf => (nomatch hf)⟩, fun _ hf => (nomatch hf)⟩
  · exact Gapless.move hsound hroom hi hmove

/-! ## An overflow -/

/-- In any run: the queue is consecutive up to the frame published last, and what was dropped
    comes before it. -/
structure InStep (last : Option Nat) (c : Consumer) : Prop where
  consecutive : c.queue.IsChain Next
  upTo : c.subscribed = true → Timeline last c.queue
  ahead : ∀ d ∈ c.dropped, ∀ f ∈ c.queue, d < f.sequence
  behind : c.subscribed = true → ∀ d ∈ c.dropped, ∃ n, last = some n ∧ d ≤ n

/-- A full queue has a head and, two frames being the least size, another frame behind it. -/
theorem full_queue (hfull : size.1 ≤ c.queue.length) :
    ∃ head front previous, c.queue = head :: (front ++ [previous]) := by
  have htwo : 2 ≤ c.queue.length := Nat.le_trans size.2 hfull
  cases hq : c.queue with
  | nil =>
    rw [hq] at htwo
    exact absurd htwo (by decide)
  | cons head tail =>
    rcases List.eq_nil_or_concat tail with hnil | ⟨front, previous, hcat⟩
    · rw [hq, hnil] at htwo
      exact absurd htwo (by simp)
    · exact ⟨head, front, previous, by simpa using hcat⟩

/-- A frame put into a full queue: what it drops comes before what stays. -/
theorem InStep.put {last : Option Nat} (h : InStep last c) (hsub : c.subscribed = true)
    (hseq : ∀ n, last = some n → frame.sequence = n + 1) :
    InStep (some frame.sequence) (c.put size frame) := by
  have hbefore : ∀ d ∈ c.dropped, d < frame.sequence := fun d hd => by
    obtain ⟨n, hn, hle⟩ := h.behind hsub d hd
    rw [hseq n hn]
    exact Nat.lt_succ_of_le hle
  unfold Consumer.put
  split
  · rename_i hfull
    obtain ⟨head, front, previous, hqueue⟩ := full_queue hfull
    have htime := h.upTo hsub
    have hlt := sequence_lt h.consecutive
    have hahead := h.ahead
    rw [hqueue] at htime hlt hahead
    have hpush : Timeline (some frame.sequence)
        (front ++ [previous] ++ [{ frame with flags.discontinuity := true }]) := by
      let marked : TimestampedPcm := { frame with flags.discontinuity := true }
      show Timeline (some marked.sequence) (front ++ [previous] ++ [marked])
      exact (htime.suffix (List.suffix_cons _ _)).push hseq
    have hhead : head.sequence < frame.sequence := by
      have hlast := (htime.push hseq).consecutive
      exact (List.pairwise_append.mp (sequence_lt hlast)).2.2 head List.mem_cons_self frame
        List.mem_cons_self
    simp only [hqueue, List.tail_cons, List.head?_cons, Option.toList_some, List.map_cons,
      List.map_nil]
    refine ⟨hpush.consecutive, fun _ => hpush, fun d hd f hf => ?_, fun _ d hd => ?_⟩
    · rcases List.mem_append.mp hd with hd | hd <;> rcases List.mem_append.mp hf with hf | hf
      · exact hahead d hd f (List.mem_cons_of_mem _ hf)
      · rw [List.mem_singleton.mp hf]
        exact hbefore d hd
      · rw [List.mem_singleton.mp hd]
        exact List.rel_of_pairwise_cons hlt hf
      · rw [List.mem_singleton.mp hd, List.mem_singleton.mp hf]
        exact hhead
    · rcases List.mem_append.mp hd with hd | hd
      · exact ⟨_, rfl, Nat.le_of_lt (hbefore d hd)⟩
      · rw [List.mem_singleton.mp hd]
        exact ⟨_, rfl, Nat.le_of_lt hhead⟩
  · have hpush := (h.upTo hsub).push hseq
    refine ⟨hpush.consecutive, fun _ => hpush, fun d hd f hf => ?_, fun _ d hd => ?_⟩
    · rcases List.mem_append.mp hf with hf | hf
      · exact h.ahead d hd f hf
      · rw [List.mem_singleton.mp hf]
        exact hbefore d hd
    · exact ⟨_, rfl, Nat.le_of_lt (hbefore d hd)⟩

/-- The same without that condition. -/
theorem InStep.move {last : Option Nat} (hsound : s.Sound)
    (h : ∀ c, s.consumer reader = some c → InStep s.metrics.lastSequence c)
    (hmove : ConsumerMove size s.history a s.metrics.lastSequence (s.consumer reader) last c) :
    InStep last c := by
  cases hread : s.consumer reader with
  | none =>
    rw [hread] at hmove
    cases hmove with
    | joins replayFrames =>
      have hsuffix : replay size (recent s.history replayFrames) <:+ s.history :=
        (replay_suffix _).trans (recent_suffix _ _)
      have htime := hsound.history.suffix hsuffix
      exact ⟨htime.consecutive, fun _ => htime, fun _ hd => (nomatch hd), fun _ _ hd => (nomatch hd)⟩
  | some c₀ =>
    have h₀ := h c₀ hread
    rw [hread] at hmove
    cases hmove with
    | stays hlast =>
      rcases hlast with rfl | hno
      · exact h₀
      · exact ⟨h₀.consecutive, fun hsub => (nomatch hno.symm.trans hsub), h₀.ahead,
          fun hsub => (nomatch hno.symm.trans hsub)⟩
    | puts hsub _ hseq => exact h₀.put hsub hseq
    | reads hqueue =>
      rename_i frame queue
      have hsuffix : queue <:+ c₀.queue := hqueue ▸ List.suffix_cons frame queue
      exact ⟨h₀.consecutive.suffix hsuffix, fun hsub => (h₀.upTo hsub).suffix hsuffix,
        fun d hd f hf => h₀.ahead d hd f (hsuffix.subset hf), h₀.behind⟩
    | leaves =>
      exact ⟨h₀.consecutive, fun hsub => (nomatch hsub), h₀.ahead, fun hsub => (nomatch hsub)⟩
    | resets =>
      exact ⟨.nil, fun _ => ⟨.nil, fun _ hf => (nomatch hf)⟩, fun _ hd => (nomatch hd),
        fun _ _ hd => (nomatch hd)⟩

/-- In every state reached, a consumer is in step with the stream. -/
theorem in_step {ok : FrameFanout → Move → Prop} (h : (frameFanout size).Reach ok s)
    (hc : s.consumer reader = some c) : InStep s.metrics.lastSequence c := by
  refine consumer_invariant (P := InStep) ?_ (fun s a last c hsound _ hi hmove => ?_) h c hc
  · exact ⟨.nil, fun _ => ⟨.nil, fun _ hf => (nomatch hf)⟩, fun _ hd => (nomatch hd),
      fun _ _ hd => (nomatch hd)⟩
  · exact InStep.move hsound hi hmove

/-- Who reads is subscribed. -/
theorem subscribed_of_reading (hsound : s.Sound) (hread : s.reading reader = true)
    (hc : s.consumer reader = some c) : c.subscribed = true := by
  cases reader with
  | primary =>
    obtain rfl := Option.some.inj hc
    exact hsound.primary
  | secondary i =>
    rw [consumer] at hc
    rwa [FrameFanout.reading, hc] at hread

variable (size) in
/-- A reader that finds a frame. -/
theorem next_read {queue : List TimestampedPcm} (hread : s.reading reader = true)
    (hc : s.consumer reader = some c) (hqueue : c.queue = frame :: queue) :
    ∃ s', (frameFanout size).next s (.read reader) = some s' ∧ s'.reading reader = true ∧
      s'.consumer reader = some (c.deliver frame queue) := by
  cases reader with
  | primary =>
    obtain rfl := Option.some.inj hc
    refine ⟨{ s with primary := s.primary.deliver frame queue }, ?_, hread, rfl⟩
    simp only [frameFanout, hread, if_true, FrameFanout.read, hqueue]
  | secondary i =>
    rw [consumer] at hc
    have hlt : i < s.secondaries.length := (List.getElem?_eq_some_iff.mp hc).1
    have hset : (s.secondaries.set i (c.deliver frame queue))[i]? =
        some (c.deliver frame queue) := by
      rw [List.getElem?_set, if_pos rfl, if_pos hlt]
    refine ⟨{ s with secondaries := s.secondaries.set i (c.deliver frame queue) }, ?_, ?_, hset⟩
    · simp only [frameFanout, hread, if_true, FrameFanout.read, hc, hqueue]
    · rw [FrameFanout.reading, hc] at hread
      rw [FrameFanout.reading, hset]
      exact hread

variable (size) in
/-- A reader that drains its queue. -/
theorem drain : ∀ {queue : List TimestampedPcm} {s : FrameFanout} {c : Consumer},
    s.reading reader = true → s.consumer reader = some c → c.queue = queue →
    ∃ s' c', (frameFanout size).exec s (List.replicate queue.length (.read reader)) = some s' ∧
      s'.consumer reader = some c' ∧ c'.delivered = c.delivered ++ queue ∧ c'.dropped = c.dropped
  | [], s, c, _, hc, _ => ⟨s, c, rfl, hc, (List.append_nil _).symm, rfl⟩
  | frame :: queue, s, c, hread, hc, hqueue => by
      obtain ⟨s₁, hnext, hread₁, hc₁⟩ := next_read size hread hc hqueue
      obtain ⟨s', c', hexec, hc', hdelivered, hdropped⟩ := drain hread₁ hc₁ rfl
      refine ⟨s', c', ?_, hc', ?_, hdropped⟩
      · rw [List.length_cons, List.replicate_succ, Machine.exec, hnext]
        exact hexec
      · rw [hdelivered]
        exact List.append_assoc c.delivered [frame] queue

/-- **One overflow**: a publication that finds the queue of a reading consumer full leaves it with
    a mark in the wrong place, once the consumer has read what is queued. -/
theorem overflow_mismarks (h : (frameFanout size).Reach Machine.anyMove s)
    (hread : s.reading reader = true) (hc : s.consumer reader = some c)
    (hfull : size.1 ≤ c.queue.length)
    (hnext : (frameFanout size).next s (.publish frame) = some s') :
    ∃ s₂ c₂, (frameFanout size).exec s' (List.replicate c.queue.length (.read reader)) = some s₂ ∧
      s₂.consumer reader = some c₂ ∧ ¬ Marked c₂ := by
  have hsub := subscribed_of_reading (sound h) hread hc
  have hput : s'.reading reader = true ∧ s'.consumer reader = some (c.put size frame) := by
    simp only [frameFanout] at hnext
    split at hnext
    · obtain rfl := Option.some.inj hnext
      cases reader with
      | primary =>
        obtain rfl := Option.some.inj hc
        exact ⟨hread, rfl⟩
      | secondary i =>
        rw [consumer] at hc
        simp [FrameFanout.reading, consumer, publish, hc, hsub, put_subscribed]
    · exact nomatch hnext
  have hstep := in_step (.move h trivial hnext) hput.2
  obtain ⟨head, front, previous, hqueue⟩ := full_queue hfull
  have hafter : (c.put size frame).queue =
      front ++ [previous, { frame with flags.discontinuity := true }] := by
    rw [Consumer.put, if_pos hfull, hqueue]
    exact List.append_assoc front [previous] _
  obtain ⟨s₂, c₂, hexec, hc₂, hdelivered, hdropped⟩ := drain size hput.1 hput.2 hafter
  refine ⟨s₂, c₂, ?_, hc₂, fun hmarked => ?_⟩
  · rw [hqueue]
    simpa using hexec
  · -- the predecessor of the marked frame was queued before it, after everything dropped
    have hmem : { frame with flags.discontinuity := true } ∈ c₂.delivered := by
      rw [hdelivered]
      simp
    obtain ⟨d, hd, hbefore⟩ := hmarked.marks _ hmem rfl
    have hlt : d < previous.sequence := by
      refine hstep.ahead d (hdropped ▸ hd) previous ?_
      rw [hafter]
      simp
    have hnextTo : frame.sequence = previous.sequence + 1 := by
      have hconsecutive := hstep.consecutive
      rw [hafter] at hconsecutive
      exact hconsecutive.right_of_append.rel
    rw [hnextTo] at hbefore
    omega

/-! ## Two runs -/

instance (reader : Reader) :
    ∀ (s : FrameFanout) (a : Move), Decidable (FindsRoom size reader s a)
  | s, .publish _ =>
    decidable_of_iff ((s.consumer reader).all (fun c =>
      decide (c.subscribed = true → c.queue.length < size.1)) = true)
      (by simp only [FindsRoom, Option.all_eq_true, decide_eq_true_eq])
  | _, .frames _ | _, .read _ | _, .close _ => isTrue trivial

/-- A frame of the first epoch, 20 ms each. -/
def pcm (sequence : Nat) : Move :=
  .publish { sequence, firstSampleTimeUs := 20000 * sequence, epoch := 1 }

/-- A frame of 20 ms, by its number. -/
def frameAt (sequence : Nat) (discontinuity : Bool) : TimestampedPcm where
  flags := { discontinuity }
  sequence := sequence
  firstSampleTimeUs := 20000 * sequence
  epoch := 1

/-- A second consumer joins with a replay, and both read what is published. -/
theorem gaps_marked_replay : ∃ c : Consumer,
    c.delivered = [frameAt 1 false, frameAt 2 false] ∧ Marked c := by
  obtain ⟨s, hs, hdelivered⟩ := Machine.exists_reach
    (m := (frameFanout ⟨2, le_rfl⟩).guarded (FindsRoom ⟨2, le_rfl⟩ (.secondary 0)))
    (l := [pcm 0, .frames 0, pcm 1, .frames 1, .read (.secondary 0), pcm 2, .read (.secondary 0)])
    (fun s => s.secondaries[0]?.any (fun c : Consumer =>
      decide (c.delivered = [frameAt 1 false, frameAt 2 false])) = true)
    (show _ = ({} : FrameFanout) from rfl) (by decide +kernel)
  obtain ⟨c, hc, hdec⟩ := (Option.any_eq_true _ _).mp hdelivered
  exact ⟨c, of_decide_eq_true hdec, gaps_marked hs.of_guarded hc⟩

/-- Frames 0 to 3 through a queue of two, read after the first and after the last: frame 2 comes
    after frame 0 without a mark. -/
theorem gaps_not_marked :
    ¬ ∀ (s : FrameFanout) (reader : Reader) (c : Consumer),
      (frameFanout ⟨2, le_rfl⟩).Reach Machine.anyMove s → s.consumer reader = some c → Marked c := by
  intro hall
  obtain ⟨s, hs, hdelivered⟩ := Machine.exists_reach (m := frameFanout ⟨2, le_rfl⟩)
    (l := [pcm 0, .frames 0, .read .primary, pcm 1, pcm 2, pcm 3, .read .primary])
    (fun s => s.primary.delivered = [frameAt 0 false, frameAt 2 false])
    (show _ = ({} : FrameFanout) from rfl) (by decide +kernel)
  have hgaps := (hall s .primary s.primary hs rfl).gaps
  rw [hdelivered] at hgaps
  exact nomatch hgaps.rel (show ¬ Next (frameAt 0 false) (frameAt 2 false) by unfold Next; decide)

end FrameFanout

end PhonoConsole
