/-
  WHAT A CONSUMER SEES OF A STREAM: `FrameFanout` under any publications.

  The frames published are taken as they come, marked or not, of one epoch or of many.  What the
  fanout says of them (its metrics) and what a consumer is given are statements about the STREAM, the
  list of everything published so far.

  * `FrameFanout.resume` — every move, with any frame published;
  * `Joined`  — the frame right after another: marked, or the next number of the same epoch;
  * `Fed`     — the history is the end of the stream, and the metrics are those of the stream;
  * `Sees`    — what a consumer was given and what is queued for it is one part of the stream, and its
    end while the consumer is subscribed;
  * `Fed.resume`, `Sees.resume` — both over any move, the second when the queue has room.
-/
import PhonoConsole.Fanout
import Mathlib.Algebra.Group.Nat.Defs

namespace PhonoConsole.FrameFanout

variable {size : QueueFrames} {s s' : FrameFanout} {a : Move} {reader : Reader} {c : Consumer}
  {frame : TimestampedPcm} {stream : List TimestampedPcm}

/-! ## Moves -/

/-- A move of a fanout; only a consumer that has been given frames reads on or closes. -/
def resume (size : QueueFrames) (s : FrameFanout) : Move → Option FrameFanout
  | .publish frame => some (s.publish size frame)
  | .frames replayFrames => some (s.frames size replayFrames)
  | .read reader => if s.reading reader then s.read reader else none
  | .close reader => if s.reading reader then some (s.close reader) else none

/-- What a move adds to the stream. -/
def Move.published : Move → List TimestampedPcm
  | .publish frame => [frame]
  | .frames _ | .read _ | .close _ => []

/-- Everything but a publication. -/
theorem resume_same (h : s.resume size a = some s') (ha : a.published = []) : SameFrames s s' := by
  cases a with
  | publish frame => exact nomatch ha
  | frames replayFrames =>
    obtain rfl := Option.some.inj h
    exact frames_same replayFrames
  | read reader =>
    obtain ⟨-, h⟩ := Option.ite_none_right_eq_some.mp h
    exact read_same h
  | close reader =>
    obtain ⟨-, h⟩ := Option.ite_none_right_eq_some.mp h
    obtain rfl := Option.some.inj h
    exact close_same reader

/-- What it does to a consumer. -/
theorem resume_move {c' : Consumer} (h : s.resume size a = some s') (ha : a.published = [])
    (hc : s'.consumer reader = some c') :
    ConsumerMove size s.history a none (s.consumer reader) none c' := by
  cases a with
  | publish frame => exact nomatch ha
  | frames replayFrames =>
    obtain rfl := Option.some.inj h
    exact frames_move hc
  | read reader =>
    obtain ⟨-, h⟩ := Option.ite_none_right_eq_some.mp h
    exact read_move h hc
  | close reader =>
    obtain ⟨-, h⟩ := Option.ite_none_right_eq_some.mp h
    obtain rfl := Option.some.inj h
    exact close_move hc

/-- A publication puts the frame into the queue of every subscriber. -/
theorem consumer_publish {c' : Consumer} (hprimary : s.primary.subscribed = true)
    (hc : (s.publish size frame).consumer reader = some c') :
    ∃ c, s.consumer reader = some c ∧ c' = if c.subscribed then c.put size frame else c := by
  cases reader with
  | primary =>
    obtain rfl := Option.some.inj hc
    exact ⟨s.primary, rfl, by rw [if_pos hprimary]; rfl⟩
  | secondary i =>
    rw [consumer, publish, List.getElem?_map, Option.map_eq_some_iff] at hc
    obtain ⟨c, hget, rfl⟩ := hc
    exact ⟨c, hget, rfl⟩

/-! ## The stream and the metrics -/

/-- The frame `g` right after `f`: it is marked, or the next one of its epoch.  Sequence numbers have
    64 bits. -/
def Joined (f g : TimestampedPcm) : Prop :=
  g.flags.discontinuity = true ∨ g.epoch = f.epoch ∧ g.sequence = (f.sequence + 1) % 2 ^ 64

/-- What the fanout knows of the stream. -/
structure Fed (stream : List TimestampedPcm) (s : FrameFanout) : Prop where
  primary : s.primary.subscribed = true
  history : s.history <:+ stream
  received : s.metrics.received = stream.length
  sequence : s.metrics.lastSequence = stream.getLast?.map TimestampedPcm.sequence
  epoch : s.metrics.lastEpoch = stream.getLast?.map TimestampedPcm.epoch
  gaps : stream.IsChain Joined → (∀ f ∈ stream, f.sequence + 1 < 2 ^ 64) →
    s.metrics.sequenceGaps = 0

theorem Fed.start : Fed [] {} :=
  ⟨rfl, List.suffix_rfl, rfl, rfl, rfl, fun _ _ => rfl⟩

/-- A frame joined to the last one counts as no gap. -/
theorem measure_joined {metric : SourceMetrics} {dropped : Nat}
    (hsequence : metric.lastSequence = stream.getLast?.map TimestampedPcm.sequence)
    (hepoch : metric.lastEpoch = stream.getLast?.map TimestampedPcm.epoch)
    (hjoined : ∀ f ∈ stream.getLast?, Joined f frame ∧ f.sequence + 1 < 2 ^ 64) :
    (measure metric frame dropped).sequenceGaps = metric.sequenceGaps := by
  unfold measure
  simp only [hsequence, hepoch, Nat.add_eq_left]
  cases hlast : stream.getLast? with
  | none => simp
  | some f =>
    obtain ⟨hjoin | ⟨he, hnext⟩, hfits⟩ := hjoined f hlast
    · simp [hjoin]
    · rw [Nat.mod_eq_of_lt hfits] at hnext
      simp [he, hnext]

theorem Fed.publish (h : Fed stream s) : Fed (stream ++ [frame]) (s.publish size frame) where
  primary := (put_subscribed s.primary).trans h.primary
  history := by
    obtain ⟨l, hl⟩ := h.history
    refine (List.drop_suffix _ _).trans ⟨l, ?_⟩
    rw [← List.append_assoc, hl]
  received := by
    rw [List.length_append, ← h.received]
    rfl
  sequence := by
    rw [List.getLast?_concat]
    rfl
  epoch := by
    rw [List.getLast?_concat]
    rfl
  gaps hchain hfits := by
    obtain ⟨hstream, -, hlast⟩ := List.isChain_append.mp hchain
    have hbefore := h.gaps hstream fun f hf => hfits f (List.mem_append_left _ hf)
    have hjoined : ∀ f ∈ stream.getLast?, Joined f frame ∧ f.sequence + 1 < 2 ^ 64 := by
      intro f hf
      exact ⟨hlast f hf frame rfl, hfits f (List.mem_append_left _ (List.mem_of_getLast? hf))⟩
    exact (measure_joined h.sequence h.epoch hjoined).trans hbefore

/-- Any move. -/
theorem Fed.resume (h : Fed stream s) (hnext : s.resume size a = some s') :
    Fed (stream ++ a.published) s' := by
  cases ha : a.published with
  | cons frame rest =>
    cases a with
    | publish frame =>
      obtain rfl := Option.some.inj hnext
      rw [← ha]
      exact h.publish
    | frames | read | close => exact nomatch ha
  | nil =>
    have hsame := resume_same hnext ha
    rw [List.append_nil]
    constructor
    · exact hsame.primary h.primary
    · rw [hsame.history]
      exact h.history
    · rw [hsame.metrics]
      exact h.received
    · rw [hsame.metrics]
      exact h.sequence
    · rw [hsame.metrics]
      exact h.epoch
    · rw [hsame.metrics]
      exact h.gaps

/-! ## What a consumer sees -/

/-- What was delivered to a consumer, and is queued for it, lies in the stream in one piece, at its
    end while the consumer is subscribed. -/
structure Sees (stream : List TimestampedPcm) (c : Consumer) : Prop where
  within : c.delivered ++ c.queue <:+: stream
  upTo : c.subscribed = true → c.delivered ++ c.queue <:+ stream

theorem Sees.empty (stream : List TimestampedPcm) : Sees stream {} :=
  ⟨List.nil_infix, fun _ => List.nil_suffix⟩

/-- A frame put where there is room. -/
theorem Sees.put (h : Sees stream c) (hsub : c.subscribed = true) (hroom : c.queue.length < size.1) :
    Sees (stream ++ [frame]) (c.put size frame) := by
  have hput : c.put size frame = { c with queue := c.queue ++ [frame] } := if_neg (by omega)
  have hend : c.delivered ++ (c.queue ++ [frame]) <:+ stream ++ [frame] := by
    obtain ⟨l, hl⟩ := h.upTo hsub
    refine ⟨l, ?_⟩
    rw [← hl]
    simp only [List.append_assoc]
  rw [hput]
  exact ⟨hend.isInfix, fun _ => hend⟩

/-- A consumer that has left sees no more of the stream. -/
theorem Sees.gone (h : Sees stream c) (hleft : c.subscribed = false) :
    Sees (stream ++ [frame]) c := by
  constructor
  · obtain ⟨before, after, hl⟩ := h.within
    exact ⟨before, after ++ [frame], by rw [← hl]; simp only [List.append_assoc]⟩
  · intro hsub
    exact nomatch hleft.symm.trans hsub

/-- A move of the consumers leaves every one of them with its part of the stream. -/
theorem Sees.move (hfed : Fed stream s) (ha : a.published = [])
    (h : ∀ c, s.consumer reader = some c → Sees stream c)
    (hmove : ConsumerMove size s.history a none (s.consumer reader) none c) : Sees stream c := by
  cases hread : s.consumer reader with
  | none =>
    rw [hread] at hmove
    cases hmove with
    | joins replayFrames =>
      -- a new consumer starts with the end of the history
      have hsuffix : replay size (recent s.history replayFrames) <:+ stream :=
        (replay_suffix _).trans ((recent_suffix _ _).trans hfed.history)
      exact ⟨hsuffix.isInfix, fun _ => hsuffix⟩
  | some c₀ =>
    have h₀ := h c₀ hread
    rw [hread] at hmove
    cases hmove with
    | stays _ => exact h₀
    | reads hqueue =>
      constructor
      · rw [deliver_append hqueue]
        exact h₀.within
      · intro hsub
        rw [deliver_append hqueue]
        exact h₀.upTo hsub
    | leaves => exact ⟨h₀.within, nofun⟩
    | resets => exact .empty stream

/-- Any move, when a publication finds room. -/
theorem Sees.resume (hfed : Fed stream s) (hroom : FindsRoom size reader s a)
    (h : ∀ c, s.consumer reader = some c → Sees stream c) (hnext : s.resume size a = some s') :
    ∀ c, s'.consumer reader = some c → Sees (stream ++ a.published) c := by
  intro c' hc'
  cases ha : a.published with
  | cons frame rest =>
    cases a with
    | publish frame =>
      obtain rfl := Option.some.inj hnext
      rw [← ha]
      obtain ⟨c, hc, rfl⟩ := consumer_publish hfed.primary hc'
      cases hsub : c.subscribed with
      | true => exact (h c hc).put hsub (hroom c hc hsub)
      | false => exact (h c hc).gone hsub
    | frames | read | close => exact nomatch ha
  | nil =>
    rw [List.append_nil]
    exact Sees.move hfed ha h (resume_move hnext ha hc')

/-- A consumer of a stream without unmarked breaks meets none. -/
theorem Sees.joined (h : Sees stream c) (hchain : stream.IsChain Joined) :
    c.delivered.IsChain Joined := by
  have hwithin := hchain.infix h.within
  exact hwithin.left_of_append

end PhonoConsole.FrameFanout
