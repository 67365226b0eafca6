/-
  THE START OF A NEW STREAM.  A consumer that subscribes with a replay first receives its backlog;
  the capture it feeds is aborted by a later frame that carries `DISCONTINUITY` (`_pump` of
  `phono_console/sendspin_source.py`).

  `frames` cuts the replay out of the history by count, wherever a break may lie in it, and a
  consumer that becomes primary gets the retained queue, in which overflows have left marks.  A
  consumer that is slow may also lose a frame in the middle of its backlog.

  * `Unbroken`     — a run of frames without a break;
  * `opening`      — what a consumer receives before the first frame published since;
  * `KeepsStart`   — the moves that find no break to hand on, and make none;
  * `Opens`        — the invariant: the opening is a stretch of an unbroken backlog;
  * `start_unbroken` — so the opening is unbroken in every run of such moves;
  * `start_breaks` — the converse: any other move leads to a consumer with a broken start.
-/
import PhonoConsole.Subscriptions

namespace PhonoConsole

/-- One epoch, consecutive numbers, and `DISCONTINUITY` at most on the first frame. -/
def Unbroken (frames : List TimestampedPcm) : Prop :=
  frames.IsChain fun f g =>
    g.epoch = f.epoch ∧ g.sequence = f.sequence + 1 ∧ g.flags.discontinuity = false

instance decidableUnbroken (frames : List TimestampedPcm) : Decidable (Unbroken frames) :=
  inferInstanceAs (Decidable (List.IsChain _ _))

namespace Subscription

/-- What the consumer received of its backlog, which leaves the queue first. -/
def opening (c : Subscription) : List TimestampedPcm :=
  ((c.removed.take c.backlog.length).filter (·.evictedFrom.isNone)).map Removal.frame

end Subscription

namespace Fanouts

open FrameFanout

variable {size : QueueFrames} {s s' : Fanouts} {source : Protocol.AudioSource} {reader : Reader}
  {c : Subscription} {frame : TimestampedPcm} {n : Nat}

/-- A consumer with a replay takes over an unbroken run, and a publication that finds its queue
    full, with two frames of the backlog still in it, comes before its first read. -/
def KeepsStart (size : QueueFrames) (s : Fanouts) : FanoutMove → Prop
  | .subscribe source replayFrames =>
    0 < replayFrames → Unbroken (if (s.fanout source).primaryClaimed
      then recent (s.fanout source).history replayFrames
      else (s.fanout source).queueOf .primary)
  | .publish source _ => ∀ c ∈ s.subscriptions, c.live = true → c.source = source →
      0 < c.replayFrames → size.1 ≤ (s.queue c).length →
      c.removed.length + 1 < c.backlog.length → c.received = []
  | .read _ | .close _ => True

end Fanouts

/-! ## The opening is a stretch of the backlog -/

namespace Subscription

variable {size : QueueFrames} {published queue : List TimestampedPcm} {frame : TimestampedPcm}
  {c : Subscription}

/-- The opening, while a consumer is still in its backlog and afterwards. -/
structure Opens (c : Subscription) : Prop where
  unbroken : Unbroken c.backlog
  within : c.opening <:+: c.backlog
  upTo : c.removed.length < c.backlog.length → c.opening <:+ c.backlog.take c.removed.length

theorem Opens.new (h : c.removed = []) (hunbroken : Unbroken c.backlog) : c.Opens := by
  have hopening : c.opening = [] := by simp [opening, h]
  refine ⟨hunbroken, ?_, fun _ => ?_⟩
  · rw [hopening]
    exact List.nil_infix
  · rw [hopening]
    exact List.nil_suffix

/-- A consumer that is still in its backlog. -/
theorem opening_eq (h : c.removed.length ≤ c.backlog.length) : c.opening = c.received := by
  unfold opening
  rw [List.take_of_length_le h]
  rfl

/-- Only what leaves the queue within the backlog counts. -/
theorem opening_append (since : List TimestampedPcm) (later : List Removal) :
    opening { c with since, removed := c.removed ++ later } = c.opening ++
      ((later.take (c.backlog.length - c.removed.length)).filter (·.evictedFrom.isNone)).map
        Removal.frame := by
  unfold opening
  simp only [List.take_append, List.filter_append, List.map_append]

/-- An eviction is not received. -/
theorem opening_hear : (c.hear size queue frame).opening = c.opening := by
  refine (opening_append _ _).trans ?_
  rw [List.filter_eq_nil_iff.mpr, List.map_nil, List.append_nil]
  intro removal hremoval
  have hevicted := List.mem_of_mem_take hremoval
  split at hevicted
  · obtain ⟨head, -, rfl⟩ := List.mem_map.mp hevicted
    simp
  · cases hevicted

/-- A frame that is delivered within the backlog, or behind it. -/
theorem opening_read : opening { c with removed := c.removed ++ [⟨frame, none⟩] } =
    c.opening ++ if c.removed.length < c.backlog.length then [frame] else [] := by
  refine (opening_append c.since _).trans ?_
  split
  · rename_i hwithin
    rw [List.take_of_length_le (by simp only [List.length_singleton]; omega)]
    rfl
  · rename_i hbehind
    rw [show c.backlog.length - c.removed.length = 0 by omega]
    rfl

/-- The frame that leaves the queue next, within the backlog. -/
theorem Accounted.take_backlog (h : c.Accounted size published (frame :: queue))
    (hlive : c.live = true) (hwithin : c.removed.length < c.backlog.length) :
    c.backlog.take (c.removed.length + 1) = c.backlog.take c.removed.length ++ [frame] := by
  have hunmarked := h.unmarked
  rw [if_pos hlive] at hunmarked
  have hget : c.backlog[c.removed.length] = frame := by
    rw [hunmarked.getElem hwithin, List.getElem_append_right (by simp)]
    simp
  rw [List.take_add_one, List.getElem?_eq_getElem hwithin, hget]
  rfl

theorem opening_all (h : c.removed = c.backlog.map (⟨·, none⟩)) : c.opening = c.backlog := by
  unfold opening
  rw [h, List.take_of_length_le (by simp), List.filter_eq_self.mpr (by simp), List.map_map]
  exact List.map_id _

theorem Opens.hear (h : c.Opens)
    (hkeeps : size.1 ≤ queue.length → c.removed.length + 1 < c.backlog.length → c.opening = []) :
    (c.hear size queue frame).Opens where
  unbroken := h.unbroken
  within := by
    rw [opening_hear]
    exact h.within
  upTo := fun hlength => by
    rw [opening_hear]
    unfold Subscription.hear at hlength ⊢
    split
    · -- nothing was delivered, so the opening begins behind whatever is evicted
      rename_i hfull
      rw [if_pos hfull] at hlength
      obtain ⟨head, behind, tail, rfl⟩ := FrameFanout.full_cons_cons hfull
      have hmore : c.removed.length + 1 < c.backlog.length := by simpa using hlength
      rw [hkeeps hfull hmore]
      exact List.nil_suffix
    · rename_i hroom
      rw [if_neg hroom, List.append_nil] at hlength
      rw [List.append_nil]
      exact h.upTo hlength

theorem Opens.read (h : c.Opens) (haccount : c.Accounted size published (frame :: queue))
    (hlive : c.live = true) :
    Opens { c with removed := c.removed ++ [⟨frame, none⟩] } := by
  by_cases hwithin : c.removed.length < c.backlog.length
  · have hsuffix : c.opening ++ [frame] <:+ c.backlog.take (c.removed.length + 1) := by
      obtain ⟨front, hfront⟩ := h.upTo hwithin
      rw [haccount.take_backlog hlive hwithin, ← hfront, List.append_assoc]
      exact List.suffix_append _ _
    refine ⟨h.unbroken, ?_, fun _ => ?_⟩
    · rw [opening_read, if_pos hwithin]
      exact hsuffix.isInfix.trans (List.take_prefix _ _).isInfix
    · rw [opening_read, if_pos hwithin, List.length_append, List.length_singleton]
      exact hsuffix
  · refine ⟨h.unbroken, ?_, fun hlength => ?_⟩
    · rw [opening_read, if_neg hwithin, List.append_nil]
      exact h.within
    · rw [List.length_append, List.length_singleton] at hlength
      exact absurd (Nat.lt_of_succ_lt hlength) hwithin

end Subscription

/-! ## Every run of such moves -/

namespace Fanouts

open FrameFanout

variable {size : QueueFrames} {s s' : Fanouts} {source : Protocol.AudioSource} {move : FanoutMove}
  {c : Subscription} {frame : TimestampedPcm} {n : Nat}

/-- Every consumer with a replay. -/
def Opening (s : Fanouts) : Prop := ∀ c ∈ s.subscriptions, 0 < c.replayFrames → c.Opens

theorem Delivering.backlog_eq {replayFrames : Nat} (h : Delivering size s) :
    ((s.fanout source).frames size replayFrames).queueOf (s.fanout source).newReader =
      if (s.fanout source).primaryClaimed then recent (s.fanout source).history replayFrames
      else (s.fanout source).queueOf .primary := by
  refine queueOf_newReader ?_
  rw [h.history source, List.length_drop]
  omega

theorem Opening.set {b : Subscription} (h : s.Opening) (hb : 0 < b.replayFrames → b.Opens) :
    ∀ c ∈ s.subscriptions.set n b, 0 < c.replayFrames → c.Opens := by
  intro c hc hreplay
  rcases List.mem_or_eq_of_mem_set hc with hold | rfl
  · exact h c hold hreplay
  · exact hb hreplay

/-- A move under the condition keeps the openings unbroken. -/
theorem Opening.next (hdelivering : Delivering size s) (h : s.Opening)
    (hkeeps : KeepsStart size s move) (hnext : s.next size move = some s') : s'.Opening := by
  cases move with
  | publish source frame =>
    obtain rfl := Option.some.inj hnext
    intro c' hc' hreplay
    obtain ⟨c, hc, rfl⟩ := List.mem_map.mp hc'
    split
    · -- an eviction within the backlog, which the condition allows before the first delivery only
      rename_i hhears
      rw [if_pos hhears] at hreplay
      refine (h c hc hreplay).hear fun hfull hmore => ?_
      rw [Subscription.opening_eq (Nat.le_of_lt (Nat.lt_of_succ_lt hmore))]
      exact hkeeps c hc hhears.1 hhears.2 hreplay hfull hmore
    · rename_i hhears
      rw [if_neg hhears] at hreplay
      exact h c hc hreplay
  | subscribe source replayFrames =>
    obtain rfl := Option.some.inj hnext
    intro c hc hreplay
    rcases List.mem_append.mp hc with hold | hnew
    · exact h c hold hreplay
    · obtain rfl := List.mem_singleton.mp hnew
      refine Subscription.Opens.new rfl ?_
      show Unbroken (((s.fanout source).frames size replayFrames).queueOf _)
      rw [hdelivering.backlog_eq]
      exact hkeeps hreplay
  | read n =>
    obtain ⟨c, f', frame, hc, hlive, -, hqueue, rfl⟩ := read_eq hnext
    have hmem := List.mem_of_getElem? hc
    have haccount : c.Accounted size (s.published c.source) (frame :: f'.queueOf c.reader) :=
      hqueue ▸ hdelivering.accounts c hmem
    exact h.set fun hreplay => (h c hmem hreplay).read haccount hlive
  | close n =>
    obtain ⟨c, hc, -, rfl⟩ := close_eq hnext
    refine h.set fun hreplay => ?_
    have hopens := h c (List.mem_of_getElem? hc) hreplay
    exact ⟨hopens.unbroken, hopens.within, hopens.upTo⟩

theorem opening (h : (subscribing size).Reach (KeepsStart size) s) : s.Opening :=
  Machine.Reach.invariant_of (J := Delivering size) (fun s hs => delivering hs)
    (fun s hs c hc => by
      obtain rfl : s = Fanouts.initial := hs
      cases hc)
    (fun s move s' hdelivering hi hkeeps hnext => Opening.next hdelivering hi hkeeps hnext) h

/-- **A new stream never starts across a break**, in every run in which no consumer with a replay
    takes one over and none loses a frame in the middle of its backlog. -/
theorem start_unbroken (h : (subscribing size).Reach (KeepsStart size) s) :
    ∀ c ∈ s.subscriptions, 0 < c.replayFrames → Unbroken c.opening := by
  intro c hc hreplay
  have hopens := opening h c hc hreplay
  exact hopens.unbroken.infix hopens.within

/-! ## Any other move -/

theorem exists_read {f : FrameFanout} {reader : Reader} {queue : List TimestampedPcm}
    (h : f.queueOf reader = frame :: queue) : ∃ f', f.read reader = some f' := by
  cases reader with
  | primary =>
    have hqueue : f.primary.queue = frame :: queue := h
    simp [FrameFanout.read, hqueue]
  | secondary i =>
    cases hc : f.secondaries[i]? with
    | none => simp [queueOf, consumer, hc] at h
    | some c =>
      have hqueue : c.queue = frame :: queue := by simpa [queueOf, consumer, hc] using h
      simp [FrameFanout.read, hc, hqueue]

variable (size) in
/-- A live consumer that finds a frame. -/
theorem next_read {queue : List TimestampedPcm} (hc : s.subscriptions[n]? = some c)
    (hlive : c.live = true) (hqueue : s.queue c = frame :: queue) :
    ∃ s', (subscribing size).next s (.read n) = some s' ∧ s'.queue c = queue ∧
      s'.subscriptions[n]? = some { c with removed := c.removed ++ [⟨frame, none⟩] } := by
  obtain ⟨f', hread⟩ := exists_read hqueue
  obtain ⟨head, hhead, -, -⟩ := queueOf_read hread
  have hcons : frame :: queue = head :: f'.queueOf c.reader := hqueue.symm.trans hhead
  obtain ⟨rfl, rfl⟩ := List.cons.inj hcons
  have hlt := (List.getElem?_eq_some_iff.mp hc).1
  refine ⟨{ s with
    fanout := Function.update s.fanout c.source f'
    subscriptions := s.subscriptions.set n { c with removed := c.removed ++ [⟨frame, none⟩] } },
    ?_, ?_, ?_⟩
  · show s.read n = _
    unfold Fanouts.read
    simp only [hc, hlive, if_true, hread, hqueue]
  · show (Function.update s.fanout c.source f' c.source).queueOf c.reader = _
    rw [Function.update_self]
  · simp [hlt]

variable (size) in
/-- A live consumer that reads on. -/
theorem reads_on : ∀ {frames : List TimestampedPcm} {s : Fanouts} {c : Subscription},
    s.subscriptions[n]? = some c → c.live = true → frames <+: s.queue c →
    ∃ s', (subscribing size).exec s (List.replicate frames.length (.read n)) = some s' ∧
      s'.subscriptions[n]? = some { c with removed := c.removed ++ frames.map (⟨·, none⟩) }
  | [], s, c, hc, _, _ => ⟨s, rfl, by simpa using hc⟩
  | frame :: frames, s, c, hc, hlive, hqueue => by
      obtain ⟨rest, hrest⟩ := hqueue
      obtain ⟨s₁, hnext, hqueue₁, hc₁⟩ := next_read size hc hlive hrest.symm
      obtain ⟨s', hexec, hc'⟩ := reads_on hc₁ hlive ⟨rest, hqueue₁.symm⟩
      refine ⟨s', ?_, ?_⟩
      · rw [List.length_cons, List.replicate_succ, Machine.exec, hnext]
        exact hexec
      · rw [hc']
        simp

/-- A frame of an unbroken backlog that is received after another one was passed over. -/
theorem passed_over {frames front : List TimestampedPcm} {lost : TimestampedPcm}
    (hunbroken : Unbroken (front ++ [lost, frame])) (hframes : frames <:+ front)
    (hne : frames ≠ []) : ¬ Unbroken (frames ++ [frame]) := by
  intro hskipped
  rcases List.eq_nil_or_concat frames with rfl | ⟨init, last, rfl⟩
  · exact hne rfl
  · obtain ⟨before, rfl⟩ := hframes
    have hall : [last, lost, frame].IsChain fun f g =>
        g.epoch = f.epoch ∧ g.sequence = f.sequence + 1 ∧ g.flags.discontinuity = false :=
      List.IsChain.suffix hunbroken ⟨before ++ init, by simp⟩
    have hskip : [last, frame].IsChain fun f g =>
        g.epoch = f.epoch ∧ g.sequence = f.sequence + 1 ∧ g.flags.discontinuity = false :=
      List.IsChain.suffix hskipped ⟨init, by simp⟩
    simp only [List.isChain_cons_cons] at hall hskip
    omega

/-- A new consumer whose backlog has a break reads it. -/
theorem subscribe_breaks {replayFrames : Nat} (h : Delivering size s) (hreplay : 0 < replayFrames)
    (hbroken : ¬ Unbroken (if (s.fanout source).primaryClaimed
      then recent (s.fanout source).history replayFrames
      else (s.fanout source).queueOf .primary)) :
    ∃ n k s₂ c, (subscribing size).exec (s.subscribe size source replayFrames)
        (List.replicate k (.read n)) = some s₂ ∧
      c ∈ s₂.subscriptions ∧ 0 < c.replayFrames ∧ ¬ Unbroken c.opening := by
  let backlog := ((s.fanout source).frames size replayFrames).queueOf (s.fanout source).newReader
  let c : Subscription := ⟨source, (s.fanout source).newReader, true, replayFrames,
    s.published source, backlog, [], [], []⟩
  have hc : (s.subscribe size source replayFrames).subscriptions[s.subscriptions.length]? =
      some c := by simp [Fanouts.subscribe, c, backlog]
  have hqueue : (s.subscribe size source replayFrames).queue c = backlog := by
    show (Function.update s.fanout source _ source).queueOf _ = _
    rw [Function.update_self]
  have hprefix : backlog <+: (s.subscribe size source replayFrames).queue c :=
    ⟨[], by rw [hqueue, List.append_nil]⟩
  obtain ⟨s₂, hexec, hc₂⟩ := reads_on size hc rfl hprefix
  refine ⟨_, _, s₂, _, hexec, List.mem_of_getElem? hc₂, hreplay, ?_⟩
  rw [Subscription.opening_all (List.nil_append _)]
  show ¬ Unbroken backlog
  rwa [← h.backlog_eq] at hbroken

/-- A consumer that loses a frame of its backlog after it has read one reads the frame behind. -/
theorem publish_breaks (h : Delivering size s) (hopening : s.Opening) (hc : c ∈ s.subscriptions)
    (hlive : c.live = true) (hreplay : 0 < c.replayFrames)
    (hfull : size.1 ≤ (s.queue c).length) (hmore : c.removed.length + 1 < c.backlog.length)
    (hread : c.received ≠ []) :
    ∃ n k s₂ c₂, (subscribing size).exec (s.publish size c.source frame)
        (List.replicate k (.read n)) = some s₂ ∧
      c₂ ∈ s₂.subscriptions ∧ 0 < c₂.replayFrames ∧ ¬ Unbroken c₂.opening := by
  obtain ⟨n, hn⟩ := List.mem_iff_getElem?.mp hc
  obtain ⟨lost, behind, queue, hqueue⟩ := full_cons_cons hfull
  -- the full queue gives up `lost` and holds `behind`
  let c' := c.hear size (s.queue c) frame
  have hn' : (s.publish size c.source frame).subscriptions[n]? = some c' := by
    simp [Fanouts.publish, hn, hlive, c']
  have hqueue' : (s.publish size c.source frame).queue c' =
      behind :: (queue ++ [{ frame with flags.discontinuity := true }]) := by
    refine (h.owned.queue_publish hc hlive).trans ?_
    unfold putQueue
    rw [if_pos hfull, hqueue]
    rfl
  obtain ⟨s₂, hnext, -, hc₂⟩ := next_read size hn' hlive hqueue'
  refine ⟨n, 1, s₂, _, ?_, List.mem_of_getElem? hc₂, hreplay, ?_⟩
  · rw [List.replicate_one, Machine.exec, hnext]
    rfl
  have hlength : c'.removed.length = c.removed.length + 1 := by
    show (c.removed ++ if size.1 ≤ (s.queue c).length then _ else []).length = _
    rw [if_pos hfull, hqueue]
    simp
  have hlost := (hqueue ▸ h.accounts c hc).take_backlog hlive (Nat.lt_of_succ_lt hmore)
  have hbehind : c.backlog.take (c.removed.length + 2) =
      c.backlog.take c.removed.length ++ [lost, behind] := by
    have hmem' := List.mem_of_getElem? hn'
    have hpublish : Delivering size (s.publish size c.source frame) := h.publish
    have haccount := hpublish.accounts c' hmem'
    have htake := (hqueue' ▸ haccount).take_backlog hlive (by rw [hlength]; exact hmore)
    rw [hlength] at htake
    exact htake.trans (by rw [show c'.backlog = c.backlog from rfl, hlost, List.append_assoc]; rfl)
  have hopens := hopening c hc hreplay
  have hunbroken : Unbroken (c.backlog.take c.removed.length ++ [lost, behind]) := by
    rw [← hbehind]
    exact hopens.unbroken.prefix (List.take_prefix _ _)
  have hreceived : Subscription.opening { c' with removed := c'.removed ++ [⟨behind, none⟩] } =
      c.opening ++ [behind] := by
    rw [Subscription.opening_read, if_pos (by rw [hlength]; exact hmore), Subscription.opening_hear]
  rw [hreceived]
  rw [← Subscription.opening_eq (Nat.le_of_lt (Nat.lt_of_succ_lt hmore))] at hread
  exact passed_over hunbroken (hopens.upTo (Nat.lt_of_succ_lt hmore)) hread

/-- **Any other move breaks a start**: after a run of moves under the condition, one that does not
    meet it leaves a consumer with a replay that reads on across a break. -/
theorem start_breaks (h : (subscribing size).Reach (KeepsStart size) s)
    (hnot : ¬ KeepsStart size s move) (hnext : (subscribing size).next s move = some s') :
    ∃ n k s₂ c, (subscribing size).exec s' (List.replicate k (.read n)) = some s₂ ∧
      c ∈ s₂.subscriptions ∧ 0 < c.replayFrames ∧ ¬ Unbroken c.opening := by
  have hdelivering := delivering h
  cases move with
  | publish source frame =>
    obtain rfl := Option.some.inj hnext
    simp only [KeepsStart, not_forall] at hnot
    obtain ⟨c, hc, hlive, rfl, hreplay, hfull, hmore, hread⟩ := hnot
    exact publish_breaks hdelivering (opening h) hc hlive hreplay hfull hmore hread
  | subscribe source replayFrames =>
    obtain rfl := Option.some.inj hnext
    simp only [KeepsStart, not_forall] at hnot
    obtain ⟨hreplay, hbroken⟩ := hnot
    exact subscribe_breaks hdelivering hreplay hbroken
  | read n => exact absurd trivial hnot
  | close n => exact absurd trivial hnot

/-! ## Two runs -/

instance decidableKeepsStart : ∀ (s : Fanouts) (move : FanoutMove),
    Decidable (KeepsStart size s move)
  | s, .subscribe source replayFrames => inferInstanceAs (Decidable (0 < replayFrames →
      Unbroken (if (s.fanout source).primaryClaimed
        then recent (s.fanout source).history replayFrames
        else (s.fanout source).queueOf .primary)))
  | s, .publish source _ => inferInstanceAs (Decidable (∀ c ∈ s.subscriptions, c.live = true →
      c.source = source → 0 < c.replayFrames → size.1 ≤ (s.queue c).length →
      c.removed.length + 1 < c.backlog.length → c.received = []))
  | _, .read _ | _, .close _ => isTrue trivial

/-- A second consumer joins with a replay of two frames, and reads on into the live ones. -/
theorem start_unbroken_replay : ∃ c : Subscription,
    c.received = [frameAt 1 false, frameAt 2 false, frameAt 3 false] ∧
    c.opening = [frameAt 1 false, frameAt 2 false] ∧ Unbroken c.opening := by
  obtain ⟨s, hs, hobserved⟩ := Machine.exists_reach
    (m := (subscribing ⟨3, by decide⟩).guarded (KeepsStart ⟨3, by decide⟩))
    (l := [.subscribe .bluetooth 0, .publish .bluetooth (frameAt 0 false),
      .publish .bluetooth (frameAt 1 false), .publish .bluetooth (frameAt 2 false),
      .subscribe .bluetooth 2, .publish .bluetooth (frameAt 3 false), .read 1, .read 1, .read 1])
    (fun s => s.subscriptions[1]?.any (fun c : Subscription =>
      decide (0 < c.replayFrames ∧
        c.received = [frameAt 1 false, frameAt 2 false, frameAt 3 false] ∧
        c.opening = [frameAt 1 false, frameAt 2 false])) = true)
    (show _ = Fanouts.initial from rfl) (by decide +kernel)
  obtain ⟨c, hc, hdec⟩ := (Option.any_eq_true _ _).mp hobserved
  obtain ⟨hreplay, hreceived, hopening⟩ := of_decide_eq_true hdec
  exact ⟨c, hreceived, hopening,
    start_unbroken hs.of_guarded c (List.mem_of_getElem? hc) hreplay⟩

/-- The engine restarts between two frames; a consumer that joins with a replay of two receives
    the last frame of the old epoch and the first of the new one. -/
theorem start_broken : ¬ ∀ (size : QueueFrames) (s : Fanouts),
    (subscribing size).Reach Machine.anyMove s →
    ∀ c ∈ s.subscriptions, 0 < c.replayFrames → Unbroken c.opening := by
  intro hall
  obtain ⟨s, hs, hobserved⟩ := Machine.exists_reach (m := subscribing ⟨2, le_rfl⟩)
    (l := [.subscribe .bluetooth 0, .publish .bluetooth (frameAt 7 false),
      .publish .bluetooth
        { sequence := 0, firstSampleTimeUs := 0, epoch := 2, flags := { discontinuity := true } },
      .subscribe .bluetooth 2, .read 1, .read 1])
    (fun s => s.subscriptions[1]?.any (fun c : Subscription =>
      decide (0 < c.replayFrames ∧ ¬ Unbroken c.opening)) = true)
    (show _ = Fanouts.initial from rfl) (by decide +kernel)
  obtain ⟨c, hc, hdec⟩ := (Option.any_eq_true _ _).mp hobserved
  obtain ⟨hreplay, hbroken⟩ := of_decide_eq_true hdec
  exact hbroken (hall _ s hs c (List.mem_of_getElem? hc) hreplay)

end Fanouts

end PhonoConsole
