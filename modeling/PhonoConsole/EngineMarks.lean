/-
  WHAT THE ENGINE MARKS, over every run of its serving loop.

  `Follows a epoch sequence flags` says what the packet after `a` may look like; it is LOCAL, about
  a packet and the variables of the loop when the next one is built, and the invariant `Tracked`
  carries it from turn to turn:

  * one lemma for each thing that can happen to the variables (a recovery, a lost packet, a
    delivered one, a capture opened again), then the step and the run (`Tracked.reach`);
  * `Follows.next_delivered` — the induction over the packets that were LOST in a row: what the
    next delivered packet carries, however many they were;
  * `breaks_marked` — epochs, sequence numbers and lost packets: every break is marked;
  * `pauses_marked_iff` — a pause is marked exactly when one of the two blocks around it was not
    delivered: observed times reach the clock fit alone, never the flags, so between two delivered
    blocks a pause of any length goes unmarked (`pause_unmarked`).
-/
import PhonoConsole.Engine
import Mathlib.Data.List.Chain

namespace PhonoConsole.Engine

open Protocol

variable {F : Type}

/-! ## Flags -/

/-- A set flag. -/
def Carries (flags flag : UInt32) : Prop := flags &&& flag = flag

instance (flags flag : UInt32) : Decidable (Carries flags flag) :=
  inferInstanceAs (Decidable (_ = _))

/-- The packet is marked with this flag. -/
def Packet.carries (p : Packet) (flag : UInt32) : Prop := Carries p.header.flags flag

theorem carries_or_right (flags flag : UInt32) : Carries (flags ||| flag) flag := by
  show (flags ||| flag) &&& flag = flag
  apply UInt32.toBitVec_inj.mp
  ext i hi
  simp only [UInt32.toBitVec_and, UInt32.toBitVec_or, BitVec.getElem_and, BitVec.getElem_or]
  cases flags.toBitVec[i] <;> cases flag.toBitVec[i] <;> rfl

theorem Carries.or_left {flags flag : UInt32} (h : Carries flags flag) (more : UInt32) :
    Carries (flags ||| more) flag := by
  show (flags ||| more) &&& flag = flag
  have h : flags &&& flag = flag := h
  apply UInt32.toBitVec_inj.mp
  have hb := congrArg UInt32.toBitVec h
  ext i hi
  have hbit := congrArg (fun v : BitVec 32 => v[i]) hb
  simp only [UInt32.toBitVec_and, UInt32.toBitVec_or, BitVec.getElem_and, BitVec.getElem_or]
    at hbit ⊢
  revert hbit
  cases flags.toBitVec[i] <;> cases flag.toBitVec[i] <;> cases more.toBitVec[i] <;> simp

theorem Carries.or_right {more flag : UInt32} (h : Carries more flag) (flags : UInt32) :
    Carries (flags ||| more) flag := by
  rw [UInt32.or_comm]
  exact h.or_left flags

theorem not_carries_zero : ¬ Carries 0 flagDiscontinuity := by decide

/-! ## The packet after another -/

/-- What the loop's variables may be after the packet `a`, when the next packet is built. -/
structure Follows (a : Packet) (epoch : Nat) (sequence : UInt64) (flags : UInt32) : Prop where
  sequel : epoch = a.epoch → sequence = a.header.sequence + 1
  clean : epoch = a.epoch → a.delivered = true → flags = 0
  lost : a.delivered = false → Carries flags flagDiscontinuity
  broken : epoch ≠ a.epoch → Carries flags flagDiscontinuity ∧ Carries flags flagClockReset
  kept : a.delivered = false → a.carries flagClockReset → Carries flags flagClockReset

/-- A capture opened again: the epoch is a new one, and both flags are pending. -/
theorem Follows.opened {a : Packet} {epoch : Nat} (h : a.epoch < epoch) :
    Follows a epoch 0 (flagDiscontinuity ||| flagClockReset) := by
  have hne : epoch ≠ a.epoch := by omega
  have hd : Carries (flagDiscontinuity ||| flagClockReset) flagDiscontinuity := by decide
  have hc : Carries (flagDiscontinuity ||| flagClockReset) flagClockReset := by decide
  exact ⟨fun he => absurd he hne, fun he => absurd he hne, fun _ => hd, fun _ => ⟨hd, hc⟩,
    fun _ _ => hc⟩

/-- A recovered xrun: likewise, on top of what was pending. -/
theorem Follows.recovered {a : Packet} {epoch : Nat} (h : a.epoch < epoch) (sequence : UInt64)
    (flags : UInt32) :
    Follows a epoch sequence
      (flags ||| (flagDiscontinuity ||| flagXrunRecovered ||| flagClockReset)) := by
  have hne : epoch ≠ a.epoch := by omega
  have hd : Carries (flagDiscontinuity ||| flagXrunRecovered ||| flagClockReset)
      flagDiscontinuity := by decide
  have hc : Carries (flagDiscontinuity ||| flagXrunRecovered ||| flagClockReset)
      flagClockReset := by decide
  exact ⟨fun he => absurd he hne, fun he => absurd he hne, fun _ => hd.or_right flags,
    fun _ => ⟨hd.or_right flags, hc.or_right flags⟩, fun _ _ => hc.or_right flags⟩

/-- A delivered packet clears the flags and is continued in its epoch. -/
theorem Follows.afterDelivered {p : Packet} (h : p.delivered = true) :
    Follows p p.epoch (p.header.sequence + 1) 0 where
  sequel _ := rfl
  clean _ _ := rfl
  lost hl := by simp [h] at hl
  broken hne := absurd rfl hne
  kept hl := by simp [h] at hl

/-- A lost packet leaves its flags pending, with the discontinuity. -/
theorem Follows.afterLost {p : Packet} (h : p.delivered = false) :
    Follows p p.epoch (p.header.sequence + 1) (p.header.flags ||| flagDiscontinuity) where
  sequel _ := rfl
  clean _ hd := by simp [h] at hd
  lost _ := carries_or_right _ _
  broken hne := absurd rfl hne
  kept _ hc := hc.or_left _

/-! ## The invariant -/

/-- What a packet may look like right after another. -/
def Succ (a b : Packet) : Prop := Follows a b.epoch b.header.sequence b.header.flags

/-- Two packets built one right after the other. -/
def Adjacent (log : List Packet) (a b : Packet) : Prop :=
  ∃ before after, log = before ++ a :: b :: after

/-- The variables of the loop continue the last packet; between captures the epoch of every packet
    is past. -/
def Pending (s : State F) : Prop :=
  match s.phase with
  | .capturing c =>
      (∀ p ∈ s.log, p.epoch ≤ s.epoch) ∧
        ∀ a ∈ s.log.getLast?, Follows a s.epoch c.sequence c.nextFlags
  | _ => ∀ p ∈ s.log, p.epoch < s.epoch

/-- The invariant: the log without unmarked breaks, and what is pending. -/
structure Tracked (s : State F) : Prop where
  chain : s.log.IsChain Succ
  wire : ∀ p ∈ s.log, p.header.epoch = UInt32.ofNat p.epoch
  pending : Pending s

/-- No packet is of an epoch to come. -/
theorem Tracked.le {s : State F} (h : Tracked s) : ∀ p ∈ s.log, p.epoch ≤ s.epoch := by
  intro p hp
  have hpending := h.pending
  unfold Pending at hpending
  split at hpending
  · exact hpending.1 p hp
  · exact Nat.le_of_lt (hpending p hp)

/-- Between captures every packet is of a past epoch. -/
theorem Tracked.past {s : State F} (h : Tracked s) (hphase : ∀ c, s.phase ≠ .capturing c) :
    ∀ p ∈ s.log, p.epoch < s.epoch := by
  have hpending := h.pending
  unfold Pending at hpending
  split at hpending
  · rename_i c hc
    exact absurd hc (hphase c)
  · exact hpending

/-- A packet that the loop's variables give extends the log. -/
theorem Tracked.append {s : State F} (h : Tracked s) {p : Packet}
    (hlast : ∀ a ∈ s.log.getLast?, Succ a p) (hepoch : p.epoch = s.epoch)
    (hwire : p.header.epoch = UInt32.ofNat p.epoch) :
    (s.log ++ [p]).IsChain Succ ∧ (∀ q ∈ s.log ++ [p], q.header.epoch = UInt32.ofNat q.epoch) ∧
      ∀ q ∈ s.log ++ [p], q.epoch ≤ s.epoch := by
  refine ⟨List.isChain_append.mpr ⟨h.chain, List.isChain_singleton p, ?_⟩, ?_, ?_⟩
  · intro a ha b hb
    obtain rfl : p = b := by simpa using hb
    exact hlast a ha
  · intro q hq
    rcases List.mem_append.mp hq with hq | hq
    · exact h.wire q hq
    · rw [List.mem_singleton.mp hq]
      exact hwire
  · intro q hq
    rcases List.mem_append.mp hq with hq | hq
    · exact h.le q hq
    · rw [List.mem_singleton.mp hq]
      omega

/-- The packets right after one another in a tracked log. -/
theorem Tracked.succ {s : State F} (h : Tracked s) {a b : Packet} (hab : Adjacent s.log a b) :
    Succ a b := by
  obtain ⟨before, after, hlog⟩ := hab
  have hchain := h.chain
  rw [hlog] at hchain
  exact (List.isChain_cons_cons.mp (List.isChain_append.mp hchain).2.1).1

theorem Tracked.closeClient {s : State F} (h : Tracked s) : Tracked s.closeClient :=
  ⟨h.chain, h.wire, fun p hp => Nat.lt_succ_of_le (h.le p hp)⟩

theorem Tracked.captureEnds {s : State F} (h : Tracked s) : Tracked s.captureEnds :=
  ⟨h.chain, h.wire, fun p hp => Nat.lt_succ_of_le (h.le p hp)⟩

variable [LongDouble F]

theorem Tracked.openCapture {s : State F} (h : Tracked s) (hphase : s.phase = .serving)
    (answer : Option Negotiated) (allocated : Bool) : Tracked (s.openCapture answer allocated) := by
  have hlt : ∀ p ∈ s.log, p.epoch < s.epoch := h.past (by simp [hphase])
  unfold State.openCapture
  split
  · exact ⟨h.chain, h.wire, hlt⟩
  · split
    · exact h.closeClient
    · refine ⟨h.chain, h.wire, fun p hp => Nat.le_of_lt (hlt p hp), ?_⟩
      intro a ha
      exact .opened (hlt a (List.mem_of_getLast? ha))

theorem Tracked.recover {s : State F} (h : Tracked s) (c : Capture F) (recovered : Bool) :
    Tracked (s.recover c recovered) := by
  unfold State.recover
  split
  · refine ⟨h.chain, h.wire, fun p hp => Nat.le_succ_of_le (h.le p hp), ?_⟩
    intro a ha
    exact .recovered (Nat.lt_succ_of_le (h.le a (List.mem_of_getLast? ha))) c.sequence c.nextFlags
  · exact h.captureEnds

@[simp] theorem Capture.observe_sequence (c : Capture F) (t : Int) :
    (c.observe t).sequence = c.sequence := by
  unfold Capture.observe
  dsimp only
  split_ifs <;> rfl

@[simp] theorem Capture.observe_nextFlags (c : Capture F) (t : Int) :
    (c.observe t).nextFlags = c.nextFlags := by
  unfold Capture.observe
  dsimp only
  split_ifs <;> rfl

theorem Tracked.read {options : Options} {s : State F} {c : Capture F} (h : Tracked s)
    (hphase : s.phase = .capturing c) (available : Nat) (hardwareTime : Timespec) (frames : Nat)
    (sent : Sent) : Tracked (s.read options c available hardwareTime frames sent) := by
  have hlast : ∀ a ∈ s.log.getLast?, Follows a s.epoch c.sequence c.nextFlags := by
    have hpending := h.pending
    simp only [Pending, hphase] at hpending
    exact hpending.2
  unfold State.read
  generalize hobs : timespecUs hardwareTime - ((available : Int) * 1000000).tdiv c.pcm.rate = t
  have happend := fun delivered : Bool => h.append (p :=
    { header := (c.observe t).header options s.epoch frames, capture := s.captures, epoch := s.epoch,
      rate := (c.observe t).pcm.rate, frames, observedFirstUs := t, delivered })
    (by simpa only [Succ, Capture.header, Capture.observe_sequence, Capture.observe_nextFlags]
          using hlast) rfl rfl
  cases sent with
  | again =>
    obtain ⟨hchain, hwire, hle⟩ := happend false
    refine ⟨hchain, hwire, hle, ?_⟩
    intro a ha
    obtain rfl := Option.mem_some.mp (List.getLast?_concat .. ▸ ha)
    exact .afterLost rfl
  | gone =>
    obtain ⟨hchain, hwire, hle⟩ := happend false
    exact ⟨hchain, hwire, fun p hp => Nat.lt_succ_of_le (hle p hp)⟩
  | whole =>
    obtain ⟨hchain, hwire, hle⟩ := happend true
    refine ⟨hchain, hwire, hle, ?_⟩
    intro a ha
    obtain rfl := Option.mem_some.mp (List.getLast?_concat .. ▸ ha)
    exact .afterDelivered rfl

theorem Tracked.turn {options : Options} {s : State F} {c : Capture F} (h : Tracked s)
    (hphase : s.phase = .capturing c) (t : Turn) : Tracked (s.turn options c t) := by
  cases t with
  | waitTimeout => exact h
  | waitError recovered => exact h.recover c recovered
  | timestampError => exact h.captureEnds
  | readError recovered => exact h.recover c recovered
  | readNothing => exact h
  | read available hardwareTime frames sent => exact h.read hphase available hardwareTime frames sent

/-- Every move keeps the invariant. -/
theorem Tracked.next {options : Options} {s s' : State F} {m : Move} (h : Tracked s)
    (hnext : Engine.next options s m = some s') : Tracked s' := by
  rcases next_cases hnext with ⟨rfl, rfl⟩ | ⟨rfl, -, rfl⟩ | ⟨answer, rfl, hphase, rfl⟩ |
    ⟨answer, allocated, rfl, hphase, rfl⟩ | ⟨t, c, rfl, hphase, -, rfl⟩ |
    ⟨stays, rfl, hphase, rfl | rfl⟩
  · exact ⟨h.chain, h.wire, h.pending⟩
  · -- each loop in turn is left
    rcases s.stopped_cases with ⟨hphase, hs⟩ | hs | hs <;> rw [hs]
    · exact ⟨h.chain, h.wire, h.past hphase⟩
    · exact h.closeClient
    · exact h.captureEnds
  · cases answer with
    | client => exact ⟨List.isChain_nil, (fun p hp => nomatch hp), (fun p hp => nomatch hp)⟩
    | interrupted => exact h
    | failed => exact ⟨h.chain, h.wire, h.past (by simp [hphase])⟩
  · exact h.openCapture hphase answer allocated
  · exact h.turn hphase t
  · exact ⟨h.chain, h.wire, h.past (by simp [hphase])⟩
  · exact h.closeClient

/-- The log of every state reached is tracked. -/
theorem Tracked.reach {options : Options} {s : State F}
    (h : (engine F options).Reach Machine.anyMove s) : Tracked s := by
  refine Machine.Reach.invariant ?_ (fun s m s' hs _ hnext => hs.next
    (show Engine.next options s m = some s' from hnext)) h
  rintro s rfl
  exact ⟨List.isChain_nil, (fun p hp => nomatch hp), (fun p hp => nomatch hp)⟩

/-! ## From packet to packet -/

/-- The packet delivered after `a`, however many are lost between them. -/
def NextDelivered (log : List Packet) (a b : Packet) : Prop :=
  ∃ before after, log = before ++ a :: after ∧ after.find? (·.delivered) = some b

/-- The law of the marks, of the packets built for one client. -/
def BreaksMarked (log : List Packet) : Prop :=
  (∀ a b, a.delivered = true → NextDelivered log a b →
    (¬ (b.header.epoch = a.header.epoch ∧ b.header.sequence = a.header.sequence + 1) →
        b.carries flagDiscontinuity) ∧
      (b.header.epoch ≠ a.header.epoch → b.carries flagClockReset)) ∧
  ∀ a b, Adjacent log a b → a.capture = b.capture → a.delivered = false →
    b.carries flagDiscontinuity

/-- What the next delivered packet carries, by induction over the packets lost before it: it
    continues `a`, or it is marked. -/
theorem next_delivered {a b : Packet} {l : List Packet} (hchain : (a :: l).IsChain Succ)
    (hfind : l.find? (·.delivered) = some b) :
    (b.carries flagDiscontinuity ∨
        a.delivered = true ∧ b.epoch = a.epoch ∧ b.header.sequence = a.header.sequence + 1) ∧
      (b.epoch ≠ a.epoch → b.carries flagClockReset) ∧
      (a.delivered = false → a.carries flagClockReset → b.carries flagClockReset) := by
  induction l generalizing a with
  | nil => exact nomatch hfind
  | cons x l ih =>
    obtain ⟨hsucc, hrest⟩ := List.isChain_cons_cons.mp hchain
    cases hx : x.delivered with
    | true =>
      obtain rfl : x = b := by simpa [hx] using hfind
      refine ⟨?_, fun hne => (hsucc.broken hne).2, hsucc.kept⟩
      by_cases he : x.epoch = a.epoch
      · cases ha : a.delivered with
        | true => exact .inr ⟨rfl, he, hsucc.sequel he⟩
        | false => exact .inl (hsucc.lost ha)
      · exact .inl (hsucc.broken he).1
    | false =>
      -- the packet lost here hands on what was pending before it
      have hfind' : l.find? (·.delivered) = some b := by simpa [hx] using hfind
      obtain ⟨hmark, hreset, hkept⟩ := ih hrest hfind'
      refine ⟨?_, ?_, ?_⟩
      · rcases hmark with hmark | ⟨hdelivered, -⟩
        · exact .inl hmark
        · exact absurd hdelivered (by simp [hx])
      · intro hne
        by_cases he : x.epoch = a.epoch
        · exact hreset (by omega)
        · exact hkept hx (hsucc.broken he).2
      · intro ha hc
        exact hkept hx (hsucc.kept ha hc)

/-- **The engine marks every break**, in every run of its serving loop. -/
theorem breaks_marked {options : Options} {s : State F}
    (h : (engine F options).Reach Machine.anyMove s) : BreaksMarked s.log := by
  have htracked := Tracked.reach h
  constructor
  · rintro a b hdelivered ⟨before, after, hlog, hfind⟩
    have hchain := htracked.chain
    rw [hlog] at hchain
    obtain ⟨hmark, hreset, -⟩ := next_delivered (List.isChain_append.mp hchain).2.1 hfind
    have ha : a ∈ s.log := by simp [hlog]
    have hb : b ∈ s.log := by
      have hb := List.mem_of_find?_eq_some hfind
      simp [hlog, hb]
    have hwire : b.header.epoch ≠ a.header.epoch → b.epoch ≠ a.epoch := by
      intro hne he
      rw [htracked.wire a ha, htracked.wire b hb, he] at hne
      exact hne rfl
    refine ⟨fun hbreak => ?_, fun hne => hreset (hwire hne)⟩
    rcases hmark with hmark | ⟨-, he, hseq⟩
    · exact hmark
    · refine absurd ⟨?_, hseq⟩ hbreak
      rw [htracked.wire a ha, htracked.wire b hb, he]
  · intro a b hab _ hlost
    exact (htracked.succ hab).lost hlost

/-- What the runs below are started with. -/
def stereo : Options where
  source := 2
  requestedChannels := 2

/-- A capture at 48 kHz in blocks of 20 ms. -/
def blocks : Negotiated where
  rate := 48000
  period := 960
  rate_pos := by decide

/-- A client's run with two packets lost in a row and a recovered xrun between deliveries. -/
def lossyRun : List Move :=
  [.accept .client, .openCapture (some blocks) true,
    .turn (.read 0 ⟨0, 0⟩ 960 .whole), .turn (.read 0 ⟨0, 20000000⟩ 960 .again),
    .turn (.readError true), .turn (.read 0 ⟨0, 60000000⟩ 960 .again),
    .turn (.read 0 ⟨0, 80000000⟩ 960 .whole)]

theorem breaks_marked_lossy :
    ∃ s : State ℚ, (engine ℚ stereo).Reach Machine.anyMove s ∧ s.log.length = 4 ∧
      BreaksMarked s.log := by
  obtain ⟨s, hrun, hlen⟩ : ∃ s, (engine ℚ stereo).exec {} lossyRun = some s ∧ s.log.length = 4 :=
    ⟨_, rfl, rfl⟩
  have hreach : (engine ℚ stereo).Reach Machine.anyMove s := Machine.Reach.exec (.init rfl) hrun
  exact ⟨s, hreach, hlen, breaks_marked hreach⟩

/-! ## Pauses -/

/-- Between the first samples of two blocks the hardware observed more than the first block's
    duration and the tolerance: the source paused. -/
def Pause (tolerance : Int) (a b : Packet) : Prop :=
  (a.frames : Int) * 1000000 < (b.observedFirstUs - a.observedFirstUs - tolerance) * a.rate

/-- Whenever the source paused between two successful reads of one epoch, the packet delivered next
    is marked. -/
def PausesMarked (tolerance : Int) (log : List Packet) : Prop :=
  ∀ before a b after, log = before ++ a :: b :: after → a.epoch = b.epoch → Pause tolerance a b →
    ∀ c, (b :: after).find? (·.delivered) = some c → c.carries flagDiscontinuity

/-- The packet after a delivered one of its epoch carries no flag. -/
theorem Succ.unmarked {a b : Packet} (h : Succ a b) (he : a.epoch = b.epoch)
    (ha : a.delivered = true) : ¬ b.carries flagDiscontinuity := by
  have hflags : b.header.flags = 0 := h.clean he.symm ha
  rw [Packet.carries, hflags]
  exact not_carries_zero

/-- The next delivered packet is marked when one of the two blocks was lost. -/
theorem marked_of_lost {a b c : Packet} {after : List Packet}
    (hchain : (a :: b :: after).IsChain Succ) (hlost : ¬ (a.delivered = true ∧ b.delivered = true))
    (hfind : (b :: after).find? (·.delivered) = some c) : c.carries flagDiscontinuity := by
  cases ha : a.delivered with
  | false =>
    rcases (next_delivered hchain hfind).1 with hmark | ⟨hdelivered, -⟩
    · exact hmark
    · exact absurd hdelivered (by simp [ha])
  | true =>
    have hb : b.delivered = false := by
      cases hb : b.delivered with
      | false => rfl
      | true => exact absurd ⟨ha, hb⟩ hlost
    have hfind' : after.find? (·.delivered) = some c := by simpa [hb] using hfind
    rcases (next_delivered (List.isChain_cons_cons.mp hchain).2 hfind').1 with hmark | ⟨hd, -⟩
    · exact hmark
    · exact absurd hd (by simp [hb])

/-- **When pauses are marked.**  For every tolerance and in every run, the pauses are marked
    exactly when around each of them one of the two blocks was not delivered; nothing else that
    the loop does depends on the observed times. -/
theorem pauses_marked_iff {options : Options} {s : State F} (tolerance : Int)
    (h : (engine F options).Reach Machine.anyMove s) :
    PausesMarked tolerance s.log ↔
      ∀ a b, Adjacent s.log a b → a.epoch = b.epoch → Pause tolerance a b →
        ¬ (a.delivered = true ∧ b.delivered = true) := by
  have htracked := Tracked.reach h
  constructor
  · rintro hmarked a b ⟨before, after, hlog⟩ he hpause ⟨ha, hb⟩
    have hmark := hmarked before a b after hlog he hpause b (by simp [hb])
    exact (htracked.succ ⟨before, after, hlog⟩).unmarked he ha hmark
  · intro hlost before a b after hlog he hpause c hfind
    have hchain := htracked.chain
    rw [hlog] at hchain
    exact marked_of_lost (List.isChain_append.mp hchain).2.1
      (hlost a b ⟨before, after, hlog⟩ he hpause) hfind

/-- A client that takes both blocks around a pause of more than the tolerance. -/
def pausingRun (tolerance : Int) : List Move :=
  [.accept .client, .openCapture (some blocks) true,
    .turn (.read 0 ⟨0, 0⟩ 960 .whole), .turn .waitTimeout,
    .turn (.read 0 ⟨tolerance.toNat + 1, 0⟩ 960 .whole)]

/-- Both blocks are delivered, and the second is stamped 20 ms after the first, however long the
    pause was. -/
theorem exists_pause (tolerance : Int) :
    ∃ (s : State ℚ) (a b : Packet), (engine ℚ stereo).Reach Machine.anyMove s ∧ s.log = [a, b] ∧
      a.epoch = b.epoch ∧ Pause tolerance a b ∧ a.delivered = true ∧ b.delivered = true ∧
      b.header.firstSampleTimeUs = 20000 ∧ tolerance < b.observedFirstUs - 20000 := by
  have hmapped : Int64.ofInt (phonoClockMapperTimestamp
      (phonoClockMapperInit 0 0 48000 : ClockMapper ℚ) 960) = 20000 := by decide +kernel
  obtain ⟨s, a, b, hrun, hlog, he, ha, hb, hstamp, hframes, hrate, hfirst, hsecond⟩ :
      ∃ (s : State ℚ) (a b : Packet), (engine ℚ stereo).exec {} (pausingRun tolerance) = some s ∧
        s.log = [a, b] ∧ a.epoch = b.epoch ∧ a.delivered = true ∧ b.delivered = true ∧
        b.header.firstSampleTimeUs = 20000 ∧ a.frames = 960 ∧ a.rate = 48000 ∧
        a.observedFirstUs = 0 ∧ b.observedFirstUs = (tolerance.toNat + 1) * 1000000 + 0 - 0 :=
    ⟨_, _, _, rfl, rfl, rfl, rfl, rfl, hmapped, rfl, rfl, rfl, rfl⟩
  refine ⟨s, a, b, Machine.Reach.exec (.init rfl) hrun, hlog, he, ?_, ha, hb, hstamp, by omega⟩
  unfold Pause
  rw [hframes, hrate, hfirst, hsecond]
  omega

theorem pauses_marked_iff_paused :
    ∃ s : State ℚ, (engine ℚ stereo).Reach Machine.anyMove s ∧ s.log.length = 2 ∧
      (PausesMarked 1000 s.log ↔
        ∀ a b, Adjacent s.log a b → a.epoch = b.epoch → Pause 1000 a b →
          ¬ (a.delivered = true ∧ b.delivered = true)) := by
  obtain ⟨s, a, b, hreach, hlog, -⟩ := exists_pause 1000
  exact ⟨s, hreach, by rw [hlog]; rfl, pauses_marked_iff 1000 hreach⟩

/-- No tolerance serves every run: whatever it is, a longer pause between two delivered blocks is
    not marked. -/
theorem pause_unmarked :
    ¬ ∃ tolerance : Int, ∀ s : State ℚ, (engine ℚ stereo).Reach Machine.anyMove s →
      PausesMarked tolerance s.log := by
  rintro ⟨tolerance, hall⟩
  obtain ⟨s, a, b, hreach, hlog, he, hpause, ha, hb, -⟩ := exists_pause tolerance
  have hmark := hall s hreach [] a b [] hlog he hpause b (by simp [hb])
  have hsucc : Succ a b := (Tracked.reach hreach).succ ⟨[], [], hlog⟩
  exact hsucc.unmarked he ha hmark

end PhonoConsole.Engine
