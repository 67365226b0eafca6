/-
  THE HISTORY OF AN ENGINE: every packet that it builds, for all of its clients.

  A client sees one log; the blocks of a process are numbered across all of them.  `history` is what an
  engine has built since it was started, and `Aging` is what a move does to the numbers: the epoch, the
  sequence number and the mapper of the capture.

  * `blocks_ordered` — no two blocks have the same epoch and sequence number: later blocks are greater,
    by epoch and then by number, and so are their headers while the epoch fits its word;
  * `Mapped`, `stamps_mapped` — the engine's calls of the clock mapper are, epoch by epoch, a run of
    `mapping`; so in exact arithmetic the timestamps of an epoch never decrease, whatever the device
    reports.

  The counters are taken not to overflow: a sequence number, a sample position, and the timestamp in
  its word.
-/
import PhonoConsole.ClockMapper
import PhonoConsole.EngineMarks

namespace PhonoConsole.Engine

open Protocol

/-! ## Histories -/

section History

variable {F : Type}

/-- What is known of earlier clients, when another is accepted. -/
def keep (s : State F) (m : Move) (past : List Packet) : List Packet :=
  match m with
  | .accept .client => past ++ s.log
  | _ => past

/-- Everything built so far. -/
def history (x : State F × List Packet) : List Packet := x.2 ++ x.1.log

/-- No capture is open. -/
def Idle (s : State F) : Prop := ∀ c, s.phase ≠ .capturing c

/-- When the first frame of a block was taken, by the device. -/
def Capture.observedFirstUs (c : Capture F) (available : Nat) (hardwareTime : Timespec) : Int :=
  timespecUs hardwareTime - ((available : Int) * 1000000).tdiv c.pcm.rate

variable [LongDouble F]

/-- An engine with its history. -/
def engineHistory (F : Type) [LongDouble F] (options : Options) :
    Machine (State F × List Packet) Move :=
  (engine F options).recording [] keep

/-- Nothing that a block counts leaves its word. -/
def NoOverflow (x : State F × List Packet) : Move → Prop
  | .turn (.read available hardwareTime frames _) => ∀ c, x.1.phase = .capturing c →
      c.sequence.toNat + 1 < 2 ^ 64 ∧ c.samplePosition.toNat + frames < 2 ^ 64 ∧
      (Int64.ofInt (phonoClockMapperTimestamp (c.observe (c.observedFirstUs available hardwareTime)).mapper
          c.samplePosition)).toInt =
        phonoClockMapperTimestamp (c.observe (c.observedFirstUs available hardwareTime)).mapper
          c.samplePosition
  | _ => True

/-- What a move does to the numbers of an engine. -/
inductive Aging (options : Options) (x : State F × List Packet) :
    Move → State F × List Packet → Prop
  | same {m : Move} {x' : State F × List Packet} : x'.1.epoch = x.1.epoch →
      x'.1.phase = x.1.phase → history x' = history x → Aging options x m x'
  | between {m : Move} {x' : State F × List Packet} : Idle x.1 → Idle x'.1 →
      x'.1.epoch = x.1.epoch → history x' = history x → Aging options x m x'
  | ends {m : Move} {x' : State F × List Packet} : Idle x'.1 → x'.1.epoch = x.1.epoch + 1 →
      history x' = history x → Aging options x m x'
  | opens {m : Move} {x' : State F × List Packet} {pcm : Negotiated} : Idle x.1 →
      x'.1.phase = .capturing (.start pcm) → x'.1.epoch = x.1.epoch → history x' = history x →
      Aging options x m x'
  | recovers {m : Move} {x' : State F × List Packet} {c : Capture F} : x.1.phase = .capturing c →
      x'.1.phase = .capturing c.recovered → x'.1.epoch = x.1.epoch + 1 → history x' = history x →
      Aging options x m x'
  | reads {x' : State F × List Packet} {c : Capture F} {available frames : Nat}
      {hardwareTime : Timespec} {sent : Sent} {p : Packet} {nextFlags : UInt32} :
      x.1.phase = .capturing c → p.epoch = x.1.epoch →
      p.header = (c.observe (c.observedFirstUs available hardwareTime)).header options x.1.epoch
        frames →
      history x' = history x ++ [p] →
      (Idle x'.1 ∧ x'.1.epoch = x.1.epoch + 1 ∨
        x'.1.epoch = x.1.epoch ∧ x'.1.phase = .capturing
          ((c.observe (c.observedFirstUs available hardwareTime)).advance frames nextFlags)) →
      Aging options x (.turn (.read available hardwareTime frames sent)) x'

/-- What a turn of the capture loop does to the numbers. -/
theorem turn_aging {options : Options} {s : State F} {c : Capture F} {past : List Packet}
    (hphase : s.phase = .capturing c) (t : Turn) :
    Aging options (s, past) (.turn t) (s.turn options c t, past) := by
  have hrecover : ∀ (t : Turn) (recovered : Bool),
      Aging options (s, past) (.turn t) (s.recover c recovered, past) := by
    intro t recovered
    unfold State.recover
    cases recovered with
    | true => exact .recovers hphase rfl rfl rfl
    | false => exact .ends nofun rfl rfl
  cases t with
  | waitTimeout | readNothing => exact .same rfl rfl rfl
  | timestampError => exact .ends nofun rfl rfl
  | waitError recovered | readError recovered => exact hrecover _ recovered
  | read available hardwareTime frames sent =>
    cases sent with
    | again =>
      exact .reads hphase rfl rfl (List.append_assoc ..).symm (.inr ⟨rfl, rfl⟩)
    | whole =>
      exact .reads hphase rfl rfl (List.append_assoc ..).symm (.inr ⟨rfl, rfl⟩)
    | gone =>
      apply Aging.reads hphase rfl rfl (List.append_assoc ..).symm
      · exact .inl ⟨nofun, rfl⟩
      · exact 0

/-- Every move. -/
theorem history_aging {options : Options} {x x' : State F × List Packet} {m : Move}
    (hnext : (engineHistory F options).next x m = some x') : Aging options x m x' := by
  obtain ⟨hmove, hpast⟩ := Machine.recording_next hnext
  obtain ⟨s, past⟩ := x
  obtain ⟨s', past'⟩ := x'
  obtain rfl : past' = _ := hpast
  rcases next_cases (show Engine.next options s m = some s' from hmove) with ⟨rfl, rfl⟩ |
    ⟨rfl, -, rfl⟩ | ⟨answer, rfl, hphase, rfl⟩ | ⟨answer, allocated, rfl, hphase, rfl⟩ |
    ⟨t, c, rfl, hphase, -, rfl⟩ | ⟨stays, rfl, hphase, rfl | rfl⟩
  · exact .same rfl rfl rfl
  · -- each loop in turn is left
    rcases s.stopped_cases with ⟨hidle, hs⟩ | hs | hs <;> rw [hs]
    · exact .between hidle nofun rfl rfl
    · exact .ends nofun rfl rfl
    · exact .ends nofun rfl rfl
  · have hidle : Idle s := fun c hc => nomatch hphase.symm.trans hc
    cases answer with
    | client => exact .between hidle nofun rfl (List.append_nil _)
    | interrupted => exact .same rfl rfl rfl
    | failed => exact .between hidle nofun rfl rfl
  · have hidle : Idle s := fun c hc => nomatch hphase.symm.trans hc
    unfold State.openCapture
    split
    · exact .between hidle nofun rfl rfl
    · split
      · exact .ends nofun rfl rfl
      · exact .opens hidle rfl rfl rfl
  · exact turn_aging hphase t
  · exact .between (fun c hc => nomatch hphase.symm.trans hc) nofun rfl rfl
  · exact .ends nofun rfl rfl

/-! ## Blocks in order -/

/-- The block `a` was built before `b`. -/
def Before (a b : Packet) : Prop :=
  a.epoch < b.epoch ∨ a.epoch = b.epoch ∧ a.header.sequence < b.header.sequence

/-- The same, told from the headers. -/
def HeaderBefore (a b : Packet) : Prop :=
  a.header.epoch < b.header.epoch ∨
    a.header.epoch = b.header.epoch ∧ a.header.sequence < b.header.sequence

/-- The invariant: the blocks in order, and the present epoch and number beyond all of them. -/
structure Aged (x : State F × List Packet) : Prop where
  ordered : (history x).Pairwise Before
  word : ∀ p ∈ history x, p.header.epoch = UInt32.ofNat p.epoch
  upTo : ∀ p ∈ history x, p.epoch ≤ x.1.epoch
  idle : Idle x.1 → ∀ p ∈ history x, p.epoch < x.1.epoch
  sequence : ∀ c, x.1.phase = .capturing c → ∀ p ∈ history x, p.epoch = x.1.epoch →
    p.header.sequence < c.sequence

omit [LongDouble F] in
/-- The engine is in an epoch of which there is no block. -/
theorem Aged.renewed {x x' : State F × List Packet} (h : Aged x)
    (hhistory : history x' = history x) (hpast : ∀ p ∈ history x, p.epoch < x'.1.epoch) : Aged x' where
  ordered := hhistory ▸ h.ordered
  word p hp := h.word p (hhistory ▸ hp)
  upTo p hp := (hpast p (hhistory ▸ hp)).le
  idle _ p hp := hpast p (hhistory ▸ hp)
  sequence _ _ p hp he := absurd he (hpast p (hhistory ▸ hp)).ne

theorem lt_succ_sequence {n : UInt64} (h : n.toNat + 1 < 2 ^ 64) : n < n + 1 := by
  rw [UInt64.lt_iff_toNat_lt, UInt64.toNat_add]
  show n.toNat < (n.toNat + 1) % 2 ^ 64
  rw [Nat.mod_eq_of_lt h]
  exact Nat.lt_succ_self _

omit [LongDouble F] in
/-- A block of the capture: it is greater than all before it, and the next is greater still. -/
theorem Aged.reads {x x' : State F × List Packet} (h : Aged x) {c c' : Capture F} {p : Packet}
    (hphase : x.1.phase = .capturing c) (hepoch : p.epoch = x.1.epoch)
    (hword : p.header.epoch = UInt32.ofNat p.epoch)
    (hsequence : p.header.sequence = c.sequence) (hfits : c.sequence.toNat + 1 < 2 ^ 64)
    (hnext : c'.sequence = c.sequence + 1) (hhistory : history x' = history x ++ [p])
    (hafter : Idle x'.1 ∧ x'.1.epoch = x.1.epoch + 1 ∨
      x'.1.epoch = x.1.epoch ∧ x'.1.phase = .capturing c') : Aged x' := by
  have hup : ∀ q ∈ history x', q.epoch ≤ x.1.epoch := by
    intro q hq
    rw [hhistory] at hq
    rcases List.mem_append.mp hq with hq | hq
    · exact h.upTo q hq
    · rw [List.mem_singleton.mp hq, hepoch]
  have hless : ∀ q ∈ history x, q.epoch = x.1.epoch → q.header.sequence < c.sequence :=
    h.sequence c hphase
  constructor
  · rw [hhistory]
    refine List.pairwise_append.mpr ⟨h.ordered, List.pairwise_singleton _ _, ?_⟩
    intro q hq p' hp'
    obtain rfl := List.mem_singleton.mp hp'
    rcases (h.upTo q hq).lt_or_eq with hlt | heq
    · exact .inl (hepoch ▸ hlt)
    · exact .inr ⟨heq.trans hepoch.symm, hsequence ▸ hless q hq heq⟩
  · intro q hq
    rw [hhistory] at hq
    rcases List.mem_append.mp hq with hq | hq
    · exact h.word q hq
    · obtain rfl := List.mem_singleton.mp hq
      exact hword
  · intro q hq
    rcases hafter with ⟨-, he⟩ | ⟨he, -⟩ <;> rw [he]
    · exact Nat.le_succ_of_le (hup q hq)
    · exact hup q hq
  · intro hidle q hq
    rcases hafter with ⟨-, he⟩ | ⟨-, hcapturing⟩
    · rw [he]
      exact Nat.lt_succ_of_le (hup q hq)
    · exact absurd hcapturing (hidle c')
  · intro c₁ hc₁ q hq he'
    rcases hafter with ⟨hidle, -⟩ | ⟨he, hcapturing⟩
    · exact absurd hc₁ (hidle c₁)
    · obtain rfl := Phase.capturing.inj (hcapturing.symm.trans hc₁)
      rw [hnext]
      rw [hhistory] at hq
      rcases List.mem_append.mp hq with hq | hq
      · exact UInt64.lt_trans (hless q hq (he'.trans he)) (lt_succ_sequence hfits)
      · rw [List.mem_singleton.mp hq, hsequence]
        exact lt_succ_sequence hfits

/-- Every move. -/
theorem Aged.next {options : Options} {x x' : State F × List Packet} {m : Move} (h : Aged x)
    (hfits : NoOverflow x m) (hnext : (engineHistory F options).next x m = some x') : Aged x' := by
  cases history_aging hnext with
  | same hepoch hphase hhistory =>
    constructor
    · exact hhistory ▸ h.ordered
    · exact hhistory ▸ h.word
    · rw [hhistory, hepoch]
      exact h.upTo
    · rw [hhistory, hepoch]
      intro hidle
      exact h.idle fun c hc => hidle c (hphase.trans hc)
    · rw [hhistory, hepoch, hphase]
      exact h.sequence
  | between hidle _ hepoch hhistory | opens hidle _ hepoch hhistory =>
    exact h.renewed hhistory (hepoch ▸ h.idle hidle)
  | ends _ hepoch hhistory | recovers _ _ hepoch hhistory =>
    refine h.renewed hhistory fun p hp => ?_
    rw [hepoch]
    exact Nat.lt_succ_of_le (h.upTo p hp)
  | reads hphase hepoch hheader hhistory hafter =>
    rename_i c available frames hardwareTime sent p nextFlags
    have hcount := (hfits c hphase).1
    refine h.reads hphase hepoch ?_ ?_ hcount ?_ hhistory hafter
    · rw [hheader, hepoch]
      rfl
    · rw [hheader]
      exact Capture.observe_sequence c _
    · show (c.observe _).sequence + 1 = c.sequence + 1
      rw [Capture.observe_sequence]

theorem Aged.reach {options : Options} {x : State F × List Packet}
    (h : (engineHistory F options).Reach NoOverflow x) : Aged x := by
  refine h.invariant ?_ fun x m x' hx hfits hnext => hx.next hfits hnext
  rintro ⟨s, past⟩ ⟨hs, hpast⟩
  obtain rfl : s = _ := hs
  obtain rfl : past = _ := hpast
  refine ⟨.nil, ?_, ?_, ?_, ?_⟩
  · intro p hp
    cases hp
  · intro p hp
    cases hp
  · intro _ p hp
    cases hp
  · intro c hc
    cases hc

/-- While the epoch fits its word, the headers are in the order of the blocks. -/
theorem Before.headers {a b : Packet} (h : Before a b) (ha : a.header.epoch = UInt32.ofNat a.epoch)
    (hb : b.header.epoch = UInt32.ofNat b.epoch) (hfits : b.epoch < 2 ^ 32) : HeaderBefore a b := by
  rcases h with hlt | ⟨heq, hsequence⟩
  · refine .inl ?_
    rw [ha, hb, UInt32.lt_iff_toNat_lt, UInt32.toNat_ofNat_of_lt' (hlt.trans hfits),
      UInt32.toNat_ofNat_of_lt' hfits]
    exact hlt
  · exact .inr ⟨by rw [ha, hb, heq], hsequence⟩

/-- **Blocks are numbered once.**  Of all the packets that an engine builds, for all of its clients, in
    whatever way it is interrupted: each one that is built later is of a later epoch, or has a greater
    number in the same one; and its header says so, up to the epoch 2 ^ 32. -/
theorem blocks_ordered {options : Options} {x : State F × List Packet}
    (h : (engineHistory F options).Reach NoOverflow x) :
    (history x).Pairwise Before ∧ (x.1.epoch < 2 ^ 32 → (history x).Pairwise HeaderBefore) := by
  have haged := Aged.reach h
  refine ⟨haged.ordered, fun hfits => ?_⟩
  refine haged.ordered.imp_of_mem fun {a b} ha hb hab => ?_
  exact hab.headers (haged.word a ha) (haged.word b hb) ((haged.upTo b hb).trans_lt hfits)

instance (x : State F × List Packet) : (m : Move) → Decidable (NoOverflow x m)
  | .turn (.read _ _ _ _) =>
    match hphase : x.1.phase with
    | .capturing c => decidable_of_iff (_ ∧ _ ∧ _)
        ⟨fun h _ hc => Phase.capturing.inj (hphase.symm.trans hc) ▸ h, fun h => h c hphase⟩
    | .accepting | .serving | .waiting | .ended =>
      isTrue fun _ hc => nomatch hphase.symm.trans hc
  | .turn .waitTimeout | .turn (.waitError _) | .turn .timestampError | .turn (.readError _)
  | .turn .readNothing => isTrue trivial
  | .signal | .stopped | .accept _ | .openCapture _ _ | .poll _ => isTrue trivial

/-- Two clients one after the other, a packet lost, and a recovered xrun. -/
def twoClients : List Move :=
  List.flatten [lossyRun, [.turn (.read 0 ⟨0, 100000000⟩ 960 .gone), .accept .client,
    .openCapture (some blocks) true, .turn (.read 0 ⟨0, 200000000⟩ 960 .whole),
    .turn (.read 0 ⟨0, 230000000⟩ 960 .whole)]]

theorem blocks_ordered_clients :
    ∃ x, (engineHistory ℚ stereo).Reach NoOverflow x ∧
      (history x).map (fun p => (p.epoch, p.header.sequence)) =
        [(1, 0), (1, 1), (2, 2), (2, 3), (2, 4), (3, 0), (3, 1)] ∧
      (history x).Pairwise HeaderBefore := by
  obtain ⟨x, hx, hblocks, hepoch⟩ := Machine.exists_reach (m := (engineHistory ℚ stereo).guarded NoOverflow)
    (s := ({}, [])) (l := twoClients)
    (fun x => (history x).map (fun p => (p.epoch, p.header.sequence)) =
      [(1, 0), (1, 1), (2, 2), (2, 3), (2, 4), (3, 0), (3, 1)] ∧ x.1.epoch < 2 ^ 32)
    ⟨rfl, rfl⟩ (by decide +kernel)
  exact ⟨x, hx.of_guarded, hblocks, (blocks_ordered hx.of_guarded).2 hepoch⟩

/-- The mapper of a capture that has observed a block: set up by the first one, and perhaps turned. -/
theorem observe_mapper (c : Capture F) (t : Int) :
    ∃ m : ClockMapper F, m = (if c.mapper.initialized then c.mapper
        else phonoClockMapperInit c.samplePosition t c.pcm.rate) ∧
      ((c.observe t).mapper = m ∨ ∃ fit, (c.observe t).mapper =
        phonoClockMapperUpdate m fit c.samplePosition (LongDouble.ofInt 10)) := by
  refine ⟨_, rfl, ?_⟩
  unfold Capture.observe
  dsimp only
  split
  · dsimp only
    cases (phonoClockFit (phonoClockObserve c.estimator c.samplePosition t) : Option (ClockFit F)) with
    | none => exact .inl rfl
    | some fit => exact .inr ⟨fit, rfl⟩
  · exact .inl rfl

@[simp] theorem observe_samplePosition (c : Capture F) (t : Int) :
    (c.observe t).samplePosition = c.samplePosition := by
  unfold Capture.observe
  dsimp only
  split_ifs <;> rfl

end History

/-! ## Timestamps in order -/

section Exact

attribute [local instance] LongDouble.exact

variable {K : Type} [Field K] [LinearOrder K] [FloorRing K]

/-- The timestamps of an epoch. -/
def stamps (l : List Packet) (epoch : Nat) : List Int :=
  (l.filter (·.epoch = epoch)).map fun p => p.header.firstSampleTimeUs.toInt

/-- A run of the mapper returned these timestamps. -/
def Mapped (K : Type) [Field K] [LinearOrder K] [FloorRing K] (l : List Int) : Prop :=
  l = [] ∨ ∃ r : MapperRun K, (mapping K).Reach Machine.anyMove r ∧ r.returned = l

/-- The mapper of a capture is that of a run which returned these timestamps, and has come no further
    than the capture. -/
def Maps (c : Capture K) (l : List Int) : Prop :=
  if c.mapper.initialized then
    ∃ r : MapperRun K, (mapping K).Reach Machine.anyMove r ∧ r.mapper = c.mapper ∧
      r.position ≤ c.samplePosition ∧ r.returned = l
  else l = []

variable [IsStrictOrderedRing K]

theorem Timeline.reach {r : MapperRun K} (h : (mapping K).Reach Machine.anyMove r) : Timeline r :=
  h.invariant (fun _ => Timeline.init) fun _ _ _ hs _ hnext => hs.next hnext

omit [IsStrictOrderedRing K] in
/-- A block of the capture is a run's next calls: perhaps an update, and a query. -/
theorem Maps.read {c : Capture K} {l : List Int} (h : Maps c l) (t : Int) :
    ∃ r : MapperRun K, (mapping K).Reach Machine.anyMove r ∧ r.mapper = (c.observe t).mapper ∧
      r.position = c.samplePosition ∧
      r.returned = l ++ [phonoClockMapperTimestamp (c.observe t).mapper c.samplePosition] := by
  obtain ⟨m, hm, hmapper⟩ := observe_mapper c t
  -- the run up to this block
  obtain ⟨r, hr, hrm, hposition, hreturned⟩ : ∃ r : MapperRun K,
      (mapping K).Reach Machine.anyMove r ∧ r.mapper = m ∧ r.position ≤ c.samplePosition ∧
        r.returned = l := by
    unfold Maps at h
    split at h
    · rename_i hinit
      rw [if_pos hinit] at hm
      exact hm ▸ h
    · rename_i hinit
      rw [if_neg hinit] at hm
      exact ⟨⟨m, c.samplePosition, []⟩, .init ⟨_, _, _, c.pcm.rate_pos, by rw [hm]⟩, rfl,
        UInt64.le_refl _, h.symm⟩
  -- and its calls at this block
  have hquery : ∀ r' : MapperRun K, (mapping K).Reach Machine.anyMove r' →
      r'.mapper = (c.observe t).mapper → r'.position ≤ c.samplePosition → r'.returned = l →
      ∃ r : MapperRun K, (mapping K).Reach Machine.anyMove r ∧ r.mapper = (c.observe t).mapper ∧
        r.position = c.samplePosition ∧
        r.returned = l ++ [phonoClockMapperTimestamp (c.observe t).mapper c.samplePosition] := by
    intro r' hr' hrm' hle hreturned'
    refine ⟨_, hr'.move (a := .timestamp c.samplePosition) trivial (if_pos hle), hrm', rfl, ?_⟩
    rw [hreturned', hrm']
  rcases hmapper with hsame | ⟨fit, hupdate⟩
  · exact hquery r hr (hrm.trans hsame.symm) hposition hreturned
  · refine hquery _ (hr.move (a := .update fit c.samplePosition) trivial (if_pos hposition)) ?_
      (UInt64.le_refl _) hreturned
    rw [hupdate, ← hrm]

/-- Epoch by epoch the timestamps are those of a run of the mapper, and the present capture goes on
    with it. -/
structure Stamped (x : State K × List Packet) : Prop where
  mapped : ∀ e, Mapped K (stamps (history x) e)
  present : ∀ c, x.1.phase = .capturing c → Maps c (stamps (history x) x.1.epoch)

omit [FloorRing K] [IsStrictOrderedRing K] [Field K] [LinearOrder K] in
theorem stamps_eq_nil {l : List Packet} {e : Nat} (h : ∀ p ∈ l, p.epoch < e) : stamps l e = [] := by
  unfold stamps
  rw [List.map_eq_nil_iff, List.filter_eq_nil_iff]
  intro p hp
  have hlt := h p hp
  simp only [decide_eq_true_eq]
  omega

omit [FloorRing K] [IsStrictOrderedRing K] [Field K] [LinearOrder K] in
theorem stamps_append (l : List Packet) (p : Packet) (e : Nat) :
    stamps (l ++ [p]) e =
      stamps l e ++ if p.epoch = e then [p.header.firstSampleTimeUs.toInt] else [] := by
  unfold stamps
  rw [List.filter_append, List.map_append]
  split
  · rename_i he
    rw [List.filter_cons_of_pos (by simpa using he)]
    rfl
  · rename_i he
    rw [List.filter_cons_of_neg (by simpa using he)]
    rfl

theorem Stamped.next {options : Options} {x x' : State K × List Packet} {m : Move}
    (haged : Aged x) (h : Stamped x) (hfits : NoOverflow x m)
    (hnext : (engineHistory K options).next x m = some x') : Stamped x' := by
  cases history_aging hnext with
  | same hepoch hphase hhistory =>
    constructor
    · rw [hhistory]
      exact h.mapped
    · rw [hhistory, hepoch, hphase]
      exact h.present
  | between _ hidle _ hhistory | ends hidle _ hhistory =>
    constructor
    · rw [hhistory]
      exact h.mapped
    · intro c hc
      exact absurd hc (hidle c)
  | opens hidle hphase hepoch hhistory =>
    constructor
    · rw [hhistory]
      exact h.mapped
    · intro c hc
      obtain rfl := Phase.capturing.inj (hphase.symm.trans hc)
      rw [hhistory, hepoch]
      exact stamps_eq_nil (haged.idle hidle)
  | recovers hphase hphase' hepoch hhistory =>
    constructor
    · rw [hhistory]
      exact h.mapped
    · intro c hc
      obtain rfl := Phase.capturing.inj (hphase'.symm.trans hc)
      rw [hhistory, hepoch]
      exact stamps_eq_nil fun p hp => Nat.lt_succ_of_le (haged.upTo p hp)
  | reads hphase hepoch hheader hhistory hafter =>
    rename_i c available frames hardwareTime sent p nextFlags
    obtain ⟨-, hposition, hstamp⟩ := hfits c hphase
    obtain ⟨r, hr, hrm, hrp, hreturned⟩ :=
      (h.present c hphase).read (c.observedFirstUs available hardwareTime)
    have htime : p.header.firstSampleTimeUs.toInt = phonoClockMapperTimestamp
        (c.observe (c.observedFirstUs available hardwareTime)).mapper c.samplePosition := by
      rw [hheader]
      show (Int64.ofInt (phonoClockMapperTimestamp _ (c.observe _).samplePosition)).toInt = _
      rw [observe_samplePosition]
      exact hstamp
    have hpresent : stamps (history x') x.1.epoch = r.returned := by
      rw [hhistory, stamps_append, if_pos hepoch, htime, hreturned]
    constructor
    · intro e
      by_cases he : p.epoch = e
      · rw [← he, hepoch, hpresent]
        exact .inr ⟨r, hr, rfl⟩
      · rw [hhistory, stamps_append, if_neg he, List.append_nil]
        exact h.mapped e
    · intro c₁ hc₁
      rcases hafter with ⟨hidle, -⟩ | ⟨hepoch', hphase'⟩
      · exact absurd hc₁ (hidle c₁)
      · obtain rfl := Phase.capturing.inj (hphase'.symm.trans hc₁)
        have hinit : (c.observe (c.observedFirstUs available hardwareTime)).mapper.initialized = true :=
          hrm ▸ (Timeline.reach hr).initialized
        rw [hepoch', hpresent]
        refine (if_pos hinit).mpr ⟨r, hr, hrm, ?_, rfl⟩
        show r.position ≤ (c.observe _).samplePosition + UInt64.ofNat frames
        rw [hrp, observe_samplePosition, UInt64.le_iff_toNat_le, UInt64.toNat_add,
          UInt64.toNat_ofNat_of_lt' (show frames < 2 ^ 64 by omega), Nat.mod_eq_of_lt hposition]
        exact Nat.le_add_right _ _

theorem Stamped.reach {options : Options} {x : State K × List Packet}
    (h : (engineHistory K options).Reach NoOverflow x) : Stamped x := by
  refine h.invariant_of (fun x hx => Aged.reach hx) ?_
    fun x m x' haged hx hfits hnext => hx.next haged hfits hnext
  rintro ⟨s, past⟩ ⟨hs, hpast⟩
  obtain rfl : s = _ := hs
  obtain rfl : past = _ := hpast
  exact ⟨fun _ => .inl rfl, nofun⟩

/-- **Time does not go back.**  In exact arithmetic the timestamps of every epoch are what a run of the
    clock mapper returned, so that of two blocks of one epoch the later never has the earlier
    timestamp, whatever the device said of its clock. -/
theorem stamps_mapped {options : Options} {x : State K × List Packet}
    (h : (engineHistory K options).Reach NoOverflow x) (epoch : Nat) :
    Mapped K (stamps (history x) epoch) ∧ (stamps (history x) epoch).Pairwise (· ≤ ·) := by
  have hmapped := (Stamped.reach h).mapped epoch
  refine ⟨hmapped, ?_⟩
  rcases hmapped with hnil | ⟨r, hr, hreturned⟩
  · rw [hnil]
    exact .nil
  · rw [← hreturned]
    exact (Timeline.reach hr).returned

/-- The device is 10 ms late with the second block of the last epoch, and its stamp follows the samples. -/
theorem stamps_mapped_clients :
    ∃ x, (engineHistory ℚ stereo).Reach NoOverflow x ∧ stamps (history x) 3 = [200000, 220000] ∧
      Mapped ℚ (stamps (history x) 3) := by
  obtain ⟨x, hx, hstamps⟩ := Machine.exists_reach (m := (engineHistory ℚ stereo).guarded NoOverflow)
    (s := ({}, [])) (l := twoClients) (fun x => stamps (history x) 3 = [200000, 220000])
    ⟨rfl, rfl⟩ (by decide +kernel)
  exact ⟨x, hx.of_guarded, hstamps, (stamps_mapped hx.of_guarded 3).1⟩

end Exact

end PhonoConsole.Engine
