/-
  WHAT THE ENGINE DELIVERS TO ONE CLIENT.

  Packets are lost when the client has no room, and the flags of a lost packet stay pending for the
  next one.  A client is given the packets that remain.

  * `Begun`    — the first packet that is built for a client is marked, and every packet has the source
    of the options;
  * `next_log` — only an `accept` forgets packets;
  * `Joins`    — the packet delivered right after another: marked, or the next of its epoch;
  * `Unbroken`, `unbroken` — what is delivered to one client begins with a mark and has no unmarked
    break.
-/
import PhonoConsole.EngineMarks

namespace PhonoConsole.Engine

open Protocol

variable {F : Type} {options : Options}

/-- The first packet for a client is marked, and every packet has the source of the options. -/
structure Begun (options : Options) (s : State F) : Prop where
  pending : ∀ c, s.phase = .capturing c → s.log = [] → Carries c.nextFlags flagDiscontinuity
  head : ∀ p ∈ s.log.head?, p.carries flagDiscontinuity
  source : ∀ p ∈ s.log, p.header.source = options.source

/-- Outside a capture only the packets matter. -/
theorem Begun.leave {s s' : State F} (h : Begun options s) (hlog : s'.log = s.log)
    (hphase : ∀ c, s'.phase ≠ .capturing c) : Begun options s' :=
  ⟨fun c hc => absurd hc (hphase c), hlog ▸ h.head, hlog ▸ h.source⟩

theorem Begun.closeClient {s : State F} (h : Begun options s) : Begun options s.closeClient :=
  h.leave rfl (by simp [State.closeClient])

theorem Begun.captureEnds {s : State F} (h : Begun options s) : Begun options s.captureEnds :=
  h.leave rfl (by simp [State.captureEnds])

/-- A packet more, whatever becomes of the capture. -/
theorem Begun.append {s s' : State F} (h : Begun options s) {c : Capture F}
    (hphase : s.phase = .capturing c) {p : Packet} (hlog : s'.log = s.log ++ [p])
    (hflags : p.header.flags = c.nextFlags) (hsource : p.header.source = options.source) :
    Begun options s' := by
  constructor
  · intro c' _ hnil
    rw [hlog] at hnil
    exact absurd hnil (by simp)
  · intro q hq
    rw [hlog, List.head?_append] at hq
    cases hhead : s.log.head? with
    | some first =>
      rw [hhead] at hq
      exact h.head q (hhead ▸ hq)
    | none =>
      rw [hhead] at hq
      obtain rfl : p = q := Option.some.inj hq
      show Carries p.header.flags flagDiscontinuity
      rw [hflags]
      exact h.pending c hphase (List.head?_eq_none_iff.mp hhead)
  · intro q hq
    rw [hlog] at hq
    rcases List.mem_append.mp hq with hq | hq
    · exact h.source q hq
    · rw [List.mem_singleton.mp hq]
      exact hsource

variable [LongDouble F]

theorem Begun.openCapture {s : State F} (h : Begun options s) (answer : Option Negotiated)
    (allocated : Bool) : Begun options (s.openCapture answer allocated) := by
  unfold State.openCapture
  split
  · exact h.leave rfl nofun
  · split
    · exact h.closeClient
    · refine ⟨fun c hc _ => ?_, h.head, h.source⟩
      obtain rfl := Phase.capturing.inj hc
      show Carries (flagDiscontinuity ||| flagClockReset) flagDiscontinuity
      decide

theorem Begun.recover {s : State F} (h : Begun options s) (c : Capture F) (recovered : Bool) :
    Begun options (s.recover c recovered) := by
  unfold State.recover
  split
  · refine ⟨fun c' hc' _ => ?_, h.head, h.source⟩
    obtain rfl := Phase.capturing.inj hc'
    show Carries (c.nextFlags ||| (flagDiscontinuity ||| flagXrunRecovered ||| flagClockReset))
      flagDiscontinuity
    exact Carries.or_right (by decide) _
  · exact h.captureEnds

theorem Begun.turn {s : State F} (h : Begun options s) {c : Capture F}
    (hphase : s.phase = .capturing c) (t : Turn) : Begun options (s.turn options c t) := by
  cases t with
  | waitTimeout => exact h
  | waitError recovered => exact h.recover c recovered
  | timestampError => exact h.captureEnds
  | readError recovered => exact h.recover c recovered
  | readNothing => exact h
  | read available hardwareTime frames sent =>
    cases sent with
    | again | gone | whole => exact h.append hphase rfl (Capture.observe_nextFlags c _) rfl

theorem Begun.next {s s' : State F} {m : Move} (h : Begun options s)
    (hnext : Engine.next options s m = some s') : Begun options s' := by
  rcases next_cases hnext with ⟨rfl, rfl⟩ | ⟨rfl, -, rfl⟩ | ⟨answer, rfl, -, rfl⟩ |
    ⟨answer, allocated, rfl, -, rfl⟩ | ⟨t, c, rfl, hphase, -, rfl⟩ | ⟨stays, rfl, -, rfl | rfl⟩
  · exact ⟨h.pending, h.head, h.source⟩
  · rcases s.stopped_cases with ⟨-, hs⟩ | hs | hs <;> rw [hs]
    · exact h.leave rfl nofun
    · exact h.closeClient
    · exact h.captureEnds
  · cases answer with
    | client => exact ⟨nofun, nofun, nofun⟩
    | interrupted => exact h
    | failed => exact h.leave rfl nofun
  · exact h.openCapture answer allocated
  · exact h.turn hphase t
  · exact h.leave rfl nofun
  · exact h.closeClient

theorem recover_log (s : State F) (c : Capture F) (recovered : Bool) :
    (s.recover c recovered).log = s.log := by
  unfold State.recover
  split <;> rfl

/-- A client starts with no packets. -/
theorem accept_log {s s' : State F} (hnext : Engine.next options s (.accept .client) = some s') :
    s'.log = [] := by
  rcases next_cases hnext with ⟨hm, -⟩ | ⟨hm, -⟩ | ⟨answer, hm, -, hs⟩ | ⟨_, _, hm, -⟩ |
    ⟨_, _, hm, -⟩ | ⟨_, hm, -⟩
  all_goals cases hm
  rw [hs]
  rfl

/-- Nothing else forgets any. -/
theorem next_log {s s' : State F} {m : Move} (hnext : Engine.next options s m = some s')
    (hm : m ≠ .accept .client) : ∃ built, s'.log = s.log ++ built := by
  rcases next_cases hnext with ⟨rfl, rfl⟩ | ⟨rfl, -, rfl⟩ | ⟨answer, rfl, -, rfl⟩ |
    ⟨answer, allocated, rfl, -, rfl⟩ | ⟨t, c, rfl, -, -, rfl⟩ | ⟨stays, rfl, -, rfl | rfl⟩
  · exact ⟨[], by simp⟩
  · refine ⟨[], ?_⟩
    rcases s.stopped_cases with ⟨-, hs⟩ | hs | hs <;> rw [hs, List.append_nil] <;> rfl
  · cases answer with
    | client => exact absurd rfl hm
    | interrupted | failed => exact ⟨[], by simp [State.accept]⟩
  · refine ⟨[], ?_⟩
    unfold State.openCapture
    rw [List.append_nil]
    split
    · rfl
    · split <;> rfl
  · cases t with
    | waitTimeout | readNothing => exact ⟨[], by simp [State.turn]⟩
    | timestampError => exact ⟨[], by simp [State.turn, State.captureEnds]⟩
    | waitError recovered | readError recovered =>
      exact ⟨[], by simp [State.turn, recover_log]⟩
    | read available hardwareTime frames sent => cases sent <;> exact ⟨[_], rfl⟩
  · exact ⟨[], by simp⟩
  · exact ⟨[], by simp [State.closeClient]⟩

/-! ## Packets that remain -/

/-- The packet delivered right after another, by what the two headers say: it is marked, or the next
    of its epoch. -/
def Joins (a b : Packet) : Prop :=
  b.carries flagDiscontinuity ∨
    b.header.epoch = a.header.epoch ∧ b.header.sequence = a.header.sequence + 1

/-- Packets without an unmarked break, from the first on. -/
structure Unbroken (l : List Packet) : Prop where
  head : ∀ p ∈ l.head?, p.carries flagDiscontinuity
  joined : l.IsChain Joins

theorem Unbroken.nil : Unbroken [] := ⟨nofun, .nil⟩

/-- The delivered packets of a log, by induction over it: each is joined to the one delivered before,
    however many were lost between the two. -/
theorem delivered_joined {l : List Packet} (hchain : l.IsChain Succ)
    (hwire : ∀ p ∈ l, p.header.epoch = UInt32.ofNat p.epoch) :
    (l.filter (·.delivered)).IsChain Joins := by
  induction l with
  | nil => exact .nil
  | cons a l ih =>
    have hrest := ih hchain.tail fun p hp => hwire p (List.mem_cons_of_mem a hp)
    cases ha : a.delivered with
    | false => simpa [ha] using hrest
    | true =>
      rw [List.filter_cons_of_pos (by exact ha)]
      refine List.isChain_cons.mpr ⟨fun b hb => ?_, hrest⟩
      rw [List.head?_filter] at hb
      rcases (next_delivered hchain hb).1 with hmark | ⟨-, hepoch, hsequence⟩
      · exact .inl hmark
      · refine .inr ⟨?_, hsequence⟩
        rw [hwire a List.mem_cons_self,
          hwire b (List.mem_cons_of_mem a (List.mem_of_find?_eq_some hb)), hepoch]

omit [LongDouble F] in
/-- So what is delivered to one client has no unmarked break. -/
theorem unbroken {s : State F} (htracked : Tracked s) (hbegun : Begun options s) :
    Unbroken (s.log.filter (·.delivered)) := by
  constructor
  · intro p hp
    rw [List.head?_filter] at hp
    have hchain := htracked.chain
    have hhead := hbegun.head
    cases hlog : s.log with
    | nil =>
      rw [hlog] at hp
      exact nomatch hp
    | cons a l =>
      rw [hlog] at hp hchain hhead
      have hmarked := hhead a rfl
      cases ha : a.delivered with
      | true =>
        obtain rfl : a = p := by simpa [ha] using hp
        exact hmarked
      | false =>
        have hfind : l.find? (·.delivered) = some p := by simpa [ha] using hp
        rcases (next_delivered hchain hfind).1 with hmark | ⟨hdelivered, -⟩
        · exact hmark
        · exact absurd hdelivered (by simp [ha])
  · exact delivered_joined htracked.chain htracked.wire

end PhonoConsole.Engine
