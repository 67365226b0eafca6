/-
  FROM THE DEVICE TO THE CONSUMERS: the capture engine, its socket, the client and the fanout.

  The engine serves one connection after another and may be restarted; the client connects again
  after every failure; consumers of the fanout come and go.  Each of them is a machine of its own, and
  `engineLink` interleaves their moves in every way.  What lies between the engine and the client is a
  list of packets for each connection, from which the client takes the next one, or fails, at any time.

  * `EngineLink`, `engineLink` — the four parties, and every interleaving of them;
  * `Linked`           — the invariant: each connection carries what the engine delivered on it, and the
    client has published the frames of the first packets of each;
  * `stream_marked`    — no break in all that is published goes unmarked, across lost packets, xruns,
    reconnections and restarts, and the metrics count no gap;
  * `published_prefix` — on each connection: exactly what was delivered, in order, without a hole;
  * `consumer_marked`  — up to a consumer whose queue had room;
  * `no_packet_refused` — an engine whose packets are short enough is never left for what it sends.
-/
import PhonoConsole.AudioEngineClient
import PhonoConsole.EngineDeliveries
import PhonoConsole.FanoutStream
import PhonoConsole.PacketLimits

namespace PhonoConsole

open Protocol Struct Engine

/-! ## Frames as the fanout has them -/

/-- What the fanout reads of a frame.  Flags that were decoded are not negative. -/
def Protocol.TimestampedPcm.metadata (f : Protocol.TimestampedPcm) :
    PhonoConsole.TimestampedPcm where
  flags :=
    { discontinuity := f.flags.toNat.testBit 0
      xrunRecovered := f.flags.toNat.testBit 1
      clockReset := f.flags.toNat.testBit 2
      endOfStream := f.flags.toNat.testBit 3 }
  sequence := f.sequence.toNat
  firstSampleTimeUs := f.firstSampleTimeUs
  epoch := f.epoch.toNat

/-! ## The parties -/

/-- A packet given to `send`: over which buffer its header was written, and its PCM. -/
structure Sending where
  packet : Packet
  buffer : Vector UInt8 56
  pcm : Bytes

/-- What the client makes of it. -/
def Sending.decoded (x : Sending) : Except Raised Protocol.TimestampedPcm :=
  decode (received (x.packet.wire x.buffer x.pcm))

/-- Connections are numbered from 1 in the order in which the client makes them, and in which the
    engine accepts them.  `serving` is the engine's present client, when it is one of them. -/
structure EngineLink (F : Type) where
  engine : State F := {}
  accepted : Nat := 0
  serving : Option Nat := none
  sent : Nat → List Sending := fun _ => []
  connected : Nat := 0
  client : AudioEngineClient
  published : Nat → List Protocol.TimestampedPcm := fun _ => []
  fanout : FrameFanout := {}

/-- A move of one party.  An engine that is restarted has a new socket, on which no connection waits;
    its clients are this one and others. -/
inductive LinkMove
  | engine (m : Engine.Move) (buffer : Vector UInt8 56) (pcm : Bytes)
  | accept (ours : Bool)
  | restart
  | client (now : ℚ) (m : ClientMove)
  | consumer (m : FrameFanout.Move)

/-- The connections that a move of the client makes. -/
def ClientMove.connections : ClientMove → Nat
  | .connect (.ok ()) => 1
  | _ => 0

namespace EngineLink

variable {F : Type}

/-- Packets for the engine's present client. -/
def send (s : EngineLink F) (l : List Sending) (i : Nat) : List Sending :=
  if s.serving = some i then s.sent i ++ l else s.sent i

/-- A frame that the client publishes, if it publishes one. -/
def publish (s : EngineLink F) (size : QueueFrames) : Option Protocol.TimestampedPcm → EngineLink F
  | none => s
  | some frame =>
    { s with
      published := fun i => if i = s.connected then s.published i ++ [frame] else s.published i
      fanout := s.fanout.publish size frame.metadata }

/-- What `sock_recv` gives: the next packet of the connection, cut off at `MAX_PACKET_BYTES`.  The end
    of the connection (`b""`) and errors come at any time. -/
def Arrives (s : EngineLink F) : ClientMove → Prop
  | .receive (.ok packet) => packet = [] ∨
      ∃ x, (s.sent s.connected)[(s.published s.connected).length]? = some x ∧
        packet = received (x.packet.wire x.buffer x.pcm)
  | _ => True

instance (s : EngineLink F) (m : ClientMove) : Decidable (s.Arrives m) :=
  match m with
  | .receive (.ok packet) =>
    decidable_of_iff (packet = [] ∨ ((s.sent s.connected)[(s.published s.connected).length]?).any
        (fun x => packet = received (x.packet.wire x.buffer x.pcm)) = true) (by
      simp only [Arrives, Option.any_eq_true, decide_eq_true_eq])
  | .receive (.error _) | .stop | .connect _ | .timeout | .woken | .cancel => isTrue trivial

variable [LongDouble F]

/-- A move of the engine that accepts nobody: the packets delivered in it lie on the connection. -/
def serve (o : PhonoEngineOptions) (s : EngineLink F) (m : Engine.Move) (buffer : Vector UInt8 56)
    (pcm : Bytes) : Option (EngineLink F) :=
  (Engine.next o.capture s.engine m).bind fun engine =>
    let delivered := (engine.log.drop s.engine.log.length).filter (·.delivered)
    if ∀ p ∈ delivered, pcm.length = p.frames * o.requestedChannels.toNat * 2 then
      some { s with engine, sent := s.send (delivered.map fun packet => ⟨packet, buffer, pcm⟩) }
    else none

/-- The link after a move of the engine, of the socket, of the client or of a consumer. -/
def next (o : PhonoEngineOptions) (size : QueueFrames) (s : EngineLink F) :
    LinkMove → Option (EngineLink F)
  | .engine (.accept .client) _ _ => none
  | .engine m buffer pcm => s.serve o m buffer pcm
  | .accept ours =>
    if ours → s.accepted < s.connected then
      (Engine.next o.capture s.engine (.accept .client)).map fun engine =>
        if ours then { s with engine, accepted := s.accepted + 1, serving := some (s.accepted + 1) }
        else { s with engine, serving := none }
    else none
  | .restart => some { s with engine := {}, accepted := s.connected, serving := none }
  | .client now m =>
    if s.Arrives m then
      (s.client.next now m).map fun (client, frame) =>
        { s with
          client
          connected := s.connected + m.connections }.publish size frame
    else none
  | .consumer (.publish _) => none
  | .consumer m => (s.fanout.resume size m).map fun fanout => { s with fanout }

end EngineLink

/-- `phono_run_engine` and its restarts, `AudioEngineClient.run` and the consumers of its fanout. -/
def engineLink (F : Type) [LongDouble F] (o : PhonoEngineOptions) (size : QueueFrames) :
    Machine (EngineLink F) LinkMove where
  init s := ∃ stopped, s = { client := .start stopped }
  next := EngineLink.next o size

namespace EngineLink

variable {F : Type} {o : PhonoEngineOptions} {size : QueueFrames} {s s' : EngineLink F} {a : LinkMove}

/-- Everything that the client has published, over all its connections. -/
def stream (s : EngineLink F) : List Protocol.TimestampedPcm :=
  (List.range (s.connected + 1)).flatMap s.published

/-! ## What a move can do -/

section Moves

variable [LongDouble F]

/-- Everything that a move can do. -/
inductive Moved (o : PhonoEngineOptions) (size : QueueFrames) (s : EngineLink F) :
    LinkMove → EngineLink F → Prop
  | served {m : Engine.Move} {engine : State F} {built : List Packet} {buffer : Vector UInt8 56}
      {pcm : Bytes} :
      Engine.next o.capture s.engine m = some engine → engine.log = s.engine.log ++ built →
      (∀ p ∈ built.filter (·.delivered), pcm.length = p.frames * o.requestedChannels.toNat * 2) →
      Moved o size s (.engine m buffer pcm) { s with
        engine
        sent := s.send ((built.filter (·.delivered)).map fun packet => ⟨packet, buffer, pcm⟩) }
  | accepted {engine : State F} : s.accepted < s.connected →
      Engine.next o.capture s.engine (.accept .client) = some engine → engine.log = [] →
      Moved o size s (.accept true)
        { s with engine, accepted := s.accepted + 1, serving := some (s.accepted + 1) }
  | foreign {engine : State F} : Engine.next o.capture s.engine (.accept .client) = some engine →
      Moved o size s (.accept false) { s with engine, serving := none }
  | restarted :
      Moved o size s .restart { s with engine := {}, accepted := s.connected, serving := none }
  | client {now : ℚ} {m : ClientMove} {client : AudioEngineClient} : s.Arrives m →
      s.client.next now m = some (client, none) →
      Moved o size s (.client now m) { s with client, connected := s.connected + m.connections }
  | published {now : ℚ} {packet : Bytes} {client : AudioEngineClient}
      {frame : Protocol.TimestampedPcm} {x : Sending} :
      s.client.next now (.receive (.ok packet)) = some (client, some frame) →
      (s.sent s.connected)[(s.published s.connected).length]? = some x → x.decoded = .ok frame →
      Moved o size s (.client now (.receive (.ok packet)))
        ({ s with client }.publish size (some frame))
  | consumer {m : FrameFanout.Move} {fanout : FrameFanout} : m.published = [] →
      s.fanout.resume size m = some fanout → Moved o size s (.consumer m) { s with fanout }

theorem serve_moved {m : Engine.Move} {buffer : Vector UInt8 56} {pcm : Bytes}
    (hm : m ≠ .accept .client) (h : s.serve o m buffer pcm = some s') :
    Moved o size s (.engine m buffer pcm) s' := by
  obtain ⟨engine, hnext, h⟩ := Option.bind_eq_some_iff.mp h
  obtain ⟨built, hlog⟩ := next_log hnext hm
  have hdrop : engine.log.drop s.engine.log.length = built := by
    rw [hlog, List.drop_left]
  dsimp only at h
  rw [hdrop] at h
  obtain ⟨hpcm, h⟩ := Option.ite_none_right_eq_some.mp h
  obtain rfl := Option.some.inj h
  exact .served hnext hlog hpcm

theorem client_moved {now : ℚ} {m : ClientMove} {client : AudioEngineClient}
    {frame : Option Protocol.TimestampedPcm} (harrives : s.Arrives m)
    (h : s.client.next now m = some (client, frame)) :
    Moved o size s (.client now m)
      ({ s with client, connected := s.connected + m.connections }.publish size frame) := by
  cases frame with
  | none => exact .client harrives h
  | some frame =>
    obtain ⟨packet, rfl, hne, hdecode⟩ := AudioEngineClient.next_published h
    rcases harrives with hnil | ⟨x, hx, hpacket⟩
    · exact absurd hnil hne
    · refine .published h hx ?_
      rw [Sending.decoded, ← hpacket]
      exact hdecode

theorem next_moved (h : EngineLink.next o size s a = some s') : Moved o size s a s' := by
  unfold EngineLink.next at h
  split at h
  · cases h
  · rename_i hm
    exact serve_moved hm h
  · rename_i ours
    obtain ⟨hours, h⟩ := Option.ite_none_right_eq_some.mp h
    obtain ⟨engine, hnext, h⟩ := Option.map_eq_some_iff.mp h
    cases ours with
    | false =>
      obtain rfl := h
      exact .foreign hnext
    | true =>
      obtain rfl := h
      exact .accepted (hours rfl) hnext (accept_log hnext)
  · obtain rfl := Option.some.inj h
    exact .restarted
  · obtain ⟨harrives, h⟩ := Option.ite_none_right_eq_some.mp h
    obtain ⟨⟨client, frame⟩, hclient, rfl⟩ := Option.map_eq_some_iff.mp h
    exact client_moved harrives hclient
  · cases h
  · rename_i m hm
    obtain ⟨fanout, hfanout, rfl⟩ := Option.map_eq_some_iff.mp h
    refine .consumer ?_ hfanout
    cases m with
    | publish frame => exact absurd rfl (hm frame)
    | frames | read | close => rfl

end Moves

/-! ## The invariant -/

/-- The engine's side: what lies on a connection was delivered on it, without an unmarked break. -/
structure Carried (o : PhonoEngineOptions) (s : EngineLink F) : Prop where
  tracked : Tracked s.engine
  begun : Begun o.capture s.engine
  serving : ∀ i, s.serving = some i → i ≤ s.accepted ∧
    (s.sent i).map Sending.packet = s.engine.log.filter (·.delivered)
  waiting : ∀ i, s.accepted < i → s.sent i = []
  made : s.accepted ≤ s.connected
  unbroken : ∀ i, Unbroken ((s.sent i).map Sending.packet)
  source : ∀ i, ∀ x ∈ s.sent i, x.packet.header.source = o.source

/-- The client's side: on each connection the frames of its first packets are published. -/
structure Read (s : EngineLink F) : Prop where
  decoded : ∀ i, ∃ rest,
    (s.sent i).map Sending.decoded = (s.published i).map Except.ok ++ rest
  unread : ∀ i, s.connected < i → s.published i = []

/-- The invariant of the link: what is carried, what is read, and what the fanout was fed. -/
structure Linked (o : PhonoEngineOptions) (s : EngineLink F) : Prop extends Carried o s, Read s where
  fed : FrameFanout.Fed (s.stream.map Protocol.TimestampedPcm.metadata) s.fanout

theorem stream_eq (s : EngineLink F) :
    s.stream = (List.range s.connected).flatMap s.published ++ s.published s.connected := by
  rw [stream, List.range_succ, List.flatMap_append, List.flatMap_singleton]

/-- A connection on which nothing was read yet adds nothing to the stream. -/
theorem stream_connect {connected : Nat} {client : AudioEngineClient}
    (hunread : ∀ i, s.connected < i → s.published i = [])
    (hconnected : connected = s.connected ∨ connected = s.connected + 1) :
    { s with client, connected }.stream = s.stream := by
  rcases hconnected with rfl | rfl
  · rfl
  · rw [stream_eq, hunread _ (Nat.lt_succ_self _), List.append_nil]
    rfl

/-- A frame published is one frame more in the stream. -/
theorem stream_publish (s : EngineLink F) (size : QueueFrames) (frame : Protocol.TimestampedPcm) :
    (s.publish size (some frame)).stream = s.stream ++ [frame] := by
  have hbefore : (List.range s.connected).flatMap (s.publish size (some frame)).published =
      (List.range s.connected).flatMap s.published := by
    refine List.flatMap_congr fun i hi => ?_
    have hlt : i < s.connected := List.mem_range.mp hi
    exact if_neg (by omega)
  have hpresent : (s.publish size (some frame)).published s.connected =
      s.published s.connected ++ [frame] := if_pos rfl
  rw [stream_eq, stream_eq s, List.append_assoc]
  show (List.range s.connected).flatMap (s.publish size (some frame)).published ++
    (s.publish size (some frame)).published s.connected = _
  rw [hbefore, hpresent]

theorem connections_cases (m : ClientMove) (n : Nat) :
    n + m.connections = n ∨ n + m.connections = n + 1 := by
  unfold ClientMove.connections
  split
  · exact .inr rfl
  · exact .inl rfl

/-- Only the engine's side matters to what is carried. -/
theorem Carried.same (h : Carried o s) (hengine : s'.engine = s.engine)
    (haccepted : s'.accepted = s.accepted) (hserving : s'.serving = s.serving)
    (hsent : s'.sent = s.sent) (hconnected : s.connected ≤ s'.connected) : Carried o s' where
  tracked := hengine ▸ h.tracked
  begun := hengine ▸ h.begun
  serving := by
    rw [hserving, haccepted, hsent, hengine]
    exact h.serving
  waiting := by
    rw [haccepted, hsent]
    exact h.waiting
  made := haccepted ▸ h.made.trans hconnected
  unbroken := by
    rw [hsent]
    exact h.unbroken
  source := by
    rw [hsent]
    exact h.source

/-- The engine has another client, on whose connection nothing was sent yet. -/
theorem Carried.turn (h : Carried o s) {engine : State F} {accepted : Nat} {serving : Option Nat}
    (htracked : Tracked engine) (hbegun : Begun o.capture engine) (hlog : engine.log = [])
    (hle : s.accepted ≤ accepted) (hmade : accepted ≤ s.connected)
    (hserving : ∀ i, serving = some i → s.accepted < i ∧ i ≤ accepted) :
    Carried o { s with engine, accepted, serving } where
  tracked := htracked
  begun := hbegun
  serving i hi := by
    obtain ⟨hlt, hile⟩ := hserving i hi
    refine ⟨hile, ?_⟩
    show (s.sent i).map Sending.packet = engine.log.filter _
    rw [h.waiting i hlt, hlog]
    rfl
  waiting i hi := h.waiting i (Nat.lt_of_le_of_lt hle hi)
  made := hmade
  unbroken := h.unbroken
  source := h.source

theorem Carried.start (client : AudioEngineClient) : Carried o { client : EngineLink F } where
  tracked := ⟨.nil, nofun, nofun⟩
  begun := ⟨nofun, nofun, nofun⟩
  serving _ hi := nomatch hi
  waiting _ _ := rfl
  made := le_refl 0
  unbroken _ := .nil
  source _ _ hx := nomatch hx

theorem send_serving {i : Nat} (h : s.serving = some i) (l : List Sending) :
    s.send l i = s.sent i ++ l := if_pos h

theorem send_other {i : Nat} (h : s.serving ≠ some i) (l : List Sending) : s.send l i = s.sent i :=
  if_neg h

/-- What lies on a connection in addition is read later. -/
theorem Read.send (h : Read s) {engine : State F} (l : List Sending) :
    Read { s with engine, sent := s.send l } := by
  refine ⟨fun i => ?_, h.unread⟩
  obtain ⟨rest, hrest⟩ := h.decoded i
  show ∃ rest, (s.send l i).map Sending.decoded = (s.published i).map Except.ok ++ rest
  by_cases hi : s.serving = some i
  · refine ⟨rest ++ l.map Sending.decoded, ?_⟩
    rw [send_serving hi, List.map_append, hrest, List.append_assoc]
  · rw [send_other hi]
    exact ⟨rest, hrest⟩

/-- The next packet of the present connection is read. -/
theorem Read.publish (h : Read s) {x : Sending} {frame : Protocol.TimestampedPcm}
    (hx : (s.sent s.connected)[(s.published s.connected).length]? = some x)
    (hframe : x.decoded = .ok frame) : Read (s.publish size (some frame)) := by
  constructor
  · intro i
    by_cases hi : i = s.connected
    · subst hi
      obtain ⟨rest, hrest⟩ := h.decoded s.connected
      -- the packet is the first of those not read yet
      have hfirst : rest.head? = some (.ok frame) := by
        have hget := congrArg (·[(s.published s.connected).length]?) hrest
        simp only [List.getElem?_map, hx, Option.map_some, hframe] at hget
        rw [List.getElem?_append_right (by simp), List.length_map, Nat.sub_self] at hget
        rw [List.head?_eq_getElem?]
        exact hget.symm
      obtain ⟨tail, rfl⟩ := List.head?_eq_some_iff.mp hfirst
      refine ⟨tail, ?_⟩
      show (s.sent s.connected).map Sending.decoded =
        (if s.connected = s.connected then _ else _ : List _).map Except.ok ++ tail
      rw [if_pos rfl, hrest, List.map_append, List.append_assoc]
      rfl
    · obtain ⟨rest, hrest⟩ := h.decoded i
      refine ⟨rest, ?_⟩
      show (s.sent i).map Sending.decoded = (if i = s.connected then _ else _ : List _).map _ ++ rest
      rw [if_neg hi]
      exact hrest
  · intro i hi
    have hi : s.connected < i := hi
    have hother : (s.publish size (some frame)).published i = s.published i := if_neg (by omega)
    rw [hother]
    exact h.unread i hi

variable [LongDouble F]

/-- A move of the engine: what it delivers lies on the connection, and continues what lay there. -/
theorem Carried.serve (h : Carried o s) {m : Engine.Move} {engine : State F} {built : List Packet}
    {buffer : Vector UInt8 56} {pcm : Bytes} (hnext : Engine.next o.capture s.engine m = some engine)
    (hlog : engine.log = s.engine.log ++ built) :
    Carried o { s with
      engine
      sent := s.send ((built.filter (·.delivered)).map fun packet => ⟨packet, buffer, pcm⟩) } := by
  let new : List Sending := (built.filter (·.delivered)).map fun packet => ⟨packet, buffer, pcm⟩
  have htracked := h.tracked.next hnext
  have hbegun := h.begun.next hnext
  have hserving : ∀ i, s.serving = some i →
      (s.send new i).map Sending.packet = engine.log.filter (·.delivered) := by
    intro i hi
    rw [send_serving hi, hlog, List.filter_append, List.map_append, (h.serving i hi).2, List.map_map]
    congr 1
    exact List.map_id _
  constructor
  · exact htracked
  · exact hbegun
  · exact fun i hi => ⟨(h.serving i hi).1, hserving i hi⟩
  · intro i hi
    have hother : s.serving ≠ some i := fun hserves => by
      have hle := (h.serving i hserves).1
      have hi : s.accepted < i := hi
      omega
    exact (send_other hother new).trans (h.waiting i hi)
  · exact h.made
  · intro i
    by_cases hi : s.serving = some i
    · show Unbroken ((s.send new i).map Sending.packet)
      rw [hserving i hi]
      exact Engine.unbroken htracked hbegun
    · show Unbroken ((s.send new i).map Sending.packet)
      rw [send_other hi]
      exact h.unbroken i
  · intro i x hx
    by_cases hi : s.serving = some i
    · have hpacket : x.packet ∈ engine.log.filter (·.delivered) :=
        hserving i hi ▸ List.mem_map_of_mem hx
      exact hbegun.source x.packet (List.mem_filter.mp hpacket).1
    · exact h.source i x (send_other hi new ▸ hx)

/-- Every move of every party. -/
theorem Linked.next (h : Linked o s) (hnext : EngineLink.next o size s a = some s') : Linked o s' := by
  have hcarried := h.toCarried
  cases next_moved hnext with
  | served hengine hlog hpcm => exact ⟨hcarried.serve hengine hlog, h.toRead.send _, h.fed⟩
  | accepted hlt hengine hlog =>
    refine ⟨hcarried.turn (h.tracked.next hengine) (h.begun.next hengine) hlog (Nat.le_succ _) hlt ?_,
      ⟨h.decoded, h.unread⟩, h.fed⟩
    intro i hi
    obtain rfl := Option.some.inj hi
    exact ⟨Nat.lt_succ_self _, le_refl _⟩
  | foreign hengine =>
    exact ⟨hcarried.turn (h.tracked.next hengine) (h.begun.next hengine) (accept_log hengine)
      (le_refl _) h.made nofun, ⟨h.decoded, h.unread⟩, h.fed⟩
  | restarted =>
    have hfresh := Carried.start (o := o) (F := F) s.client
    exact ⟨hcarried.turn hfresh.tracked hfresh.begun rfl h.made (le_refl _) nofun,
      ⟨h.decoded, h.unread⟩, h.fed⟩
  | client harrives hclient =>
    rename_i now m client
    refine ⟨hcarried.same rfl rfl rfl rfl (Nat.le_add_right _ _), ⟨h.decoded, ?_⟩, ?_⟩
    · intro i hi
      exact h.unread i (Nat.lt_of_le_of_lt (Nat.le_add_right _ _) hi)
    · rw [stream_connect h.unread (connections_cases m s.connected)]
      exact h.fed
  | published hclient hx hdecoded =>
    rename_i now packet client frame x
    refine ⟨hcarried.same rfl rfl rfl rfl (le_refl _), ?_, ?_⟩
    · have hread : Read { s with client } := ⟨h.decoded, h.unread⟩
      exact hread.publish hx hdecoded
    · rw [stream_publish, List.map_append]
      exact h.fed.publish
  | consumer hm hfanout =>
    rename_i m fanout
    refine ⟨hcarried.same rfl rfl rfl rfl (le_refl _), ⟨h.decoded, h.unread⟩, ?_⟩
    have hfed := h.fed.resume hfanout
    rw [hm, List.append_nil] at hfed
    exact hfed

theorem Linked.reach {ok : EngineLink F → LinkMove → Prop} (h : (engineLink F o size).Reach ok s) :
    Linked o s := by
  refine h.invariant ?_ fun s a s' hs _ hnext => hs.next hnext
  rintro s ⟨stopped, rfl⟩
  exact ⟨.start _, ⟨fun _ => ⟨[], rfl⟩, fun _ _ => rfl⟩, FrameFanout.Fed.start⟩

end EngineLink

/-! ## The stream -/

/-- What the fanout is to read of a packet. -/
def Engine.Packet.metadata (p : Packet) : PhonoConsole.TimestampedPcm :=
  (p.header.toPcm .phono []).metadata

/-- The bytes of a packet up to `MAX_PACKET_BYTES`: its header, and the beginning of its PCM. -/
theorem received_wire (p : Packet) (buffer : Vector UInt8 56) (pcm : Bytes) :
    received (p.wire buffer pcm) = (phonoAudioEncodeHeader buffer p.header).toList ++
      pcm.take (48000 * 2 * 2) := by
  have hlen : (phonoAudioEncodeHeader buffer p.header).toList.length = 56 := Vector.length_toList
  have hmax : maxPacketBytes = 56 + 48000 * 2 * 2 := rfl
  rw [received, Packet.wire, List.take_append, hlen, hmax, Nat.add_sub_cancel_left,
    List.take_of_length_le (by omega)]

/-- A packet that is decoded gives a frame with the words of its header. -/
theorem Sending.decoded_ok {o : PhonoEngineOptions} (ho : ServeOptions o) {x : Sending}
    (hx : x.packet.header.source = o.source) {frame : Protocol.TimestampedPcm}
    (h : x.decoded = .ok frame) : ∃ source : AudioSource, (o.source.toNat : Int) = source.value ∧
      frame = x.packet.header.toPcm source (x.pcm.take (48000 * 2 * 2)) := by
  obtain ⟨source, hsource⟩ := exists_source ho
  rw [Sending.decoded, received_wire] at h
  obtain ⟨-, -, hframe⟩ := (decode_header_iff (hx ▸ hsource) x.buffer).mp h
  exact ⟨source, hsource, hframe⟩

theorem testBit_of_carries {flags : UInt32} (h : Carries flags flagDiscontinuity) :
    flags.toNat.testBit 0 = true := by
  have hand : flags &&& 1 = 1 := h
  have hnat := congrArg UInt32.toNat hand
  rw [UInt32.toNat_and, show (1 : UInt32).toNat = 1 from rfl, Nat.and_one_is_mod] at hnat
  rw [Nat.testBit_zero]
  exact decide_eq_true hnat

/-- Packets that are joined, as the fanout reads them. -/
theorem metadata_joined {a b : Packet} (h : Joins a b) :
    FrameFanout.Joined a.metadata b.metadata := by
  rcases h with hmark | ⟨hepoch, hsequence⟩
  · exact .inl (testBit_of_carries hmark)
  · refine .inr ⟨?_, ?_⟩
    · show (b.header.epoch.toNat : Int).toNat = (a.header.epoch.toNat : Int).toNat
      rw [hepoch]
    · show (b.header.sequence.toNat : Int).toNat = ((a.header.sequence.toNat : Int).toNat + 1) % 2 ^ 64
      rw [hsequence, Int.toNat_natCast, Int.toNat_natCast, UInt64.toNat_add]
      rfl

namespace EngineLink

variable {F : Type} {o : PhonoEngineOptions} {size : QueueFrames} {s s' : EngineLink F}

/-- What is published on a connection: the frames of its first packets. -/
theorem published_frames (ho : ServeOptions o) {source : AudioSource}
    (hvalue : (o.source.toNat : Int) = source.value) {sent : List Sending}
    {published : List Protocol.TimestampedPcm} {rest : List (Except Raised Protocol.TimestampedPcm)}
    (hsource : ∀ x ∈ sent, x.packet.header.source = o.source)
    (h : sent.map Sending.decoded = published.map Except.ok ++ rest) :
    published <+: sent.map
      fun x => x.packet.header.toPcm source (x.pcm.take (48000 * 2 * 2)) := by
  induction published generalizing sent with
  | nil => exact List.nil_prefix
  | cons frame published ih =>
    cases sent with
    | nil => exact nomatch h
    | cons x sent =>
      obtain ⟨hx, hsent⟩ := List.cons.inj h
      obtain ⟨source', hvalue', rfl⟩ := Sending.decoded_ok ho (hsource x List.mem_cons_self) hx
      have hsame : source' = source := source_of_value (hvalue'.symm.trans hvalue)
      rw [hsame]
      exact (List.prefix_cons_inj _).mpr
        (ih (fun y hy => hsource y (List.mem_cons_of_mem x hy)) hsent)

/-- As the fanout reads them. -/
theorem published_metadata (ho : ServeOptions o) {sent : List Sending}
    {published : List Protocol.TimestampedPcm} {rest : List (Except Raised Protocol.TimestampedPcm)}
    (hsource : ∀ x ∈ sent, x.packet.header.source = o.source)
    (h : sent.map Sending.decoded = published.map Except.ok ++ rest) :
    published.map Protocol.TimestampedPcm.metadata <+:
      (sent.map Sending.packet).map Packet.metadata := by
  obtain ⟨source, hvalue⟩ := exists_source ho
  have hframes := (published_frames ho hvalue hsource h).map Protocol.TimestampedPcm.metadata
  rw [List.map_map] at hframes ⊢
  exact hframes

/-- Pieces without an unmarked break, each of which begins with a mark, put one behind the other. -/
theorem isChain_flatMap {f : Nat → List PhonoConsole.TimestampedPcm}
    (hchain : ∀ i, (f i).IsChain FrameFanout.Joined)
    (hhead : ∀ i, ∀ g ∈ (f i).head?, g.flags.discontinuity = true) (n : Nat) :
    ((List.range n).flatMap f).IsChain FrameFanout.Joined := by
  induction n with
  | zero => exact .nil
  | succ n ih =>
    rw [List.range_succ, List.flatMap_append, List.flatMap_singleton]
    exact List.isChain_append.mpr ⟨ih, hchain n, fun _ _ g hg => .inl (hhead n g hg)⟩

/-- Nothing that is published has an unmarked break before it. -/
theorem Linked.joined (h : Linked o s) (ho : ServeOptions o) :
    (s.stream.map Protocol.TimestampedPcm.metadata).IsChain FrameFanout.Joined := by
  have hpublished : ∀ i, (s.published i).map Protocol.TimestampedPcm.metadata <+:
      ((s.sent i).map Sending.packet).map Packet.metadata := fun i => by
    obtain ⟨rest, hrest⟩ := h.decoded i
    exact published_metadata ho (h.source i) hrest
  rw [stream, List.map_flatMap]
  refine isChain_flatMap (fun i => ?_) (fun i g hg => ?_) _
  · have hpackets := ((h.unbroken i).joined).imp fun _ _ => metadata_joined
    exact List.IsChain.prefix ((List.isChain_map Packet.metadata).mpr hpackets) (hpublished i)
  · obtain ⟨more, hmore⟩ := hpublished i
    have hg' : g ∈ (((s.sent i).map Sending.packet).map Packet.metadata).head? := by
      rw [← hmore, List.head?_append, Option.mem_def.mp hg]
      rfl
    rw [List.head?_map] at hg'
    obtain ⟨p, hp, rfl⟩ := Option.map_eq_some_iff.mp hg'
    exact testBit_of_carries ((h.unbroken i).head p hp)

variable [LongDouble F]

/-- **The stream.**  Whatever is lost, interrupted, restarted or refused between the device and the
    client: of two frames published one after the other, the second is marked, or it is the next block
    of the same epoch.  So the metrics count no gap, as long as the sequence numbers do not run out. -/
theorem stream_marked {args : List String} (hmain : main args = .engine o)
    (h : (engineLink F o size).Reach Machine.anyMove s) :
    (s.stream.map Protocol.TimestampedPcm.metadata).IsChain FrameFanout.Joined ∧
    s.fanout.metrics.received = s.stream.length ∧
    ((∀ f ∈ s.stream, f.sequence + 1 < 2 ^ 64) → s.fanout.metrics.sequenceGaps = 0) := by
  have hlinked := Linked.reach h
  have hjoined := hlinked.joined (main_engine hmain)
  refine ⟨hjoined, ?_, fun hfits => hlinked.fed.gaps hjoined ?_⟩
  · rw [hlinked.fed.received, List.length_map]
  · intro g hg
    obtain ⟨f, hf, rfl⟩ := List.mem_map.mp hg
    have hfit := hfits f hf
    show f.sequence.toNat + 1 < 2 ^ 64
    omega

/-- The first block of a new epoch, as the engine says it with its defaults: one sample of each
    channel. -/
def openingHeader (sequence : UInt64) (firstSampleTimeUs : Int64) (epoch : UInt32) :
    PhonoAudioFrameHeader where
  source := 2
  flags := flagDiscontinuity ||| flagClockReset
  sequence := sequence
  firstSampleTimeUs := firstSampleTimeUs
  sourceRateHz := 48000
  outputRateHz := 48000
  channels := 2
  frames := 1
  reportedTransportDelayUs := 0
  epoch := epoch
  pcmBytes := 4

/-- It arrives at the client. -/
def arrival (sequence : UInt64) (firstSampleTimeUs : Int64) (epoch : UInt32) : LinkMove :=
  .client 0 (.receive (.ok ((phonoAudioEncodeHeader (.replicate 56 0)
    (openingHeader sequence firstSampleTimeUs epoch)).toList ++ [1, 2, 3, 4])))

/-- A block is read, and given to the socket. -/
def block (sent : Engine.Sent) : LinkMove :=
  .engine (.turn (.read 0 ⟨0, 0⟩ 1 sent)) (.replicate 56 0) [1, 2, 3, 4]

/-- The engine opens its capture for the client. -/
def opening : LinkMove :=
  .engine (.openCapture (some Engine.blocks) true) (.replicate 56 0) []

/-- A client that is served: its first block is lost, the second arrives. -/
def served : List LinkMove :=
  [.client 0 (.connect (.ok ())), .consumer (.frames 0), .accept true, opening, block .again,
    block .whole, arrival 1 21 1]

/-- The connection is lost and made again, and the next epoch begins. -/
def servedAgain : List LinkMove :=
  [.client 0 (.receive (.error "reset")), .client 1 .timeout, .client 1 (.connect (.ok ())),
    block .gone, .accept true, opening, block .whole]

theorem main_defaults :
    main ["serve", "--device", "hw:0", "--socket", "/run/pcm"] = .engine defaults := by decide

theorem stream_marked_reconnection :
    ∃ s, (engineLink ℚ defaults ⟨2, le_rfl⟩).Reach Machine.anyMove s ∧
      s.stream.map Protocol.TimestampedPcm.epoch = [1, 2] ∧
      (s.stream.map Protocol.TimestampedPcm.metadata).IsChain FrameFanout.Joined := by
  obtain ⟨s, hs, hstream⟩ := Machine.exists_reach (m := engineLink ℚ defaults ⟨2, le_rfl⟩)
    (l := List.flatten [served, servedAgain, [arrival 0 0 2]])
    (fun s => s.stream.map Protocol.TimestampedPcm.epoch = [1, 2]) ⟨false, rfl⟩ (by decide +kernel)
  exact ⟨s, hs, hstream, (stream_marked main_defaults hs).1⟩

/-- **Nothing is made up, reordered or left out.**  What the client has published of a connection are
    the frames of the first packets that the engine delivered on it: their words, their PCM (what fits
    `MAX_PACKET_BYTES`), in their order. -/
theorem published_prefix {args : List String} (hmain : main args = .engine o)
    (h : (engineLink F o size).Reach Machine.anyMove s) :
    ∃ source : AudioSource, (o.source.toNat : Int) = source.value ∧ ∀ i,
      s.published i <+: (s.sent i).map
        (fun x => x.packet.header.toPcm source (x.pcm.take (48000 * 2 * 2))) ∧
      (s.serving = some i →
        (s.sent i).map Sending.packet = s.engine.log.filter (·.delivered)) := by
  have ho := main_engine hmain
  have hlinked := Linked.reach h
  obtain ⟨source, hsource⟩ := exists_source ho
  refine ⟨source, hsource, fun i => ⟨?_, fun hi => (hlinked.serving i hi).2⟩⟩
  obtain ⟨rest, hrest⟩ := hlinked.decoded i
  exact published_frames ho hsource (hlinked.source i) hrest

theorem published_prefix_reconnection :
    ∃ s, (engineLink ℚ defaults ⟨2, le_rfl⟩).Reach Machine.anyMove s ∧ (s.published 1).length = 1 ∧
      (s.published 2).length = 0 ∧ (s.sent 2).map Sending.packet = s.engine.log.filter (·.delivered) := by
  obtain ⟨s, hs, hfirst, hsecond, hserving⟩ := Machine.exists_reach
    (m := engineLink ℚ defaults ⟨2, le_rfl⟩) (l := served ++ servedAgain)
    (fun s => (s.published 1).length = 1 ∧ (s.published 2).length = 0 ∧ s.serving = some 2)
    ⟨false, rfl⟩ (by decide +kernel)
  obtain ⟨source, -, hpublished⟩ := published_prefix main_defaults hs
  exact ⟨s, hs, hfirst, hsecond, (hpublished 2).2 hserving⟩

/-! ## A consumer -/

/-- A packet that is received finds room in the queue of `reader`. -/
def FindsRoom (size : QueueFrames) (reader : Reader) (s : EngineLink F) : LinkMove → Prop
  | .client _ (.receive (.ok _)) => ∀ c, s.fanout.consumer reader = some c → c.subscribed = true →
      c.queue.length < size.1
  | _ => True

theorem sees {reader : Reader}
    (h : (engineLink F o size).Reach (FindsRoom size reader) s) :
    ∀ c, s.fanout.consumer reader = some c →
      FrameFanout.Sees (s.stream.map Protocol.TimestampedPcm.metadata) c := by
  refine h.invariant_of (J := Linked o) (I := fun s => ∀ c, s.fanout.consumer reader = some c →
    FrameFanout.Sees (s.stream.map Protocol.TimestampedPcm.metadata) c)
    (fun s hs => Linked.reach hs) ?_ ?_
  · rintro s ⟨stopped, rfl⟩ c hc
    cases reader with
    | primary =>
      obtain rfl := Option.some.inj hc
      exact .empty _
    | secondary i => exact nomatch hc
  · intro s a s' hlinked hsees hroom hnext
    cases next_moved hnext with
    | served | accepted | foreign | restarted => exact hsees
    | client harrives hclient =>
      rename_i now m client
      rw [stream_connect hlinked.unread (connections_cases m s.connected)]
      exact hsees
    | published hclient hx hdecoded =>
      rename_i now packet client frame x
      rw [stream_publish, List.map_append]
      exact FrameFanout.Sees.resume (a := .publish frame.metadata) hlinked.fed hroom hsees rfl
    | consumer hm hfanout =>
      have hafter := FrameFanout.Sees.resume hlinked.fed ?_ hsees hfanout
      · rw [hm, List.append_nil] at hafter
        exact hafter
      · rename_i m fanout
        cases m with
        | publish frame => exact nomatch hm
        | frames | read | close => trivial

/-- **A consumer whose queue had room** was given one piece of the stream, without a hole, and meets
    no unmarked break in it. -/
theorem consumer_marked {args : List String} (hmain : main args = .engine o)
    {reader : Reader} (h : (engineLink F o size).Reach (FindsRoom size reader) s)
    {c : Consumer} (hc : s.fanout.consumer reader = some c) :
    c.delivered <:+: s.stream.map Protocol.TimestampedPcm.metadata ∧
    c.delivered.IsChain FrameFanout.Joined := by
  have hsees := sees h c hc
  refine ⟨List.IsInfix.trans (List.prefix_append _ _).isInfix hsees.within, ?_⟩
  exact hsees.joined ((Linked.reach h).joined (main_engine hmain))

instance (reader : Reader) :
    ∀ (s : EngineLink F) (a : LinkMove), Decidable (FindsRoom size reader s a)
  | s, .client _ (.receive (.ok _)) =>
    decidable_of_iff ((s.fanout.consumer reader).all (fun c =>
      decide (c.subscribed = true → c.queue.length < size.1)) = true)
      (by simp only [FindsRoom, Option.all_eq_true, decide_eq_true_eq])
  | _, .client _ (.receive (.error _)) | _, .client _ .stop | _, .client _ (.connect _)
  | _, .client _ .timeout | _, .client _ .woken | _, .client _ .cancel => isTrue trivial
  | _, .engine _ _ _ | _, .accept _ | _, .restart | _, .consumer _ => isTrue trivial

theorem consumer_marked_reconnection :
    ∃ s, (engineLink ℚ defaults ⟨2, le_rfl⟩).Reach (FindsRoom ⟨2, le_rfl⟩ .primary) s ∧
      s.fanout.primary.delivered.map TimestampedPcm.epoch = [1, 2] ∧
      s.fanout.primary.delivered.IsChain FrameFanout.Joined := by
  obtain ⟨s, hs, hdelivered⟩ := Machine.exists_reach
    (m := (engineLink ℚ defaults ⟨2, le_rfl⟩).guarded (FindsRoom ⟨2, le_rfl⟩ .primary))
    (l := List.flatten [served, servedAgain, [arrival 0 0 2, .consumer (.read .primary),
      .consumer (.read .primary)]])
    (fun s => s.fanout.primary.delivered.map PhonoConsole.TimestampedPcm.epoch = [1, 2])
    ⟨false, rfl⟩ (by decide +kernel)
  exact ⟨s, hs.of_guarded, hdelivered, (consumer_marked main_defaults hs.of_guarded rfl).2⟩

/-! ## Nothing is refused -/

/-- The device grants what is requested. -/
def Granted (o : PhonoEngineOptions) (s : EngineLink F) : LinkMove → Prop
  | .engine m _ _ => Engine.Granted o s.engine m
  | _ => True

/-- What lies on the connections has the shape of the options. -/
structure Fitting (o : PhonoEngineOptions) (s : EngineLink F) : Prop where
  framed : Framed o s.engine
  sent : ∀ i, ∀ x ∈ s.sent i, Shaped o x.packet ∧
    x.pcm.length = x.packet.frames * o.requestedChannels.toNat * 2

theorem Fitting.next (h : Fitting o s) {a : LinkMove} (hgranted : Granted o s a)
    (hnext : EngineLink.next o size s a = some s') : Fitting o s' := by
  cases next_moved hnext with
  | served hengine hlog hpcm =>
    rename_i m engine built buffer pcm
    have hframed := h.framed.next hgranted hengine
    refine ⟨hframed, fun i x hx => ?_⟩
    change x ∈ s.send _ i at hx
    by_cases hi : s.serving = some i
    · rw [send_serving hi] at hx
      rcases List.mem_append.mp hx with hx | hx
      · exact h.sent i x hx
      · obtain ⟨p, hp, rfl⟩ := List.mem_map.mp hx
        have hmem : p ∈ engine.log := by
          rw [hlog]
          exact List.mem_append_right _ (List.mem_filter.mp hp).1
        exact ⟨hframed.log p hmem, hpcm p hp⟩
    · exact h.sent i x (send_other hi _ ▸ hx)
  | accepted hlt hengine hlog =>
    exact ⟨h.framed.next (m := .accept .client) trivial hengine, h.sent⟩
  | foreign hengine => exact ⟨h.framed.next (m := .accept .client) trivial hengine, h.sent⟩
  | restarted => exact ⟨⟨nofun, nofun⟩, h.sent⟩
  | client | published | consumer => exact ⟨h.framed, h.sent⟩

theorem Fitting.reach (h : (engineLink F o size).Reach (Granted o) s) : Fitting o s := by
  refine h.invariant ?_ fun s a s' hs hok hnext => hs.next hok hnext
  rintro s ⟨stopped, rfl⟩
  exact ⟨⟨nofun, nofun⟩, fun _ _ hx => nomatch hx⟩

/-- **No packet is refused** of an engine whose options keep within the limits, on a device that
    grants them: every packet that the client receives is published, and the error it last had is
    unchanged. -/
theorem no_packet_refused {args : List String} (hmain : main args = .engine o)
    (hchannels : o.requestedChannels.toNat ≤ 65535)
    (hlimit : o.periodFrames.toNat * o.requestedChannels.toNat ≤ 96000)
    (h : (engineLink F o size).Reach (Granted o) s) {now : ℚ} {packet : Bytes} (hne : packet ≠ [])
    (hnext : EngineLink.next o size s (.client now (.receive (.ok packet))) = some s') :
    ∃ frame, s'.stream = s.stream ++ [frame] ∧ s'.client.error = s.client.error := by
  have ho := main_engine hmain
  obtain ⟨harrives, hnext⟩ := Option.ite_none_right_eq_some.mp hnext
  obtain ⟨⟨client, frame⟩, hclient, rfl⟩ := Option.map_eq_some_iff.mp hnext
  obtain ⟨x, hx, hpacket⟩ : ∃ x, (s.sent s.connected)[(s.published s.connected).length]? = some x ∧
      packet = received (x.packet.wire x.buffer x.pcm) := harrives.resolve_left hne
  obtain ⟨hshaped, hpcm⟩ := (Fitting.reach h).sent s.connected x (List.mem_of_getElem? hx)
  have hframes : x.packet.frames * o.requestedChannels.toNat ≤ 96000 :=
    (Nat.mul_le_mul_right _ hshaped.le).trans hlimit
  obtain ⟨-, decoded, hdecoded⟩ :=
    (clientAccepts_iff ho hshaped x.buffer hpcm).mpr ⟨hchannels, hframes⟩
  rw [← hpacket] at hdecoded
  obtain ⟨rfl, herror⟩ := AudioEngineClient.next_decoded hne hdecoded hclient
  refine ⟨decoded, ?_, herror⟩
  exact stream_publish { s with client } size decoded

instance : ∀ (s : EngineLink F) (a : LinkMove), Decidable (Granted o s a)
  | _, .engine (.openCapture (some pcm) _) _ _ => inferInstanceAs (Decidable
      (pcm.rate = o.requestedRate.toNat ∧ pcm.period = o.periodFrames.toNat))
  | _, .engine (.openCapture none _) _ _ | _, .engine .signal _ _ | _, .engine .stopped _ _
  | _, .engine (.accept _) _ _ | _, .engine (.turn _) _ _ | _, .engine (.poll _) _ _ => isTrue trivial
  | _, .accept _ | _, .restart | _, .client _ _ | _, .consumer _ => isTrue trivial

theorem no_packet_refused_reconnection :
    ∃ s s', (engineLink ℚ defaults ⟨2, le_rfl⟩).Reach (Granted defaults) s ∧
      EngineLink.next defaults ⟨2, le_rfl⟩ s (arrival 0 0 2) = some s' ∧
      ∃ frame, s'.stream = s.stream ++ [frame] ∧ s'.client.error = s.client.error := by
  obtain ⟨s, hs, hnext⟩ := Machine.exists_reach
    (m := (engineLink ℚ defaults ⟨2, le_rfl⟩).guarded (Granted defaults)) (l := served ++ servedAgain)
    (fun s => (EngineLink.next defaults ⟨2, le_rfl⟩ s (arrival 0 0 2)).isSome = true)
    ⟨false, rfl⟩ (by decide +kernel)
  obtain ⟨s', hs'⟩ := Option.isSome_iff_exists.mp hnext
  exact ⟨s, s', hs.of_guarded, hs', no_packet_refused main_defaults (by decide) (by decide)
    hs.of_guarded (by simp) hs'⟩

end EngineLink

end PhonoConsole
