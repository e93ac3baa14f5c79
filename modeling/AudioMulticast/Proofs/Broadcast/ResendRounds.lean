import AudioMulticast.Proofs.Broadcast.KeptPackets
import AudioMulticast.Proofs.Broadcast.SenderState
import Mathlib.Data.List.Sort
import Mathlib.Logic.Relation

/-!
# Rounds of retransmissions

A round sends the packets that were requested since the round before, while they could still be
looked up.  What is sent depends on nothing else: neither on the order of the requests and of the ids
in them, nor on how often a packet was requested, nor on anything else that arrived on the control
port.  A packet that was kept when it was requested is sent again even if it has been displaced since.
-/

namespace AudioMulticast
namespace Broadcast

/-- What happens to a sender. -/
inductive SenderEvent where
  /-- A datagram arrives on the control port. -/
  | control (datagram : Bytes) (source : Endpoint)
  /-- A packet of the input is kept and sent. -/
  | packet (packet : AudioPacket)
  /-- The requested packets are sent again. -/
  | round

namespace SenderEvent

/-- The packet that is kept and sent. -/
def packet? : SenderEvent → Option AudioPacket
  | .packet sent => some sent
  | _ => none

/-- Whether an event is a retransmission request that lists an id. -/
def Requests (event : SenderEvent) (id : PacketId) : Prop :=
  ∃ datagram source ids, event = .control datagram source ∧
    ControlMessage.decode datagram = .ok (.request ids) ∧ id ∈ ids

end SenderEvent

/-- The packets of some events. -/
def sentPackets (events : List SenderEvent) : List AudioPacket :=
  events.filterMap SenderEvent.packet?

/-- Whether a packet has been requested since the last round, at a time when it was kept. -/
def IsRequested (config : Config) (events : List SenderEvent) (packet : AudioPacket) : Prop :=
  ∃ before event after, events = before ++ event :: after ∧ .round ∉ after ∧
    event.Requests packet.id ∧
    History.IsKept config.cacheCapacity config.packetSize (sentPackets before) packet

/-- Changes to what arrives on the control port, none of which makes a difference to a round. -/
inductive Rephrased : List SenderEvent → List SenderEvent → Prop where
  /-- A datagram arrives twice. -/
  | duplicated (before after : List SenderEvent) (datagram : Bytes) (source : Endpoint) :
      Rephrased (before ++ [.control datagram source] ++ after)
        (before ++ [.control datagram source, .control datagram source] ++ after)
  /-- The ids of a request stand in another order. -/
  | reordered (before after : List SenderEvent) {datagram other : Bytes} (source : Endpoint)
      {ids otherIds : List PacketId} (perm : ids.Perm otherIds)
      (decoded : ControlMessage.decode datagram = .ok (.request ids))
      (otherDecoded : ControlMessage.decode other = .ok (.request otherIds)) :
      Rephrased (before ++ [.control datagram source] ++ after)
        (before ++ [.control other source] ++ after)
  /-- Two datagrams without a packet between them arrive in the other order. -/
  | swapped (before after : List SenderEvent) (first second : Bytes)
      (firstSource secondSource : Endpoint) :
      Rephrased (before ++ [.control first firstSource, .control second secondSource] ++ after)
        (before ++ [.control second secondSource, .control first firstSource] ++ after)
  /-- A datagram arrives that is not a request. -/
  | added (before after : List SenderEvent) {datagram : Bytes} (source : Endpoint)
      (unasked : ∀ ids, ControlMessage.decode datagram ≠ .ok (.request ids)) :
      Rephrased (before ++ after) (before ++ [.control datagram source] ++ after)

/-! ## Requests -/

section
variable {config : Config} {before events after : List SenderEvent} {event : SenderEvent}
  {packet : AudioPacket} {id : PacketId}

theorem sentPackets_append (events after : List SenderEvent) :
    sentPackets (events ++ after) = sentPackets events ++ sentPackets after :=
  List.filterMap_append

theorem sentPackets_concat_control (events : List SenderEvent) (datagram : Bytes)
    (source : Endpoint) :
    sentPackets (events ++ [.control datagram source]) = sentPackets events := by
  rw [sentPackets_append]
  exact List.append_nil _

theorem requests_iff_of_request {datagram : Bytes} {source : Endpoint} {ids : List PacketId}
    (decoded : ControlMessage.decode datagram = .ok (.request ids)) :
    (SenderEvent.control datagram source).Requests id ↔ id ∈ ids := by
  constructor
  · rintro ⟨_, _, others, ⟨⟩, others_decoded, member⟩
    cases decoded.symm.trans others_decoded
    exact member
  · exact fun member => ⟨datagram, source, ids, rfl, decoded, member⟩

theorem not_requests_of_other {datagram : Bytes} {source : Endpoint}
    (unasked : ∀ ids, ControlMessage.decode datagram ≠ .ok (.request ids)) :
    ¬(SenderEvent.control datagram source).Requests id := by
  rintro ⟨_, _, ids, ⟨⟩, decoded, -⟩
  exact unasked ids decoded

theorem IsRequested.mem (requested : IsRequested config events packet) :
    packet ∈ sentPackets events := by
  obtain ⟨before, event, after, rfl, -, -, kept⟩ := requested
  rw [sentPackets_append]
  exact List.mem_append_left _ kept.mem

theorem not_isRequested_nil : ¬IsRequested config [] packet := by
  rintro ⟨before, event, after, cut, -⟩
  exact List.cons_ne_nil event after (List.append_eq_nil_iff.mp cut.symm).2

/-- A request adds the packets that are kept, and a round starts over. -/
theorem isRequested_concat :
    IsRequested config (events ++ [event]) packet ↔
      event ≠ .round ∧ (IsRequested config events packet ∨ event.Requests packet.id ∧
        History.IsKept config.cacheCapacity config.packetSize (sentPackets events) packet) := by
  constructor
  · rintro ⟨before, asking, after, cut, unresent, requests, kept⟩
    rcases List.eq_nil_or_concat' after with rfl | ⟨after, last, rfl⟩
    · obtain ⟨rfl, single⟩ := List.append_inj' cut rfl
      obtain rfl := List.singleton_inj.mp single
      refine ⟨?_, .inr ⟨requests, kept⟩⟩
      rintro rfl
      obtain ⟨_, _, _, ⟨⟩, -⟩ := requests
    · rw [← List.cons_append, ← List.append_assoc] at cut
      obtain ⟨rfl, single⟩ := List.append_inj' cut rfl
      obtain rfl := List.singleton_inj.mp single
      refine ⟨?_, .inl ⟨before, asking, after, rfl, ?_, requests, kept⟩⟩
      · rintro rfl
        exact unresent (List.mem_append_right _ (List.mem_singleton_self _))
      · exact fun member => unresent (List.mem_append_left _ member)
  · rintro ⟨ongoing, ⟨before, asking, after, rfl, unresent, requests, kept⟩ | ⟨requests, kept⟩⟩
    · refine ⟨before, asking, after ++ [event], by rw [List.append_assoc, List.cons_append], ?_,
        requests, kept⟩
      rw [List.mem_append, List.mem_singleton]
      exact not_or.mpr ⟨unresent, Ne.symm ongoing⟩
    · exact ⟨events, event, [], rfl, List.not_mem_nil, requests, kept⟩

theorem isRequested_concat_control {datagram : Bytes} {source : Endpoint} :
    IsRequested config (events ++ [.control datagram source]) packet ↔
      IsRequested config events packet ∨
        (SenderEvent.control datagram source).Requests packet.id ∧
          History.IsKept config.cacheCapacity config.packetSize (sentPackets events) packet := by
  rw [isRequested_concat, and_iff_right]
  rintro ⟨⟩

theorem isRequested_concat_packet {sent : AudioPacket} :
    IsRequested config (events ++ [.packet sent]) packet ↔ IsRequested config events packet := by
  have unasked : ¬(SenderEvent.packet sent).Requests packet.id := by
    rintro ⟨_, _, _, ⟨⟩, -⟩
  have ongoing : SenderEvent.packet sent ≠ .round := by
    rintro ⟨⟩
  rw [isRequested_concat, and_iff_right ongoing, or_iff_left fun asked => unasked asked.1]

theorem not_isRequested_concat_round : ¬IsRequested config (events ++ [.round]) packet :=
  fun requested => (isRequested_concat.mp requested).1 rfl

end

/-! ## Other events that request the same -/

/-- Whether the same packets are sent, and the same of them are requested. -/
structure SameRequests (events others : List SenderEvent) : Prop where
  sent_eq : sentPackets events = sentPackets others
  requested_iff : ∀ {config : Config} {packet : AudioPacket},
    IsRequested config events packet ↔ IsRequested config others packet

namespace SameRequests

variable {events others : List SenderEvent}

theorem equivalence : Equivalence SameRequests where
  refl _ := ⟨rfl, Iff.rfl⟩
  symm same := ⟨same.sent_eq.symm, same.requested_iff.symm⟩
  trans first second :=
    ⟨first.sent_eq.trans second.sent_eq, first.requested_iff.trans second.requested_iff⟩

theorem append (same : SameRequests events others) (after : List SenderEvent) :
    SameRequests (events ++ after) (others ++ after) := by
  induction after using List.reverseRecOn with
  | nil => simpa only [List.append_nil] using same
  | append_singleton after event ih =>
      rw [← List.append_assoc, ← List.append_assoc]
      refine ⟨?_, fun {config packet} => ?_⟩
      · rw [sentPackets_append, ih.sent_eq, ← sentPackets_append]
      · rw [isRequested_concat, isRequested_concat, ih.requested_iff, ih.sent_eq]

/-- What arrives on the control port is no packet, so the requests of the one datagram are all that
can make a difference. -/
theorem of_control {before : List SenderEvent} {datagram other : Bytes} {source : Endpoint}
    (requests_iff : ∀ {id : PacketId},
      (SenderEvent.control datagram source).Requests id ↔
        (SenderEvent.control other source).Requests id) :
    SameRequests (before ++ [.control datagram source]) (before ++ [.control other source]) where
  sent_eq := by rw [sentPackets_concat_control, sentPackets_concat_control]
  requested_iff {config packet} := by
    rw [isRequested_concat_control, isRequested_concat_control, requests_iff]

end SameRequests

theorem sameRequests_of_rephrased {events others : List SenderEvent}
    (rephrased : Rephrased events others) : SameRequests events others := by
  induction rephrased with
  | duplicated before after datagram source =>
      rw [List.append_cons before _ [_]]
      refine SameRequests.append ⟨?_, fun {config packet} => ?_⟩ after
      · rw [sentPackets_concat_control (before ++ _)]
      · simp only [isRequested_concat_control, sentPackets_concat_control, or_assoc, or_self]
  | reordered before after source perm decoded otherDecoded =>
      refine SameRequests.append (.of_control fun {id} => ?_) after
      rw [requests_iff_of_request decoded, requests_iff_of_request otherDecoded, perm.mem_iff]
  | swapped before after first second firstSource secondSource =>
      rw [List.append_cons before _ [_], List.append_cons before _ [_]]
      refine SameRequests.append ⟨?_, fun {config packet} => ?_⟩ after
      · simp only [sentPackets_concat_control]
      · simp only [isRequested_concat_control, sentPackets_concat_control]
        exact or_right_comm
  | added before after source unasked =>
      refine SameRequests.append ⟨?_, fun {config packet} => ?_⟩ after
      · rw [sentPackets_concat_control]
      · rw [isRequested_concat_control,
          or_iff_left fun asked => not_requests_of_other unasked asked.1]

/-! ## The queue -/

namespace ResendQueue

variable {queue : ResendQueue} {packets requested : List AudioPacket} {packet : AudioPacket}
  {id : PacketId}

/-- Packets that are told apart by their ids are merged without a loss. -/
theorem getElem?_foldl_push_iff (distinct : (packets.map AudioPacket.id).Nodup)
    (holds : queue.Holds packets) (subset : requested ⊆ packets) :
    (requested.foldl push queue).packets[id]? = some packet ↔
      packet ∈ requested ∧ packet.id = id ∨ queue.packets[id]? = some packet := by
  refine ⟨getElem?_foldl_push_cases, ?_⟩
  have merged : (requested.foldl push queue).Holds packets := holds.foldl_push subset
  have waits_of_isSome (member : packet ∈ packets)
      (isSome : ((requested.foldl push queue).packets[packet.id]?).isSome) :
      (requested.foldl push queue).packets[packet.id]? = some packet :=
    merged.eq_some_of_isSome
      (fun other other_member => List.inj_on_of_nodup_map distinct other_member member) isSome
  rintro (⟨member, rfl⟩ | waiting)
  · exact waits_of_isSome (subset member) (isSome_foldl_push (.inr ⟨packet, member, rfl⟩))
  · obtain ⟨member, rfl⟩ := holds id packet waiting
    exact waits_of_isSome member (isSome_foldl_push (.inl (by rw [waiting]; rfl)))

theorem Holds.pairwise_toList (holds : queue.Holds packets) :
    queue.toList.Pairwise fun first second => first.id < second.id := by
  rw [toList, List.pairwise_map]
  refine Std.TreeMap.ordered_keys_toList.imp_of_mem fun {first second} first_mem second_mem less => ?_
  have first_eq := (holds _ _ (Std.TreeMap.mem_toList_iff_getElem?_eq_some.mp first_mem)).2
  have second_eq := (holds _ _ (Std.TreeMap.mem_toList_iff_getElem?_eq_some.mp second_mem)).2
  rw [first_eq, second_eq]
  exact compare_lt_iff_lt.mp less

end ResendQueue

/-! ## Runs -/

namespace Transmitter

/-- A datagram on the control port concerns nothing but the queue. -/
theorem handleControl_eq (transmitter : Transmitter) (channel : Channel) (datagram : Bytes)
    (source : Endpoint) :
    (transmitter.handleControl channel datagram source).1 =
      { transmitter with
        queue := (transmitter.handleControl channel datagram source).1.queue } := by
  rcases transmitter.handleControl_cases channel datagram source with same | ⟨ids, handled⟩
  · rw [same]
  · rw [handled]
    rfl

end Transmitter

/-- A sender with its two outgoing sockets. -/
structure OnAir where
  transmitter : Transmitter
  /-- The socket that packets are sent on. -/
  data : Channel
  /-- The socket that control messages are sent on. -/
  control : Channel

namespace OnAir

/-- A sender that has not sent anything. -/
def new (config : Config) (session : SessionId) (data control : Channel) : OnAir :=
  { transmitter := .new config session, data, control }

/-- What an event makes of a sender. -/
def perform (onAir : OnAir) : SenderEvent → OnAir
  | .control datagram source =>
      let (transmitter, control) :=
        onAir.transmitter.handleControl onAir.control datagram source
      { onAir with transmitter, control }
  | .packet packet =>
      let (transmitter, data) := onAir.transmitter.broadcast onAir.data packet
      { onAir with transmitter, data }
  | .round =>
      let (transmitter, data) := onAir.transmitter.resend onAir.data
      { onAir with transmitter, data }

/-- The sender after some events. -/
def run (onAir : OnAir) (events : List SenderEvent) : OnAir :=
  events.foldl perform onAir

/-- A sender that has kept the packets of some events, and has those queued that have been
requested. -/
structure Collects (config : Config) (session : SessionId) (events : List SenderEvent)
    (onAir : OnAir) : Prop where
  config_eq : onAir.transmitter.config = config
  session_eq : onAir.transmitter.session = session
  history_eq : onAir.transmitter.history =
    (sentPackets events).foldl History.push (.new config.cacheCapacity config.packetSize)
  waits_iff : ∀ {id : PacketId} {packet : AudioPacket},
    onAir.transmitter.queue.packets[id]? = some packet ↔
      packet.id = id ∧ IsRequested config events packet

variable {config : Config} {session : SessionId} {events : List SenderEvent} {onAir : OnAir}
  {data replies : Channel} {packet : AudioPacket}

theorem run_concat (onAir : OnAir) (events : List SenderEvent) (event : SenderEvent) :
    onAir.run (events ++ [event]) = (onAir.run events).perform event :=
  List.foldl_concat _ _ _ _

theorem collects_new : Collects config session [] (new config session data replies) where
  config_eq := rfl
  session_eq := rfl
  history_eq := rfl
  waits_iff := by simp [new, Transmitter.new, not_isRequested_nil]

theorem Collects.holds (collects : Collects config session events onAir) :
    onAir.transmitter.queue.Holds (sentPackets events) := by
  intro id packet waiting
  obtain ⟨id_eq, requested⟩ := collects.waits_iff.mp waiting
  exact ⟨requested.mem, id_eq⟩

theorem Collects.get?_eq_some_iff (collects : Collects config session events onAir)
    {id : PacketId} :
    onAir.transmitter.history.get? id = some packet ↔
      packet.id = id ∧
        History.IsKept config.cacheCapacity config.packetSize (sentPackets events) packet := by
  have capacity_eq : max config.cacheCapacity 1 = config.cacheCapacity :=
    Nat.max_eq_left (Nat.le_add_right 1 _)
  rw [collects.history_eq, History.get?_foldl_push, capacity_eq]

theorem Collects.mem_filterMap_iff (collects : Collects config session events onAir)
    {ids : List PacketId} :
    packet ∈ ids.filterMap onAir.transmitter.history.get? ↔
      packet.id ∈ ids ∧
        History.IsKept config.cacheCapacity config.packetSize (sentPackets events) packet := by
  simp only [List.mem_filterMap, collects.get?_eq_some_iff]
  constructor
  · rintro ⟨id, member, rfl, kept⟩
    exact ⟨member, kept⟩
  · rintro ⟨member, kept⟩
    exact ⟨packet.id, member, rfl, kept⟩

/-- What waits after a datagram on the control port: what waited before, and the kept packets whose
ids it lists. -/
theorem Collects.waits_control_iff (collects : Collects config session events onAir)
    (distinct : ((sentPackets events).map AudioPacket.id).Nodup) {datagram : Bytes}
    {source : Endpoint} {id : PacketId} :
    (onAir.perform (.control datagram source)).transmitter.queue.packets[id]? = some packet ↔
      packet.id = id ∧ IsRequested config (events ++ [.control datagram source]) packet := by
  rw [isRequested_concat_control]
  change (onAir.transmitter.handleControl onAir.control datagram source).1.queue.packets[id]? =
    some packet ↔ _
  by_cases asked : ∃ ids, ControlMessage.decode datagram = .ok (.request ids)
  · obtain ⟨ids, decoded⟩ := asked
    have subset : ids.filterMap onAir.transmitter.history.get? ⊆ sentPackets events :=
      fun _ answered => (collects.mem_filterMap_iff.mp answered).2.mem
    rw [Transmitter.handleControl_of_request decoded, Transmitter.enqueue,
      ResendQueue.getElem?_foldl_push_iff distinct collects.holds subset,
      collects.mem_filterMap_iff, collects.waits_iff, requests_iff_of_request decoded,
      and_comm, ← and_or_left, or_comm]
  · have unasked := not_exists.mp asked
    rw [Transmitter.handleControl_of_other unasked, collects.waits_iff,
      or_iff_left fun listed => not_requests_of_other unasked listed.1]

/-- One event more is accounted for, whatever it is. -/
theorem Collects.perform (collects : Collects config session events onAir)
    (distinct : ((sentPackets events).map AudioPacket.id).Nodup) (event : SenderEvent) :
    Collects config session (events ++ [event]) (onAir.perform event) := by
  cases event with
  | control datagram source =>
      have transmitter_eq : (onAir.perform (.control datagram source)).transmitter = _ :=
        onAir.transmitter.handleControl_eq onAir.control datagram source
      exact
        { config_eq := (congrArg Transmitter.config transmitter_eq).trans collects.config_eq
          session_eq := (congrArg Transmitter.session transmitter_eq).trans collects.session_eq
          history_eq := by
            rw [sentPackets_concat_control]
            exact (congrArg Transmitter.history transmitter_eq).trans collects.history_eq
          waits_iff := collects.waits_control_iff distinct }
  | packet packet =>
      refine ⟨collects.config_eq, collects.session_eq, ?_, fun {id other} => ?_⟩
      · have sent_eq : sentPackets (events ++ [.packet packet]) = sentPackets events ++ [packet] :=
          sentPackets_append events _
        rw [sent_eq, List.foldl_concat, ← collects.history_eq]
        rfl
      · rw [isRequested_concat_packet]
        exact collects.waits_iff
  | round =>
      refine ⟨collects.config_eq, collects.session_eq, ?_, fun {id other} => ?_⟩
      · have sent_eq : sentPackets (events ++ [.round]) = sentPackets events := by
          rw [sentPackets_append]
          exact List.append_nil _
        rw [sent_eq]
        exact collects.history_eq
      · have emptied : (onAir.perform .round).transmitter.queue = {} := rfl
        simp [emptied, not_isRequested_concat_round]

theorem collects_run (distinct : ((sentPackets events).map AudioPacket.id).Nodup) :
    Collects config session events ((new config session data replies).run events) := by
  induction events using List.reverseRecOn with
  | nil => exact collects_new
  | append_singleton events event ih =>
      rw [sentPackets_append, List.map_append] at distinct
      have before := distinct.of_append_left
      rw [run_concat]
      exact (ih before).perform before event

/-! ## The channel of the packets -/

theorem runs_perform (runs : onAir.data.Runs) {event : SenderEvent}
    (payload_ne : ∀ packet ∈ event.packet?, packet.payload ≠ [])
    (waiting_ne : ∀ packet ∈ onAir.transmitter.queue.toList, packet.payload ≠ []) :
    (onAir.perform event).data.Runs := by
  cases event with
  | control datagram source => exact runs
  | packet packet => exact (onAir.transmitter.transmit_of_runs runs (payload_ne packet rfl)).1
  | round => exact (onAir.transmitter.foldl_transmit_of_runs runs waiting_ne).1

theorem runs_run (distinct : ((sentPackets events).map AudioPacket.id).Nodup)
    (payload_ne : ∀ packet ∈ sentPackets events, packet.payload ≠ []) (runs : data.Runs) :
    ((new config session data replies).run events).data.Runs := by
  induction events using List.reverseRecOn with
  | nil => exact runs
  | append_singleton events event ih =>
      rw [sentPackets_append] at payload_ne
      rw [sentPackets_append, List.map_append] at distinct
      rw [List.forall_mem_append] at payload_ne
      have before := distinct.of_append_left
      have collects : Collects config session events
          ((new config session data replies).run events) := collects_run before
      rw [run_concat]
      refine runs_perform (ih before payload_ne.1) (fun packet found => ?_) fun packet waiting => ?_
      · refine payload_ne.2 packet ?_
        rw [sentPackets, List.filterMap_cons_some found]
        exact List.mem_cons_self
      · obtain ⟨id, waits⟩ := ResendQueue.mem_toList.mp waiting
        exact payload_ne.1 packet (collects.holds id packet waits).1

/-! ## A round -/

theorem Collects.mem_toList_iff (collects : Collects config session events onAir) :
    packet ∈ onAir.transmitter.queue.toList ↔ IsRequested config events packet := by
  rw [ResendQueue.mem_toList]
  constructor
  · rintro ⟨id, waits⟩
    exact (collects.waits_iff.mp waits).2
  · exact fun requested => ⟨packet.id, collects.waits_iff.mpr ⟨rfl, requested⟩⟩

/-- Packets in the order of their ids are determined by which packets they are. -/
theorem eq_of_ascending {packets others : List AudioPacket}
    (ascending : packets.Pairwise fun first second => first.id < second.id)
    (others_ascending : others.Pairwise fun first second => first.id < second.id)
    (mem_iff : ∀ packet, packet ∈ packets ↔ packet ∈ others) : packets = others := by
  have : Std.Antisymm fun first second : AudioPacket => first.id < second.id :=
    ⟨fun _ _ less greater => absurd greater (lt_asymm less)⟩
  have : Std.Irrefl fun first second : AudioPacket => first.id < second.id :=
    ⟨fun packet => lt_irrefl packet.id⟩
  exact ascending.eq_of_mem_iff others_ascending mem_iff

/-- What waits depends on nothing but what is requested. -/
theorem Collects.toList_eq (collects : Collects config session events onAir)
    {others : List SenderEvent} {other : OnAir}
    (others_collects : Collects config session others other) (same : SameRequests events others) :
    onAir.transmitter.queue.toList = other.transmitter.queue.toList := by
  refine eq_of_ascending collects.holds.pairwise_toList others_collects.holds.pairwise_toList ?_
  intro packet
  rw [collects.mem_toList_iff, others_collects.mem_toList_iff, same.requested_iff]

/-- A round sends everything that waits. -/
theorem Collects.sent_round (collects : Collects config session events onAir)
    (payload_ne : ∀ packet ∈ sentPackets events, packet.payload ≠ []) (runs : onAir.data.Runs) :
    (onAir.perform .round).data.sent.toList = onAir.data.sent.toList ++
      onAir.transmitter.queue.toList.map fun packet => (config.target,
        (Bytes.ofWord session ++ Bytes.ofWord packet.id) ++ packet.payload) := by
  have waiting_ne : ∀ packet ∈ onAir.transmitter.queue.toList, packet.payload ≠ [] :=
    fun packet waiting => payload_ne packet (collects.mem_toList_iff.mp waiting).mem
  have delivery_eq : onAir.transmitter.delivery = fun packet => (config.target,
      (Bytes.ofWord session ++ Bytes.ofWord packet.id) ++ packet.payload) := by
    funext packet
    rw [Transmitter.delivery, collects.config_eq, collects.session_eq]
  rw [← delivery_eq]
  exact (onAir.transmitter.foldl_transmit_of_runs runs waiting_ne).2

/-- A round sends the requested packets in the order of their ids, each once, and none of them waits
any more.  It sends the same ones after any other events that come down to the same requests. -/
theorem resends_requested (config : Config) (session : SessionId) (events : List SenderEvent)
    (distinct : ((sentPackets events).map AudioPacket.id).Nodup)
    (payload_ne : ∀ packet ∈ sentPackets events, packet.payload ≠ []) :
    ∃ packets : List AudioPacket,
      packets.Pairwise (fun first second => first.id < second.id) ∧
      (∀ packet, packet ∈ packets ↔ IsRequested config events packet) ∧
      ∀ others data replies, Relation.EqvGen Rephrased events others → data.Runs →
        let onAir := (new config session data replies).run others
        (onAir.perform .round).transmitter.queue = {} ∧
          (onAir.perform .round).data.sent.toList = onAir.data.sent.toList ++
            packets.map fun packet => (config.target,
              (Bytes.ofWord session ++ Bytes.ofWord packet.id) ++ packet.payload) := by
  have collects : Collects config session events ((new config session {} {}).run events) :=
    collects_run distinct
  refine ⟨((new config session {} {}).run events).transmitter.queue.toList,
    collects.holds.pairwise_toList, fun packet => collects.mem_toList_iff, ?_⟩
  intro others data replies rephrased runs onAir
  have same : SameRequests events others :=
    SameRequests.equivalence.eqvGen_iff.mp
      (Relation.EqvGen.mono (fun _ _ => sameRequests_of_rephrased) _ _ rephrased)
  rw [same.sent_eq] at distinct payload_ne
  have others_collects : Collects config session others onAir := collects_run distinct
  have still_runs : onAir.data.Runs := runs_run distinct payload_ne runs
  rw [collects.toList_eq others_collects same]
  exact ⟨rfl, others_collects.sent_round payload_ne still_runs⟩

/-- The first of two packets is requested together with the other one and with a packet that is not
there yet, which then displaces it. -/
def displacing (source : Endpoint) : List SenderEvent :=
  [.packet ⟨0, [10, 11]⟩, .packet ⟨2, [12, 13]⟩,
    .control (ControlMessage.request [2, 0, 4]).encode source, .packet ⟨4, [14, 15]⟩]

/-- The same with the ids in another order, in a request that arrives twice, after a lookup. -/
def displacingTwice (source : Endpoint) : List SenderEvent :=
  [.packet ⟨0, [10, 11]⟩, .packet ⟨2, [12, 13]⟩, .control ControlMessage.lookup.encode source,
    .control (ControlMessage.request [0, 2, 4]).encode source,
    .control (ControlMessage.request [0, 2, 4]).encode source, .packet ⟨4, [14, 15]⟩]

theorem eqvGen_displacing (source : Endpoint) :
    Relation.EqvGen Rephrased (displacing source) (displacingTwice source) := by
  have reordered := Rephrased.reordered [.packet ⟨0, [10, 11]⟩, .packet ⟨2, [12, 13]⟩]
    [.packet ⟨4, [14, 15]⟩] source (List.Perm.swap 0 2 [4])
    (ControlMessage.decode_encode_request _) (ControlMessage.decode_encode_request _)
  have unasked (ids : List PacketId) :
      ControlMessage.decode ControlMessage.lookup.encode ≠ .ok (.request ids) := by
    simp [ControlMessage.decode_encode_lookup]
  have added := Rephrased.added [.packet ⟨0, [10, 11]⟩, .packet ⟨2, [12, 13]⟩]
    [.control (ControlMessage.request [0, 2, 4]).encode source, .packet ⟨4, [14, 15]⟩] source
    unasked
  have duplicated := Rephrased.duplicated
    [.packet ⟨0, [10, 11]⟩, .packet ⟨2, [12, 13]⟩, .control ControlMessage.lookup.encode source]
    [.packet ⟨4, [14, 15]⟩] (ControlMessage.request [0, 2, 4]).encode source
  exact .trans _ _ _ (.rel _ _ reordered) (.trans _ _ _ (.rel _ _ added) (.rel _ _ duplicated))

/-- The displaced packet is sent again, and whatever way it has been requested makes no difference. -/
theorem resends_requested_of_displacing :
    let config : Config := { group := ⟨239, 10, 11, 12⟩, packetSize := 2, cacheSize := 4 }
    let source : Endpoint := { address := ⟨10, 0, 0, 1⟩, port := 35830 }
    let data : Channel := { failures := [0, 2, 1] }
    ((sentPackets (displacing source)).map AudioPacket.id).Nodup ∧
      (∀ packet ∈ sentPackets (displacing source), packet.payload ≠ []) ∧
        Relation.EqvGen Rephrased (displacing source) (displacingTwice source) ∧ data.Runs ∧
          ∃ packets : List AudioPacket, ⟨0, [10, 11]⟩ ∈ packets ∧ ⟨4, [14, 15]⟩ ∉ packets ∧
            let onAir := (new config 7 data {}).run (displacingTwice source)
            (onAir.perform .round).data.sent.toList = onAir.data.sent.toList ++
              packets.map fun packet => (config.target,
                (Bytes.ofWord 7 ++ Bytes.ofWord packet.id) ++ packet.payload) := by
  intro config source data
  have distinct : ((sentPackets (displacing source)).map AudioPacket.id).Nodup := by decide
  have payload_ne : ∀ packet ∈ sentPackets (displacing source), packet.payload ≠ [] := by decide
  have runs : data.Runs := ⟨rfl, rfl⟩
  obtain ⟨packets, -, mem_iff, resends⟩ :=
    resends_requested config 7 (displacing source) distinct payload_ne
  have displaced : IsRequested config (displacing source) ⟨0, [10, 11]⟩ := by
    refine ⟨[.packet ⟨0, [10, 11]⟩, .packet ⟨2, [12, 13]⟩], _, [.packet ⟨4, [14, 15]⟩], rfl,
      by simp, ⟨_, _, _, rfl, ControlMessage.decode_encode_request _, by decide⟩,
      by decide, [], [⟨2, [12, 13]⟩], rfl, by decide⟩
  have untimely : ¬IsRequested config (displacing source) ⟨4, [14, 15]⟩ := by
    intro requested
    have earlier : ⟨4, [14, 15]⟩ ∈ sentPackets ((displacing source).take 3) :=
      (isRequested_concat_packet.mp requested).mem
    revert earlier
    decide
  exact ⟨distinct, payload_ne, eqvGen_displacing source, runs, packets, (mem_iff _).mpr displaced,
    mt (mem_iff _).mp untimely, (resends _ data {} (eqvGen_displacing source) runs).2⟩

end OnAir
end Broadcast
end AudioMulticast
