import AudioMulticast.Broadcast.Input
import AudioMulticast.Proofs.Broadcast.CutPackets
import AudioMulticast.Proofs.Broadcast.ValidConfig
import AudioMulticast.Proofs.Wire.ControlMessageText
import AudioMulticast.Proofs.Wire.Sending

/-!
# The state of a sender

However the input is divided into pieces, and whatever arrives on the control port, a sender has cut
the front of its input into packets, keeps the last of them, and sends nothing else.
-/

namespace AudioMulticast
namespace Broadcast

variable {config : Config} {session : SessionId} {packets : List AudioPacket}
  {packet : AudioPacket} {channel : Channel} {datagram : Bytes} {entry : Endpoint × Bytes}

/-! ## Transmissions -/

/-- A datagram with one of some packets, and where it is sent. -/
def Carries (config : Config) (session : SessionId) (packets : List AudioPacket)
    (entry : Endpoint × Bytes) : Prop :=
  ∃ packet ∈ packets, entry.1 = config.target ∧ (packet.stamp session).encode = .ok entry.2

theorem Carries.mono (carries : Carries config session packets entry) {more : List AudioPacket}
    (subset : packets ⊆ more) : Carries config session more entry := by
  obtain ⟨packet, member, sent⟩ := carries
  exact ⟨packet, subset member, sent⟩

namespace Transmitter

variable {transmitter : Transmitter} {queued : List AudioPacket} {fed : Bytes}

theorem transmit_cases (transmitter : Transmitter) (channel : Channel)
    (encoded : (packet.stamp transmitter.session).encode = .ok datagram) :
    (transmitter.transmit channel packet).sent =
        channel.sent.push (transmitter.config.target, datagram) ∨
      (transmitter.transmit channel packet).sent = channel.sent ∧
        (transmitter.transmit channel packet).cancelled = true := by
  rw [transmit, encoded]
  exact channel.send_cases transmitter.config.target datagram

theorem transmit_of_error {error : DataPacketError}
    (failed : (packet.stamp transmitter.session).encode = .error error) :
    transmitter.transmit channel packet = channel := by
  rw [transmit, failed]

theorem cancelled_transmit (cancelled : channel.cancelled = true) :
    (transmitter.transmit channel packet).cancelled = true := by
  rw [transmit]
  split
  · exact Channel.cancelled_send cancelled
  · exact cancelled

/-- What a transmission adds to what was sent. -/
theorem exists_sent_transmit (transmitter : Transmitter) (channel : Channel) (packet : AudioPacket) :
    ∃ emitted,
      (transmitter.transmit channel packet).sent.toList = channel.sent.toList ++ emitted ∧
        ∀ entry ∈ emitted, Carries transmitter.config transmitter.session [packet] entry := by
  cases encoded : (packet.stamp transmitter.session).encode with
  | error error =>
      rw [transmit_of_error encoded]
      exact ⟨[], (List.append_nil _).symm, by simp⟩
  | ok datagram =>
      rcases transmit_cases transmitter channel encoded with pushed | ⟨same, -⟩
      · refine ⟨[(transmitter.config.target, datagram)], by rw [pushed, Array.toList_push], ?_⟩
        intro entry member
        obtain rfl := List.mem_singleton.mp member
        exact ⟨packet, List.mem_singleton_self packet, rfl, encoded⟩
      · exact ⟨[], by rw [same, List.append_nil], by simp⟩

theorem cancelled_foldl_transmit (cancelled : channel.cancelled = true) :
    (queued.foldl transmitter.transmit channel).cancelled = true := by
  induction queued generalizing channel with
  | nil => exact cancelled
  | cons first queued ih => exact ih (cancelled_transmit cancelled)

theorem exists_sent_foldl_transmit (transmitter : Transmitter) (channel : Channel)
    (queued : List AudioPacket) :
    ∃ emitted,
      (queued.foldl transmitter.transmit channel).sent.toList = channel.sent.toList ++ emitted ∧
        ∀ entry ∈ emitted, Carries transmitter.config transmitter.session queued entry := by
  induction queued generalizing channel with
  | nil => exact ⟨[], (List.append_nil _).symm, by simp⟩
  | cons first queued ih =>
      obtain ⟨head, head_eq, head_carries⟩ := transmitter.exists_sent_transmit channel first
      obtain ⟨tail, tail_eq, tail_carries⟩ := ih (transmitter.transmit channel first)
      refine ⟨head ++ tail, ?_, ?_⟩
      · rw [List.foldl_cons, tail_eq, head_eq, List.append_assoc]
      · intro entry member
        rcases List.mem_append.mp member with former | later
        · exact (head_carries entry former).mono (by simp)
        · exact (tail_carries entry later).mono (List.subset_cons_self first queued)

/-- A round of transmissions sends every packet, unless the run is cancelled. -/
theorem foldl_transmit_cases (member : packet ∈ queued)
    (encoded : (packet.stamp transmitter.session).encode = .ok datagram) (channel : Channel) :
    (queued.foldl transmitter.transmit channel).cancelled = true ∨
      ∃ emitted,
        (queued.foldl transmitter.transmit channel).sent.toList = channel.sent.toList ++ emitted ∧
          (transmitter.config.target, datagram) ∈ emitted := by
  induction queued generalizing channel with
  | nil => cases member
  | cons first queued ih =>
      rw [List.foldl_cons]
      rcases List.mem_cons.mp member with rfl | later
      · rcases transmit_cases transmitter channel encoded with pushed | ⟨-, cancelled⟩
        · obtain ⟨emitted, sent_eq, -⟩ :=
            transmitter.exists_sent_foldl_transmit (transmitter.transmit channel packet) queued
          refine .inr ⟨(transmitter.config.target, datagram) :: emitted, ?_, List.mem_cons_self⟩
          rw [sent_eq, pushed, Array.toList_push, List.append_assoc]
          rfl
        · exact .inl (cancelled_foldl_transmit cancelled)
      · obtain ⟨head, head_eq, -⟩ := transmitter.exists_sent_transmit channel first
        refine (ih later (transmitter.transmit channel first)).imp_right ?_
        rintro ⟨emitted, sent_eq, found⟩
        refine ⟨head ++ emitted, ?_, List.mem_append_right _ found⟩
        rw [sent_eq, head_eq, List.append_assoc]

/-- The datagram of a packet, and where it is sent. -/
def delivery (transmitter : Transmitter) (packet : AudioPacket) : Endpoint × Bytes :=
  (transmitter.config.target,
    (Bytes.ofWord transmitter.session ++ Bytes.ofWord packet.id) ++ packet.payload)

theorem transmit_of_runs (runs : channel.Runs) (payload_ne : packet.payload ≠ []) :
    (transmitter.transmit channel packet).Runs ∧
      (transmitter.transmit channel packet).sent =
        channel.sent.push (transmitter.delivery packet) := by
  have encoded : (packet.stamp transmitter.session).encode = .ok (transmitter.delivery packet).2 :=
    DataPacket.encode_eq payload_ne
  rw [transmit, encoded]
  exact runs.send transmitter.config.target _

/-- Without a cancellation all packets are sent, one after another. -/
theorem foldl_transmit_of_runs (runs : channel.Runs)
    (payload_ne : ∀ packet ∈ queued, packet.payload ≠ []) :
    (queued.foldl transmitter.transmit channel).Runs ∧
      (queued.foldl transmitter.transmit channel).sent.toList =
        channel.sent.toList ++ queued.map transmitter.delivery := by
  induction queued generalizing channel with
  | nil => exact ⟨runs, (List.append_nil _).symm⟩
  | cons first queued ih =>
      rw [List.forall_mem_cons] at payload_ne
      obtain ⟨still_runs, sent_eq⟩ := transmitter.transmit_of_runs runs payload_ne.1
      obtain ⟨last_runs, last_eq⟩ := ih still_runs payload_ne.2
      refine ⟨last_runs, ?_⟩
      rw [List.foldl_cons, last_eq, sent_eq, Array.toList_push, List.append_assoc, List.map_cons,
        List.singleton_append]

/-! ## Packets kept and queued -/

/-- A sender that keeps the last of the packets that it has sent, and has others of them queued. -/
structure Serves (config : Config) (session : SessionId) (packets : List AudioPacket)
    (transmitter : Transmitter) : Prop where
  config_eq : transmitter.config = config
  session_eq : transmitter.session = session
  capacity_eq : transmitter.history.capacity = config.cacheCapacity
  keeps : transmitter.history.Keeps config.packetSize packets
  holds : transmitter.queue.Holds packets

theorem serves_new (config : Config) (session : SessionId) :
    (new config session).Serves config session [] where
  config_eq := rfl
  session_eq := rfl
  capacity_eq := by
    have : 1 ≤ config.cacheCapacity := Nat.le_add_right _ _
    exact Nat.max_eq_left this
  keeps := History.keeps_new _ _
  holds := by simp [ResendQueue.Holds, new]

theorem Serves.broadcast (serves : transmitter.Serves config session packets)
    (length_pos : 0 < config.packetSize)
    (isPiece : packet.IsPiece fed config.packetSize packets.length) (channel : Channel) :
    (transmitter.broadcast channel packet).1.Serves config session (packets ++ [packet]) where
  config_eq := serves.config_eq
  session_eq := serves.session_eq
  capacity_eq := serves.capacity_eq
  keeps := serves.keeps.push length_pos isPiece
  holds := fun id other found => (serves.holds id other found).imp_left (List.mem_append_left _)

theorem Serves.resend (serves : transmitter.Serves config session packets) (channel : Channel) :
    (transmitter.resend channel).1.Serves config session packets where
  config_eq := serves.config_eq
  session_eq := serves.session_eq
  capacity_eq := serves.capacity_eq
  keeps := serves.keeps
  holds := by simp [ResendQueue.Holds, Transmitter.resend, ResendQueue.drain]

/-- Transmissions of packets add nothing else to what was sent. -/
theorem Serves.carried_foldl_transmit {sent : List AudioPacket}
    (serves : transmitter.Serves config session sent)
    (carried : ∀ entry ∈ channel.sent.toList, Carries config session packets entry)
    (subset : queued ⊆ packets) :
    ∀ entry ∈ (queued.foldl transmitter.transmit channel).sent.toList,
      Carries config session packets entry := by
  obtain ⟨emitted, sent_eq, carries⟩ := transmitter.exists_sent_foldl_transmit channel queued
  rw [serves.config_eq, serves.session_eq] at carries
  rw [sent_eq]
  intro entry member
  rcases List.mem_append.mp member with former | new
  · exact carried entry former
  · exact (carries entry new).mono subset

theorem Serves.enqueue (serves : transmitter.Serves config session packets) (ids : List PacketId) :
    (transmitter.enqueue ids).Serves config session packets where
  config_eq := serves.config_eq
  session_eq := serves.session_eq
  capacity_eq := serves.capacity_eq
  keeps := serves.keeps
  holds := by
    refine serves.holds.foldl_push fun packet member => ?_
    obtain ⟨id, -, found⟩ := List.mem_filterMap.mp member
    exact (serves.keeps.mem_of_get? found).1

theorem handleControl_of_request {source : Endpoint} {ids : List PacketId}
    (decoded : ControlMessage.decode datagram = .ok (.request ids)) :
    (transmitter.handleControl channel datagram source).1 = transmitter.enqueue ids := by
  rw [handleControl, decoded]

theorem handleControl_of_other {source : Endpoint}
    (unasked : ∀ ids, ControlMessage.decode datagram ≠ .ok (.request ids)) :
    (transmitter.handleControl channel datagram source).1 = transmitter := by
  rw [handleControl]
  split
  · rfl
  · next ids decoded => exact absurd decoded (unasked ids)
  · rfl
  · rfl

theorem handleControl_cases (transmitter : Transmitter) (channel : Channel) (datagram : Bytes)
    (source : Endpoint) :
    (transmitter.handleControl channel datagram source).1 = transmitter ∨
      ∃ ids, (transmitter.handleControl channel datagram source).1 = transmitter.enqueue ids := by
  by_cases asked : ∃ ids, ControlMessage.decode datagram = .ok (.request ids)
  · obtain ⟨ids, decoded⟩ := asked
    exact .inr ⟨ids, handleControl_of_request decoded⟩
  · exact .inl (handleControl_of_other (not_exists.mp asked))

theorem Serves.handleControl (serves : transmitter.Serves config session packets)
    (channel : Channel) (datagram : Bytes) (source : Endpoint) :
    (transmitter.handleControl channel datagram source).1.Serves config session packets := by
  rcases transmitter.handleControl_cases channel datagram source with same | ⟨ids, handled⟩
  · rwa [same]
  · rw [handled]
    exact serves.enqueue ids

/-- What is queued under the id of a packet is that packet. -/
theorem Serves.waits_of_isSome (serves : transmitter.Serves config session packets)
    (cut : CutFrom fed config.packetSize packets) (member : packet ∈ packets)
    (isSome : (transmitter.queue.packets[packet.id]?).isSome) :
    transmitter.queue.packets[packet.id]? = some packet := by
  have unique (other : AudioPacket) (other_member : other ∈ packets)
      (id_eq : other.id = packet.id) : other = packet := cut.eq_of_id_eq other_member member id_eq
  exact serves.holds.eq_some_of_isSome unique isSome

/-- A packet that waits in the queue goes on waiting, whatever is requested. -/
theorem Serves.waits_handleControl (serves : transmitter.Serves config session packets)
    (cut : CutFrom fed config.packetSize packets) (member : packet ∈ packets)
    (waits : transmitter.queue.packets[packet.id]? = some packet) (channel : Channel)
    (datagram : Bytes) (source : Endpoint) :
    (transmitter.handleControl channel datagram source).1.queue.packets[packet.id]? =
      some packet := by
  rcases transmitter.handleControl_cases channel datagram source with same | ⟨ids, handled⟩
  · rwa [same]
  · rw [handled]
    refine (serves.enqueue ids).waits_of_isSome cut member ?_
    exact ResendQueue.isSome_foldl_push (.inl (by rw [waits]; rfl))

/-- A packet that is kept waits in the queue once it has been requested. -/
theorem Serves.waits_of_request (serves : transmitter.Serves config session packets)
    (cut : CutFrom fed config.packetSize packets) {number : Nat}
    (found : packets[number]? = some packet)
    (recent : packets.length ≤ number + config.cacheCapacity) {ids : List PacketId}
    (requested : packet.id ∈ ids) (channel : Channel) (source : Endpoint) :
    (transmitter.handleControl channel (ControlMessage.encode (.request ids)) source).1.queue.packets[
      packet.id]? = some packet := by
  rw [handleControl_of_request (ControlMessage.decode_encode_request ids)]
  have kept : transmitter.history.get? packet.id = some packet := by
    rw [← serves.capacity_eq] at recent
    exact serves.keeps.get?_eq cut found recent
  refine (serves.enqueue ids).waits_of_isSome cut (List.mem_of_getElem? found) ?_
  exact ResendQueue.isSome_foldl_push
    (.inr ⟨packet, List.mem_filterMap.mpr ⟨packet.id, requested, kept⟩, rfl⟩)

end Transmitter
end Broadcast
end AudioMulticast
