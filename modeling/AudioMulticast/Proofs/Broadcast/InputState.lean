import AudioMulticast.Proofs.Broadcast.SenderState

/-!
# The progress of an input

Whatever pieces the input arrives in, all of it but the bytes that are pending has been cut into
packets.
-/

namespace AudioMulticast
namespace Broadcast
namespace Input

/-- A sender that has cut packets off the front of its input, and has sent nothing but those. -/
structure Sends (config : Config) (session : SessionId) (fed : Bytes) (packets : List AudioPacket)
    (input : Input) : Prop where
  serves : input.transmitter.Serves config session packets
  cut : CutFrom fed config.packetSize packets
  pending_eq : input.pending = fed.drop (packets.length * config.packetSize)
  next_eq : input.ended = none → input.next.val = packets.length * config.packetSize
  carried : ∀ entry ∈ input.channel.sent.toList, Carries config session packets entry

variable {config : Config} {session : SessionId} {fed : Bytes} {packets : List AudioPacket}
  {input : Input}

theorem sends_new (packetSize_ne : config.packetSize ≠ 0) {channel : Channel}
    (unsent : channel.sent = #[]) :
    Sends config session [] [] { transmitter := .new config session, channel } where
  serves := Transmitter.serves_new config session
  cut := .nil (Nat.pos_of_ne_zero packetSize_ne)
  pending_eq := by simp
  next_eq := by simp
  carried := by simp [unsent]

/-- One more packet is cut off and sent. -/
theorem Sends.broadcast (sends : Sends config session fed packets input)
    (running : input.ended = none)
    (enough : (input.pending.take config.packetSize).length = config.packetSize)
    {packet : AudioPacket}
    (packet_eq : packet = { id := input.next, payload := input.pending.take config.packetSize })
    {next : PacketId} {ended : Option InputEnd}
    (next_eq : ended = none → next.val = input.next.val + config.packetSize) :
    Sends config session fed (packets ++ [packet])
      { transmitter := (input.transmitter.broadcast input.channel packet).1
        channel := (input.transmitter.broadcast input.channel packet).2
        next
        pending := input.pending.drop config.packetSize
        ended } := by
  have isPiece : packet.IsPiece fed config.packetSize packets.length := by
    rw [packet_eq]
    exact ⟨sends.next_eq running, by rw [sends.pending_eq]⟩
  have payload_length : packet.payload.length = config.packetSize := by
    rw [packet_eq]
    exact enough
  have carried : ∀ entry ∈ input.channel.sent.toList,
      Carries config session (packets ++ [packet]) entry := fun entry member =>
    (sends.carried entry member).mono (List.subset_append_left _ _)
  exact
    { serves := sends.serves.broadcast sends.cut.length_pos isPiece input.channel
      cut := sends.cut.concat isPiece payload_length
      pending_eq := by
        rw [sends.pending_eq, List.drop_drop, length_concat_mul]
      next_eq := by
        intro still
        rw [next_eq still, sends.next_eq running, length_concat_mul]
      carried := sends.serves.carried_foldl_transmit carried (List.subset_append_right _ [packet]) }

/-- Cutting packets off does not change the queue. -/
theorem Sends.exists_cut (sends : Sends config session fed packets input) :
    ∃ more, Sends config session fed (packets ++ more) input.cut ∧
      input.cut.transmitter.queue = input.transmitter.queue := by
  induction length_eq : input.pending.length using Nat.strongRecOn generalizing input packets with
  | ind length ih =>
      rw [Input.cut]
      split_ifs with ended cancelled enough
      · exact ⟨[], by rwa [List.append_nil], rfl⟩
      · refine ⟨[], ?_, rfl⟩
        rw [List.append_nil]
        exact ⟨sends.serves, sends.cut, sends.pending_eq, by rintro ⟨⟩, sends.carried⟩
      · rw [sends.serves.config_eq] at enough ⊢
        have running : input.ended = none := Option.not_isSome_iff_eq_none.mp ended
        have shorter : (input.pending.drop config.packetSize).length < length := by
          have := enough.2
          rw [List.length_take] at this
          rw [List.length_drop]
          omega
        cases advanced : Word.ofNat? (input.next.val + config.packetSize) with
        | none =>
            refine ⟨_, sends.broadcast running enough.2 rfl ?_, rfl⟩
            rintro ⟨⟩
        | some next =>
            have next_eq := Word.ofNat?_eq_some_iff.mp advanced
            obtain ⟨more, sends, queue_eq⟩ :=
              ih _ shorter (sends.broadcast running enough.2 rfl fun _ => next_eq) rfl
            rw [List.append_assoc] at sends
            exact ⟨_, sends, queue_eq⟩
      · exact ⟨[], by rwa [List.append_nil], rfl⟩

theorem Sends.exists_feed (sends : Sends config session fed packets input) (piece : Bytes) :
    ∃ more, Sends config session (fed ++ piece) (packets ++ more) (input.feed piece) ∧
      (input.feed piece).transmitter.queue = input.transmitter.queue := by
  have fed_more :
      Sends config session (fed ++ piece) packets { input with pending := input.pending ++ piece } :=
    { serves := sends.serves
      cut := sends.cut.append piece
      pending_eq := by
        rw [sends.pending_eq, List.drop_append_of_le_length sends.cut.consumed_le]
      next_eq := sends.next_eq
      carried := sends.carried }
  exact fed_more.exists_cut

theorem Sends.handleControl (sends : Sends config session fed packets input) (channel : Channel)
    (datagram : Bytes) (source : Endpoint) :
    Sends config session fed packets
      { input with
        transmitter := (input.transmitter.handleControl channel datagram source).1 } where
  serves := sends.serves.handleControl channel datagram source
  cut := sends.cut
  pending_eq := sends.pending_eq
  next_eq := sends.next_eq
  carried := sends.carried

theorem Sends.resend (sends : Sends config session fed packets input) :
    Sends config session fed packets
      { input with
        transmitter := (input.transmitter.resend input.channel).1
        channel := (input.transmitter.resend input.channel).2 } where
  serves := sends.serves.resend input.channel
  cut := sends.cut
  pending_eq := sends.pending_eq
  next_eq := sends.next_eq
  carried := by
    refine sends.serves.carried_foldl_transmit sends.carried fun packet queued => ?_
    obtain ⟨id, found⟩ := ResendQueue.mem_toList.mp queued
    exact (sends.serves.holds id packet found).1

end Input
end Broadcast
end AudioMulticast
