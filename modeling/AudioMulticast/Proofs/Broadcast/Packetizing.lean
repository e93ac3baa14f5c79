import AudioMulticast.Proofs.Broadcast.SenderState

/-!
# Sending a whole input

However an input is divided into pieces, and however many attempts to send fail, the packets that are
sent are the same: the pieces of the whole input that are as long as a packet, one after another, each
under its offset.  What is left at the end and is too short for a packet is not sent.

What is read takes a block of memory as long as a packet, and each packet that is sent takes one as
long as its datagram.  The input is sent exactly if the lengths of these blocks are in range.
-/

namespace AudioMulticast
namespace Broadcast

/-- The blocks of memory that an input takes are in range: the one for what is read and, if a packet
can be cut off the input, the one for a datagram. -/
structure Config.HasRoom (config : Config) (input : Bytes) : Prop where
  packet_lt : config.packetSize < Memory.outOfRange
  datagram_lt : config.packetSize ≤ input.length →
    DataPacket.headerLength + config.packetSize < Memory.outOfRange

/-- Where there is no room, the block for what is read is out of range, or else the first one for a
datagram. -/
theorem Config.not_hasRoom_cases {config : Config} {input : Bytes}
    (lacking : ¬config.HasRoom input) :
    Memory.outOfRange ≤ config.packetSize ∨
      config.packetSize < Memory.outOfRange ∧ config.packetSize ≤ input.length ∧
        Memory.outOfRange ≤ DataPacket.headerLength + config.packetSize := by
  rcases Nat.lt_or_ge config.packetSize Memory.outOfRange with packet_lt | tooLarge
  · rcases Nat.lt_or_ge input.length config.packetSize with short | enough
    · exact absurd ⟨packet_lt, fun enough => absurd enough (Nat.not_le.mpr short)⟩ lacking
    · refine .inr ⟨packet_lt, enough, Nat.not_lt.mp fun datagram_lt => ?_⟩
      exact lacking ⟨packet_lt, fun _ => datagram_lt⟩
  · exact .inl tooLarge

/-- The datagram with a number of those that carry an input, and where it is sent: the session and
the offset of the packet, eight bytes each, most significant byte first, and the bytes that follow in
the input. -/
def Transmitter.pieceDelivery (transmitter : Transmitter) (input : Bytes) (number : Nat) :
    Endpoint × Bytes :=
  let length := transmitter.config.packetSize
  (transmitter.config.target,
    (Bytes.bigEndian 8 transmitter.session.val ++ Bytes.bigEndian 8 (number * length)) ++
      (input.drop (number * length)).take length)

namespace Input

/-- A sender in a run without a cancellation, which has cut packets off the front of its input, and
has kept and sent each of them. -/
structure Delivers (start : Transmitter) (sent : List (Endpoint × Bytes)) (fed : Bytes)
    (packets : List AudioPacket) (input : Input) : Prop where
  transmitter_eq : input.transmitter =
    { start with history := packets.foldl History.push start.history }
  runs : input.channel.Runs
  sent_eq : input.channel.sent.toList = sent ++ packets.map start.delivery
  cut : CutFrom fed start.config.packetSize packets
  pending_eq : input.pending = fed.drop (packets.length * start.config.packetSize)
  next_eq : input.next.val = packets.length * start.config.packetSize
  ended_eq : input.ended = none

variable {start : Transmitter} {sent : List (Endpoint × Bytes)} {fed : Bytes}
  {packets : List AudioPacket} {packet : AudioPacket} {input : Input}

theorem delivers_new (packetSize_ne : start.config.packetSize ≠ 0) {channel : Channel}
    (runs : channel.Runs) :
    Delivers start channel.sent.toList [] [] { transmitter := start, channel } where
  transmitter_eq := rfl
  runs := runs
  sent_eq := by simp
  cut := .nil (Nat.pos_of_ne_zero packetSize_ne)
  pending_eq := by simp
  next_eq := by simp
  ended_eq := rfl

/-- The input after one more packet has been cut off, kept and sent. -/
def advance (input : Input) (next : PacketId) : Input :=
  let length := input.transmitter.config.packetSize
  let packet : AudioPacket := { id := input.next, payload := input.pending.take length }
  { transmitter := (input.transmitter.broadcast input.channel packet).1
    channel := (input.transmitter.broadcast input.channel packet).2
    next
    pending := input.pending.drop length }

theorem cut_eq_cut_advance (ended_eq : input.ended = none)
    (cancelled_eq : input.channel.cancelled = false)
    (length_pos : 0 < input.transmitter.config.packetSize)
    (enough : input.transmitter.config.packetSize ≤ input.pending.length) {next : PacketId}
    (advanced : Word.ofNat? (input.next.val + input.transmitter.config.packetSize) = some next) :
    input.cut = (input.advance next).cut := by
  have taken : (input.pending.take input.transmitter.config.packetSize).length =
      input.transmitter.config.packetSize := List.length_take_of_le enough
  rw [Input.cut, if_neg (by simp [ended_eq]), if_neg (by simp [cancelled_eq]),
    dif_pos ⟨length_pos, taken⟩, advanced, ended_eq]
  rfl

theorem cut_eq_self (ended_eq : input.ended = none)
    (cancelled_eq : input.channel.cancelled = false)
    (short : input.pending.length < input.transmitter.config.packetSize) : input.cut = input := by
  have untaken : ¬(0 < input.transmitter.config.packetSize ∧
      (input.pending.take input.transmitter.config.packetSize).length =
        input.transmitter.config.packetSize) := by
    rw [List.length_take]
    omega
  rw [Input.cut, if_neg (by simp [ended_eq]), if_neg (by simp [cancelled_eq]), dif_neg untaken]

theorem Delivers.config_eq (delivers : Delivers start sent fed packets input) :
    input.transmitter.config = start.config := by
  rw [delivers.transmitter_eq]

/-- One more packet is cut off, kept and sent. -/
theorem Delivers.exists_advance (delivers : Delivers start sent fed packets input)
    (enough : start.config.packetSize ≤ input.pending.length) {next : PacketId}
    (next_eq : next.val = input.next.val + start.config.packetSize) :
    ∃ packet, Delivers start sent fed (packets ++ [packet]) (input.advance next) := by
  let packet : AudioPacket :=
    { id := input.next, payload := input.pending.take start.config.packetSize }
  have isPiece : packet.IsPiece fed start.config.packetSize packets.length :=
    ⟨delivers.next_eq, by rw [← delivers.pending_eq]⟩
  have payload_length : packet.payload.length = start.config.packetSize :=
    List.length_take_of_le enough
  have payload_ne : packet.payload ≠ [] :=
    List.ne_nil_of_length_pos (payload_length.symm ▸ delivers.cut.length_pos)
  obtain ⟨runs, sent_eq⟩ := input.transmitter.transmit_of_runs delivers.runs payload_ne
  have delivery_eq : input.transmitter.delivery packet = start.delivery packet := by
    rw [delivers.transmitter_eq]
    rfl
  have advance_eq : input.advance next =
      { transmitter := (input.transmitter.broadcast input.channel packet).1
        channel := input.transmitter.transmit input.channel packet
        next
        pending := input.pending.drop start.config.packetSize } := by
    rw [advance, delivers.config_eq]
    rfl
  rw [advance_eq]
  exact ⟨packet,
    { transmitter_eq := by
        rw [List.foldl_concat, Transmitter.broadcast, delivers.transmitter_eq]
      runs := runs
      sent_eq := by
        rw [sent_eq, Array.toList_push, delivers.sent_eq, delivery_eq, List.map_append,
          List.append_assoc, List.map_singleton]
      cut := delivers.cut.concat isPiece payload_length
      pending_eq := by
        rw [delivers.pending_eq, List.drop_drop, length_concat_mul]
      next_eq := by
        rw [next_eq, delivers.next_eq, length_concat_mul]
      ended_eq := rfl }⟩

/-- Packets are cut off until what is left is too short. -/
theorem Delivers.exists_cut (delivers : Delivers start sent fed packets input)
    (inRange : fed.length + start.config.packetSize < Word.count) :
    ∃ more, Delivers start sent fed (packets ++ more) input.cut ∧
      input.cut.pending.length < start.config.packetSize := by
  induction length_eq : input.pending.length using Nat.strongRecOn generalizing input packets with
  | ind length ih =>
      rcases Nat.lt_or_ge input.pending.length start.config.packetSize with short | enough
      · rw [cut_eq_self delivers.ended_eq delivers.runs.cancelled_eq
          (delivers.config_eq ▸ short)]
        exact ⟨[], by rwa [List.append_nil], short⟩
      · have length_pos := delivers.cut.length_pos
        have pending_length := congrArg List.length delivers.pending_eq
        rw [List.length_drop] at pending_length
        have next_lt : input.next.val + start.config.packetSize < Word.count := by
          rw [delivers.next_eq]
          omega
        let next : PacketId := ⟨input.next.val + start.config.packetSize, next_lt⟩
        obtain ⟨packet, advanced⟩ :
            ∃ packet, Delivers start sent fed (packets ++ [packet]) (input.advance next) :=
          delivers.exists_advance enough rfl
        have shorter : (input.advance next).pending.length < length := by
          rw [advance, delivers.config_eq, List.length_drop]
          omega
        have next_eq : Word.ofNat? (input.next.val + input.transmitter.config.packetSize) =
            some next := by
          rw [delivers.config_eq]
          exact dif_pos next_lt
        rw [cut_eq_cut_advance delivers.ended_eq delivers.runs.cancelled_eq
          (delivers.config_eq ▸ length_pos) (delivers.config_eq ▸ enough) next_eq]
        obtain ⟨more, last, short⟩ := ih _ shorter advanced rfl
        exact ⟨packet :: more, by rwa [List.append_cons], short⟩

/-- A piece has arrived, and no packet has been cut off yet. -/
theorem Delivers.append (delivers : Delivers start sent fed packets input) (piece : Bytes) :
    Delivers start sent (fed ++ piece) packets
      { input with pending := input.pending ++ piece } where
  transmitter_eq := delivers.transmitter_eq
  runs := delivers.runs
  sent_eq := delivers.sent_eq
  cut := delivers.cut.append piece
  pending_eq := by
    rw [delivers.pending_eq, List.drop_append_of_le_length delivers.cut.consumed_le]
  next_eq := delivers.next_eq
  ended_eq := delivers.ended_eq

theorem Delivers.exists_feed (delivers : Delivers start sent fed packets input) {piece : Bytes}
    (inRange : (fed ++ piece).length + start.config.packetSize < Word.count) :
    ∃ more, Delivers start sent (fed ++ piece) (packets ++ more) (input.feed piece) ∧
      (input.feed piece).pending.length < start.config.packetSize :=
  (delivers.append piece).exists_cut inRange

/-- Whatever pieces the input arrives in, packets are cut off the whole of it. -/
theorem Delivers.exists_foldl_feed (delivers : Delivers start sent fed packets input)
    (short : input.pending.length < start.config.packetSize) {pieces : List Bytes}
    (inRange : (fed ++ pieces.flatten).length + start.config.packetSize < Word.count) :
    ∃ more, Delivers start sent (fed ++ pieces.flatten) (packets ++ more)
        (pieces.foldl feed input) ∧
      (pieces.foldl feed input).pending.length < start.config.packetSize := by
  induction pieces generalizing fed packets input with
  | nil => exact ⟨[], by simpa using delivers, short⟩
  | cons piece pieces ih =>
      rw [List.flatten_cons, ← List.append_assoc] at inRange ⊢
      have fed_inRange : (fed ++ piece).length + start.config.packetSize < Word.count := by
        rw [List.length_append] at inRange
        omega
      obtain ⟨first, fed_more, fed_short⟩ := delivers.exists_feed fed_inRange
      obtain ⟨more, last, last_short⟩ := ih fed_more fed_short inRange
      exact ⟨first ++ more, by rwa [← List.append_assoc], last_short⟩

theorem Delivers.isDue_iff (delivers : Delivers start sent fed packets input) {piece : Bytes} :
    input.isDue piece = true ↔ start.config.packetSize ≤ (input.pending ++ piece).length := by
  simp [isDue, delivers.ended_eq, delivers.runs.cancelled_eq, delivers.config_eq,
    delivers.cut.length_pos]

/-- A piece is taken in unless it completes a packet and there is no block for the datagram. -/
theorem Delivers.feedBlocks_eq (delivers : Delivers start sent fed packets input) {piece : Bytes}
    (room : start.config.packetSize ≤ (input.pending ++ piece).length →
      DataPacket.headerLength + start.config.packetSize < Memory.outOfRange) :
    input.feedBlocks piece = .ok (input.feed piece) := by
  rw [feedBlocks, delivers.config_eq]
  by_cases due : input.isDue piece = true
  · rw [if_pos due, Memory.request_of_lt (room (delivers.isDue_iff.mp due))]
    rfl
  · rw [if_neg due]
    rfl

theorem Delivers.feedBlocks_eq_error (delivers : Delivers start sent fed packets input)
    {piece : Bytes} (enough : start.config.packetSize ≤ (input.pending ++ piece).length)
    (tooLarge : Memory.outOfRange ≤ DataPacket.headerLength + start.config.packetSize) :
    input.feedBlocks piece = .error .capacity := by
  rw [feedBlocks, delivers.config_eq, if_pos (delivers.isDue_iff.mpr enough),
    Memory.request_of_le tooLarge]
  rfl

theorem Delivers.foldlM_feedBlocks_eq (delivers : Delivers start sent fed packets input)
    {pieces : List Bytes}
    (inRange : (fed ++ pieces.flatten).length + start.config.packetSize < Word.count)
    (room : start.config.packetSize ≤ (fed ++ pieces.flatten).length →
      DataPacket.headerLength + start.config.packetSize < Memory.outOfRange) :
    pieces.foldlM feedBlocks input = .ok (pieces.foldl feed input) := by
  induction pieces generalizing fed packets input with
  | nil => rfl
  | cons piece pieces ih =>
      rw [List.flatten_cons, ← List.append_assoc] at inRange room
      have pending_le : input.pending.length ≤ fed.length := by
        rw [delivers.pending_eq, List.length_drop]
        exact Nat.sub_le _ _
      have fed_le : (fed ++ piece).length ≤ (fed ++ piece ++ pieces.flatten).length :=
        (List.sublist_append_left _ _).length_le
      have taken : input.feedBlocks piece = .ok (input.feed piece) := by
        refine delivers.feedBlocks_eq fun enough => room (enough.trans ?_)
        rw [List.length_append] at fed_le ⊢
        omega
      obtain ⟨more, fed_more, -⟩ :=
        delivers.exists_feed ((Nat.add_le_add_right fed_le _).trans_lt inRange)
      rw [List.foldlM_cons, taken, Overflow.ok_bind]
      exact ih fed_more inRange room

/-- Where there are no blocks for datagrams, sending stops at the first piece that completes a
packet. -/
theorem Delivers.foldlM_feedBlocks_eq_error (delivers : Delivers start sent fed [] input)
    {pieces : List Bytes} (short : fed.length < start.config.packetSize)
    (enough : start.config.packetSize ≤ (fed ++ pieces.flatten).length)
    (tooLarge : Memory.outOfRange ≤ DataPacket.headerLength + start.config.packetSize) :
    pieces.foldlM feedBlocks input = .error .capacity := by
  -- Until a packet is complete, everything that has been fed is pending.
  induction pieces generalizing fed input with
  | nil =>
      rw [List.flatten_nil, List.append_nil] at enough
      omega
  | cons piece pieces ih =>
      rw [List.flatten_cons, ← List.append_assoc] at enough
      have pending_eq : input.pending = fed := by simpa using delivers.pending_eq
      rw [List.foldlM_cons]
      rcases Nat.lt_or_ge (fed ++ piece).length start.config.packetSize with early | due
      · have fed_more := delivers.append piece
        have uncut : input.feed piece = { input with pending := input.pending ++ piece } := by
          refine cut_eq_self fed_more.ended_eq fed_more.runs.cancelled_eq ?_
          rwa [fed_more.config_eq, pending_eq]
        have taken : input.feedBlocks piece = .ok (input.feed piece) := by
          refine delivers.feedBlocks_eq fun due => ?_
          rw [pending_eq] at due
          exact absurd due (Nat.not_le.mpr early)
        rw [taken, Overflow.ok_bind, uncut]
        exact ih fed_more early enough
      · rw [delivers.feedBlocks_eq_error (by rwa [pending_eq]) tooLarge, Overflow.error_bind]

/-- When no packet can be cut off any more, each number has been sent once. -/
theorem Delivers.map_delivery_eq (delivers : Delivers start sent fed packets input)
    (short : input.pending.length < start.config.packetSize) :
    packets.map start.delivery =
      (List.range (fed.length / start.config.packetSize)).map (start.pieceDelivery fed) := by
  have count_eq : fed.length / start.config.packetSize = packets.length := by
    rw [delivers.pending_eq, List.length_drop] at short
    refine Nat.div_eq_of_lt_le delivers.cut.consumed_le ?_
    rw [Nat.succ_mul]
    omega
  rw [count_eq]
  refine List.ext_getElem (by simp) fun number left_lt right_lt => ?_
  rw [List.length_map] at left_lt
  have isPiece := delivers.cut.isPiece (List.getElem?_eq_getElem left_lt)
  simp only [List.getElem_map, List.getElem_range, Transmitter.delivery,
    Transmitter.pieceDelivery, Bytes.ofWord, isPiece.id_eq, isPiece.payload_eq]

end Input

namespace Transmitter

variable {transmitter : Transmitter} {channel : Channel} {pieces : List Bytes}

theorem streamBlocks_eq (packetSize_ne : transmitter.config.packetSize ≠ 0)
    (room : transmitter.config.HasRoom pieces.flatten) (runs : channel.Runs)
    (inRange : pieces.flatten.length + transmitter.config.packetSize < Word.count)
    (ending : InputEnd) :
    let last := pieces.foldl Input.feed { transmitter, channel }
    transmitter.streamBlocks channel pieces ending =
      .ok (last.transmitter, last.channel, last.ended.getD ending) := by
  intro last
  have taken : pieces.foldlM Input.feedBlocks { transmitter, channel } = .ok last :=
    (Input.delivers_new packetSize_ne runs).foldlM_feedBlocks_eq inRange room.datagram_lt
  rw [streamBlocks, Memory.request_of_lt room.packet_lt, Overflow.ok_bind, taken]
  rfl

/-- A run without a cancellation overflows exactly if a block of memory is out of range. -/
theorem streamBlocks_eq_error_iff (packetSize_ne : transmitter.config.packetSize ≠ 0)
    (runs : channel.Runs)
    (inRange : pieces.flatten.length + transmitter.config.packetSize < Word.count)
    {ending : InputEnd} {overflow : Overflow} :
    transmitter.streamBlocks channel pieces ending = .error overflow ↔
      ¬transmitter.config.HasRoom pieces.flatten ∧ overflow = .capacity := by
  by_cases room : transmitter.config.HasRoom pieces.flatten
  · rw [streamBlocks_eq packetSize_ne room runs inRange]
    exact iff_of_false (by rintro ⟨⟩) fun exceeds => exceeds.1 room
  · have overflows : transmitter.streamBlocks channel pieces ending = .error .capacity := by
      rw [streamBlocks]
      rcases Config.not_hasRoom_cases room with tooLarge | ⟨packet_lt, enough, tooLarge⟩
      · rw [Memory.request_of_le tooLarge, Overflow.error_bind]
      · have stopped : pieces.foldlM Input.feedBlocks { transmitter, channel } =
            .error .capacity :=
          (Input.delivers_new packetSize_ne runs).foldlM_feedBlocks_eq_error
            (Nat.pos_of_ne_zero packetSize_ne) enough tooLarge
        rw [Memory.request_of_lt packet_lt, Overflow.ok_bind, stopped, Overflow.error_bind]
    rw [overflows]
    exact ⟨by rintro ⟨⟩; exact ⟨room, rfl⟩, by rintro ⟨-, rfl⟩; rfl⟩

/-- Whatever pieces an input arrives in, however many attempts to send fail, and however it ends, its
packets are sent one after another, each once, and the result is how it ends. -/
theorem streamBlocks_sends_pieces (valid : transmitter.config.validate = .ok (.ok ()))
    (room : transmitter.config.HasRoom pieces.flatten) (runs : channel.Runs)
    (inRange : pieces.flatten.length + transmitter.config.packetSize < Word.count)
    (ending : InputEnd) :
    ∃ last sending,
      transmitter.streamBlocks channel pieces ending = .ok (last, sending, ending) ∧
        sending.sent.toList = channel.sent.toList ++
          (List.range (pieces.flatten.length / transmitter.config.packetSize)).map
            (transmitter.pieceDelivery pieces.flatten) := by
  have packetSize_ne := (Config.validate_eq_ok_iff.mp valid).packetSize_ne
  have fresh := Input.delivers_new packetSize_ne runs
  have joined_inRange :
      ([] ++ pieces.flatten).length + transmitter.config.packetSize < Word.count := inRange
  obtain ⟨packets, delivers, short⟩ :=
    fresh.exists_foldl_feed (Nat.pos_of_ne_zero packetSize_ne) joined_inRange
  refine ⟨(pieces.foldl Input.feed { transmitter, channel }).transmitter, _, ?_,
    delivers.sent_eq.trans (congrArg _ (delivers.map_delivery_eq short))⟩
  rw [streamBlocks_eq packetSize_ne room runs inRange, delivers.ended_eq]
  rfl

/-- Five bytes arrive in pieces across the borders of packets of two bytes, and attempts fail. -/
theorem streamBlocks_sends_pieces_of_uneven :
    let config : Config := { group := ⟨239, 10, 11, 12⟩, packetSize := 2, cacheSize := 8 }
    let channel : Channel := { failures := [2, 1] }
    config.validate = .ok (.ok ()) ∧ config.HasRoom [10, 11, 12, 13, 14] ∧ channel.Runs ∧
      ∃ last sending,
        (new config 7).streamBlocks channel [[10], [11, 12, 13], [14]] (.failed "broken") =
            .ok (last, sending, .failed "broken") ∧
          sending.sent.toList =
            [(config.target, [0, 0, 0, 0, 0, 0, 0, 7, 0, 0, 0, 0, 0, 0, 0, 0, 10, 11]),
              (config.target, [0, 0, 0, 0, 0, 0, 0, 7, 0, 0, 0, 0, 0, 0, 0, 2, 12, 13])] := by
  intro config channel
  have valid : (new config 7).config.validate = .ok (.ok ()) := by decide +kernel
  have runs : channel.Runs := ⟨rfl, rfl⟩
  let pieces : List Bytes := [[10], [11, 12, 13], [14]]
  have room : (new config 7).config.HasRoom pieces.flatten := ⟨by decide, fun _ => by decide⟩
  have inRange : pieces.flatten.length + (new config 7).config.packetSize < Word.count := by decide
  obtain ⟨last, sending, result, sent_eq⟩ :=
    streamBlocks_sends_pieces valid room runs inRange (.failed "broken")
  exact ⟨valid, room, runs, last, sending, result, sent_eq.trans (by decide +kernel)⟩

/-- Not every sender with valid settings gets through its input: there may be no block of memory for
a packet. -/
theorem not_forall_streamBlocks_sends_pieces :
    ¬∀ (transmitter : Transmitter) (channel : Channel) (pieces : List Bytes) (ending : InputEnd),
      transmitter.config.validate = .ok (.ok ()) → channel.Runs →
        pieces.flatten.length + transmitter.config.packetSize < Word.count →
          ∃ last sending,
            transmitter.streamBlocks channel pieces ending = .ok (last, sending, ending) ∧
              sending.sent.toList = channel.sent.toList ++
                (List.range (pieces.flatten.length / transmitter.config.packetSize)).map
                  (transmitter.pieceDelivery pieces.flatten) := by
  intro finishes
  let config : Config :=
    { group := ⟨239, 10, 11, 12⟩
      packetSize := 9223372036854775808
      cacheSize := 9223372036854775808
      maxDatagram := 18446744073709551615 }
  obtain ⟨last, sending, result, -⟩ :=
    finishes (new config 0) {} [] .finished (by decide +kernel) ⟨rfl, rfl⟩ (by decide +kernel)
  have overflows : (new config 0).streamBlocks {} [] .finished = .error .capacity := rfl
  cases overflows.symm.trans result

end Transmitter
end Broadcast
end AudioMulticast
