import AudioMulticast.Proofs.Broadcast.InputState
import AudioMulticast.Proofs.Playback.ReceivedPackets
import AudioMulticast.Proofs.Playback.ReceptionRange

/-!
# A sender and a receiver

The input of a sender arrives in pieces, control messages arrive from anywhere, requested packets
are sent again in rounds, and what has been sent arrives at a receiver any number of times and in any
order, or never.  The receiver only asks for packets that were sent, and gets them as long as the
sender keeps them.
-/

namespace AudioMulticast

open Broadcast Playback Relation

/-- A sender in the middle of its input, and a receiver. -/
structure Link where
  input : Input
  timed : TimedReception
  /-- All of the input so far. -/
  fed : Bytes

namespace Link

/-- A sender without input, and a receiver without packets. -/
def start (config : Broadcast.Config) (session : SessionId) (failures : List Nat)
    (cancelDuring : Option Nat) (size interval : Nat) : Link :=
  { input := { transmitter := .new config session, channel := { failures, cancelDuring } }
    timed := .new size interval
    fed := [] }

/-- Number of packets that have been cut off the input. -/
def count (link : Link) : Nat :=
  (link.fed.length - link.input.pending.length) / link.input.transmitter.config.packetSize

/-- The bytes of the input that are in the packet with a number. -/
def piece (link : Link) (number : Nat) : Bytes :=
  (link.fed.drop (number * link.input.transmitter.config.packetSize)).take
    link.input.transmitter.config.packetSize

/-- Whether a packet with this id has been cut off. -/
def HasCut (link : Link) (id : PacketId) : Prop :=
  ∃ number < link.count, id.val = number * link.input.transmitter.config.packetSize

/-- A datagram arrives on the control port.  What the sender replies goes to another channel. -/
def control (link : Link) (channel : Channel) (datagram : Bytes) (source : Endpoint) : Link :=
  { link with
    input :=
      { link.input with
        transmitter := (link.input.transmitter.handleControl channel datagram source).1 } }

/-- The packets that were requested are sent again. -/
def resend (link : Link) : Link :=
  { link with
    input :=
      { link.input with
        transmitter := (link.input.transmitter.resend link.input.channel).1
        channel := (link.input.transmitter.resend link.input.channel).2 } }

/-- Whether the receiver can be faced with an event: only what has been sent arrives. -/
def Offers (link : Link) : ReceptionEvent → Prop
  | .datagram bytes => (link.input.transmitter.config.target, bytes) ∈ link.input.channel.sent.toList
  | .receive _ => False
  | _ => True

/-- Anything that can happen but a round of retransmissions. -/
inductive Quiet : Link → Link → Prop where
  | feed (link : Link) (piece : Bytes) :
      Quiet link { link with input := link.input.feed piece, fed := link.fed ++ piece }
  | control (link : Link) (channel : Channel) (datagram : Bytes) (source : Endpoint) :
      Quiet link (link.control channel datagram source)
  | cancel (link : Link) :
      Quiet link
        { link with
          input := { link.input with channel := { link.input.channel with cancelled := true } } }
  | perform {link : Link} {event : ReceptionEvent} {after : TimedReception}
      {answer : ReceptionAnswer} (offered : link.Offers event)
      (performed : link.timed.perform event = .ok (after, answer)) :
      Quiet link { link with timed := after }

/-- Anything that can happen. -/
inductive Step : Link → Link → Prop where
  | quiet {link after : Link} (step : Quiet link after) : Step link after
  | resend (link : Link) : Step link link.resend

/-- What is guaranteed about packets that are missing. -/
structure Recovers (config : Broadcast.Config) (session : SessionId) (link : Link) : Prop where
  /-- What is missing has been cut off the input. -/
  missing_cut : ∀ {id}, link.timed.reception.window.isMissing id → link.HasCut id
  /-- So has what is reported as missing or requested. -/
  named_cut : ∀ {event after answer id}, link.Offers event →
    link.timed.perform event = .ok (after, answer) →
      id ∈ answer.missed ∨ id ∈ answer.requested → link.HasCut id
  /-- The sender keeps the last packets. -/
  kept : ∀ {id number}, id.val = number * config.packetSize → number < link.count →
    link.count ≤ number + config.cacheCapacity →
      link.input.transmitter.history.get? id = some { id, payload := link.piece number }
  /-- Once a kept packet has been requested, the next round sends it again, unless the run is
  cancelled.  If it is still missing when it arrives, it fills its gap. -/
  resent : ∀ {id number ids size requested channel source last},
    id.val = number * config.packetSize → number < link.count →
    link.count ≤ number + config.cacheCapacity →
    .request requested ∈ ControlMessage.requests ids size → id ∈ requested →
    ReflTransGen Quiet
        (link.control channel (ControlMessage.encode (.request requested)) source) last →
      last.resend.input.channel.cancelled = true ∨
        ∃ emitted datagram,
          last.resend.input.channel.sent.toList = last.input.channel.sent.toList ++ emitted ∧
          (config.target, datagram) ∈ emitted ∧
          DataPacket.decode datagram = .ok { session, id, payload := link.piece number } ∧
          ∀ later, ReflTransGen Step last.resend later →
            later.timed.reception.tuning.restart = false →
            later.timed.reception.tuning.session = session →
            later.timed.reception.window.isMissing id →
              ∃ after, later.timed.perform (.datagram datagram) = .ok (after, .revealed []) ∧
                ¬after.reception.window.isMissing id ∧
                  after.reception.window.Holds id.val (link.piece number)
  /-- The receiver does not overflow, unless its window or the input is too long. -/
  responds :
    3 * max 1 (link.timed.reception.window.size / config.packetSize) < Word.count →
    (∀ number < link.count, number * config.packetSize + config.packetSize < Word.count) →
    ∀ event, link.Offers event →
      ∃ after answer, link.timed.perform event = .ok (after, answer)

/-! ## What every step preserves -/

/-- A link between a sender that has cut off some packets and a receiver that only has those. -/
structure Sound (config : Broadcast.Config) (session : SessionId) (packets : List AudioPacket)
    (journal : Journal) (link : Link) : Prop where
  sends : link.input.Sends config session link.fed packets
  follows : link.timed.reception.Follows journal
  drawn : journal.DrawnFrom config.packetSize packets

variable {config : Broadcast.Config} {session : SessionId} {packets : List AudioPacket}
  {journal : Journal} {link after : Link} {packet : AudioPacket} {id : PacketId} {number : Nat}

/-- Whether a packet waits to be sent again. -/
def Waits (link : Link) (packet : AudioPacket) : Prop :=
  link.input.transmitter.queue.packets[packet.id]? = some packet

namespace Sound

theorem config_eq (sound : link.Sound config session packets journal) :
    link.input.transmitter.config = config :=
  sound.sends.serves.config_eq

theorem brings (sound : link.Sound config session packets journal) {event : ReceptionEvent}
    (offered : link.Offers event) : TimedReception.Brings session packets event := by
  intro arrived arrives
  cases event with
  | datagram bytes =>
      obtain ⟨packet, member, -, encoded⟩ := sound.sends.carried _ offered
      rw [ReceptionEvent.packet?, DataPacket.decode_of_encode encoded] at arrives
      cases arrives
      exact ⟨packet, member, rfl⟩
  | receive packet => exact offered.elim
  | _ => cases arrives

theorem exists_of_perform (sound : link.Sound config session packets journal)
    {event : ReceptionEvent} {timed : TimedReception} {answer : ReceptionAnswer}
    (offered : link.Offers event) (performed : link.timed.perform event = .ok (timed, answer)) :
    ∃ result, ({ link with timed } : Link).Sound config session packets result := by
  obtain ⟨result, followed, effect⟩ := TimedReception.exists_effect sound.follows performed
  have lengths : ∀ packet ∈ packets, packet.payload.length = config.packetSize :=
    fun packet member => sound.sends.cut.payload_length member
  exact ⟨result, sound.sends, followed,
    effect.drawnFrom sound.drawn (sound.brings offered) lengths⟩

/-- A quiet step keeps what waits to be sent again. -/
theorem exists_of_quiet (sound : link.Sound config session packets journal)
    (step : Quiet link after) :
    ∃ more result, after.Sound config session (packets ++ more) result ∧
      ∀ packet ∈ packets, link.Waits packet → after.Waits packet := by
  cases step with
  | feed piece =>
      obtain ⟨more, sends, queue_eq⟩ := sound.sends.exists_feed piece
      refine ⟨more, journal, ⟨sends, sound.follows, sound.drawn.mono (List.subset_append_left _ _)⟩,
        ?_⟩
      intro packet member waits
      rw [Waits, queue_eq]
      exact waits
  | control channel datagram source =>
      refine ⟨[], journal, ?_, ?_⟩
      · rw [List.append_nil]
        exact ⟨sound.sends.handleControl channel datagram source, sound.follows, sound.drawn⟩
      · intro packet member waits
        exact sound.sends.serves.waits_handleControl sound.sends.cut member waits channel datagram
          source
  | cancel =>
      refine ⟨[], journal, ?_, fun packet member waits => waits⟩
      rw [List.append_nil]
      exact ⟨⟨sound.sends.serves, sound.sends.cut, sound.sends.pending_eq, sound.sends.next_eq,
        sound.sends.carried⟩, sound.follows, sound.drawn⟩
  | perform offered performed =>
      obtain ⟨result, performed_sound⟩ := sound.exists_of_perform offered performed
      refine ⟨[], result, ?_, fun packet member waits => waits⟩
      rwa [List.append_nil]

theorem resend (sound : link.Sound config session packets journal) :
    link.resend.Sound config session packets journal :=
  ⟨sound.sends.resend, sound.follows, sound.drawn⟩

theorem exists_of_quiets (sound : link.Sound config session packets journal)
    (steps : ReflTransGen Quiet link after) :
    ∃ more result, after.Sound config session (packets ++ more) result ∧
      ∀ packet ∈ packets, link.Waits packet → after.Waits packet := by
  induction steps with
  | refl => exact ⟨[], journal, by rwa [List.append_nil], fun packet member waits => waits⟩
  | tail _ step ih =>
      obtain ⟨more, result, reached, waiting⟩ := ih
      obtain ⟨further, last, sound, still⟩ := reached.exists_of_quiet step
      rw [List.append_assoc] at sound
      exact ⟨_, last, sound, fun packet member waits =>
        still packet (List.mem_append_left _ member) (waiting packet member waits)⟩

theorem exists_of_steps (sound : link.Sound config session packets journal)
    (steps : ReflTransGen Step link after) :
    ∃ more result, after.Sound config session (packets ++ more) result := by
  induction steps with
  | refl => exact ⟨[], journal, by rwa [List.append_nil]⟩
  | tail _ step ih =>
      obtain ⟨more, result, reached⟩ := ih
      cases step with
      | quiet step =>
          obtain ⟨further, last, sound, -⟩ := reached.exists_of_quiet step
          rw [List.append_assoc] at sound
          exact ⟨_, last, sound⟩
      | resend => exact ⟨more, result, reached.resend⟩

/-! ## What follows for the packets -/

theorem count_eq (sound : link.Sound config session packets journal) :
    link.count = packets.length := by
  have consumed_le := sound.sends.cut.consumed_le
  rw [count, sound.config_eq, sound.sends.pending_eq, List.length_drop,
    Nat.sub_sub_self consumed_le, Nat.mul_div_cancel _ sound.sends.cut.length_pos]

theorem getElem?_eq (sound : link.Sound config session packets journal)
    (id_eq : id.val = number * config.packetSize) (number_lt : number < link.count) :
    packets[number]? = some { id, payload := link.piece number } := by
  rw [sound.count_eq] at number_lt
  have isPiece := sound.sends.cut.isPiece (List.getElem?_eq_getElem number_lt)
  rw [List.getElem?_eq_getElem number_lt, piece, sound.config_eq, ← isPiece.payload_eq]
  exact congrArg some (congrArg (AudioPacket.mk · _) (Fin.ext (isPiece.id_eq.trans id_eq.symm)))

theorem hasCut (sound : link.Sound config session packets journal)
    (precedes : Precedes id config.packetSize packets) : link.HasCut id := by
  obtain ⟨packet, member, id_le⟩ := precedes.le
  rw [HasCut, sound.count_eq, sound.config_eq]
  exact sound.sends.cut.exists_number member precedes.aligned id_le

theorem kept (sound : link.Sound config session packets journal)
    (id_eq : id.val = number * config.packetSize) (number_lt : number < link.count)
    (recent : link.count ≤ number + config.cacheCapacity) :
    link.input.transmitter.history.get? id = some { id, payload := link.piece number } := by
  rw [sound.count_eq, ← sound.sends.serves.capacity_eq] at recent
  exact sound.sends.serves.keeps.get?_eq sound.sends.cut (sound.getElem?_eq id_eq number_lt) recent

/-- A round sends a packet that waits, unless the run is cancelled. -/
theorem resent_of_waits (sound : link.Sound config session packets journal)
    (member : packet ∈ packets) (waits : link.Waits packet) :
    link.resend.input.channel.cancelled = true ∨
      ∃ emitted datagram,
        link.resend.input.channel.sent.toList = link.input.channel.sent.toList ++ emitted ∧
        (config.target, datagram) ∈ emitted ∧
        DataPacket.decode datagram = .ok (packet.stamp session) := by
  have payload_ne : packet.payload ≠ [] := by
    intro empty
    have length_pos := sound.sends.cut.length_pos
    rw [← sound.sends.cut.payload_length member, empty] at length_pos
    cases length_pos
  have encoded := @DataPacket.encode_eq (packet.stamp session) payload_ne
  have queued := Broadcast.ResendQueue.mem_toList.mpr ⟨packet.id, waits⟩
  rw [← sound.sends.serves.session_eq] at encoded ⊢
  rw [← sound.config_eq]
  refine (Transmitter.foldl_transmit_cases queued encoded link.input.channel).imp_right ?_
  rintro ⟨emitted, sent_eq, found⟩
  exact ⟨emitted, _, sent_eq, found, DataPacket.decode_of_encode encoded⟩

theorem responds (sound : link.Sound config session packets journal)
    (tripled_lt :
      3 * max 1 (link.timed.reception.window.size / config.packetSize) < Word.count)
    (ends : ∀ number < link.count, number * config.packetSize + config.packetSize < Word.count)
    {event : ReceptionEvent} (offered : link.Offers event) :
    ∃ after answer, link.timed.perform event = .ok (after, answer) := by
  cases performed : link.timed.perform event with
  | ok result => exact ⟨result.1, result.2, rfl⟩
  | error overflow =>
      exfalso
      cases (TimedReception.perform_eq_error_iff sound.follows).mp performed with
      | arrival arrives overfills =>
          obtain ⟨packet, member, rfl⟩ := sound.brings offered _ arrives
          have tripled_ge := overfills.tripled_ge
          have length_eq : (packet.stamp session).payload.length = config.packetSize :=
            sound.sends.cut.payload_length member
          rw [length_eq] at tripled_ge
          omega
      | play outside =>
          refine TimedReception.not_endsOutside sound.follows ?_ _ outside
          intro remembered found
          obtain ⟨packet, member, top_eq⟩ := sound.drawn.top_mem remembered found
          obtain ⟨number, packet_found⟩ := List.mem_iff_getElem?.mp member
          obtain ⟨number_lt, -⟩ := List.getElem?_eq_some_iff.mp packet_found
          rw [← top_eq, (sound.sends.cut.isPiece packet_found).id_eq,
            sound.drawn.length_eq remembered found]
          exact ends number (sound.count_eq ▸ number_lt)

end Sound

/-- However an input is fed to a sender, whatever arrives on its control port, and whichever of the
packets it has sent arrive at a receiver, the receiver only misses packets that were sent before, and
a request for one that the sender still keeps makes the next round send it again. -/
theorem recovers {failures : List Nat} {cancelDuring : Option Nat} {size : Word} {interval : Nat}
    (valid : config.validate = .ok (.ok ()))
    (reached :
      ReflTransGen Step (start config session failures cancelDuring size.val interval) link) :
    link.Recovers config session := by
  have packetSize_ne := (Broadcast.Config.validate_eq_ok_iff.mp valid).packetSize_ne
  have started : (start config session failures cancelDuring size.val interval).Sound config session
      [] { size := size.val } :=
    ⟨Input.sends_new packetSize_ne rfl, Reception.follows_new size interval,
      Journal.drawnFrom_of_none rfl⟩
  obtain ⟨packets, journal, sound⟩ := started.exists_of_steps reached
  rw [List.nil_append] at sound
  refine ⟨?_, ?_, sound.kept, ?_, ?_⟩
  · intro id missing
    exact sound.hasCut (sound.drawn.precedes_of_lacks (sound.follows.isMissing_iff.mp missing))
  · intro event after answer id offered performed named
    obtain ⟨result, -, effect⟩ := TimedReception.exists_effect sound.follows performed
    exact sound.hasCut (effect.precedes sound.follows sound.drawn (sound.brings offered) named)
  · intro id number ids size requested channel source last id_eq number_lt recent sent member steps
    have found := sound.getElem?_eq id_eq number_lt
    have packet_mem := List.mem_of_getElem? found
    have controlled : (link.control channel (ControlMessage.encode (.request requested))
        source).Sound config session packets journal :=
      ⟨sound.sends.handleControl channel _ source, sound.follows, sound.drawn⟩
    rw [sound.count_eq] at recent
    have waits : (link.control channel (ControlMessage.encode (.request requested))
        source).Waits { id, payload := link.piece number } :=
      sound.sends.serves.waits_of_request sound.sends.cut found recent member channel source
    obtain ⟨more, result, last_sound, waiting⟩ := controlled.exists_of_quiets steps
    refine (last_sound.resent_of_waits (List.mem_append_left _ packet_mem)
      (waiting _ packet_mem waits)).imp_right ?_
    rintro ⟨emitted, datagram, sent_eq, emission, decoded⟩
    refine ⟨emitted, datagram, sent_eq, emission, decoded, ?_⟩
    intro later later_steps lowered current missing
    obtain ⟨further, reached, later_sound⟩ := last_sound.resend.exists_of_steps later_steps
    have length_eq := sound.sends.cut.payload_length packet_mem
    have drawn := later_sound.drawn
    rw [← length_eq] at drawn
    exact TimedReception.perform_datagram_of_isMissing later_sound.follows drawn lowered current
      decoded missing
  · exact fun tripled_lt ends event offered => sound.responds tripled_lt ends offered

/-- The second of three packets is lost. -/
theorem recovers_of_lost_packet :
    ∃ link config, config.validate = .ok (.ok ()) ∧
      ReflTransGen Step (start config 0 [2, 1] none 20 250) link ∧
        link.timed.reception.window.isMissing 2 ∧ link.HasCut 2 ∧ link.Recovers config 0 ∧
          ∃ asked, Quiet link asked ∧ ∃ datagram,
            (config.target, datagram) ∈ asked.resend.input.channel.sent.toList ∧
              DataPacket.decode datagram = .ok { session := 0, id := 2, payload := [12, 13] } := by
  let config : Broadcast.Config := { group := ⟨239, 10, 11, 12⟩, packetSize := 2, cacheSize := 8 }
  let fed : Bytes := [10, 11, 12, 13, 14, 15]
  let first : Bytes := [0, 0, 0, 0, 0, 0, 0, 0, 0, 0, 0, 0, 0, 0, 0, 0, 10, 11]
  let third : Bytes := [0, 0, 0, 0, 0, 0, 0, 0, 0, 0, 0, 0, 0, 0, 0, 4, 14, 15]
  let input := (start config 0 [2, 1] none 20 250).input.feed fed
  have valid : config.validate = .ok (.ok ()) := by decide +kernel
  have first_sent : (input.transmitter.config.target, first) ∈ input.channel.sent.toList := by
    decide +kernel
  have third_sent : (input.transmitter.config.target, third) ∈ input.channel.sent.toList := by
    decide +kernel
  have shown :
      ((TimedReception.new 20 250).run [.datagram first, .datagram third]).map
        (fun last => last.reception.window.isMissing 2) = .ok true := by
    decide +kernel
  obtain ⟨last, run_eq, missing⟩ := Overflow.map_eq_ok_iff.mp shown
  obtain ⟨⟨after, answer⟩, performed, run_eq⟩ := Overflow.bind_eq_ok_iff.mp run_eq
  obtain ⟨⟨last, answer⟩, performed_last, done⟩ := Overflow.bind_eq_ok_iff.mp run_eq
  cases done
  have fed_step : Quiet (start config 0 [2, 1] none 20 250) ⟨input, .new 20 250, fed⟩ :=
    .feed _ fed
  have first_step : Quiet ⟨input, .new 20 250, fed⟩ ⟨input, after, fed⟩ :=
    @Quiet.perform ⟨input, .new 20 250, fed⟩ (.datagram first) _ _ first_sent performed
  have third_step : Quiet ⟨input, after, fed⟩ ⟨input, last, fed⟩ :=
    @Quiet.perform ⟨input, after, fed⟩ (.datagram third) _ _ third_sent performed_last
  have reached : ReflTransGen Step (start config 0 [2, 1] none 20 250) ⟨input, last, fed⟩ :=
    .head (.quiet fed_step) (.head (.quiet first_step) (.single (.quiet third_step)))
  have recovered := @recovers config 0 ⟨input, last, fed⟩ [2, 1] none 20 250 valid reached
  have count_eq : (⟨input, last, fed⟩ : Link).count = 3 := show
    (⟨input, .new 20 250, fed⟩ : Link).count = 3 by decide +kernel
  have piece_eq : (⟨input, last, fed⟩ : Link).piece 1 = [12, 13] := show
    (⟨input, .new 20 250, fed⟩ : Link).piece 1 = [12, 13] by decide +kernel
  let source : Endpoint := ⟨⟨192, 168, 0, 2⟩, 1024⟩
  have uncancelled :
      ((⟨input, last, fed⟩ : Link).control {} (ControlMessage.encode (.request [2]))
        source).resend.input.channel.cancelled = false := show
    ((⟨input, .new 20 250, fed⟩ : Link).control {} (ControlMessage.encode (.request [2]))
        source).resend.input.channel.cancelled = false by decide +kernel
  have answered := @recovered.resent 2 1 [2] 60 [2] {} source _ (by decide) (by simp [count_eq])
    (count_eq.trans_le (by decide +kernel)) (by decide +kernel) (List.mem_singleton_self _) .refl
  refine ⟨_, config, valid, reached, missing, recovered.missing_cut missing, recovered, _,
    .control _ {} (ControlMessage.encode (.request [2])) source, ?_⟩
  obtain cancelled | ⟨emitted, datagram, sent_eq, emission, decoded, -⟩ := answered
  · cases cancelled.symm.trans uncancelled
  · exact ⟨datagram, sent_eq ▸ List.mem_append_right _ emission, piece_eq ▸ decoded⟩

end Link
end AudioMulticast
