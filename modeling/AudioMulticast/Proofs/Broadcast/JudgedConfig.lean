import AudioMulticast.Proofs.Broadcast.InputState
import AudioMulticast.Proofs.Text.Words
import AudioMulticast.Proofs.Wire.PacketCodec

/-!
# How settings are judged

Settings are accepted if they are sound in exact arithmetic, and else answered with the first of their
faults, except where the length of a datagram leaves the range of a word.  A sender with accepted
settings has no packet that does not fit into a datagram.
-/

namespace AudioMulticast
namespace Broadcast

/-! ## Faults -/

/-- Whether an error tells about settings what they are. -/
def ConfigError.IsFault (config : Config) : ConfigError → Prop
  | .notMulticast address => address = config.group ∧ config.group.isMulticast = false
  | .zeroPacketSize => config.packetSize = 0
  | .packetTooLarge size =>
      size = config.packetSize ∧ config.maxDatagram < config.packetSize + DataPacket.headerLength
  | .cacheTooSmall size => size = config.cacheSize ∧ config.cacheSize < config.packetSize
  | .zeroInterval => config.resendInterval = 0
  | .emptyName => ∀ c ∈ config.name.toList, Text.isBlank c = true
  | .brokenName => '\n' ∈ config.name.toList

instance (config : Config) : DecidablePred (ConfigError.IsFault config)
  | .notMulticast _ => inferInstanceAs (Decidable (_ ∧ _))
  | .zeroPacketSize => inferInstanceAs (Decidable (_ = _))
  | .packetTooLarge _ => inferInstanceAs (Decidable (_ ∧ _))
  | .cacheTooSmall _ => inferInstanceAs (Decidable (_ ∧ _))
  | .zeroInterval => inferInstanceAs (Decidable (_ = _))
  | .emptyName => inferInstanceAs (Decidable (∀ c ∈ config.name.toList, Text.isBlank c = true))
  | .brokenName => inferInstanceAs (Decidable (_ ∈ config.name.toList))

namespace Config

/-- Settings that a sender can work with, in exact arithmetic. -/
structure IsSound (config : Config) : Prop where
  multicast : config.group.isMulticast = true
  packetSize_pos : 1 ≤ config.packetSize
  datagram_le : config.packetSize + DataPacket.headerLength ≤ config.maxDatagram
  packetSize_le : config.packetSize ≤ config.cacheSize
  resendInterval_ne : config.resendInterval ≠ 0
  named : ∃ c ∈ config.name.toList, Text.isBlank c = false
  unbroken : '\n' ∉ config.name.toList

/-- All errors that settings could be answered with, in the order of the checks. -/
def reports (config : Config) : List ConfigError :=
  [.notMulticast config.group, .zeroPacketSize, .packetTooLarge config.packetSize,
    .cacheTooSmall config.cacheSize, .zeroInterval, .emptyName, .brokenName]

/-- The faults of settings, in the order of the checks. -/
def faults (config : Config) : List ConfigError :=
  config.reports.filter fun error => error.IsFault config

/-- The checks get as far as the length of a datagram, which is no word. -/
def OutOfRange (config : Config) : Prop :=
  config.group.isMulticast = true ∧ config.packetSize ≠ 0 ∧
    Word.count ≤ config.packetSize + DataPacket.headerLength

variable {config : Config}

theorem mem_faults_iff {error : ConfigError} : error ∈ config.faults ↔ error.IsFault config := by
  rw [faults, List.mem_filter, decide_eq_true_iff]
  refine and_iff_right_of_imp fun fault => ?_
  cases error with
  | notMulticast address => simp [reports, fault.1]
  | packetTooLarge size => simp [reports, fault.1]
  | cacheTooSmall size => simp [reports, fault.1]
  | _ => simp [reports]

/-- Sound settings are those without a fault. -/
theorem faults_eq_nil_iff : config.faults = [] ↔ config.IsSound := by
  rw [List.eq_nil_iff_forall_not_mem]
  simp only [mem_faults_iff]
  constructor
  · intro faultless
    exact
      { multicast := by simpa [ConfigError.IsFault] using faultless (.notMulticast config.group)
        packetSize_pos := Nat.pos_of_ne_zero (faultless .zeroPacketSize)
        datagram_le := by
          simpa [ConfigError.IsFault] using faultless (.packetTooLarge config.packetSize)
        packetSize_le := by
          simpa [ConfigError.IsFault] using faultless (.cacheTooSmall config.cacheSize)
        resendInterval_ne := faultless .zeroInterval
        named := by simpa [ConfigError.IsFault] using faultless .emptyName
        unbroken := faultless .brokenName }
  · rintro sound (_ | _ | _ | _ | _ | _ | _) fault
    · exact absurd sound.multicast (by simp [fault.2])
    · exact absurd fault (Nat.pos_iff_ne_zero.mp sound.packetSize_pos)
    · exact absurd sound.datagram_le (Nat.not_le.mpr fault.2)
    · exact absurd sound.packetSize_le (Nat.not_le.mpr fault.2)
    · exact sound.resendInterval_ne fault
    · obtain ⟨c, member, solid⟩ := sound.named
      exact absurd (fault c member) (by simp [solid])
    · exact sound.unbroken fault

/-! ## The answer of the checks -/

theorem validate_of_outOfRange (outOfRange : config.OutOfRange) :
    config.validate = .error .addition := by
  obtain ⟨multicast, packetSize_ne, tooLarge⟩ := outOfRange
  simp [validate, multicast, packetSize_ne, Word.add_of_le tooLarge]

/-- The answer to settings with a given first fault. -/
def verdict : Option ConfigError → Except ConfigError Unit
  | some error => .error error
  | none => .ok ()

/-- One check, and those after it. -/
theorem check_eq {failed fault : Prop} [Decidable failed] [Decidable fault] {error : ConfigError}
    {others : Except Overflow (Except ConfigError Unit)} {first : Option ConfigError}
    (failed_iff : failed ↔ fault) (passed : ¬failed → others = .ok (verdict first)) :
    (if failed then pure (.error error) else others) =
      .ok (verdict (if fault then some error else first)) := by
  by_cases faulty : failed
  · rw [if_pos faulty, if_pos (failed_iff.mp faulty)]
    rfl
  · rw [if_neg faulty, if_neg (failed_iff.not.mp faulty), passed faulty]

theorem find?_cons_decide {holds : ConfigError → Prop} [DecidablePred holds] (first : ConfigError)
    (errors : List ConfigError) :
    (first :: errors).find? (fun error => decide (holds error)) =
      if holds first then some first else errors.find? fun error => decide (holds error) := by
  by_cases held : holds first
  · simp [held]
  · simp [held]

/-- Within the range of words, the answer is the first fault. -/
theorem validate_of_not_outOfRange (inRange : ¬config.OutOfRange) :
    config.validate = .ok (verdict config.faults.head?) := by
  rw [faults, List.head?_filter, reports]
  iterate 7 rw [find?_cons_decide]
  rw [List.find?_nil, validate]
  refine check_eq (by simp [ConfigError.IsFault]) fun multicast => ?_
  refine check_eq Iff.rfl fun packetSize_ne => ?_
  have datagram_lt : config.packetSize + DataPacket.headerLength < Word.count :=
    Nat.lt_of_not_le fun tooLarge => inRange ⟨by simpa using multicast, packetSize_ne, tooLarge⟩
  rw [Word.add_of_lt datagram_lt, Overflow.ok_bind]
  refine check_eq (by simp [ConfigError.IsFault]) fun _ => ?_
  refine check_eq (by simp [ConfigError.IsFault]) fun _ => ?_
  refine check_eq Iff.rfl fun _ => ?_
  refine check_eq Text.trim_eq_nil_iff fun _ => ?_
  exact check_eq Iff.rfl fun _ => rfl

/-- The answer, whatever the settings are. -/
theorem validate_eq (config : Config) :
    config.OutOfRange ∧ config.validate = .error .addition ∨
      ¬config.OutOfRange ∧ config.validate = .ok (verdict config.faults.head?) := by
  by_cases outOfRange : config.OutOfRange
  · exact .inl ⟨outOfRange, validate_of_outOfRange outOfRange⟩
  · exact .inr ⟨outOfRange, validate_of_not_outOfRange outOfRange⟩

theorem validate_eq_error_iff {overflow : Overflow} :
    config.validate = .error overflow ↔ config.OutOfRange ∧ overflow = .addition := by
  rcases config.validate_eq with ⟨outOfRange, answered⟩ | ⟨inRange, answered⟩
  · simp [outOfRange, answered, eq_comm]
  · simp [inRange, answered]

theorem validate_eq_fault_iff {error : ConfigError} :
    config.validate = .ok (.error error) ↔
      ¬config.OutOfRange ∧ config.faults.head? = some error := by
  rcases config.validate_eq with ⟨outOfRange, answered⟩ | ⟨inRange, answered⟩
  · simp [outOfRange, answered]
  · rw [answered]
    cases config.faults.head? with
    | none => simp [inRange, verdict]
    | some first => simp [inRange, verdict]

/-- Settings are accepted exactly if they are sound. -/
theorem validate_eq_ok_iff_isSound (maxDatagram_lt : config.maxDatagram < Word.count) :
    config.validate = .ok (.ok ()) ↔ config.IsSound := by
  rcases config.validate_eq with ⟨⟨-, -, tooLarge⟩, answered⟩ | ⟨-, answered⟩
  · rw [answered]
    refine iff_of_false (by rintro ⟨⟩) fun sound => ?_
    exact Nat.not_lt.mpr (tooLarge.trans sound.datagram_le) maxDatagram_lt
  · rw [answered, ← faults_eq_nil_iff]
    cases config.faults with
    | nil => simp [verdict]
    | cons first faults => simp [verdict]

end Config

/-! ## The packets of a sender -/

/-- A packet that fits into a datagram. -/
def Config.Fits (config : Config) (session : SessionId) (packet : AudioPacket) : Prop :=
  ∃ datagram, (packet.stamp session).encode = .ok datagram ∧ datagram.length ≤ config.maxDatagram

/-- Something that happens while a sender is sending its input. -/
inductive InputEvent where
  /-- A piece of the input arrives. -/
  | feed (piece : Bytes)
  /-- A datagram arrives on the control port.  What the sender replies goes to another channel. -/
  | control (replies : Channel) (datagram : Bytes) (source : Endpoint)
  /-- The packets that were requested are sent again. -/
  | round
  /-- The run is cancelled. -/
  | cancel

namespace Input

/-- The sender after an event. -/
def perform (input : Input) : InputEvent → Input
  | .feed piece => input.feed piece
  | .control replies datagram source =>
      { input with transmitter := (input.transmitter.handleControl replies datagram source).1 }
  | .round =>
      { input with
        transmitter := (input.transmitter.resend input.channel).1
        channel := (input.transmitter.resend input.channel).2 }
  | .cancel => { input with channel := { input.channel with cancelled := true } }

/-- The sender after some events. -/
def run (input : Input) (events : List InputEvent) : Input :=
  events.foldl perform input

variable {config : Config} {session : SessionId} {fed : Bytes} {packets : List AudioPacket}
  {input : Input} {packet : AudioPacket}

/-- Whatever happens, nothing but packets that are cut off the input gets into a sender. -/
theorem Sends.exists_perform (sends : Sends config session fed packets input)
    (event : InputEvent) :
    ∃ fed packets, Sends config session fed packets (input.perform event) := by
  cases event with
  | feed piece =>
      obtain ⟨more, fed_more, -⟩ := sends.exists_feed piece
      exact ⟨_, _, fed_more⟩
  | control replies datagram source =>
      exact ⟨fed, packets, sends.handleControl replies datagram source⟩
  | round => exact ⟨fed, packets, sends.resend⟩
  | cancel =>
      exact ⟨fed, packets, sends.serves, sends.cut, sends.pending_eq, sends.next_eq, sends.carried⟩

theorem Sends.exists_run (sends : Sends config session fed packets input)
    (events : List InputEvent) :
    ∃ fed packets, Sends config session fed packets (input.run events) := by
  induction events generalizing fed packets input with
  | nil => exact ⟨fed, packets, sends⟩
  | cons event events ih =>
      obtain ⟨fed, packets, performed⟩ := sends.exists_perform event
      exact ih performed

theorem Sends.wireLength_le (sends : Sends config session fed packets input)
    (sound : config.IsSound) (member : packet ∈ packets) :
    (packet.stamp session).wireLength ≤ config.maxDatagram := by
  rw [DataPacket.wireLength, AudioPacket.stamp, sends.cut.payload_length member, Nat.add_comm]
  exact sound.datagram_le

/-- A packet that is cut off the input fits into a datagram. -/
theorem Sends.fits (sends : Sends config session fed packets input) (sound : config.IsSound)
    (member : packet ∈ packets) : config.Fits session packet := by
  have payload_length := sends.cut.payload_length member
  have payload_ne : (packet.stamp session).payload ≠ [] :=
    List.ne_nil_of_length_pos (payload_length.symm ▸ sound.packetSize_pos)
  have encoded := DataPacket.encode_eq payload_ne
  exact ⟨_, encoded, DataPacket.length_encode encoded ▸ sends.wireLength_le sound member⟩

/-- A sender all of whose packets fit into datagrams. -/
structure StaysWithin (config : Config) (session : SessionId) (input : Input) : Prop where
  /-- No datagram that was sent is too long. -/
  sent : ∀ entry ∈ input.channel.sent.toList, entry.2.length ≤ config.maxDatagram
  /-- The packets that are kept can be written. -/
  kept : ∀ {id packet}, input.transmitter.history.get? id = some packet → config.Fits session packet
  /-- So can the packets that wait to be sent again. -/
  queued : ∀ {packet}, packet ∈ input.transmitter.queue.toList → config.Fits session packet

theorem Sends.staysWithin (sends : Sends config session fed packets input)
    (sound : config.IsSound) : input.StaysWithin config session where
  sent := by
    intro entry member
    obtain ⟨packet, packet_mem, -, encoded⟩ := sends.carried entry member
    rw [DataPacket.length_encode encoded]
    exact sends.wireLength_le sound packet_mem
  kept := fun found => sends.fits sound (sends.serves.keeps.mem_of_get? found).1
  queued := by
    intro packet waiting
    obtain ⟨id, waits⟩ := ResendQueue.mem_toList.mp waiting
    exact sends.fits sound (sends.serves.holds id packet waits).1

end Input

/-! ## The verdict -/

/-- How settings are judged. -/
structure Config.IsJudged (config : Config) : Prop where
  /-- There is no verdict exactly where the length of a datagram is no word. -/
  overflow_iff : ∀ {overflow},
    config.validate = .error overflow ↔ config.OutOfRange ∧ overflow = .addition
  /-- Settings are accepted exactly if they are sound. -/
  accepted_iff : config.validate = .ok (.ok ()) ↔ config.IsSound
  /-- All others that get a verdict are answered with the first of their faults. -/
  rejected_iff : ∀ {error}, config.validate = .ok (.error error) ↔
    ¬config.OutOfRange ∧ config.faults.head? = some error
  /-- Whatever happens to a sender with accepted settings, its packets fit into datagrams. -/
  fits : config.validate = .ok (.ok ()) → ∀ session channel, channel.sent = #[] → ∀ events,
    let start : Input := { transmitter := .new config session, channel }
    (start.run events).StaysWithin config session

/-- Settings with sizes of 64 bits are accepted exactly if they are sound, and else answered with a
fault, unless the length of a datagram overflows. -/
theorem Config.isJudged (config : Config) (maxDatagram_lt : config.maxDatagram < Word.count) :
    config.IsJudged where
  overflow_iff := validate_eq_error_iff
  accepted_iff := validate_eq_ok_iff_isSound maxDatagram_lt
  rejected_iff := validate_eq_fault_iff
  fits := by
    intro accepted session channel unsent events start
    have sound := (validate_eq_ok_iff_isSound maxDatagram_lt).mp accepted
    have fresh : Input.Sends config session [] [] start :=
      Input.sends_new (Nat.pos_iff_ne_zero.mp sound.packetSize_pos) unsent
    obtain ⟨fed, packets, sends⟩ := fresh.exists_run events
    exact sends.staysWithin sound

/-- Three bytes arrive, and the packet that is cut off them is sent a second time on request.  Both
times it takes as many bytes as a datagram may have. -/
theorem Config.isJudged_of_exactFit :
    let config : Config :=
      { group := ⟨239, 10, 11, 12⟩, packetSize := 2, cacheSize := 4, maxDatagram := 18 }
    let start : Input := { transmitter := .new config 7, channel := { failures := [1] } }
    let last := start.run [.feed [10, 11, 12],
      .control {} (ControlMessage.request [0]).encode ⟨⟨10, 0, 0, 1⟩, 35830⟩, .round]
    config.maxDatagram < Word.count ∧ config.validate = .ok (.ok ()) ∧
      last.StaysWithin config 7 ∧ last.channel.sent.size = 2 := by
  intro config start last
  have maxDatagram_lt : config.maxDatagram < Word.count := by decide
  have accepted : config.validate = .ok (.ok ()) := by decide +kernel
  exact ⟨maxDatagram_lt, accepted, (config.isJudged maxDatagram_lt).fits accepted 7 _ rfl _,
    by decide +kernel⟩

/-- Not all settings with sizes of 64 bits are judged: the length of a datagram may be no word. -/
theorem Config.not_forall_validate_eq_ok :
    ¬∀ config : Config, config.packetSize < Word.count → config.cacheSize < Word.count →
      config.maxDatagram < Word.count → ∃ verdict, config.validate = .ok verdict := by
  intro judged
  let config : Config := { group := ⟨239, 10, 11, 12⟩, packetSize := 18446744073709551600 }
  obtain ⟨verdict, answered⟩ := judged config (by decide) (by decide) (by decide)
  have overflows : config.validate = .error .addition := by decide +kernel
  cases overflows.symm.trans answered

end Broadcast
end AudioMulticast
