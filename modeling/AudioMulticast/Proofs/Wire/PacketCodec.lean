import AudioMulticast.Proofs.Wire.ReadBack

/-!
# Packets and their bytes

A packet with a payload is written in exactly one way, and bytes that are long enough are what exactly
one packet is written as.  Everything else is refused: packets without a payload, whatever is in the
buffer already, and bytes that end before the payload.
-/

namespace AudioMulticast
namespace DataPacket

/-- The layout of a packet: session and id in eight bytes each, the most significant byte first, and
behind them the payload. -/
structure IsWrittenAs (packet : DataPacket) (bytes : Bytes) : Prop where
  session_eq : packet.session.val = Nat.ofDigits 256 ((bytes.take 8).reverse.map UInt8.toNat)
  id_eq : packet.id.val = Nat.ofDigits 256 (((bytes.drop 8).take 8).reverse.map UInt8.toNat)
  payload_eq : packet.payload = bytes.drop 16
  payload_ne : packet.payload ≠ []

/-- What writing a packet does. -/
structure Writes (packet : DataPacket) : Prop where
  /-- A packet with a payload is appended to the buffer, in as many bytes as it takes, and read back
  from them. -/
  appends : packet.payload ≠ [] →
    ∃ written, packet.encode = .ok written ∧ written.length = packet.wireLength ∧
      decode written = .ok packet ∧ ∀ buffer, packet.write buffer = (buffer ++ written, .ok ())
  /-- A packet without a payload is refused, and the buffer stays as it was. -/
  refuses : packet.payload = [] → packet.encode = .error .emptyPayload ∧
    ∀ buffer, packet.write buffer = (buffer, .error .emptyPayload)

/-- What reading bytes does. -/
structure Reads (bytes : Bytes) : Prop where
  /-- Bytes that are long enough are a packet, which is written as these bytes. -/
  accepts : 17 ≤ bytes.length →
    ∃ packet, decode bytes = .ok packet ∧ packet.encode = .ok bytes ∧ packet.IsWrittenAs bytes
  /-- Bytes that end behind the header have no payload. -/
  refuses_header : bytes.length = 16 → decode bytes = .error .emptyPayload
  /-- Fewer bytes are no header. -/
  refuses_short : bytes.length < 16 → decode bytes = .error (.tooShort bytes.length)

variable {packet : DataPacket} {bytes : Bytes}

theorem drop_header_ne_nil_iff : bytes.drop headerLength ≠ [] ↔ 17 ≤ bytes.length := by
  simp [headerLength, List.drop_eq_nil_iff, Nat.lt_iff_add_one_le]

/-- Bytes are read exactly if they are long enough, by their layout. -/
theorem decode_eq_of_le (long : 17 ≤ bytes.length) :
    decode bytes =
      .ok
        { session := Bytes.toWord (bytes.take 8)
          id := Bytes.toWord ((bytes.drop 8).take 8)
          payload := bytes.drop headerLength } := by
  have header : ¬bytes.length < headerLength := by
    rw [headerLength]
    omega
  rw [decode, if_neg header, if_neg (drop_header_ne_nil_iff.mpr long)]

theorem le_length_of_decode (read : decode bytes = .ok packet) : 17 ≤ bytes.length := by
  rw [← drop_header_ne_nil_iff]
  intro nothing
  simp only [decode, nothing] at read
  split at read
  · cases read
  · cases read

theorem length_header_words (long : 17 ≤ bytes.length) :
    (bytes.take 8).length = 8 ∧ ((bytes.drop 8).take 8).length = 8 := by
  rw [List.length_take, List.length_take, List.length_drop]
  omega

theorem isWrittenAs_of_decode (read : decode bytes = .ok packet) : packet.IsWrittenAs bytes := by
  have long := le_length_of_decode read
  obtain ⟨session_length, id_length⟩ := length_header_words long
  rw [decode_eq_of_le long] at read
  cases read
  constructor
  · rw [Bytes.val_toWord session_length, Bytes.value_eq_ofDigits]
  · rw [Bytes.val_toWord id_length, Bytes.value_eq_ofDigits]
  · rfl
  · exact drop_header_ne_nil_iff.mpr long

/-- Whatever is read is written as the bytes that it was read from. -/
theorem encode_of_decode (read : decode bytes = .ok packet) : packet.encode = .ok bytes := by
  have long := le_length_of_decode read
  obtain ⟨session_length, id_length⟩ := length_header_words long
  have parts : (bytes.take 8 ++ (bytes.drop 8).take 8) ++ bytes.drop headerLength = bytes := by
    rw [← List.take_add, headerLength, List.take_append_drop]
  rw [encode_eq (isWrittenAs_of_decode read).payload_ne]
  rw [decode_eq_of_le long] at read
  cases read
  simp only [Bytes.ofWord_toWord session_length, Bytes.ofWord_toWord id_length, parts]

theorem length_encode (encoded : packet.encode = .ok bytes) :
    bytes.length = packet.wireLength := by
  by_cases payload_ne : packet.payload = []
  · simp [encode, write, payload_ne] at encoded
  · rw [encode_eq payload_ne] at encoded
    cases encoded
    simp only [List.length_append, Bytes.length_ofWord, wireLength, headerLength]

/-- What is in the buffer already stays there, and does not change what is appended. -/
theorem write_of_encode (encoded : packet.encode = .ok bytes) (buffer : Bytes) :
    packet.write buffer = (buffer ++ bytes, .ok ()) := by
  by_cases payload_ne : packet.payload = []
  · simp [encode, write, payload_ne] at encoded
  · rw [encode_eq payload_ne] at encoded
    cases encoded
    simp [write, payload_ne]

theorem writes (packet : DataPacket) : packet.Writes where
  appends := by
    intro payload_ne
    have encoded := encode_eq payload_ne
    exact ⟨_, encoded, length_encode encoded, decode_of_encode encoded, write_of_encode encoded⟩
  refuses := by
    intro payload_eq
    simp [encode, write, payload_eq]

theorem reads (bytes : Bytes) : Reads bytes where
  accepts := by
    intro long
    have read := decode_eq_of_le long
    exact ⟨_, read, encode_of_decode read, isWrittenAs_of_decode read⟩
  refuses_header := by
    intro length_eq
    simp [decode, length_eq, headerLength]
  refuses_short := by
    intro short
    simp [decode, headerLength, short]

/-- Reading and writing are inverse to each other between the packets with a payload and the byte
strings that are longer than a header, and neither does anything else. -/
theorem writes_and_reads (packet : DataPacket) (bytes : Bytes) :
    packet.Writes ∧ Reads bytes :=
  ⟨packet.writes, reads bytes⟩

end DataPacket
end AudioMulticast
