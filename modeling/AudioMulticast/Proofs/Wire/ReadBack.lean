import AudioMulticast.Wire.DataPacket
import Mathlib.Data.List.Induction
import Mathlib.Data.Nat.Digits.Defs
import Mathlib.Data.Nat.ModEq

/-!
# Bytes that are read back

Words, texts and packets are read back from the bytes that are written for them.
-/

namespace AudioMulticast
namespace Bytes

theorem value_concat (front : Bytes) (byte : UInt8) :
    value (front ++ [byte]) = 256 * value front + byte.toNat := by
  simp [value]

theorem value_bigEndian (count number : Nat) :
    value (bigEndian count number) = number % 256 ^ count := by
  induction count generalizing number with
  | zero => simp [bigEndian, value, Nat.mod_one]
  | succ count ih =>
      rw [bigEndian, value_concat, ih, Nat.pow_succ', Nat.mod_mul, UInt8.toNat_ofNat', Nat.add_comm]

@[simp]
theorem length_ofWord (word : Word) : (ofWord word).length = 8 :=
  length_bigEndian 8 word.val

@[simp]
theorem toWord_ofWord (word : Word) : toWord (ofWord word) = word := by
  have below : word.val < 256 ^ 8 := word.isLt
  rw [toWord, ofWord, value_bigEndian, Nat.mod_eq_of_lt below]
  exact Fin.ext (Nat.mod_eq_of_lt word.isLt)

theorem value_eq_ofDigits (bytes : Bytes) :
    value bytes = Nat.ofDigits 256 (bytes.reverse.map UInt8.toNat) := by
  induction bytes using List.reverseRecOn with
  | nil => rfl
  | append_singleton front byte ih => simp [value_concat, ih, Nat.ofDigits_cons, Nat.add_comm]

theorem value_lt (bytes : Bytes) : value bytes < 256 ^ bytes.length := by
  induction bytes using List.reverseRecOn with
  | nil => simp [value]
  | append_singleton front byte ih =>
      have byte_lt : byte.toNat < 256 := byte.toNat_lt
      rw [value_concat, List.length_append, List.length_singleton, Nat.pow_succ]
      omega

/-- Bytes are restored from the number that they stand for. -/
theorem bigEndian_value (bytes : Bytes) : bigEndian bytes.length (value bytes) = bytes := by
  induction bytes using List.reverseRecOn with
  | nil => rfl
  | append_singleton front byte ih =>
      have byte_lt : byte.toNat < 256 := byte.toNat_lt
      have quotient : (256 * value front + byte.toNat) / 256 = value front := by omega
      have last : UInt8.ofNat (256 * value front + byte.toNat) = byte := by
        apply UInt8.toNat_inj.mp
        rw [UInt8.toNat_ofNat']
        omega
      rw [List.length_append, List.length_singleton, bigEndian, value_concat, quotient, last, ih]

theorem val_toWord {bytes : Bytes} (length_eq : bytes.length = 8) :
    (toWord bytes).val = value bytes := by
  have below : value bytes < 256 ^ 8 := length_eq ▸ value_lt bytes
  exact Nat.mod_eq_of_lt below

/-- Eight bytes are restored from their word. -/
theorem ofWord_toWord {bytes : Bytes} (length_eq : bytes.length = 8) :
    ofWord (toWord bytes) = bytes := by
  rw [ofWord, val_toWord length_eq, ← length_eq, bigEndian_value]

/-- Going through the bytes of an array lists them. -/
theorem toList_loop (bytes : ByteArray) (start : Nat) (seen : List UInt8) :
    ByteArray.toList.loop bytes start seen = seen.reverse ++ bytes.data.toList.drop start := by
  induction start, seen using ByteArray.toList.loop.induct bytes with
  | case1 start seen inside ih =>
      have found : bytes.get! start = bytes.data.toList[start] := by
        rw [Array.getElem_toList]
        exact getElem!_pos bytes.data start inside
      rw [ByteArray.toList.loop, if_pos inside, ih, List.drop_eq_getElem_cons inside, found]
      simp
  | case2 start seen outside =>
      have passed : bytes.data.toList.length ≤ start := Nat.le_of_not_lt outside
      rw [ByteArray.toList.loop, if_neg outside, List.drop_eq_nil_of_le passed, List.append_nil]

/-- A text is read back. -/
theorem toText?_ofText (text : List Char) : toText? (ofText text) = some text := by
  have listed : (String.ofList text).toUTF8.toList.toArray = (String.ofList text).toUTF8.data := by
    rw [ByteArray.toList, toList_loop, List.reverse_nil, List.nil_append, List.drop_zero]
  have valid := (String.ofList text).isValidUTF8
  rw [toText?, ofText, listed]
  simp only [String.fromUTF8?, String.toUTF8_eq_toByteArray, dif_pos valid, Option.map_some]
  exact congrArg some String.toList_ofList

/-- A text is written one character after another. -/
theorem ofText_eq_flatMap (text : List Char) :
    ofText text = text.flatMap String.utf8EncodeChar := by
  rw [ofText, ByteArray.toList, toList_loop, List.reverse_nil, List.nil_append, List.drop_zero,
    String.toUTF8_eq_toByteArray, String.toByteArray_ofList, List.utf8Encode,
    List.data_toByteArray]

end Bytes

namespace DataPacket

theorem encode_eq {packet : DataPacket} (payload_ne : packet.payload ≠ []) :
    packet.encode =
      .ok ((Bytes.ofWord packet.session ++ Bytes.ofWord packet.id) ++ packet.payload) := by
  simp [encode, write, payload_ne]

/-- What is written is read back. -/
theorem decode_of_encode {packet : DataPacket} {bytes : Bytes}
    (encoded : packet.encode = .ok bytes) : decode bytes = .ok packet := by
  by_cases payload_ne : packet.payload = []
  · simp [encode, write, payload_ne] at encoded
  · rw [encode_eq payload_ne] at encoded
    cases encoded
    have header_length :
        (Bytes.ofWord packet.session ++ Bytes.ofWord packet.id).length = headerLength := by
      simp [headerLength]
    have payload_eq :
        ((Bytes.ofWord packet.session ++ Bytes.ofWord packet.id) ++ packet.payload).drop
            headerLength = packet.payload :=
      List.drop_left' header_length
    rw [decode, payload_eq, if_neg payload_ne, if_neg]
    · simp
    · rw [List.length_append, header_length]
      exact Nat.not_lt.mpr (Nat.le_add_right _ _)

end DataPacket
end AudioMulticast
