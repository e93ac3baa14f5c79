import AudioMulticast.Proofs.Broadcast.ValidConfig
import AudioMulticast.Proofs.Wire.ControlMessageText

/-!
# Messages of programs with valid settings

Whatever a receiver or a sender writes is read as a message of the same kind.  Only the name of a
station can change on the way: white space other than single blanks between words passes the checks
of the settings, and is lost when the reply is read.
-/

namespace AudioMulticast
namespace ControlMessage

open Text

/-- A message that a receiver, or a sender with valid settings, can write. -/
inductive IsEmitted : ControlMessage → Prop where
  | lookup : IsEmitted .lookup
  | request (ids : List PacketId) : IsEmitted (.request ids)
  | reply {config : Broadcast.Config} (valid : config.validate = .ok (.ok ())) :
      IsEmitted (.reply config.reply)

/-- A message with the words of its name single blanks apart. -/
def respaced : ControlMessage → ControlMessage
  | .reply sent =>
      .reply { sent with name := String.ofList (unwords (words sent.name.toList)) }
  | message => message

variable {message : ControlMessage}

theorem IsEmitted.named {sent : Reply} (emitted : IsEmitted (.reply sent)) :
    words sent.name.toList ≠ [] := by
  cases emitted with
  | @reply config valid =>
      exact fun none => (Broadcast.Config.validate_eq_ok_iff.mp valid).named (trim_eq_nil none)

theorem respaced_reply_eq_iff {sent : Reply} (named : words sent.name.toList ≠ []) :
    respaced (.reply sent) = .reply sent ↔ Spaced sent.name.toList := by
  rw [← unwords_words_eq_iff named, respaced, ControlMessage.reply.injEq]
  constructor
  · intro same
    have name_eq := congrArg (fun reply : Reply => reply.name.toList) same
    rwa [String.toList_ofList] at name_eq
  · intro restored
    rw [restored, String.ofList_toList]

/-- Every message that is written is read back, with the words of a name single blanks apart.  It is
read as it was written exactly if the words stood so from the start. -/
theorem decode_encode_of_isEmitted (emitted : IsEmitted message) :
    decode message.encode = .ok message.respaced ∧
      (decode message.encode = .ok message ↔
        ∀ sent, message = .reply sent → Spaced sent.name.toList) := by
  have read : decode message.encode = .ok message.respaced := by
    cases message with
    | lookup => exact decode_encode_lookup
    | request ids => exact decode_encode_request ids
    | reply sent => exact decode_encode_reply emitted.named
  refine ⟨read, ?_⟩
  rw [read, Except.ok.injEq]
  cases message with
  | lookup => exact iff_of_true rfl (by rintro _ ⟨⟩)
  | request ids => exact iff_of_true rfl (by rintro _ ⟨⟩)
  | reply sent =>
      rw [respaced_reply_eq_iff emitted.named]
      exact ⟨by rintro spaced _ ⟨⟩; exact spaced, fun spaced => spaced sent rfl⟩

/-- A name of two words with a single blank between them arrives. -/
theorem decode_encode_of_spaced_name :
    decode (encode (.reply ⟨⟨239, 10, 11, 12⟩, 25830, "Radio Joe"⟩)) =
      .ok (.reply ⟨⟨239, 10, 11, 12⟩, 25830, "Radio Joe"⟩) := by
  let config : Broadcast.Config := { group := ⟨239, 10, 11, 12⟩, name := "Radio Joe" }
  have valid : config.validate = .ok (.ok ()) := by decide +kernel
  have spaced : Spaced config.name.toList :=
    (unwords_words_eq_iff (by decide +kernel)).mp (by decide +kernel)
  refine (decode_encode_of_isEmitted (.reply valid)).2.mpr ?_
  rintro _ ⟨⟩
  exact spaced

/-- Settings that pass the checks, with a carriage return inside the name. -/
def twoLinedStation : Broadcast.Config :=
  { group := ⟨239, 10, 11, 12⟩, name := "Radio\rJoe" }

/-- Not every message of a program with valid settings arrives unchanged. -/
theorem not_forall_decode_encode :
    ¬∀ message, IsEmitted message → decode message.encode = .ok message := by
  intro unchanged
  have valid : twoLinedStation.validate = .ok (.ok ()) := by decide +kernel
  have named : words twoLinedStation.reply.name.toList ≠ [] := by decide +kernel
  have read := unchanged _ (.reply valid)
  rw [decode_encode_reply named] at read
  exact absurd read (by decide +kernel)

end ControlMessage
end AudioMulticast
