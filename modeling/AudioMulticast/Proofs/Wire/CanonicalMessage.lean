import AudioMulticast.Proofs.Wire.ControlMessageText

/-!
# Messages in canonical form

Reading is lenient, so that many texts stand for one message.  Whatever text a message is read from,
the message itself is in canonical form, and a message is read back as it was written exactly if it is
in that form.
-/

namespace AudioMulticast
namespace ControlMessage

open Text

/-- Messages in canonical form: the words of a name stand single blanks apart. -/
inductive IsCanonical : ControlMessage → Prop where
  | lookup : IsCanonical .lookup
  | request (ids : List PacketId) : IsCanonical (.request ids)
  | reply {sent : Reply} (spaced : Spaced sent.name.toList) : IsCanonical (.reply sent)

variable {text : List Char} {bytes : Bytes} {message : ControlMessage} {sent : Reply}

/-- The words of a name are put in order when they are read. -/
theorem spaced_of_readReply? (read : readReply? text = some sent) : Spaced sent.name.toList := by
  unfold readReply? at read
  split at read
  · rename_i address port name more words_eq
    obtain ⟨address, -, read⟩ := Option.bind_eq_some_iff.mp read
    obtain ⟨port, -, read⟩ := Option.bind_eq_some_iff.mp read
    cases read
    have isWord : ∀ part ∈ name :: more, IsWord part := by
      intro part member
      apply isWord_of_mem_words
      rw [words_eq]
      exact List.mem_cons_of_mem _ (List.mem_cons_of_mem _ member)
    exact ⟨name :: more, List.cons_ne_nil _ _, isWord, String.toList_ofList⟩
  · cases read

theorem isCanonical_of_ofLine (read : ofLine text = .ok message) : message.IsCanonical := by
  unfold ofLine at read
  split at read
  · cases read
    exact .lookup
  · split at read
    · split at read
      · rename_i sent found
        cases read
        exact .reply (spaced_of_readReply? found)
      · cases read
    · split at read
      · cases read
        exact .request _
      · cases read

theorem isCanonical_of_decode (read : decode bytes = .ok message) : message.IsCanonical := by
  unfold decode at read
  split at read
  · exact isCanonical_of_ofLine read
  · cases read

theorem IsCanonical.decode_encode (canonical : message.IsCanonical) :
    decode message.encode = .ok message := by
  cases canonical with
  | lookup => exact decode_encode_lookup
  | request ids => exact decode_encode_request ids
  | @reply sent spaced =>
      have named := spaced.words_ne_nil
      rw [decode_encode_reply named, (unwords_words_eq_iff named).mpr spaced, String.ofList_toList]

/-- The messages in canonical form are those that can be read from some bytes. -/
theorem exists_decode_eq_ok_iff : (∃ bytes, decode bytes = .ok message) ↔ message.IsCanonical :=
  ⟨fun ⟨_, read⟩ => isCanonical_of_decode read, fun canonical => ⟨_, canonical.decode_encode⟩⟩

/-- What is read from any bytes is in canonical form, and written again it is read as the same
message. -/
theorem decode_encode_of_decode (read : decode bytes = .ok message) :
    message.IsCanonical ∧ decode message.encode = .ok message := by
  have canonical := isCanonical_of_decode read
  exact ⟨canonical, canonical.decode_encode⟩

/-- A reply with a sign and a leading zero at its port, white space of all kinds between its words, and
two line ends. -/
def untidyReply : List Char :=
  "BOREWICZ_HERE \t239.0.0.1\u2003+02000  a\rb \u0085 c\r\n\n".toList

theorem decode_encode_of_untidyReply :
    decode (Bytes.ofText untidyReply) = .ok (.reply ⟨⟨239, 0, 0, 1⟩, 2000, "a b c"⟩) ∧
      decode (encode (.reply ⟨⟨239, 0, 0, 1⟩, 2000, "a b c"⟩)) =
        .ok (.reply ⟨⟨239, 0, 0, 1⟩, 2000, "a b c"⟩) := by
  have read : decode (Bytes.ofText untidyReply) =
      .ok (.reply ⟨⟨239, 0, 0, 1⟩, 2000, "a b c"⟩) := by
    rw [decode_ofText]
    decide +kernel
  exact ⟨read, (decode_encode_of_decode read).2⟩

end ControlMessage
end AudioMulticast
