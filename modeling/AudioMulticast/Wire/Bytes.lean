import AudioMulticast.Word

/-!
# Byte sequences

Datagrams and payloads are lists of bytes.  Words are written most significant byte first, and texts
are written in UTF-8.
-/

namespace AudioMulticast

/-- A sequence of bytes. -/
abbrev Bytes := List UInt8

namespace Bytes

/-- The last `count` digits of a number in base 256, most significant first. -/
def bigEndian : Nat → Nat → Bytes
  | 0, _ => []
  | count + 1, value => bigEndian count (value / 256) ++ [UInt8.ofNat value]

/-- The number whose digits in base 256 are given, most significant first. -/
def value (bytes : Bytes) : Nat :=
  bytes.foldl (fun sum byte => 256 * sum + byte.toNat) 0

/-- The eight bytes of a word. -/
def ofWord (word : Word) : Bytes :=
  bigEndian 8 word.val

/-- The word that eight bytes stand for. -/
def toWord (bytes : Bytes) : Word :=
  Fin.ofNat Word.count (value bytes)

/-- A text in UTF-8. -/
def ofText (text : List Char) : Bytes :=
  (String.ofList text).toUTF8.toList

/-- The text that is written in UTF-8, unless the bytes are not a text. -/
def toText? (bytes : Bytes) : Option (List Char) :=
  (String.fromUTF8? ⟨bytes.toArray⟩).map String.toList

@[simp]
theorem length_bigEndian (count value : Nat) : (bigEndian count value).length = count := by
  induction count generalizing value with
  | zero => rfl
  | succ count ih => simp [bigEndian, ih]

end Bytes
end AudioMulticast
