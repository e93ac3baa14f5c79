import AudioMulticast.Text.Unprintable

/-!
# Quoted text

A text inside an error message stands between double quotes.  Quotes and backslashes are escaped, the
usual control characters have short names, and every other character that is not printable is named
by its code point in lower-case base sixteen, as in `\u{ad}`.  An apostrophe stays as it is.
-/

namespace AudioMulticast
namespace Text
namespace Quoted

/-- A character named by its code point. -/
def codePoint (c : Char) : List Char :=
  ['\\', 'u', '\x7b'] ++ Nat.toDigits 16 c.toNat ++ ['\x7d']

/-- How a character is written inside a quoted text. -/
def escape (c : Char) : List Char :=
  if c = '"' then ['\\', '"']
  else if c = '\\' then ['\\', '\\']
  else if c = '\n' then ['\\', 'n']
  else if c = '\r' then ['\\', 'r']
  else if c = '\t' then ['\\', 't']
  else if c = '\x00' then ['\\', '0']
  else if isUnprintable c then codePoint c
  else [c]

/-- A text between double quotes, with its special characters escaped. -/
def encode (text : List Char) : List Char :=
  '"' :: text.flatMap escape ++ ['"']

end Quoted

/-- The quoted form of a string. -/
def quote (text : String) : String :=
  String.ofList (Quoted.encode text.toList)

end Text
end AudioMulticast
