/-!
# White space

The characters with the property White_Space, and the three cuts of a text that use it: trimming at
the front, trimming at both ends, and splitting into words.
-/

namespace AudioMulticast
namespace Text

/-- The characters with the property White_Space. -/
def isBlank (c : Char) : Bool :=
  let code := c.toNat
  (0x09 ≤ code && code ≤ 0x0d) || code == 0x20 || code == 0x85 || code == 0xa0 ||
    code == 0x1680 || (0x2000 ≤ code && code ≤ 0x200a) || code == 0x2028 || code == 0x2029 ||
    code == 0x202f || code == 0x205f || code == 0x3000

/-- A text without the white space at its front. -/
def trimStart (text : List Char) : List Char :=
  text.dropWhile isBlank

/-- A text without those characters at its end that satisfy a test. -/
def dropEndWhile (test : Char → Bool) (text : List Char) : List Char :=
  (text.reverse.dropWhile test).reverse

/-- A text without the white space at its front and at its end. -/
def trim (text : List Char) : List Char :=
  dropEndWhile isBlank (trimStart text)

/-- The maximal parts of a text that hold no white space, in order. -/
def words (text : List Char) : List (List Char) :=
  (text.splitOnP isBlank).filter (!·.isEmpty)

/-- Words joined by single blanks. -/
def unwords (parts : List (List Char)) : List Char :=
  [' '].intercalate parts

end Text
end AudioMulticast
