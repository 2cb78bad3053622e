import QuizBank.Text.Ranges

/-!
# Character classes

The four classes that texts are scanned by: blanks, letters, letters and numbers, and the characters
of a word. Each is decided for ASCII at once and looked up in a table above it.
-/

namespace QuizBank
namespace Text

/-- White space. -/
def isBlank (c : Char) : Bool :=
  let n := c.toNat
  (9 ≤ n && n ≤ 13) || n == 0x20 || n == 0x85 || n == 0xa0 || n == 0x1680
    || (0x2000 ≤ n && n ≤ 0x200a) || n == 0x2028 || n == 0x2029 || n == 0x202f || n == 0x205f
    || n == 0x3000

/-- Letters, and marks that count as letters. -/
def isLetter (c : Char) : Bool :=
  if c.toNat < 128 then c.isAlpha else Ranges.contain Ranges.alphabetic c.toNat

/-- Letters and numbers. -/
def isLetterOrNumber (c : Char) : Bool :=
  if c.toNat < 128 then c.isAlphanum
  else Ranges.contain Ranges.alphabetic c.toNat || Ranges.contain Ranges.numeric c.toNat

/-- Characters of a word: letters, marks, decimal digits, connectors such as the underscore. The
class is that of version 16 of the character database, so the newest letters are not in it. -/
def isWord (c : Char) : Bool :=
  if c.toNat < 128 then c.isAlphanum || c == '_'
  else
    (Ranges.contain Ranges.alphabetic c.toNat || Ranges.contain Ranges.wordOnly c.toNat)
      && !Ranges.contain Ranges.newest c.toNat

/-- A text without the blanks at its two ends. -/
def trim (s : List Char) : List Char :=
  ((s.dropWhile isBlank).reverse.dropWhile isBlank).reverse

/-- Is there anything but blanks in the text? -/
def isBlankText (s : String) : Bool := s.toList.all isBlank

/-- Does the part stand somewhere in the text? -/
def occurs (part : List Char) : List Char → Bool
  | [] => part.isEmpty
  | c :: rest => part.isPrefixOf (c :: rest) || occurs part rest

/-- Are the texts equal when ASCII letters count the same in either case? -/
def equalsIgnoringCase (s t : String) : Bool :=
  s.toList.map Char.toLower == t.toList.map Char.toLower

end Text
end QuizBank
