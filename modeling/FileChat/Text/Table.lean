/-
# Tables of characters

The properties of characters are long tables of the Unicode standard. They are written
here as lines of words with blanks between them: a word is a code point in hexadecimal,
or a range, which is two of them with a hyphen in between. Ranges may run over code
points that their table says nothing about, because nobody asks for them there.
-/
import FileChat.Number.Radix

namespace FileChat.Text.Table

/-- The words of a table. -/
def words (lines : List String) : List (List Char) :=
  lines.flatMap fun line => line.toList.splitOn ' '

/-- The number that a word stands for. -/
def number (word : List Char) : Nat := (Number.valueIn? 16 word).getD 0

/-- The first and the last code point of a word. -/
def range (word : List Char) : Nat × Nat :=
  let ends := word.splitOn '-'
  (number (ends.headD []), number (ends.getLastD []))

/-- The ranges of a table. -/
def ranges (lines : List String) : List (Nat × Nat) := (words lines).map range

/-- Whether a character is in one of some ranges. -/
def covers (ranges : List (Nat × Nat)) (c : Char) : Bool :=
  ranges.any fun (first, last) => first ≤ c.toNat && c.toNat ≤ last

/-- A word made of two parts with a mark between them. -/
def twoParts (mark : Char) (word : List Char) : List Char × List Char :=
  (word.takeWhile (· ≠ mark), (word.dropWhile (· ≠ mark)).drop 1)

end FileChat.Text.Table
