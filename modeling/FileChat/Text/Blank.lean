/-
# Blank and control characters

Two classes of characters decide how a conversation is read: blank characters, which
surround words and fill empty lines, and control characters, which a reply may not carry
into the file. Both are properties of single characters, so every operation here keeps
or drops characters one by one.
-/

namespace FileChat.Text

/-- The characters with the Unicode property `White_Space`. -/
def isBlank (c : Char) : Bool :=
  let n := c.toNat
  (9 ≤ n && n ≤ 13) || n == 0x20 || n == 0x85 || n == 0xA0 || n == 0x1680 ||
    (0x2000 ≤ n && n ≤ 0x200A) || n == 0x2028 || n == 0x2029 || n == 0x202F ||
    n == 0x205F || n == 0x3000

/-- The characters of general category `Cc`: the two blocks of control codes. -/
def isControl (c : Char) : Bool :=
  c.toNat < 0x20 || (0x7F ≤ c.toNat && c.toNat < 0xA0)

/-- A text all of whose characters are blank; the empty text is one. -/
def isBlankText (text : List Char) : Bool := text.all isBlank

/-- Remove the longest run of characters with property `p` at the end. -/
def dropEndWhile (p : Char → Bool) (text : List Char) : List Char :=
  (text.reverse.dropWhile p).reverse

/-- Remove leading blanks. -/
def trimStart (text : List Char) : List Char := text.dropWhile isBlank

/-- Remove trailing blanks. -/
def trimEnd (text : List Char) : List Char := dropEndWhile isBlank text

/-- Remove blanks on both sides. -/
def trim (text : List Char) : List Char := trimEnd (trimStart text)

/-- The text after a given beginning, if it has that beginning. -/
def afterMark : List Char → List Char → Option (List Char)
  | [], text => some text
  | _ :: _, [] => none
  | m :: mark, c :: text => if m = c then afterMark mark text else none

/-- A string all of whose characters are blank. -/
def isBlankString (s : String) : Bool := isBlankText s.toList

/-- Trim a string on both sides. -/
def trimString (s : String) : String := String.ofList (trim s.toList)

/-- A text that was put behind a mark is what comes after it. -/
@[simp] theorem afterMark_append (mark text : List Char) :
    afterMark mark (mark ++ text) = some text := by
  induction mark with
  | nil => rfl
  | cons m mark ih => simp [afterMark, ih]

/-- A text that has something after the mark is the mark and that. -/
theorem eq_append_of_afterMark {mark text rest : List Char}
    (h : afterMark mark text = some rest) : text = mark ++ rest := by
  induction mark generalizing text with
  | nil =>
    rw [afterMark] at h
    exact Option.some.inj h
  | cons m mark ih =>
    cases text with
    | nil => cases h
    | cons c text =>
      rw [afterMark] at h
      split at h
      · next hsame => rw [hsame, ih h, List.cons_append]
      · cases h

/-- What ends with a character outside `p` loses nothing. -/
theorem dropEndWhile_append_singleton (p : Char → Bool) (text : List Char) (c : Char) :
    dropEndWhile p (text ++ [c]) = if p c then dropEndWhile p text else text ++ [c] := by
  cases h : p c <;> simp [dropEndWhile, h]

end FileChat.Text
