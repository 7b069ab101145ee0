/-
# Reading whole numbers

A whole number is written with ASCII digits, any number of leading zeros, and perhaps a
sign in front. What a place accepts is a range; a number outside it is refused like a
word that is no number at all.
-/

namespace FileChat.Number

/-- The value of a word of one or more ASCII digits. -/
def digitsValue? (word : List Char) : Option Nat :=
  if word.isEmpty || !word.all Char.isDigit then none
  else some (word.foldl (fun n c => 10 * n + (c.toNat - '0'.toNat)) 0)

/-- The value of a word of digits that may have a plus sign in front. -/
def unsignedValue? : List Char → Option Nat
  | '+' :: word => digitsValue? word
  | word => digitsValue? word

/-- A number that `bits` binary digits can hold. -/
def readUnsigned (bits : Nat) (s : String) : Option Nat :=
  (unsignedValue? s.toList).filter (· < Nat.pow 2 bits)

/-- A number that `bits` binary digits can hold, in a place that reads signed numbers and
then checks the range, so that zero may have a minus sign. -/
def readSignedRange (bits : Nat) (s : String) : Option Nat :=
  match s.toList with
  | '-' :: word => (digitsValue? word).filter (· = 0)
  | word => (unsignedValue? word).filter (· < Nat.pow 2 bits)

theorem readUnsigned_lt {bits n : Nat} {s : String} (h : readUnsigned bits s = some n) :
    n < Nat.pow 2 bits := by
  simpa using (Option.filter_eq_some_iff.1 h).2

theorem readSignedRange_lt {bits n : Nat} {s : String} (h : readSignedRange bits s = some n) :
    n < Nat.pow 2 bits := by
  unfold readSignedRange at h
  split at h
  · have : n = 0 := by simpa using (Option.filter_eq_some_iff.1 h).2
    exact this ▸ Nat.two_pow_pos bits
  · simpa using (Option.filter_eq_some_iff.1 h).2

end FileChat.Number
