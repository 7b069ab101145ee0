/-
# Digits of other bases

Numbers are written in base eight, ten or sixteen; letters of either case are the digits
above nine.
-/

namespace FileChat.Number

/-- The value of a digit in a base of at most thirty-six. -/
def digitIn? (base : Nat) (c : Char) : Option Nat :=
  let value :=
    if '0' ≤ c ∧ c ≤ '9' then c.toNat - '0'.toNat
    else if 'a' ≤ c ∧ c ≤ 'z' then c.toNat - 'a'.toNat + 10
    else if 'A' ≤ c ∧ c ≤ 'Z' then c.toNat - 'A'.toNat + 10
    else base
  if value < base then some value else none

/-- The value of a word of digits in a base. No digits at all are zero. -/
def valueIn? (base : Nat) (word : List Char) : Option Nat :=
  word.foldlM (fun n c => (digitIn? base c).map (n * base + ·)) 0

/-- The two hexadecimal digits of a byte. -/
def byteDigits (b : UInt8) : List Char :=
  let digits := Nat.toDigits 16 b.toNat
  List.replicate (2 - digits.length) '0' ++ digits

end FileChat.Number
