/-
# Punycode

A label of a domain name that is not all ASCII is sent as one that is. Its ASCII
characters come first; behind the last hyphen, a number for each other character says how
far the place and the code point are from those of the character before, in the order of
code points. The digits of a number have weights that depend on the numbers before it, so
that usual labels stay short.
-/

namespace FileChat.Url.Punycode

/-- How many digits there are. -/
def base : Nat := 36

/-- The largest threshold. -/
def maxThreshold : Nat := 26

/-- The bias before the first number. -/
def firstBias : Nat := 72

/-- The first code point that is not ASCII. -/
def firstCode : Nat := 0x80

/-- Sums and weights stay below this, or the text is refused. -/
def limit : Nat := 0x100000000

/-- The digit of a value: letters, then ASCII digits. -/
def digit (value : Nat) : Char :=
  if value < 26 then Char.ofNat ('a'.toNat + value) else Char.ofNat ('0'.toNat + (value - 26))

/-- The value of a digit. -/
def value? (c : Char) : Option Nat :=
  if 'a' ≤ c ∧ c ≤ 'z' then some (c.toNat - 'a'.toNat)
  else if '0' ≤ c ∧ c ≤ '9' then some (c.toNat - '0'.toNat + 26)
  else none

/-- A digit below the threshold of its position is the last of its number. -/
def threshold (position bias : Nat) : Nat :=
  max 1 (min maxThreshold (base * (position + 1) - bias))

theorem threshold_bounds (position bias : Nat) :
    1 ≤ threshold position bias ∧ threshold position bias ≤ maxThreshold := by
  unfold threshold maxThreshold
  omega

/-- The bias for a number that is usually as large as `scaled`. -/
def biasFor (scaled : Nat) : Nat :=
  if 455 < scaled then base + biasFor (scaled / 35) else base * scaled / (scaled + 38)
termination_by scaled
decreasing_by exact Nat.div_lt_self (by omega) (by omega)

/-- The bias after a number, once there are `count` characters. The first number is larger
than those after it. -/
def adapt (number count : Nat) (isFirst : Bool) : Nat :=
  let halved := if isFirst then number / 700 else number / 2
  biasFor (halved + halved / count)

/-! ## Encoding -/

/-- The digits of a number, from a position on. -/
def digitsFrom (bias position number : Nat) : List Char :=
  let t := threshold position bias
  if number < t then [digit number]
  else
    digit (t + (number - t) % (base - t)) ::
      digitsFrom bias (position + 1) ((number - t) / (base - t))
termination_by number
decreasing_by
  have bounds := threshold_bounds position bias
  exact Nat.lt_of_le_of_lt (Nat.div_le_self _ _) (by omega)

/-- A text that is being encoded. -/
structure Encoder where
  /-- The digits written so far. -/
  digits : List Char
  /-- How many characters are written. -/
  written : Nat
  /-- The number that belongs to the next character. -/
  number : Nat
  bias : Nat

namespace Encoder

/-- Go past a character while those with one code point are written. -/
def pass (ascii code : Nat) (e : Encoder) (c : Char) : Encoder :=
  if c.toNat < code then { e with number := e.number + 1 }
  else if c.toNat = code then
    { digits := e.digits ++ digitsFrom e.bias 0 e.number
      written := e.written + 1
      number := 0
      bias := adapt e.number (e.written + 1) (e.written = ascii) }
  else e

/-- Write the characters of a text that have the given code points, which increase; `code`
is the code point up to which all is written. -/
def write (text : List Char) (ascii : Nat) : List Nat → Nat → Encoder → Encoder
  | [], _, e => e
  | next :: later, code, e =>
    let e := { e with number := e.number + (next - code) * (e.written + 1) }
    let e := text.foldl (pass ascii next) e
    write text ascii later (next + 1) { e with number := e.number + 1 }

end Encoder

/-- The encoded form of a text. -/
def encode (text : List Char) : List Char :=
  let ascii := text.filter fun c => c.toNat < firstCode
  let others := (text.map Char.toNat).filter fun code => firstCode ≤ code
  let e := Encoder.write text ascii.length (others.mergeSort).eraseDups firstCode
    ⟨[], ascii.length, 0, firstBias⟩
  ascii ++ (if ascii.isEmpty then [] else ['-']) ++ e.digits

/-! ## Decoding -/

/-- A text that is being decoded. -/
structure Decoder where
  /-- What is put together so far. -/
  text : List Char
  /-- The code point of the character that was put in last. -/
  code : Nat
  /-- The place behind that character. -/
  place : Nat
  bias : Nat
  /-- The value of the digits of the number in progress. -/
  number : Nat
  /-- What its next digit counts. -/
  weight : Nat
  /-- How many of its digits were read. -/
  position : Nat

namespace Decoder

/-- Put in the character that a number stands for. -/
def insert (d : Decoder) (number : Nat) : Option Decoder :=
  let count := d.text.length + 1
  let code := d.code + (d.place + number) / count
  let place := (d.place + number) % count
  if code.isValidChar then
    some {
      text := d.text.take place ++ Char.ofNat code :: d.text.drop place
      code
      place := place + 1
      bias := adapt number count (d.place = 0)
      number := 0
      weight := 1
      position := 0 }
  else none

/-- Read a digit. -/
def step (d : Decoder) (c : Char) : Option Decoder := do
  let value ← value? c
  let number := d.number + value * d.weight
  if limit ≤ d.place + number then none
  else
    let t := threshold d.position d.bias
    if value < t then d.insert number
    else
      let weight := d.weight * (base - t)
      if limit ≤ weight then none
      else some { d with number, weight, position := d.position + 1 }

end Decoder

/-- The text with an encoded form. Capitals have to be small letters by then. -/
def decode? (word : List Char) : Option (List Char) := do
  let after := (word.reverse.takeWhile (· ≠ '-')).reverse
  let before := word.take (word.length - after.length - 1)
  let digits := if before.isEmpty then word else after
  let d ← digits.foldlM Decoder.step ⟨before, firstCode, 0, firstBias, 0, 1, 0⟩
  if d.position = 0 then return d.text else none

end FileChat.Url.Punycode
