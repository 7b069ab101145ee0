/-
# Binary floating point

A temperature is a number of the IEEE interchange format `binary32`. The format is kept
as its bits, and a decimal numeral is rounded to it in exact arithmetic: the nearest
number of the format, and of two equally near ones the one whose last bit is zero.
-/
import FileChat.Number.Natural

namespace FileChat.Number

/-- A binary interchange format. A positive number is `m * 2 ^ q` with `m` below
`2 ^ precision` and `q` at least `leastExponent`; the bits of infinity come right after
those of the largest number. -/
structure Format where
  precision : Nat
  leastExponent : Int
  infinityBits : Nat

/-- Single precision. -/
def binary32 : Format := ⟨24, -149, 0x7F800000⟩

/-- Double precision. -/
def binary64 : Format := ⟨53, -1074, 0x7FF0000000000000⟩

/-- A fraction rounded to a whole number, a half to the even neighbour. -/
def roundHalfEven (num den : Nat) : Nat :=
  let q := num / den
  let twice := 2 * (num % den)
  if twice < den then q
  else if twice = den then (if q % 2 = 0 then q else q + 1)
  else q + 1

/-- `num / den * 2 ^ (-shift)` as a fraction. -/
def scaled (num den : Nat) (shift : Int) : Nat × Nat :=
  if 0 ≤ shift then (num, den * Nat.pow 2 shift.toNat)
  else (num * Nat.pow 2 (-shift).toNat, den)

/-- The largest `e` with `2 ^ e ≤ num / den`, for a positive fraction. -/
def floorLog2 (num den : Nat) : Int :=
  let guess : Int := (num.log2 : Int) - (den.log2 : Int)
  let (n, d) := scaled num den guess
  if n < d then guess - 1 else guess

namespace Format

/-- The bits, without sign, of the number of the format nearest to `num / den`. Bits of
equal exponent are consecutive and so are the ranges of consecutive exponents, so a
numeral that rounds up to a power of two, or past the largest number, needs no case of
its own. -/
def nearest (f : Format) (num den : Nat) : Nat :=
  if num = 0 then 0
  else
    let q := max f.leastExponent (floorLog2 num den - (f.precision - 1 : Nat))
    let (n, d) := scaled num den q
    let m := roundHalfEven n d
    min f.infinityBits ((q - f.leastExponent).toNat * Nat.pow 2 (f.precision - 1) + m)

/-- The fraction that finite bits, without sign, stand for. -/
def fraction (f : Format) (bits : Nat) : Nat × Nat :=
  let unit := Nat.pow 2 (f.precision - 1)
  let m := if bits < unit then bits else unit + bits % unit
  let binade : Nat := if bits < unit then 0 else bits / unit - 1
  let q : Int := f.leastExponent + (binade : Int)
  if 0 ≤ q then (m * Nat.pow 2 q.toNat, 1) else (m, Nat.pow 2 (-q).toNat)

end Format

/-- A decimal numeral: `digits * 10 ^ exponent`, with a sign. -/
structure Decimal where
  negative : Bool
  digits : Nat
  exponent : Int
  deriving Repr, DecidableEq

namespace Decimal

/-- The magnitude of a numeral as a fraction. -/
def fraction (d : Decimal) : Nat × Nat :=
  if 0 ≤ d.exponent then (d.digits * Nat.pow 10 d.exponent.toNat, 1)
  else (d.digits, Nat.pow 10 (-d.exponent).toNat)

/-- The bits, without sign, of the number nearest to a numeral. Numerals of more than
`10 ^ 310` or less than `10 ^ -400` are outside every format in use, and are settled
without writing out their powers of ten. -/
def nearest (f : Format) (d : Decimal) : Nat :=
  let places : Int := (d.digits.log2 / 3 + 1 : Nat)
  if d.digits = 0 then 0
  else if d.exponent > 310 then f.infinityBits
  else if d.exponent + places < -400 then 0
  else
    let (num, den) := d.fraction
    f.nearest num den

end Decimal

/-- A single-precision number, by its bits. -/
structure Binary32 where
  bits : UInt32
  deriving Repr, DecidableEq, Inhabited

namespace Binary32

/-- Magnitude bits with a sign. -/
def ofMagnitude (negative : Bool) (bits : Nat) : Binary32 :=
  ⟨UInt32.ofNat (if negative then 0x80000000 + bits else bits)⟩

/-- The number nearest to a numeral. -/
def ofDecimal (d : Decimal) : Binary32 := ofMagnitude d.negative (d.nearest binary32)

/-- The number that a numeral becomes when it is held in double precision first. -/
def ofDoubledDecimal (d : Decimal) : Binary32 :=
  let wide := d.nearest binary64
  if wide = binary64.infinityBits then ofMagnitude d.negative binary32.infinityBits
  else
    let (num, den) := binary64.fraction wide
    ofMagnitude d.negative (binary32.nearest num den)

/-- An infinity. -/
def infinity (negative : Bool) : Binary32 := ofMagnitude negative binary32.infinityBits

/-- The quiet value that is no number. -/
def nan : Binary32 := ⟨0x7FC00000⟩

/-- Whether the value is no number. -/
def isNan (x : Binary32) : Bool := x.bits.toNat % 0x80000000 > 0x7F800000

/-- Whether the value is a number other than the infinities. -/
def isFinite (x : Binary32) : Bool := x.bits.toNat % 0x80000000 < 0x7F800000

/-- The words for values that have no digits, in lower case. -/
def ofWord (negative : Bool) (word : List Char) : Option Binary32 :=
  if word = "inf".toList || word = "infinity".toList then some (infinity negative)
  else if word = "nan".toList then some nan
  else none

/-- The exponent at the end of a numeral: nothing, or a mark and a signed whole number. -/
def readExponent : List Char → Option Int
  | [] => some 0
  | c :: rest =>
    if c = 'e' || c = 'E' then
      match rest with
      | '-' :: word => (digitsValue? word).map fun n => -(n : Int)
      | '+' :: word => (digitsValue? word).map fun n => (n : Int)
      | word => (digitsValue? word).map fun n => (n : Int)
    else none

/-- A numeral without its sign: digits with an optional point, at least one digit in all,
and an optional exponent. -/
def readNumeral (negative : Bool) (word : List Char) : Option Decimal := do
  let whole := word.takeWhile Char.isDigit
  let rest := word.dropWhile Char.isDigit
  let (places, tail) := match rest with
    | '.' :: after => (after.takeWhile Char.isDigit, after.dropWhile Char.isDigit)
    | _ => ([], rest)
  let digits ← digitsValue? (whole ++ places)
  let exponent ← readExponent tail
  return ⟨negative, digits, exponent - places.length⟩

/-- Read a number: an optional sign, then a numeral or, in any case of letters, a word for
infinity or for no number. -/
def read (s : String) : Option Binary32 :=
  let (negative, word) := match s.toList with
    | '-' :: word => (true, word)
    | '+' :: word => (false, word)
    | word => (false, word)
  match ofWord negative (word.map Char.toLower) with
  | some x => some x
  | none => (readNumeral negative word).map ofDecimal

end Binary32

end FileChat.Number
