/-
# Lengths of time

A length of time is a number of nanoseconds. It is written in the largest unit that makes
its whole part nonzero, with as many decimal places as it needs.
-/

namespace FileChat

/-- A length of time. -/
structure Duration where
  nanoseconds : Nat
  deriving Repr, DecidableEq, Inhabited

namespace Duration

/-- Nanoseconds in a second. -/
def perSecond : Nat := 1000000000

/-- So many seconds. -/
def ofSeconds (n : Nat) : Duration := ⟨n * perSecond⟩

/-- So many milliseconds. -/
def ofMilliseconds (n : Nat) : Duration := ⟨n * 1000000⟩

/-- How many milliseconds it has, rounded down. -/
def milliseconds (d : Duration) : Nat := d.nanoseconds / 1000000

/-- How many seconds it has, rounded down. -/
def seconds (d : Duration) : Nat := d.nanoseconds / perSecond

/-- The digits after the point when `rest` out of `10 ^ places` is left over: padded to
`places` digits, with the zeros at the end dropped. -/
def fractionDigits (places rest : Nat) : List Char :=
  let digits := Nat.toDigits 10 rest
  let padded := List.replicate (places - digits.length) '0' ++ digits
  (padded.reverse.dropWhile (· = '0')).reverse

/-- A number of nanoseconds in a unit of `10 ^ places` nanoseconds. -/
def inUnit (n places : Nat) (unit : String) : String :=
  let whole := toString (n / Nat.pow 10 places)
  let rest := n % Nat.pow 10 places
  if rest = 0 then whole ++ unit
  else whole ++ "." ++ String.ofList (fractionDigits places rest) ++ unit

/-- A length of time as a message shows it. -/
def text (d : Duration) : String :=
  let n := d.nanoseconds
  if perSecond ≤ n then inUnit n 9 "s"
  else if 1000000 ≤ n then inUnit n 6 "ms"
  else if 1000 ≤ n then inUnit n 3 "µs"
  else inUnit n 0 "ns"

end Duration

end FileChat
