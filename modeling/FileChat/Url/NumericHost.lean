/-
# Numeric hosts

A host can be given by its number: four bytes with dots between them, which may also be
written in other bases and with fewer parts, or eight groups of sixteen bits in brackets,
where two colons stand for groups of zeros.
-/
import FileChat.Number.Natural
import FileChat.Number.Radix

namespace FileChat.Url.NumericHost

/-! ## Four bytes -/

/-- A part of a numeric host: decimal, or octal or hexadecimal by its beginning. -/
def part? : List Char → Option Nat
  | [] => none
  | '0' :: 'x' :: word => Number.valueIn? 16 word
  | '0' :: word => Number.valueIn? 8 word
  | word => Number.valueIn? 10 word

/-- The parts of a name. A dot at the end does not count. -/
def parts (name : List Char) : List (List Char) :=
  let all := name.splitOn '.'
  if 1 < all.length && all.getLast? = some [] then all.dropLast else all

/-- Whether a name has to be a number: its last part looks like one. -/
def looksNumeric (name : List Char) : Bool :=
  match (parts name).getLast? with
  | some last =>
    (!last.isEmpty && last.all Char.isDigit) || (last.take 2 = ['0', 'x'] && (part? last).isSome)
  | none => false

/-- The number of a host, the last part of which fills up what the others leave. -/
def number? (name : List Char) : Option Nat := do
  let numbers ← (parts name).mapM part?
  let last ← numbers.getLast?
  let first := numbers.dropLast
  let room := Nat.pow 256 (4 - first.length)
  if 4 < numbers.length || first.any (255 < ·) || room ≤ last then none
  else return first.foldl (fun value part => value * 256 + part) 0 * room + last

/-- Four bytes with dots between them. -/
def dotted (n : Nat) : String :=
  ".".intercalate ([0x1000000, 0x10000, 0x100, 1].map fun unit => toString (n / unit % 256))

/-! ## Eight groups -/

/-- How many groups there are. -/
def groupCount : Nat := 8

/-- A group of sixteen bits: one to four hexadecimal digits. -/
def group? (word : List Char) : Option Nat :=
  if word.isEmpty || 4 < word.length then none else Number.valueIn? 16 word

/-- A byte in decimal without zeros in front. -/
def byte? (word : List Char) : Option Nat :=
  if 1 < word.length && word.head? = some '0' then none
  else (Number.digitsValue? word).filter (· < 256)

/-- The two groups that four bytes with dots between them make. -/
def dottedGroups? (word : List Char) : Option (List Nat) :=
  match (word.splitOn '.').mapM byte? with
  | some [a, b, c, d] => some [a * 256 + b, c * 256 + d]
  | _ => none

/-- The groups of some words, the last of which may be four bytes if nothing comes after
it. -/
def groupsOf? (atEnd : Bool) : List (List Char) → Option (List Nat)
  | [] => some []
  | [word] => if atEnd && word.contains '.' then dottedGroups? word else (group? word).map ([·])
  | word :: later => do return (← group? word) :: (← groupsOf? atEnd later)

/-- The groups of a text with colons between them. An empty text has none. -/
def groupsIn? (atEnd : Bool) (text : List Char) : Option (List Nat) :=
  if text.isEmpty then some [] else groupsOf? atEnd (text.splitOn ':')

/-- What is before and after the first two colons in a row. -/
def cutAtGap : List Char → Option (List Char × List Char)
  | ':' :: ':' :: after => some ([], after)
  | c :: later => (cutAtGap later).map fun (before, after) => (c :: before, after)
  | [] => none

/-- The eight groups of a text. A gap stands for at least one group. -/
def groups? (text : List Char) : Option (List Nat) := do
  match cutAtGap text with
  | some (before, after) =>
    let first ← groupsIn? false before
    let last ← groupsIn? true after
    let written := first.length + last.length
    if groupCount ≤ written then none
    else return first ++ List.replicate (groupCount - written) 0 ++ last
  | none =>
    let all ← groupsOf? true (text.splitOn ':')
    if all.length = groupCount then return all else none

/-- How many zeros a list begins with. -/
def zerosAhead (groups : List Nat) : Nat := (groups.takeWhile (· = 0)).length

/-- The place and the length of the longest run of zeros, the first of several. -/
def longestZeros (groups : List Nat) : Nat × Nat :=
  (List.range groups.length).foldl
    (fun best place =>
      let length := zerosAhead (groups.drop place)
      if best.2 < length then (place, length) else best)
    (0, 0)

/-- Groups with colons between them. -/
def joined (groups : List Nat) : String :=
  ":".intercalate (groups.map fun group => String.ofList (Nat.toDigits 16 group))

/-- Eight groups in brackets, with a gap for the longest run of more than one zero. -/
def bracketed (groups : List Nat) : String :=
  let (place, length) := longestZeros groups
  if length < 2 then "[" ++ joined groups ++ "]"
  else "[" ++ joined (groups.take place) ++ "::" ++ joined (groups.drop (place + length)) ++ "]"

end FileChat.Url.NumericHost
