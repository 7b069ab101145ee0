/-
# Fresh session ids

A session that is begun without a name gets a random one: sixteen random bytes in
hexadecimal, in five groups, with the marks of a random identifier of version four.
-/
import FileChat.Number.Radix

namespace FileChat.Client

/-- Put the version and the variant into random bytes. -/
def marked (random : List UInt8) : List UInt8 :=
  random.zipIdx.map fun numbered =>
    if numbered.2 = 6 then numbered.1 &&& 0x0F ||| 0x40
    else if numbered.2 = 8 then numbered.1 &&& 0x3F ||| 0x80
    else numbered.1

/-- Cut a text into pieces of given lengths. -/
def groups : List Nat → List Char → List (List Char)
  | [], _ => []
  | n :: lengths, text => text.take n :: groups lengths (text.drop n)

/-- The id that sixteen random bytes make. -/
def freshId (random : List UInt8) : String :=
  let digits := (marked random).flatMap Number.byteDigits
  "-".intercalate ((groups [8, 4, 4, 4, 12] digits).map String.ofList)

end FileChat.Client
