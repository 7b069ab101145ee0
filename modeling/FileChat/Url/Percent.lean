/-
# Percent encoding

What may not stand in a part of an address is written as the bytes of its UTF-8 form, each
a percent sign with two hexadecimal digits. Every part has characters of its own that have
to be encoded; control characters and all that are not ASCII have to be in any part.
-/
import FileChat.Number.Radix
import FileChat.Text.Utf8

namespace FileChat.Url.Percent

/-- A byte as it is written. -/
def ofByte (b : UInt8) : List Char := '%' :: (Number.byteDigits b).map Char.toUpper

/-- A class of characters besides control characters and those that are not ASCII. -/
abbrev Class := Char → Bool

/-- No other characters. -/
def nothing : Class := fun _ => false

/-- What is encoded in a query: blanks and what would end or enclose an address. -/
def query : Class := fun c => " \"#<>".toList.contains c

/-- What is encoded in a query whose scheme has hosts. -/
def hostedQuery : Class := fun c => query c || c = '\''

/-- What is encoded in a fragment. -/
def fragment : Class := fun c => " \"<>".toList.contains c || c.toNat = 0x60

/-- What is encoded in a path. -/
def path : Class := fun c =>
  query c || c = '?' || c.toNat = 0x60 || c.toNat = 0x7B || c.toNat = 0x7D

/-- What is encoded in the name and the password of a user. -/
def user : Class := fun c => path c || "/:;=@[\\]^|".toList.contains c

/-- Whether a character has to be encoded. -/
def isEncoded (others : Class) (c : Char) : Bool :=
  c.toNat < 0x20 || 0x7F ≤ c.toNat || others c

/-- Encode what has to be. -/
def encode (others : Class) (text : List Char) : List Char :=
  text.flatMap fun c =>
    if isEncoded others c then (String.utf8EncodeChar c).flatMap ofByte else [c]

/-- The bytes of a text in which some are written with percent signs. A percent sign that no
two digits follow stands for itself. -/
def decode : List Char → Bytes
  | [] => []
  | '%' :: a :: b :: later =>
    match Number.valueIn? 16 [a, b] with
    | some value => UInt8.ofNat value :: decode later
    | none => String.utf8EncodeChar '%' ++ decode (a :: b :: later)
  | c :: later => String.utf8EncodeChar c ++ decode later
termination_by text => text.length

/-- The text that is written with percent signs, if it is one. -/
def decodeText? (text : List Char) : Option (List Char) :=
  (Utf8.decode (decode text)).map String.toList

end FileChat.Url.Percent
