/-
# UTF-8

Files hold bytes and conversations hold characters. One reader goes through the bytes
from left to right and keeps the character it is in the middle of; strict decoding,
decoding with replacement characters, and the length of an unfinished character at the
end are three views of where that reader stops.
-/

namespace FileChat

/-- Contents of a file. -/
abbrev Bytes := List UInt8

namespace Utf8

/-- The bytes of a text. -/
def encode (s : String) : Bytes := s.toList.flatMap String.utf8EncodeChar

/-- A character whose last bytes have not been read yet. -/
structure Partial where
  /-- The bits read so far. -/
  code : Nat
  /-- How many bytes have been read. -/
  seen : Nat
  /-- How many bytes are still to come. -/
  left : Nat
  /-- The smallest byte that may come next. -/
  low : UInt8
  /-- The largest byte that may come next. -/
  high : UInt8
  deriving Repr, DecidableEq

/-- What has been read: characters, and `none` for every ill-formed run of bytes, newest
first; and the character in progress. -/
structure Reader where
  done : List (Option Char)
  current : Option Partial
  deriving Repr, DecidableEq

namespace Reader

/-- Nothing has been read. -/
def empty : Reader := ⟨[], none⟩

/-- Read the first byte of a character. A byte that no character starts with is an
ill-formed run of its own. The second byte of three- and four-byte forms is restricted so
that neither overlong forms nor surrogates nor code points past the last are read. -/
def start (done : List (Option Char)) (b : UInt8) : Reader :=
  if b < 0x80 then ⟨some (Char.ofNat b.toNat) :: done, none⟩
  else if b < 0xC2 then ⟨none :: done, none⟩
  else if b < 0xE0 then ⟨done, some ⟨b.toNat - 0xC0, 1, 1, 0x80, 0xBF⟩⟩
  else if b < 0xF0 then
    ⟨done, some ⟨b.toNat - 0xE0, 1, 2, if b = 0xE0 then 0xA0 else 0x80,
      if b = 0xED then 0x9F else 0xBF⟩⟩
  else if b < 0xF5 then
    ⟨done, some ⟨b.toNat - 0xF0, 1, 3, if b = 0xF0 then 0x90 else 0x80,
      if b = 0xF4 then 0x8F else 0xBF⟩⟩
  else ⟨none :: done, none⟩

/-- Read one byte. A byte that cannot continue the character in progress ends an
ill-formed run and is read as a first byte. -/
def step (r : Reader) (b : UInt8) : Reader :=
  match r.current with
  | none => start r.done b
  | some p =>
    if p.low ≤ b ∧ b ≤ p.high then
      let code := p.code * 64 + (b.toNat - 0x80)
      if p.left ≤ 1 then ⟨some (Char.ofNat code) :: r.done, none⟩
      else ⟨r.done, some ⟨code, p.seen + 1, p.left - 1, 0x80, 0xBF⟩⟩
    else start (none :: r.done) b

/-- Read all of `bytes`. -/
def read (bytes : Bytes) : Reader := bytes.foldl step empty

/-- No ill-formed run has been read. -/
def wellFormed (r : Reader) : Bool := r.done.all Option.isSome

end Reader

/-- The text that `bytes` encode, if they encode one. -/
def decode (bytes : Bytes) : Option String :=
  let r := Reader.read bytes
  if r.current.isNone && r.wellFormed then
    some (String.ofList (r.done.reverse.filterMap id))
  else none

/-- The text that `bytes` encode, with U+FFFD for every ill-formed run and for an
unfinished character at the end. -/
def decodeLossy (bytes : Bytes) : String :=
  let r := Reader.read bytes
  let text := r.done.reverse.map (·.getD '\uFFFD')
  String.ofList (if r.current.isSome then text ++ ['\uFFFD'] else text)

/-- How many bytes at the end belong to a character that is not complete yet. Bytes that
are ill formed anywhere will not become a text, so then nothing is waited for. -/
def unfinished (bytes : Bytes) : Nat :=
  let r := Reader.read bytes
  if r.wellFormed then (r.current.map Partial.seen).getD 0 else 0

end Utf8

end FileChat
