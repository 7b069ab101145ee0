/-
# Credentials

An address can say who asks for it. That is not shown to anybody but the host, which is
told in a header: the name and the password with a colon between them, their bytes written
six bits at a time.
-/
import FileChat.Url.Basic
import FileChat.Url.Percent

namespace FileChat.Http

namespace Base64

/-- The sixty-four digits. -/
def digits : List Char :=
  "ABCDEFGHIJKLMNOPQRSTUVWXYZabcdefghijklmnopqrstuvwxyz0123456789+/".toList

/-- The digit of six bits. -/
def digit (bits : Nat) : Char := digits.getD (bits % 64) '='

/-- Bytes as digits, filled up to a multiple of four. -/
def encode : Bytes → List Char
  | a :: b :: c :: later =>
    let n := a.toNat * 0x10000 + b.toNat * 0x100 + c.toNat
    [digit (n / 0x40000), digit (n / 0x1000), digit (n / 0x40), digit n] ++ encode later
  | [a, b] =>
    let n := a.toNat * 0x400 + b.toNat * 4
    [digit (n / 0x1000), digit (n / 0x40), digit n, '=']
  | [a] =>
    let n := a.toNat * 0x10
    [digit (n / 0x40), digit n, '=', '=']
  | [] => []

end Base64

/-- A name and a password. -/
structure Credentials where
  user : String
  password : Option String
  deriving Repr, DecidableEq

namespace Credentials

/-- The header that shows them. -/
def header (c : Credentials) : String :=
  "Basic " ++ String.ofList (Base64.encode (Utf8.encode (c.user ++ ":" ++ c.password.getD "")))

/-- Who asks for an address. A name or a password that is not text is none. -/
def ofUrl? (url : Url) : Option Credentials := do
  let plain (part : String) := (Url.Percent.decodeText? part.toList).map String.ofList
  let user ← plain url.user
  let password := url.password.bind plain
  if url.host.isSome && (!user.isEmpty || password.isSome) then return ⟨user, password⟩
  else none

end Credentials

end FileChat.Http
