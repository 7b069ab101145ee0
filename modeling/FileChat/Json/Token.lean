/-
# JSON tokens

The bytes of a document are read from left to right by a machine whose state says what it
is in the middle of. A number or a word ends where a byte comes that cannot belong to it,
and that byte is read again from between the tokens. A byte that fits nowhere breaks the
machine for good.
-/
import FileChat.Text.Utf8

namespace FileChat.Json

/-- The smallest parts of a document. -/
inductive Token
  | openBrace
  | closeBrace
  | openBracket
  | closeBracket
  | comma
  | colon
  | null
  | bool (b : Bool)
  | number
  | text (content : Option String)
  deriving Repr, DecidableEq

/-- A string that is being read. -/
structure Quotation where
  /-- The bytes of the text so far, newest first. -/
  bytes : Bytes
  /-- The first half of a pair, of which the second half has to come next. -/
  high : Option Nat
  /-- No half of a pair has been left alone so far. -/
  sound : Bool
  deriving Repr, DecidableEq

namespace Quotation

/-- Nothing has been read. -/
def empty : Quotation := ⟨[], none, true⟩

/-- Read a byte. -/
def addByte (q : Quotation) (b : UInt8) : Quotation :=
  ⟨b :: q.bytes, none, q.sound && q.high.isNone⟩

/-- Read a whole character. -/
def addChar (q : Quotation) (code : Nat) : Quotation :=
  { q with bytes := (String.utf8EncodeChar (Char.ofNat code)).reverse ++ q.bytes, high := none }

/-- Read sixteen bits that were written in hexadecimal: a character, or half of a pair that
together is one. -/
def addUnit (q : Quotation) (unit : Nat) : Quotation :=
  match q.high with
  | some high =>
    if 0xDC00 ≤ unit && unit < 0xE000 then
      q.addChar (0x10000 + (high - 0xD800) * 0x400 + (unit - 0xDC00))
    else { q with high := none, sound := false }
  | none =>
    if 0xD800 ≤ unit && unit < 0xDC00 then { q with high := some unit }
    else if 0xDC00 ≤ unit && unit < 0xE000 then { q with sound := false }
    else q.addChar unit

/-- The text that was read, if the string stands for one. -/
def content (q : Quotation) : Option String :=
  if q.sound && q.high.isNone then Utf8.decode q.bytes.reverse else none

end Quotation

/-- Where in a number the machine is. -/
inductive NumberPart
  | minus
  /-- A whole part that is zero and can have no more digits. -/
  | zero
  | whole
  | point
  | fraction
  | exponentMark
  | exponentSign
  | exponent
  deriving Repr, DecidableEq

namespace NumberPart

/-- A number can end here. -/
def isComplete : NumberPart → Bool
  | .zero | .whole | .fraction | .exponent => true
  | _ => false

/-- The part that comes with one more byte, if the number goes on with it. -/
def next? (part : NumberPart) (b : UInt8) : Option NumberPart :=
  let isDigit := 0x30 ≤ b && b ≤ 0x39
  let isMark := b = 0x65 || b = 0x45
  let isSign := b = 0x2B || b = 0x2D
  match part with
  | .minus => if b = 0x30 then some .zero else if isDigit then some .whole else none
  | .zero => if b = 0x2E then some .point else if isMark then some .exponentMark else none
  | .whole =>
    if isDigit then some .whole
    else if b = 0x2E then some .point
    else if isMark then some .exponentMark
    else none
  | .point => if isDigit then some .fraction else none
  | .fraction =>
    if isDigit then some .fraction else if isMark then some .exponentMark else none
  | .exponentMark =>
    if isDigit then some .exponent else if isSign then some .exponentSign else none
  | .exponentSign => if isDigit then some .exponent else none
  | .exponent => if isDigit then some .exponent else none

end NumberPart

/-- What the machine is in the middle of. -/
inductive Mode
  | between
  /-- A word; its letters are kept newest first. -/
  | word (letters : List Char)
  | number (part : NumberPart)
  | quotation (q : Quotation)
  /-- A backslash inside a string. -/
  | escape (q : Quotation)
  /-- A code in hexadecimal, with how many digits are to come. -/
  | unit (q : Quotation) (value missing : Nat)
  /-- Something fitted nowhere. -/
  | broken
  deriving Repr, DecidableEq

/-- The machine: what it is in the middle of, and the tokens before, newest first. -/
structure Lexer where
  mode : Mode
  tokens : List Token
  deriving Repr, DecidableEq

namespace Lexer

/-- Nothing has been read. -/
def start : Lexer := ⟨.between, []⟩

/-- Nothing more can be read. -/
def stuck (l : Lexer) : Lexer := { l with mode := .broken }

/-- Be between tokens after one more. -/
def emit (l : Lexer) (token : Token) : Lexer := ⟨.between, token :: l.tokens⟩

/-- The token that a word is. -/
def wordToken? (letters : List Char) : Option Token :=
  if letters = "null".toList then some .null
  else if letters = "true".toList then some (.bool true)
  else if letters = "false".toList then some (.bool false)
  else none

/-- End the number or word that the machine is in. -/
def endToken (l : Lexer) : Lexer :=
  match l.mode with
  | .word letters =>
    match wordToken? letters.reverse with
    | some token => l.emit token
    | none => l.stuck
  | .number part => if part.isComplete then l.emit .number else l.stuck
  | _ => l

/-- Read a byte between tokens. -/
def startToken (l : Lexer) (b : UInt8) : Lexer :=
  if b = 0x20 || b = 0x09 || b = 0x0A || b = 0x0D then l
  else if b = 0x7B then l.emit .openBrace
  else if b = 0x7D then l.emit .closeBrace
  else if b = 0x5B then l.emit .openBracket
  else if b = 0x5D then l.emit .closeBracket
  else if b = 0x2C then l.emit .comma
  else if b = 0x3A then l.emit .colon
  else if b = 0x22 then { l with mode := .quotation .empty }
  else if b = 0x2D then { l with mode := .number .minus }
  else if b = 0x30 then { l with mode := .number .zero }
  else if 0x31 ≤ b && b ≤ 0x39 then { l with mode := .number .whole }
  else if 0x61 ≤ b && b ≤ 0x7A then { l with mode := .word [Char.ofNat b.toNat] }
  else l.stuck

/-- The byte that a letter after a backslash stands for. -/
def escaped? (b : UInt8) : Option UInt8 :=
  if b = 0x22 || b = 0x5C || b = 0x2F then some b
  else if b = 0x62 then some 0x08
  else if b = 0x66 then some 0x0C
  else if b = 0x6E then some 0x0A
  else if b = 0x72 then some 0x0D
  else if b = 0x74 then some 0x09
  else none

/-- The value of a hexadecimal digit. -/
def hexValue? (b : UInt8) : Option Nat :=
  if 0x30 ≤ b && b ≤ 0x39 then some (b.toNat - 0x30)
  else if 0x41 ≤ b && b ≤ 0x46 then some (b.toNat - 0x41 + 10)
  else if 0x61 ≤ b && b ≤ 0x66 then some (b.toNat - 0x61 + 10)
  else none

/-- Read one byte. -/
def step (l : Lexer) (b : UInt8) : Lexer :=
  match l.mode with
  | .between => l.startToken b
  | .word letters =>
    if 0x61 ≤ b && b ≤ 0x7A then { l with mode := .word (Char.ofNat b.toNat :: letters) }
    else
      let ended := l.endToken
      if ended.mode = .broken then ended else ended.startToken b
  | .number part =>
    match part.next? b with
    | some part => { l with mode := .number part }
    | none =>
      let ended := l.endToken
      if ended.mode = .broken then ended else ended.startToken b
  | .quotation q =>
    if b = 0x22 then l.emit (.text q.content)
    else if b = 0x5C then { l with mode := .escape q }
    else if b < 0x20 then l.stuck
    else { l with mode := .quotation (q.addByte b) }
  | .escape q =>
    if b = 0x75 then { l with mode := .unit q 0 4 }
    else
      match escaped? b with
      | some meant => { l with mode := .quotation (q.addByte meant) }
      | none => l.stuck
  | .unit q value missing =>
    match hexValue? b with
    | some digit =>
      let value := 16 * value + digit
      if missing ≤ 1 then { l with mode := .quotation (q.addUnit value) }
      else { l with mode := .unit q value (missing - 1) }
    | none => l.stuck
  | .broken => l

end Lexer

/-- The tokens of a document, if it consists of tokens. -/
def tokens? (bytes : Bytes) : Option (List Token) :=
  let ended := (bytes.foldl Lexer.step .start).endToken
  if ended.mode = .between then some ended.tokens.reverse else none

end FileChat.Json
