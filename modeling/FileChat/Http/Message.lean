/-
# Messages that answer a request

What comes back over a connection: a line with a status, headers, an empty line and a body,
whose end the headers tell. Statuses of an informational kind have no body; after them
another message follows, and the first that is not informational is the answer.
-/
import FileChat.Number.Natural
import FileChat.Number.Radix
import FileChat.Text.Utf8

namespace FileChat.Http

/-- An answer. -/
structure Reply where
  status : Nat
  body : Bytes
  /-- The connection breaks before the end of the body. -/
  cut : Bool
  deriving Repr, DecidableEq

/-- Whether a number can be a status. -/
def isStatus (status : Nat) : Bool := 100 ≤ status && status < 1000

/-- The status that another protocol is spoken from here on. -/
def switching : Nat := 101

/-- The statuses after which another message follows. -/
def isInformational (status : Nat) : Bool :=
  100 ≤ status && status < 200 && status ≠ switching

/-- The statuses with which there is no body. -/
def isBodiless (status : Nat) : Bool := status = switching || status = 204 || status = 304

namespace Message

/-- The bytes of a message as characters of the same number. -/
abbrev Stream := List Char

/-- The characters of bytes. -/
def ofBytes (bytes : Bytes) : Stream := bytes.map fun b => Char.ofNat b.toNat

/-- The bytes of characters. -/
def toBytes (text : Stream) : Bytes := text.map fun c => UInt8.ofNat c.toNat

/-- Characters that stand in lines. -/
def isLineChar (c : Char) : Bool := c = '\t' || (0x20 ≤ c.toNat && c.toNat ≠ 0x7F)

/-- Characters that stand in the names of headers. -/
def isNameChar (c : Char) : Bool := c.isAlphanum || "!#$%&'*+-.^_|~".toList.contains c ||
  c.toNat = 0x60

/-- The first line and what follows it. -/
def line? (text : Stream) : Option (Stream × Stream) :=
  let whole := text.takeWhile (· ≠ '\n')
  let line := if whole.getLast? = some '\r' then whole.dropLast else whole
  match text.drop whole.length with
  | _ :: rest => if line.all isLineChar then some (line, rest) else none
  | [] => none

/-- Without blanks at the ends. -/
def trimmed (text : Stream) : Stream :=
  let isBlank (c : Char) : Bool := c = ' ' || c = '\t'
  ((text.dropWhile isBlank).reverse.dropWhile isBlank).reverse

/-- What is before the body. -/
structure Head where
  status : Nat
  /-- The version of the protocol that has no bodies in pieces. -/
  isOld : Bool
  /-- Names in lower case, and values. -/
  headers : List (Stream × Stream)

/-- The status in the first line of a message, and whether its version is the old one. -/
def status? (line : Stream) : Option (Nat × Bool) :=
  match line with
  | 'H' :: 'T' :: 'T' :: 'P' :: '/' :: '1' :: '.' :: minor :: ' ' :: a :: b :: c :: reason =>
    if (minor = '0' || minor = '1') && (reason.isEmpty || reason.head? = some ' ') then
      ((Number.digitsValue? [a, b, c]).filter isStatus).map fun status => (status, minor = '0')
    else none
  | _ => none

/-- The name and the value in a line. -/
def header? (line : Stream) : Option (Stream × Stream) :=
  let name := line.takeWhile isNameChar
  match line.drop name.length with
  | ':' :: value => if name.isEmpty then none else some (name.map Char.toLower, trimmed value)
  | _ => none

/-- The most headers a message may have. -/
def maxHeaders : Nat := 100

/-- The headers up to the empty line, and what follows it; `fuel` bounds their number. -/
def headers? : Nat → Stream → Option (List (Stream × Stream) × Stream)
  | 0, _ => none
  | fuel + 1, text => do
    let (line, rest) ← line? text
    if line.isEmpty then return ([], rest)
    else
      let header ← header? line
      let (later, rest) ← headers? fuel rest
      return (header :: later, rest)

/-- The head of a message and what follows it. Empty lines may come first. -/
def head? (text : Stream) : Option (Head × Stream) := do
  let (line, rest) ← line? (text.dropWhile fun c => c = '\r' || c = '\n')
  let (status, isOld) ← status? line
  let (headers, rest) ← headers? (maxHeaders + 1) rest
  return (⟨status, isOld, headers⟩, rest)

namespace Head

/-- The values of all headers of a name. -/
def values (head : Head) (name : String) : List Stream :=
  (head.headers.filter fun header => header.1 = name.toList).map Prod.snd

/-- The last way in which a body is written. -/
def lastCoding? (head : Head) : Option Stream :=
  (head.values "transfer-encoding").getLast?.bind fun value =>
    (value.splitOn ',').getLast?.map fun word => (trimmed word).map Char.toLower

/-- The lengths that the headers give. -/
def lengths? (head : Head) : Option (List Nat) :=
  ((head.values "content-length").flatMap (·.splitOn ',')).mapM fun word =>
    (Number.digitsValue? (trimmed word)).filter (· < 0xFFFFFFFFFFFFFFFE)

end Head

/-! ## Bodies in pieces -/

/-- The trailer behind the last piece is complete; `fuel` bounds the number of its lines. -/
def endsWell : Nat → Stream → Bool
  | 0, _ => false
  | fuel + 1, text =>
    match text with
    | '\r' :: '\n' :: _ => true
    | '\r' :: _ => false
    | _ =>
      match text.dropWhile (· ≠ '\r') with
      | '\r' :: '\n' :: later => endsWell fuel later
      | _ => false

/-- The size of a piece, and what follows its line. -/
def size? (text : Stream) : Option (Nat × Stream) :=
  let digits := text.takeWhile fun c => (Number.digitIn? 16 c).isSome
  let line := text.takeWhile (· ≠ '\r')
  let after := line.drop digits.length
  let tail := after.dropWhile fun c => c = ' ' || c = '\t'
  match text.drop line.length with
  | '\r' :: '\n' :: rest =>
    if digits.isEmpty || !(tail.isEmpty || tail.head? = some ';') || tail.contains '\n' then none
    else (Number.valueIn? 16 digits).map fun size => (size, rest)
  | _ => none

/-- What the pieces of a body hold, and whether that is all; `fuel` bounds their number. -/
def pieces : Nat → Stream → Stream × Bool
  | 0, _ => ([], false)
  | fuel + 1, text =>
    match size? text with
    | none => ([], false)
    | some (0, rest) => ([], endsWell rest.length rest)
    | some (size, rest) =>
      match rest.drop size with
      | '\r' :: '\n' :: later =>
        let (more, whole) := pieces fuel later
        (rest.take size ++ more, whole)
      | _ => (rest.take size, false)

/-! ## Whole messages -/

/-- The answer of a message whose head was read. -/
def reply? (head : Head) (text : Stream) : Option Reply :=
  if isBodiless head.status then some ⟨head.status, [], false⟩
  else
    match head.lastCoding?, head.lengths? with
    | some coding, _ =>
      if head.isOld then none
      else if coding = "chunked".toList then
        let (body, whole) := pieces text.length text
        some ⟨head.status, toBytes body, !whole⟩
      else some ⟨head.status, toBytes text, false⟩
    | none, some [] => some ⟨head.status, toBytes text, false⟩
    | none, some (length :: others) =>
      if others.all (· = length) then
        some ⟨head.status, toBytes (text.take length), text.length < length⟩
      else none
    | none, none => none

/-- The first answer that is not informational; `fuel` bounds the number of messages. -/
def answer? : Nat → Stream → Option Reply
  | 0, _ => none
  | fuel + 1, text => do
    let (head, rest) ← head? text
    if isInformational head.status then answer? fuel rest else reply? head rest

end Message

/-- What comes of a status and the bytes behind its head. After an informational status they
are messages; a connection whose protocol is switched tells nothing more. -/
def Reply.arrived? (r : Reply) : Option Reply :=
  if !isStatus r.status then none
  else if isInformational r.status then
    Message.answer? (r.body.length + 1) (Message.ofBytes r.body)
  else if isBodiless r.status then some ⟨r.status, [], r.cut && r.status ≠ switching⟩
  else some r

end FileChat.Http
