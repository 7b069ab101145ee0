/-
# JSON documents

Tokens are put together to a value by a machine with a stack: what is open around the
place where it stands, and what can come there. Any depth is read.
-/
import FileChat.Json.Value
import FileChat.Json.Token

namespace FileChat.Json

/-- What is open: items or entries so far, newest first. -/
inductive Frame
  | array (items : List Value)
  | object (entries : List (Option String × Value))
  /-- An object of which the entry with this name has no value yet. -/
  | entry (entries : List (Option String × Value)) (name : Option String)

/-- What can come next. -/
inductive Expected
  /-- A value, or the end of the array that was just opened. -/
  | firstItem
  | value
  /-- A name, or the end of the object that was just opened. -/
  | firstName
  | name
  | colon
  /-- A comma, or the end of what is open. -/
  | separator
  /-- Nothing; the document is complete. -/
  | nothing (document : Value)
  /-- Something stood where it could not. -/
  | broken

/-- The machine. -/
structure Builder where
  frames : List Frame
  expected : Expected

namespace Builder

/-- Nothing has been read. -/
def start : Builder := ⟨[], .value⟩

/-- Nothing more can be read. -/
def stuck (b : Builder) : Builder := { b with expected := .broken }

/-- Take a complete value. -/
def take (b : Builder) (value : Value) : Builder :=
  match b.frames with
  | [] => ⟨[], .nothing value⟩
  | .array items :: around => ⟨.array (value :: items) :: around, .separator⟩
  | .entry entries name :: around => ⟨.object ((name, value) :: entries) :: around, .separator⟩
  | .object _ :: _ => b.stuck

/-- Close what is open. -/
def close (b : Builder) (brace : Bool) : Builder :=
  match b.frames, brace with
  | .array items :: around, false => { b with frames := around }.take (.array items.reverse)
  | .object entries :: around, true => { b with frames := around }.take (.object entries.reverse)
  | _, _ => b.stuck

/-- Read a token where a value has to come. -/
def readValue (b : Builder) : Token → Builder
  | .openBracket => ⟨.array [] :: b.frames, .firstItem⟩
  | .openBrace => ⟨.object [] :: b.frames, .firstName⟩
  | .null => b.take .null
  | .bool x => b.take (.bool x)
  | .number => b.take .number
  | .text content => b.take (.text content)
  | _ => b.stuck

/-- Read a token where a name has to come. -/
def readName (b : Builder) : Token → Builder
  | .text content =>
    match b.frames with
    | .object entries :: around => ⟨.entry entries content :: around, .colon⟩
    | _ => b.stuck
  | _ => b.stuck

/-- Read a token behind an item or an entry. -/
def readSeparator (b : Builder) : Token → Builder
  | .comma =>
    match b.frames with
    | .array _ :: _ => { b with expected := .value }
    | .object _ :: _ => { b with expected := .name }
    | _ => b.stuck
  | .closeBracket => b.close false
  | .closeBrace => b.close true
  | _ => b.stuck

/-- Read one token. -/
def step (b : Builder) (token : Token) : Builder :=
  match b.expected with
  | .firstItem => if token = .closeBracket then b.close false else b.readValue token
  | .value => b.readValue token
  | .firstName => if token = .closeBrace then b.close true else b.readName token
  | .name => b.readName token
  | .colon => if token = .colon then { b with expected := .value } else b.stuck
  | .separator => b.readSeparator token
  | .nothing _ => b.stuck
  | .broken => b

end Builder

/-- The value that a document holds, if it is one. -/
def parse? (bytes : Bytes) : Option Value :=
  (tokens? bytes).bind fun tokens =>
    match (tokens.foldl Builder.step .start).expected with
    | .nothing document => some document
    | _ => none

end FileChat.Json
