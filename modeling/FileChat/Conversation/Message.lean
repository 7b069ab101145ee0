/-
# Messages of a chat

A service that takes a chat instead of a flat prompt gets the turns one by one. The prompt
is read back line by line: marked lines are turns, and the lines between them are
instructions of the system, a run of which is one message.
-/
import FileChat.Text.Lines
import FileChat.Conversation.Line

namespace FileChat.Conversation

open Text

/-- Who speaks in a chat. -/
inductive Role
  | system
  | user
  | assistant
  deriving Repr, DecidableEq

namespace Role

/-- The name of a role in a request. -/
def name : Role → String
  | .system => "system"
  | .user => "user"
  | .assistant => "assistant"

end Role

/-- One message of a chat. -/
structure Message where
  role : Role
  content : String
  deriving Repr, DecidableEq

namespace Message

/-- What a single line says, taken for itself. -/
def ofLine (line : List Char) : Message :=
  match afterMark userMark.toList line with
  | some text => ⟨.user, String.ofList text⟩
  | none =>
    match afterMark assistantMark.toList line with
    | some text => ⟨.assistant, String.ofList text⟩
    | none => ⟨.system, String.ofList line⟩

/-- Put a line behind the messages before it, the newest of which comes first. A line of
the system joins a message of the system right before it. -/
def addLine (newestFirst : List Message) (line : List Char) : List Message :=
  match ofLine line, newestFirst with
  | ⟨.system, text⟩, ⟨.system, before⟩ :: earlier => ⟨.system, before ++ "\n" ++ text⟩ :: earlier
  | message, earlier => message :: earlier

/-- A text without the cue, if the cue is its last line. -/
def withoutCue (text : List Char) : List Char :=
  let cueWord := (trimEnd cue.toList).reverse
  match afterMark cueWord text.reverse with
  | some [] => []
  | some (c :: before) => if c = '\n' then (c :: before).reverse else text
  | none => text

/-- The lines of a prompt that carry a message: trimmed, without blank lines and without
the cue. -/
def spokenInPrompt (prompt : String) : List (List Char) :=
  ((lines (withoutCue (trimEnd prompt.toList))).map trim).filter fun line => !line.isEmpty

/-- The chat that a prompt is. -/
def ofPrompt (prompt : String) : List Message :=
  ((spokenInPrompt prompt).foldl addLine []).reverse

end Message

end FileChat.Conversation
