/-
# Lines of a conversation

A conversation is a text with one turn to a line. A line that begins with the user's mark
or with the assistant's mark is a turn; any other line is context. A reply is flattened
before it is written, so that it cannot bring turns of its own into the file.
-/
import FileChat.Text.Blank

namespace FileChat.Conversation

open Text

/-- What a user's turn begins with. -/
def userMark : String := "User: "

/-- What an assistant's turn begins with. -/
def assistantMark : String := "Assistant: "

/-- What a prompt ends with, to have the assistant speak next. It is not written to the
conversation. -/
def cue : String := "Assistant: "

/-- What every reply that reports a failure begins with. -/
def errorMark : String := "[Error:"

/-- How many characters of a failure message are quoted in a reply. -/
def maxErrorLength : Nat := 200

/-- The reply for a turn that was being answered when the daemon stopped. -/
def restartError : String := "[Error: Daemon restarted during generation]"

/-- A user's turn may lack the blank after the colon. -/
def isUserLine (line : List Char) : Bool := "User:".toList.isPrefixOf line

/-- An assistant's turn may lack the blank after the colon. -/
def isAssistantLine (line : List Char) : Bool := "Assistant:".toList.isPrefixOf line

/-- Flatten a text to one line: every control character becomes a blank. -/
def singleLine (text : String) : String :=
  String.ofList (text.toList.map fun c => if isControl c then ' ' else c)

/-- The reply that reports a failure. -/
def errorReply (message : String) : String :=
  errorMark ++ " " ++ String.ofList ((singleLine message).toList.take maxErrorLength) ++ "]"

/-- A complete assistant's turn, terminator included. -/
def assistantLine (reply : String) : String := assistantMark ++ singleLine reply ++ "\n"

/-- A complete user's turn, terminator included. The message is written as it is. -/
def userLine (message : String) : String := userMark ++ message ++ "\n"

/-- No line is both a user's and an assistant's turn. -/
theorem isAssistantLine_of_isUserLine {line : List Char} (h : isUserLine line = true) :
    isAssistantLine line = false := by
  cases line with
  | nil => simp [isUserLine] at h
  | cons c rest =>
    simp only [isUserLine, isAssistantLine] at h ⊢
    have hc : c = 'U' := by
      have := h
      simp [List.isPrefixOf] at this
      exact this.1.symm
    simp [hc, List.isPrefixOf]

end FileChat.Conversation
