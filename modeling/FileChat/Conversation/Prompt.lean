/-
# Prompts

The prompt for a reply is the conversation with a cue at the end. A long conversation is
shortened first: its oldest lines go, two at a time, until it fits the budget or fewer
than four lines are left.
-/
import FileChat.Text.Lines
import FileChat.Conversation.Line

namespace FileChat.Conversation

open Text

/-- The conversation without terminators at its end, then the cue on a line of its own. -/
def buildPrompt (content : String) : String :=
  String.ofList (dropEndWhile (fun c => c = '\n' || c = '\r') content.toList) ++ "\n" ++ cue

/-- Drop lines from the front, two at a time, while they hold more than `budget`
characters and two more lines would be left. `total` is their length, kept up to date. -/
def dropOldest (budget total : Nat) : List (List Char) → List (List Char)
  | first :: second :: later =>
    if budget < total && !(later.drop 1).isEmpty then
      dropOldest budget (total - (first.length + second.length)) later
    else first :: second :: later
  | few => few

/-- Shorten a conversation to at most `budget` characters by dropping its oldest lines in
pairs. The last two lines stay even if they alone are longer. -/
def trimToContext (content : String) (budget : Nat) : String :=
  let text := content.toList
  String.ofList (dropOldest budget text.length (pieces text)).flatten

end FileChat.Conversation
