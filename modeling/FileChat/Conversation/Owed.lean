/-
# Whether a reply is owed

A conversation owes a reply if its last user's turn comes after its last assistant's turn.
Only the lines that hold something are counted, and of those only turns decide.
-/
import FileChat.Text.Lines
import FileChat.Conversation.Line

namespace FileChat.Conversation

open Text

/-- The position of the last element with property `p`. -/
def lastIndex? {α : Type} (p : α → Bool) (xs : List α) : Option Nat :=
  (xs.foldl (fun (at_, found) x => (at_ + 1, if p x then some at_ else found)) (0, none)).2

/-- The lines of a conversation that hold more than blanks. -/
def spokenLines (content : List Char) : List (List Char) :=
  (lines content).filter fun line => !isBlankText line

/-- Whether the last user's turn of a conversation has no assistant's turn after it. -/
def needsResponse (content : String) : Bool :=
  let spoken := spokenLines content.toList
  match lastIndex? isUserLine spoken, lastIndex? isAssistantLine spoken with
  | some user, some assistant => user > assistant
  | some _, none => true
  | none, _ => false

end FileChat.Conversation
