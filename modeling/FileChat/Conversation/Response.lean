/-
# The client's view of a conversation

Everything a client reports about a conversation is read off its text each time: the lines
that were spoken, the last reply, and whether that reply reports a failure.
-/
import FileChat.Conversation.Owed

namespace FileChat.Conversation

open Text

/-- A conversation as a client read it. -/
structure Response where
  sessionId : String
  rawContent : String
  deriving Repr, DecidableEq

namespace Response

/-- All lines that hold more than blanks. -/
def history (r : Response) : List String :=
  (spokenLines r.rawContent.toList).map String.ofList

/-- The text of the last assistant's turn, or nothing. Here the mark counts only with its
blank. -/
def content (r : Response) : String :=
  String.ofList <|
    ((lines r.rawContent.toList).reverse.findSome? (afterMark assistantMark.toList)).getD []

/-- Whether the last reply reports a failure. -/
def isError (r : Response) : Bool := errorMark.toList.isPrefixOf r.content.toList

end Response

end FileChat.Conversation
