/-
# The replies to the last turn

What a client reports as the reply is the last assistant's turn, so behind whole lines it is the
reply that was appended last. How often the last turn of a user was answered is another
question: a reply that is owed was not given yet, and each reply that is appended is one more.
-/

import FileChat.Conversation.Response
import FileChat.Proofs.Conversation.Turn

namespace FileChat.Conversation

open Text

/-- How many assistant's turns come after the last user's turn among some lines. -/
def repliesAfterTurn (spoken : List (List Char)) : Nat :=
  (spoken.reverse.takeWhile fun line => !isUserLine line).countP isAssistantLine

/-- How many assistant's turns a conversation has after its last user's turn. -/
def repliesToLast (content : String) : Nat := repliesAfterTurn (lines content.toList)

theorem repliesAfterTurn_append_singleton (spoken : List (List Char)) (line : List Char) :
    repliesAfterTurn (spoken ++ [line]) =
      if isUserLine line then 0
      else repliesAfterTurn spoken + if isAssistantLine line then 1 else 0 := by
  unfold repliesAfterTurn
  rw [List.reverse_append, List.reverse_singleton, List.singleton_append, List.takeWhile_cons]
  cases huser : isUserLine line with
  | true => simp
  | false => simp [List.countP_cons]

/-- A turn that is owed a reply has none. -/
theorem repliesToLast_of_needsResponse {content : String} (h : needsResponse content = true) :
    repliesToLast content = 0 := by
  rw [needsResponse_eq_owedAfter] at h
  unfold repliesToLast
  generalize lines content.toList = spoken at h ⊢
  induction spoken using List.reverseRecOn with
  | nil => rfl
  | append_singleton spoken line ih =>
      rw [owedAfter_append, owedAfter_cons, owedAfter_nil, owedAfterLine] at h
      rw [repliesAfterTurn_append_singleton]
      split at h
      · next huser => rw [if_pos huser]
      · next huser =>
          split at h
          · cases h
          · next hassistant => rw [if_neg huser, if_neg hassistant, ih h]

/-- A reply behind whole lines is one more. -/
theorem repliesToLast_append_assistantLine {content : String} (h : IsWholeLines content.toList)
    (reply : String) :
    repliesToLast (content ++ assistantLine reply) = repliesToLast content + 1 := by
  have hassistant := isAssistantLine_replyLine reply
  rw [repliesToLast, String.toList_append, lines_append h, lines_assistantLine,
    repliesAfterTurn_append_singleton, if_neg (by simp [isUserLine_of_isAssistantLine hassistant]),
    if_pos hassistant, repliesToLast]

/-- A reply behind whole lines is what the client reports. -/
theorem content_append_assistantLine {content : String} (h : IsWholeLines content.toList)
    (sessionId reply : String) :
    (Response.mk sessionId (content ++ assistantLine reply)).content = singleLine reply := by
  have hmark : afterMark assistantMark.toList (replyLine reply) =
      some (singleLine reply).toList := by
    rw [replyLine, String.toList_append, afterMark_append]
  rw [Response.content, String.toList_append, lines_append h, lines_assistantLine,
    List.reverse_append, List.reverse_singleton, List.singleton_append, List.findSome?_cons, hmark,
    Option.getD_some, String.ofList_toList]

end FileChat.Conversation
