/-
# Turns behind a conversation

What one more turn does to a conversation. Behind whole lines a written turn is a line of
its own, whatever the reply or the message says, and it settles whether a reply is owed. Behind
an unfinished line it is glued to that line, and then it settles nothing: the unfinished line
keeps its beginning, so whoever spoke before still speaks last.
-/

import FileChat.Proofs.Conversation.Owed

namespace FileChat.Conversation

open Text

/-- The line of an assistant's turn. -/
def replyLine (reply : String) : List Char := (assistantMark ++ singleLine reply).toList

/-- The line of a user's turn. -/
def messageLine (message : String) : List Char := (userMark ++ message).toList

theorem toList_assistantLine (reply : String) :
    (assistantLine reply).toList = replyLine reply ++ ['\n'] := by
  simp [assistantLine, replyLine]

theorem toList_userLine (message : String) :
    (userLine message).toList = messageLine message ++ ['\n'] := by
  simp [userLine, messageLine]

theorem assistantLine_ne_empty (reply : String) : assistantLine reply ≠ "" := by
  intro hempty
  have hlist := congrArg String.toList hempty
  simp [toList_assistantLine] at hlist

theorem isWholeLines_assistantLine (reply : String) :
    IsWholeLines (assistantLine reply).toList := by
  rw [toList_assistantLine]
  exact isWholeLines_append_lineFeed _

theorem isWholeLines_userLine (message : String) : IsWholeLines (userLine message).toList := by
  rw [toList_userLine]
  exact isWholeLines_append_lineFeed _

/-- A flattened text has no control characters left. -/
theorem not_isControl_of_mem_singleLine {text : String} {c : Char}
    (h : c ∈ (singleLine text).toList) : isControl c = false := by
  simp only [singleLine, String.toList_ofList, List.mem_map] at h
  obtain ⟨d, -, rfl⟩ := h
  split
  · decide
  · next hd => simpa using hd

/-- A reply is on one line, whatever control characters came with it. -/
theorem not_mem_replyLine {c : Char} (hcontrol : isControl c = true) (reply : String) :
    c ∉ replyLine reply := by
  intro h
  rw [replyLine, String.toList_append] at h
  rcases List.mem_append.mp h with hmark | hreply
  · have hnone : assistantMark.toList.any isControl = false := by decide
    exact List.any_eq_false.mp hnone c hmark hcontrol
  · simp [not_isControl_of_mem_singleLine hreply] at hcontrol

theorem lines_assistantLine (reply : String) :
    lines (assistantLine reply).toList = [replyLine reply] := by
  rw [toList_assistantLine]
  apply lines_append_lineFeed (not_mem_replyLine (by decide) reply)
  intro h
  exact not_mem_replyLine (by decide) reply (List.mem_of_getLast? h)

theorem lines_userLine {message : String} (hfeed : '\n' ∉ message.toList)
    (hreturn : '\r' ∉ message.toList) :
    lines (userLine message).toList = [messageLine message] := by
  have hmark : '\n' ∉ userMark.toList ∧ '\r' ∉ userMark.toList := by decide
  have houtside {c : Char} (hc : c ∉ message.toList) (hother : c ∉ userMark.toList) :
      c ∉ messageLine message := by
    rw [messageLine, String.toList_append]
    exact fun h => (List.mem_append.mp h).elim hother hc
  rw [toList_userLine]
  apply lines_append_lineFeed
  · exact houtside hfeed hmark.1
  · exact fun h => houtside hreturn hmark.2 (List.mem_of_getLast? h)

theorem isAssistantLine_replyLine (reply : String) : isAssistantLine (replyLine reply) = true := by
  rw [isAssistantLine_iff, replyLine, String.toList_append]
  exact (show "Assistant:".toList <+: assistantMark.toList by decide).trans (List.prefix_append _ _)

theorem isUserLine_messageLine (message : String) : isUserLine (messageLine message) = true := by
  rw [isUserLine_iff, messageLine, String.toList_append]
  exact (show "User:".toList <+: userMark.toList by decide).trans (List.prefix_append _ _)

/-- No line is both an assistant's and a user's turn. -/
theorem isUserLine_of_isAssistantLine {line : List Char} (h : isAssistantLine line = true) :
    isUserLine line = false := by
  by_contra huser
  simp [isAssistantLine_of_isUserLine (by simpa using huser)] at h

@[simp]
theorem owedAfterLine_replyLine (owed : Bool) (reply : String) :
    owedAfterLine owed (replyLine reply) = false := by
  have h := isAssistantLine_replyLine reply
  simp [owedAfterLine, isUserLine_of_isAssistantLine h, h]

@[simp]
theorem owedAfterLine_messageLine (owed : Bool) (message : String) :
    owedAfterLine owed (messageLine message) = true := by
  simp [owedAfterLine, isUserLine_messageLine]

/-- A reply behind whole lines leaves nothing owed. -/
theorem needsResponse_append_assistantLine {content : String}
    (h : IsWholeLines content.toList) (reply : String) :
    needsResponse (content ++ assistantLine reply) = false := by
  rw [needsResponse_append h, lines_assistantLine, owedAfter_cons, owedAfterLine_replyLine,
    owedAfter_nil]

/-- A message behind whole lines makes a reply owed. -/
theorem needsResponse_append_userLine {content message : String}
    (h : IsWholeLines content.toList) (hfeed : '\n' ∉ message.toList)
    (hreturn : '\r' ∉ message.toList) :
    needsResponse (content ++ userLine message) = true := by
  rw [needsResponse_append h, lines_userLine hfeed hreturn, owedAfter_cons,
    owedAfterLine_messageLine, owedAfter_nil]

/-- The mark has its first letter nowhere else, so what is put in front of it does not make it
a turn of the assistant. -/
theorem isAssistantLine_of_append_replyLine {rest : List Char} {reply : String} (hne : rest ≠ [])
    (h : isAssistantLine (rest ++ replyLine reply) = true) : isAssistantLine rest = true := by
  rw [isAssistantLine_iff] at h ⊢
  rcases Nat.lt_or_ge rest.length "Assistant:".toList.length with hshort | hlong
  · exfalso
    have honce : ∀ i < "Assistant:".toList.length, 0 < i → "Assistant:".toList[i]? ≠ some 'A' := by
      decide
    apply honce rest.length hshort (List.length_pos_iff.mpr hne)
    obtain ⟨later, hlater⟩ := h
    calc "Assistant:".toList[rest.length]?
        = ("Assistant:".toList ++ later)[rest.length]? :=
          (List.getElem?_append_left hshort).symm
      _ = (replyLine reply)[0]? := by
          rw [hlater, List.getElem?_append_right (Nat.le_refl _), Nat.sub_self]
      _ = some 'A' := by simp [replyLine, assistantMark]
  · exact List.prefix_of_prefix_length_le h (List.prefix_append _ _) hlong

/-- A line that is continued keeps its beginning. -/
theorem isUserLine_append {line : List Char} (h : isUserLine line = true) (more : List Char) :
    isUserLine (line ++ more) = true := by
  rw [isUserLine_iff] at h ⊢
  exact h.trans (List.prefix_append _ _)

/-- What a reply makes of an unfinished line. -/
theorem lines_append_assistantLine {whole rest : List Char} (hwhole : IsWholeLines whole)
    (hfeed : '\n' ∉ rest) (reply : String) :
    lines (whole ++ rest ++ (assistantLine reply).toList) =
      lines whole ++ [rest ++ replyLine reply] := by
  have hlast : (rest ++ replyLine reply).getLast? ≠ some '\r' := by
    intro h
    obtain ⟨c, hc⟩ : ∃ c, (replyLine reply).getLast? = some c :=
      Option.isSome_iff_exists.mp (by simp [replyLine, assistantMark])
    rw [List.getLast?_append, hc, Option.some_or] at h
    exact not_mem_replyLine (by decide) reply (List.mem_of_getLast? (hc.trans h))
  rw [toList_assistantLine, List.append_assoc, ← List.append_assoc rest, lines_append hwhole,
    lines_append_lineFeed _ hlast]
  simp [hfeed, not_mem_replyLine (c := '\n') (by decide) reply]

/-- The last line behind a reply is the reply exactly if no unfinished line was in front of it. -/
theorem getLast?_lines_append_assistantLine (content reply : String) :
    (lines (content ++ assistantLine reply).toList).getLast? = some (replyLine reply) ↔
      IsWholeLines content.toList := by
  obtain ⟨whole, rest, hsplit, hwhole, hfeed⟩ := exists_wholeLines_append content.toList
  rw [String.toList_append, hsplit, lines_append_assistantLine hwhole hfeed, List.getLast?_concat,
    Option.some_inj, List.append_left_eq_self]
  constructor
  · rintro rfl
    rwa [List.append_nil]
  · intro hall
    by_contra hne
    obtain ⟨c, hc⟩ := Option.isSome_iff_exists.mp (List.getLast?_isSome.mpr hne)
    rcases hall with hnil | hlast
    · exact hne (List.append_eq_nil_iff.mp hnil).2
    · rw [List.getLast?_append, hc, Option.some_or] at hlast
      exact hfeed (List.mem_of_getLast? (hc.trans hlast))

/-- A conversation that owes a reply is not empty. -/
theorem isWholeLines_iff_of_needsResponse {content : String}
    (howed : needsResponse content = true) :
    IsWholeLines content.toList ↔ content.toList.getLast? = some '\n' := by
  refine or_iff_right fun hempty => ?_
  obtain rfl : content = "" := String.toList_inj.mp hempty
  simp [needsResponse_eq_owedAfter] at howed

/-- A reply behind an unfinished line is no turn: the reply that was owed is still owed. -/
theorem needsResponse_append_of_unfinished {content : String} (howed : needsResponse content = true)
    (hopen : ¬ IsWholeLines content.toList) (reply : String) :
    needsResponse (content ++ assistantLine reply) = true := by
  obtain ⟨whole, rest, hsplit, hwhole, hfeed⟩ := exists_wholeLines_append content.toList
  have hne : rest ≠ [] := by
    rintro rfl
    exact hopen (by rwa [hsplit, List.append_nil])
  rw [needsResponse_eq_owedAfter, hsplit, lines_append hwhole, lines_of_not_mem hne hfeed,
    owedAfter_append, owedAfter_cons, owedAfter_nil] at howed
  rw [needsResponse_eq_owedAfter, String.toList_append, hsplit,
    lines_append_assistantLine hwhole hfeed, owedAfter_append, owedAfter_cons, owedAfter_nil]
  unfold owedAfterLine at howed ⊢
  by_cases huser : isUserLine rest = true
  · rw [isUserLine_append huser, if_pos rfl]
  · rw [if_neg huser] at howed
    have hassistant : isAssistantLine rest ≠ true := fun h => by simp [h] at howed
    rw [if_neg hassistant] at howed
    have hstill : isAssistantLine (rest ++ replyLine reply) ≠ true := fun h =>
      hassistant (isAssistantLine_of_append_replyLine hne h)
    rw [howed, if_neg hstill, ite_self]

end FileChat.Conversation
