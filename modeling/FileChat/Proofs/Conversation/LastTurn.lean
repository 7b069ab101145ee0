/-
# The last turn

A line is a turn if it begins with the word of a mark, and whose the last turn is decides whether
a reply is owed. Said in this way it needs no positions and no choice of lines to count: a line
that is no turn can come or go anywhere, and a conversation that is continued behind whole lines is
decided by the continuation alone as soon as there is a turn in it.
-/

import FileChat.Proofs.Conversation.Owed

namespace FileChat.Conversation

open Text

/-- A line that begins with the word of a mark; the blank of the mark may be missing. -/
def IsTurn (line : List Char) : Prop := "User:".toList <+: line ∨ "Assistant:".toList <+: line

instance : DecidablePred IsTurn := fun line =>
  inferInstanceAs (Decidable ("User:".toList <+: line ∨ "Assistant:".toList <+: line))

/-- A turn of a conversation with no turn behind it. -/
def IsLastTurn (spoken : List (List Char)) (line : List Char) : Prop :=
  IsTurn line ∧ ∃ before after, spoken = before ++ line :: after ∧
    ∀ later ∈ after, ¬ IsTurn later

section LastTurn

variable {spoken : List (List Char)} {line : List Char}

theorem not_isTurn_iff :
    ¬ IsTurn line ↔ isUserLine line = false ∧ isAssistantLine line = false := by
  rw [IsTurn, not_or, ← isUserLine_iff, ← isAssistantLine_iff, Bool.not_eq_true, Bool.not_eq_true]

/-- Among lines of which one is a turn there is a last turn. -/
theorem exists_isLastTurn (h : ∃ line ∈ spoken, IsTurn line) :
    ∃ line, IsLastTurn spoken line := by
  induction spoken with
  | nil => simp at h
  | cons first later ih =>
      by_cases hlater : ∃ line ∈ later, IsTurn line
      · obtain ⟨line, hturn, before, after, rfl, hafter⟩ := ih hlater
        exact ⟨line, hturn, first :: before, after, rfl, hafter⟩
      · obtain ⟨line, hmem, hturn⟩ := h
        rcases List.mem_cons.mp hmem with rfl | hmem
        · exact ⟨line, hturn, [], later, rfl, fun other hother hc => hlater ⟨other, hother, hc⟩⟩
        · exact absurd ⟨line, hmem, hturn⟩ hlater

/-- A turn settles whether a reply is owed. -/
theorem IsTurn.owedAfterLine_eq (h : IsTurn line) (owed : Bool) :
    owedAfterLine owed line = isUserLine line := by
  unfold owedAfterLine
  split
  · next huser => exact huser.symm
  · next huser =>
      rw [IsTurn, ← isUserLine_iff, ← isAssistantLine_iff] at h
      rw [if_pos (h.resolve_left huser)]
      exact (Bool.eq_false_iff.mpr huser).symm

/-- The last turn settles it, whatever was owed before. -/
theorem IsLastTurn.owedAfter_eq (h : IsLastTurn spoken line) (owed : Bool) :
    owedAfter owed spoken = isUserLine line := by
  obtain ⟨hturn, before, after, rfl, hafter⟩ := h
  rw [owedAfter_append, owedAfter_cons, hturn.owedAfterLine_eq]
  exact owedAfter_of_forall_not_turn (fun later hlater => not_isTurn_iff.mp (hafter later hlater)) _

/-- Without a turn nothing is settled. -/
theorem owedAfter_of_not_exists_isTurn (h : ¬ ∃ line ∈ spoken, IsTurn line) (owed : Bool) :
    owedAfter owed spoken = owed :=
  owedAfter_of_forall_not_turn
    (fun line hline => not_isTurn_iff.mp fun hturn => h ⟨line, hline, hturn⟩) owed

/-- Only the turns count. -/
theorem owedAfter_filter_isTurn (owed : Bool) (spoken : List (List Char)) :
    owedAfter owed (spoken.filter IsTurn) = owedAfter owed spoken := by
  refine owedAfter_filter (fun line hline owed => ?_) owed spoken
  exact owedAfterLine_of_not_turn (not_isTurn_iff.mp (of_decide_eq_false hline)) owed

end LastTurn

/-- A reply is owed exactly if there is a last turn and it is the user's. -/
theorem needsResponse_iff_isLastTurn (content : String) :
    needsResponse content = true ↔
      ∃ line, IsLastTurn (lines content.toList) line ∧ "User:".toList <+: line := by
  rw [needsResponse_eq_owedAfter]
  constructor
  · intro howed
    obtain ⟨line, hlast⟩ : ∃ line, IsLastTurn (lines content.toList) line := by
      apply exists_isLastTurn
      by_contra hnone
      rw [owedAfter_of_not_exists_isTurn hnone] at howed
      cases howed
    rw [hlast.owedAfter_eq] at howed
    exact ⟨line, hlast, isUserLine_iff.mp howed⟩
  · rintro ⟨line, hlast, huser⟩
    rw [hlast.owedAfter_eq]
    exact isUserLine_iff.mpr huser

/-- Two conversations with the same turns owe the same. -/
theorem needsResponse_eq_of_filter_isTurn {content other : String}
    (h : (lines content.toList).filter IsTurn = (lines other.toList).filter IsTurn) :
    needsResponse content = needsResponse other := by
  rw [needsResponse_eq_owedAfter, needsResponse_eq_owedAfter, ← owedAfter_filter_isTurn, h,
    owedAfter_filter_isTurn]

/-- A continuation of whole lines decides by itself if it has a turn, and otherwise not at all. -/
theorem needsResponse_append_eq_ite {first : String} (h : IsWholeLines first.toList)
    (second : String) :
    needsResponse (first ++ second) =
      if ∃ line ∈ lines second.toList, IsTurn line then needsResponse second
      else needsResponse first := by
  rw [needsResponse_append h]
  split
  · next hturn =>
      obtain ⟨line, hlast⟩ := exists_isLastTurn hturn
      rw [needsResponse_eq_owedAfter second, hlast.owedAfter_eq, hlast.owedAfter_eq]
  · next hnone => exact owedAfter_of_not_exists_isTurn hnone _

/-- The last turn decides whether a reply is owed: one is owed exactly if there is a last turn and
it is the user's. So two conversations that have the same turns in the same order, with any other
lines between them, owe the same; and a conversation of whole lines that is continued owes what the
continuation owes if that has a turn, and what it owed before if not. -/
theorem needsResponse_of_lastTurn :
    (∀ content : String, needsResponse content = true ↔
      ∃ line, IsLastTurn (lines content.toList) line ∧ "User:".toList <+: line) ∧
    (∀ content other : String,
      (lines content.toList).filter IsTurn = (lines other.toList).filter IsTurn →
        needsResponse content = needsResponse other) ∧
    ∀ first second : String, IsWholeLines first.toList →
      needsResponse (first ++ second) =
        if ∃ line ∈ lines second.toList, IsTurn line then needsResponse second
        else needsResponse first :=
  ⟨needsResponse_iff_isLastTurn, fun _ _ h => needsResponse_eq_of_filter_isTurn h,
    fun _ second h => needsResponse_append_eq_ite h second⟩

/-- What is not a turn makes no difference, whichever way the lines end, and an unfinished line can
be a turn. -/
theorem needsResponse_of_lastTurn_of_context :
    (lines "User: a\r\n \r\nto Assistant: b\nUser:c".toList).filter IsTurn =
        (lines "\nUser: a\nUser:c\r\nas before\n\n".toList).filter IsTurn ∧
      needsResponse "User: a\r\n \r\nto Assistant: b\nUser:c" =
        needsResponse "\nUser: a\nUser:c\r\nas before\n\n" ∧
      IsWholeLines "Be brief.\r\nUser: a\r\n".toList ∧
      needsResponse ("Be brief.\r\nUser: a\r\n" ++ "\r\n  Assistant: b") =
        needsResponse "Be brief.\r\nUser: a\r\n" ∧
      needsResponse ("Be brief.\r\nUser: a\r\n" ++ "Assistant:b\r\nas before") =
        needsResponse "Assistant:b\r\nas before" := by
  have hsame : (lines "User: a\r\n \r\nto Assistant: b\nUser:c".toList).filter IsTurn =
      (lines "\nUser: a\nUser:c\r\nas before\n\n".toList).filter IsTurn := by decide
  have hwhole : IsWholeLines "Be brief.\r\nUser: a\r\n".toList := by decide
  have hcontext : ¬ ∃ line ∈ lines "\r\n  Assistant: b".toList, IsTurn line := by decide
  have hturn : ∃ line ∈ lines "Assistant:b\r\nas before".toList, IsTurn line := by decide
  obtain ⟨-, hequal, happend⟩ := needsResponse_of_lastTurn
  exact ⟨hsame, hequal _ _ hsame, hwhole, (happend _ _ hwhole).trans (if_neg hcontext),
    (happend _ _ hwhole).trans (if_pos hturn)⟩

end FileChat.Conversation
