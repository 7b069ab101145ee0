/-
# Turns that no reply has seen

A reply that settles a session was made about the session as it was when the worker read it.
Turns that came between that and the reply stand in front of the reply and are not owed one any
more, but they were not seen. In a record that began empty these are the only ones: everything
before them was read.
-/

import FileChat.Proofs.Conversation.Record

namespace FileChat.Conversation

/-- The file up to and including the line at a position is in the content that some later reply
was made about. -/
def IsSeen (log : List Posting) (i : Nat) : Prop :=
  ∃ j text seen, i < j ∧ log[j]? = some (.reply text seen) ∧
    (textOf (log.take (i + 1))).toList <+: seen.toList

/-- The part of a record that its last reply was made about. -/
structure SeenLast (log earlier late : List Posting) : Prop where
  split : ∃ text, log = earlier ++ late ++ [.reply text (textOf earlier)]
  turns : ∀ posting ∈ late, posting.isTurn = true

/-- No posting is written as nothing. -/
theorem length_textOf_pos {log : List Posting} (h : log ≠ []) : 0 < (textOf log).toList.length := by
  cases log with
  | nil => exact absurd rfl h
  | cons posting later =>
      rw [textOf, String.toList_append, List.length_append]
      have hline : 0 < posting.line.toList.length := by
        cases posting with
        | turn message =>
            rw [Posting.line, toList_userLine]
            simp
        | reply text seen =>
            rw [Posting.line, toList_assistantLine]
            simp
      omega

/-- A record that began empty and owes nothing is empty or ends with a reply, and then that reply
was made about the text as it was before some turns. -/
theorem Answered.exists_seenLast {log : List Posting} (h : Answered [] log)
    (hnothing : needsResponse (textOf log) = false) :
    log = [] ∨ ∃ earlier late, SeenLast log earlier late := by
  rcases List.eq_nil_or_concat log with rfl | ⟨before, last, rfl⟩
  · exact .inl rfl
  · rw [List.concat_eq_append] at h hnothing ⊢
    refine .inr ?_
    cases last with
    | turn message =>
        have hlast : needsResponse ("" ++ textOf (before ++ [.turn message])) = true :=
          needsResponse_append_textOf Text.isWholeLines_nil h.isSingle
        rw [String.empty_append, hnothing] at hlast
        cases hlast
    | reply text seen =>
        obtain ⟨earlier, late, rfl, hlate, hdecode⟩ := h.awaits.split
        rw [List.nil_append, Utf8.decode_encode] at hdecode
        obtain rfl := Option.some.inj hdecode
        exact ⟨earlier, late, ⟨text, rfl⟩, hlate⟩

namespace SeenLast

variable {log earlier late : List Posting} {i : Nat}

/-- What the last reply was made about holds every line before it. -/
theorem isSeen (h : SeenLast log earlier late) (hi : i < earlier.length) : IsSeen log i := by
  obtain ⟨text, rfl⟩ := h.split
  refine ⟨(earlier ++ late).length, text, textOf earlier, ?_, by simp, ?_⟩
  · rw [List.length_append]
    omega
  · rw [List.append_assoc, List.take_append_of_le_length hi]
    conv_rhs => rw [← List.take_append_drop (i + 1) earlier, textOf_append, String.toList_append]
    exact List.prefix_append _ _

/-- No reply was made about the turns after it. -/
theorem not_isSeen (h : SeenLast log earlier late) (hi : earlier.length ≤ i) : ¬ IsSeen log i := by
  obtain ⟨text, rfl⟩ := h.split
  rintro ⟨j, reply, seen, hij, hreply, hprefix⟩
  rw [List.append_assoc, List.getElem?_append_right (by omega)] at hreply
  rcases Nat.lt_or_ge (j - earlier.length) late.length with hlate | hlast
  · -- Behind the part that was read and before the last reply there are only turns.
    rw [List.getElem?_append_left hlate] at hreply
    cases h.turns _ (List.mem_of_getElem? hreply)
  · rw [List.getElem?_append_right hlast, List.getElem?_singleton] at hreply
    split at hreply
    · next hj =>
        obtain ⟨-, rfl⟩ := Posting.reply.inj (Option.some.inj hreply)
        have hlength := hprefix.length_le
        have hmore : late.take (i + 1 - earlier.length) ≠ [] := by
          rw [ne_eq, List.take_eq_nil_iff, not_or]
          refine ⟨by omega, ?_⟩
          rintro rfl
          simp at hj
          omega
        rw [List.append_assoc, List.take_append, List.take_of_length_le (by omega),
          List.take_append_of_le_length (by omega), textOf_append, String.toList_append,
          List.length_append] at hlength
        have hpos := length_textOf_pos hmore
        omega
    · cases hreply

end SeenLast

end FileChat.Conversation
