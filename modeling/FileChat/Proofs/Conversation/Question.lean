/-
# The question in a shortened conversation

A conversation that owes a reply has a question in it: the user's turn with no turn behind it.
Shortening goes by lines, whatever they hold, and by characters, so how many lines without a mark
come behind the question decides whether it stays. What is left owes a reply exactly if the
question is in it, and the prompt made of it has a turn of the user exactly if it owes one.
-/

import FileChat.Proofs.Conversation.Chat
import FileChat.Proofs.Conversation.Shortening
import FileChat.Worker.Job

namespace FileChat.Conversation

open Text

/-- The line at a position is the user's, and no line behind it is a turn. -/
structure IsQuestion (spoken : List (List Char)) (position : Nat) (question : List Char) :
    Prop where
  found : spoken[position]? = some question
  isUser : isUserLine question = true
  last : ∀ line ∈ spoken.drop (position + 1),
    isUserLine line = false ∧ isAssistantLine line = false

section Question

variable {spoken : List (List Char)} {position count : Nat} {question : List Char}

/-- Whoever is owed a reply has asked a question. -/
theorem exists_isQuestion_of_owedAfter (h : owedAfter false spoken = true) :
    ∃ position question, IsQuestion spoken position question := by
  induction spoken using List.reverseRecOn with
  | nil => cases h
  | append_singleton spoken line ih =>
      rw [owedAfter_append, owedAfter_cons, owedAfter_nil, owedAfterLine] at h
      split at h
      · next huser =>
          exact ⟨spoken.length, line, by simp, huser, by simp⟩
      · next huser =>
          split at h
          · cases h
          · next hassistant =>
              obtain ⟨position, question, hquestion⟩ := ih h
              obtain ⟨hposition, -⟩ := List.getElem?_eq_some_iff.mp hquestion.found
              refine ⟨position, question, ?_, hquestion.isUser, fun other hother => ?_⟩
              · rw [List.getElem?_append_left hposition, hquestion.found]
              · rw [List.drop_append_of_le_length hposition] at hother
                rcases List.mem_append.mp hother with hother | hother
                · exact hquestion.last other hother
                · rw [List.mem_singleton.mp hother]
                  exact ⟨by simpa using huser, by simpa using hassistant⟩

namespace IsQuestion

/-- To a question a reply is owed, whatever is in front of it. -/
theorem owedAfter_eq (h : IsQuestion spoken position question) : owedAfter false spoken = true := by
  obtain ⟨hposition, hfound⟩ := List.getElem?_eq_some_iff.mp h.found
  have hsplit : spoken.drop position = question :: spoken.drop (position + 1) := by
    rw [List.drop_eq_getElem_cons hposition, hfound]
  rw [← List.take_append_drop position spoken, owedAfter_append, hsplit, owedAfter_cons,
    owedAfter_of_forall_not_turn h.last, owedAfterLine, if_pos h.isUser]

/-- Without some lines in front of it the question is as many lines further up. -/
theorem drop (h : IsQuestion spoken position question) (hcount : count ≤ position) :
    IsQuestion (spoken.drop count) (position - count) question where
  found := by rw [List.getElem?_drop, Nat.add_sub_cancel' hcount, h.found]
  isUser := h.isUser
  last := by
    have hbehind : count + (position - count + 1) = position + 1 := by omega
    rw [List.drop_drop, hbehind]
    exact h.last

/-- Without the question and what is in front of it there are no turns. -/
theorem last_drop (h : IsQuestion spoken position question) (hcount : position < count) :
    ∀ line ∈ spoken.drop count, isUserLine line = false ∧ isAssistantLine line = false :=
  fun line hline => h.last line (List.drop_subset_drop_left spoken hcount hline)

/-- What is left of some lines owes a reply exactly if the question is in it. -/
theorem owedAfter_drop_iff (h : IsQuestion spoken position question) (count : Nat) :
    owedAfter false (spoken.drop count) = true ↔ count ≤ position := by
  constructor
  · intro howed
    by_contra hgone
    rw [owedAfter_of_forall_not_turn (h.last_drop (Nat.lt_of_not_le hgone))] at howed
    cases howed
  · exact fun hcount => (h.drop hcount).owedAfter_eq

end IsQuestion

end Question

section Prompt

/-- A blank at its end does not make a line a turn of the user. -/
theorem isUserLine_append_singleton {c : Char} (hc : isBlank c = true) (line : List Char) :
    isUserLine (line ++ [c]) = isUserLine line := by
  rw [Bool.eq_iff_iff, isUserLine_iff, isUserLine_iff, List.prefix_concat_iff]
  refine or_iff_right fun heq => ?_
  have hlast : "User:".toList.getLast? = some c := by rw [heq, List.getLast?_concat]
  rw [show "User:".toList.getLast? = some ':' by decide, Option.some_inj] at hlast
  rw [← hlast] at hc
  cases hc

/-- Nor does a terminator. -/
theorem isUserLine_unterminated (piece : List Char) :
    isUserLine (unterminated piece) = isUserLine piece := by
  have hlast {c : Char} (hc : isBlank c = true) {text : List Char}
      (h : text.getLast? = some c) : isUserLine text.dropLast = isUserLine text := by
    obtain ⟨before, rfl⟩ := List.getLast?_eq_some_iff.mp h
    rw [List.dropLast_concat, isUserLine_append_singleton hc]
  unfold unterminated
  dsimp only
  split
  · next hfeed =>
      split
      · next hreturn => rw [hlast (by decide) hreturn, hlast (by decide) hfeed]
      · exact hlast (by decide) hfeed
  · rfl

/-- A blank at the end of a text makes no turn of the user. -/
theorem any_isUserLine_append_singleton {c : Char} (hc : isBlank c = true) (text : List Char) :
    (lines (text ++ [c])).any isUserLine = (lines text).any isUserLine := by
  obtain ⟨whole, rest, rfl, hwhole, hfeed⟩ := exists_wholeLines_append text
  have hrest : (lines (rest ++ [c])).any isUserLine = (lines rest).any isUserLine := by
    rw [lines, pieces_append_singleton hfeed, List.map_singleton]
    cases rest with
    | nil =>
        simp only [List.any_cons, List.any_nil, isUserLine_unterminated,
          isUserLine_append_singleton hc]
        rfl
    | cons first later =>
        rw [lines_of_not_mem (by simp) hfeed]
        simp only [List.any_cons, List.any_nil, isUserLine_unterminated,
          isUserLine_append_singleton hc]
  rw [List.append_assoc, lines_append hwhole, lines_append hwhole, List.any_append,
    List.any_append, hrest]

theorem any_isUserLine_append_of_isBlankText {blank : List Char} (h : isBlankText blank = true)
    (text : List Char) : (lines (text ++ blank)).any isUserLine = (lines text).any isUserLine := by
  induction blank using List.reverseRecOn with
  | nil => rw [List.append_nil]
  | append_singleton blank c ih =>
      obtain ⟨hblank, hc⟩ := Bool.and_eq_true_iff.mp ((List.all_append).symm.trans h)
      rw [← List.append_assoc, any_isUserLine_append_singleton (by simpa using hc), ih hblank]

/-- The lines of a prompt are those of the conversation without its last terminators, and the
cue. -/
theorem lines_buildPrompt (content : String) :
    lines (buildPrompt content).toList =
      lines (withoutFinalTerminators content.toList ++ ['\n']) ++ [cue.toList] := by
  have hprompt : (buildPrompt content).toList =
      (withoutFinalTerminators content.toList ++ ['\n']) ++ cue.toList := by
    simp [buildPrompt, withoutFinalTerminators]
  have hcue : lines cue.toList = [cue.toList] := by decide
  rw [hprompt, lines_append (isWholeLines_append_lineFeed _), hcue]

/-- A prompt has a turn of the user exactly if the conversation has one. -/
theorem any_isUserLine_buildPrompt (content : String) :
    (lines (buildPrompt content).toList).any isUserLine =
      (lines content.toList).any isUserLine := by
  obtain ⟨blank, hcontent, hblank⟩ := exists_append_isBlankText content.toList
  have hcue : [cue.toList].any isUserLine = false := by decide
  calc (lines (buildPrompt content).toList).any isUserLine
      = (lines (withoutFinalTerminators content.toList ++ ['\n'])).any isUserLine := by
        rw [lines_buildPrompt, List.any_append, hcue, Bool.or_false]
    _ = (lines (withoutFinalTerminators content.toList)).any isUserLine :=
        any_isUserLine_append_singleton (by decide) _
    _ = (lines (withoutFinalTerminators content.toList ++ blank)).any isUserLine :=
        (any_isUserLine_append_of_isBlankText hblank _).symm
    _ = (lines content.toList).any isUserLine := by rw [← hcontent]

/-- A turn of the user is a line of the prompt, but for blanks at its end. -/
theorem exists_mem_lines_buildPrompt {content : String} {line : List Char}
    (hline : line ∈ lines content.toList) (huser : isUserLine line = true) :
    ∃ kept ∈ lines (buildPrompt content).toList, trim kept = trim line := by
  obtain ⟨blank, hcontent, hblank⟩ := exists_append_isBlankText content.toList
  have hspoken : trim line ∈ spoken content.toList := by
    rw [spoken, List.mem_filter, isEmpty_trim, not_isBlankText_of_isUserLine huser]
    exact ⟨List.mem_map_of_mem hline, rfl⟩
  have hsame : spoken content.toList =
      spoken (withoutFinalTerminators content.toList ++ ['\n']) := by
    rw [spoken_append_singleton (by decide)]
    conv_lhs => rw [hcontent, spoken_append_of_isBlankText hblank]
  rw [hsame, spoken, List.mem_filter, List.mem_map] at hspoken
  obtain ⟨⟨kept, hkept, htrim⟩, -⟩ := hspoken
  refine ⟨kept, ?_, htrim⟩
  rw [lines_buildPrompt]
  exact List.mem_append_left _ hkept

end Prompt

section Shortened

variable {content : String} {budget pairs position : Nat} {question : List Char}

theorem lines_trimToContext
    (h : IsLeast {pairs | IsShort budget (pieces content.toList) pairs} pairs) :
    lines (trimToContext content budget).toList = (lines content.toList).drop (2 * pairs) := by
  rw [lines, pieces_trimToContext h, List.map_drop, ← lines]

/-- The pairs that go are all in front of a line exactly if the conversation is short without the
pairs in front of it. -/
theorem two_mul_le_iff_isShort
    (h : IsLeast {pairs | IsShort budget (pieces content.toList) pairs} pairs) :
    2 * pairs ≤ position ↔ IsShort budget (pieces content.toList) (position / 2) := by
  constructor
  · exact fun hkept => h.1.mono (Nat.le_refl _) (by omega)
  · intro hshort
    have hpairs : pairs ≤ position / 2 := h.2 hshort
    omega

/-- What a budget leaves of a conversation that owes a reply owes one exactly if the question is
among the lines that are left. That is so exactly if the conversation from the pair of lines on in
which the question is fits the budget or has fewer than four lines, so it is always so with at most
one line behind the question. Then the question is a line of the prompt that a worker makes, and
otherwise that prompt has no turn of the user at all. -/
theorem needsResponse_trimToContext_iff (howed : needsResponse content = true) (budget : Nat) :
    ∃ position question pairs, IsQuestion (lines content.toList) position question ∧
      IsShortened content budget pairs (trimToContext content budget) ∧
      (needsResponse (trimToContext content budget) = true ↔ 2 * pairs ≤ position) ∧
      (2 * pairs ≤ position ↔ IsShort budget (pieces content.toList) (position / 2)) ∧
      ((lines content.toList).length ≤ position + 2 → 2 * pairs ≤ position) ∧
      ∀ {σ : Type} (g : Worker.Generator σ), g.params.contextChars = budget →
        (2 * pairs ≤ position →
          ∃ line ∈ lines (g.callFor content).prompt.toList, trim line = trim question) ∧
        (position < 2 * pairs →
          ∀ line ∈ lines (g.callFor content).prompt.toList, isUserLine line = false) := by
  obtain ⟨position, question, hquestion⟩ : ∃ position question,
      IsQuestion (lines content.toList) position question := by
    rw [needsResponse_eq_owedAfter] at howed
    exact exists_isQuestion_of_owedAfter howed
  obtain ⟨pairs, hpairs⟩ := exists_isLeast_isShort budget (pieces content.toList)
  have hlines := lines_trimToContext hpairs
  have hshort : 2 * pairs ≤ position ↔ IsShort budget (pieces content.toList) (position / 2) :=
    two_mul_le_iff_isShort hpairs
  refine ⟨position, question, pairs, hquestion, .of_isLeast hpairs, ?_, hshort, ?_, ?_⟩
  · rw [needsResponse_eq_owedAfter, hlines]
    exact hquestion.owedAfter_drop_iff _
  · intro hfew
    refine hshort.mpr (.inr ?_)
    rw [lines, List.length_map] at hfew
    rw [List.length_drop]
    omega
  · rintro σ g rfl
    have hprompt : (g.callFor content).prompt =
        buildPrompt (trimToContext content g.params.contextChars) := rfl
    rw [hprompt]
    refine ⟨fun hkept => ?_, fun hgone line hline => ?_⟩
    · refine exists_mem_lines_buildPrompt ?_ hquestion.isUser
      rw [hlines]
      exact List.mem_of_getElem? (hquestion.drop hkept).found
    · have hnone : (lines (trimToContext content g.params.contextChars).toList).any isUserLine =
          false := by
        rw [hlines, List.any_eq_false]
        exact fun other hother => by simp [(hquestion.last_drop hgone other hother).1]
      rw [← any_isUserLine_buildPrompt, List.any_eq_false] at hnone
      simpa using hnone line hline

/-- With blank lines behind it a question stays as long as all of it fits. -/
theorem needsResponse_trimToContext_iff_of_blank_lines :
    needsResponse "User: q\n\n\n\n" = true ∧
      needsResponse (trimToContext "User: q\n\n\n\n" 11) = true ∧
      ∃ position question, IsQuestion (lines "User: q\n\n\n\n".toList) position question ∧
        IsShort 11 (pieces "User: q\n\n\n\n".toList) (position / 2) ∧
        ∀ {σ : Type} (g : Worker.Generator σ), g.params.contextChars = 11 →
          ∃ line ∈ lines (g.callFor "User: q\n\n\n\n").prompt.toList,
            trim line = trim question := by
  have howed : needsResponse "User: q\n\n\n\n" = true := by decide
  have hstill : needsResponse (trimToContext "User: q\n\n\n\n" 11) = true := by decide
  obtain ⟨position, question, pairs, hquestion, -, hkept, hshort, -, hprompt⟩ :=
    needsResponse_trimToContext_iff howed 11
  have hpairs := hkept.mp hstill
  exact ⟨howed, hstill, position, question, hquestion, hshort.mp hpairs,
    fun g hg => (hprompt g hg).1 hpairs⟩

/-- Blank lines behind it can drive a question out. -/
theorem not_forall_needsResponse_trimToContext :
    ¬ ∀ (content : String) (budget : Nat), needsResponse content = true →
      needsResponse (trimToContext content budget) = true := by
  intro hall
  exact absurd (hall "User: q\n\n\n\n" 10 (by decide)) (by decide)

end Shortened

end FileChat.Conversation
