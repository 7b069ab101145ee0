/-
# Three readers of a conversation

Whether a reply is owed, what the messages of the chat are and what the client reports is read off
the same lines by three readers, each of which looks for the marks in its own way. The first takes
a mark without its blank and nothing in front of it, the second one trims the line first, and the
third one wants the blank. They read a line alike unless it is a turn that says nothing, or one
behind blanks.
-/

import FileChat.Proofs.Conversation.Response
import FileChat.Proofs.Conversation.Script

namespace FileChat.Conversation

open Text

/-- Who speaks in a line, for whether a reply is owed. -/
def speaker (line : List Char) : Option Role :=
  if isUserLine line then some .user else if isAssistantLine line then some .assistant else none

/-- The turns of a conversation that decide whether a reply is owed. -/
def turnsOwed (content : String) : List Role := (spokenLines content.toList).filterMap speaker

namespace Message

/-- Who speaks in a message, the system left out. -/
def speaker? (message : Message) : Option Role :=
  match message.role with
  | .system => none
  | role => some role

/-- The turns of a chat. -/
def turnsOf (chat : List Message) : List Role := chat.filterMap speaker?

/-- Who speaks in a line, for the messages of a chat. -/
def lineSpeaker (line : List Char) : Option Role := (ofLine (trim line)).speaker?

@[simp]
theorem turnsOf_append (first second : List Message) :
    turnsOf (first ++ second) = turnsOf first ++ turnsOf second := List.filterMap_append

/-- A line that is joined to what the system says is no turn, and any other line is a message. -/
theorem turnsOf_addLine (newestFirst : List Message) (line : List Char) :
    turnsOf (addLine newestFirst line) = turnsOf [ofLine line] ++ turnsOf newestFirst := by
  unfold addLine
  split
  · next text before earlier hsystem => rw [hsystem]; rfl
  · rw [← turnsOf_append, List.singleton_append]

theorem turnsOf_foldl_addLine (more : List (List Char)) (newestFirst : List Message) :
    turnsOf (more.foldl addLine newestFirst).reverse =
      turnsOf newestFirst.reverse ++ turnsOf (more.map ofLine) := by
  induction more generalizing newestFirst with
  | nil => simp [turnsOf]
  | cons line later ih =>
      have hline : turnsOf (addLine newestFirst line).reverse =
          turnsOf newestFirst.reverse ++ turnsOf [ofLine line] := by
        have hreverse (chat : List Message) : turnsOf chat.reverse = (turnsOf chat).reverse :=
          List.filterMap_reverse
        rw [hreverse, turnsOf_addLine, List.reverse_append, hreverse, ← hreverse [_]]
        rfl
      rw [List.foldl_cons, ih, hline, List.append_assoc, ← turnsOf_append]
      rfl

/-- The turns of the chat behind a prompt are read off the lines one by one. -/
theorem turnsOf_ofPrompt_buildPrompt (content : String) :
    turnsOf (ofPrompt (buildPrompt content)) = (lines content.toList).filterMap lineSpeaker := by
  have hspoken : turnsOf ((spoken content.toList).map ofLine) =
      (lines content.toList).filterMap lineSpeaker := by
    rw [turnsOf, List.filterMap_map, spoken, List.filterMap_filter, List.filterMap_map]
    congr 1
    funext line
    dsimp only [Function.comp_apply]
    cases hempty : (trim line).isEmpty with
    | false => rfl
    | true =>
        rw [lineSpeaker, List.isEmpty_iff.mp hempty]
        rfl
  rw [ofPrompt, turnsOf_foldl_addLine, spokenInPrompt_buildPrompt, hspoken]
  rfl

end Message

/-- The turns that decide whether a reply is owed are read off the lines one by one. -/
theorem turnsOwed_eq_filterMap (content : String) :
    turnsOwed content = (lines content.toList).filterMap speaker := by
  rw [turnsOwed, spokenLines, List.filterMap_filter]
  congr 1
  funext line
  cases hblank : isBlankText line with
  | false => rfl
  | true =>
      have huser : isUserLine line ≠ true := fun h => by
        simp [not_isBlankText_of_isUserLine h] at hblank
      have hassistant : isAssistantLine line ≠ true := fun h => by
        simp [not_isBlankText_of_isAssistantLine h] at hblank
      simp [speaker, huser, hassistant]

/-- A reply is owed if the last turn is the user's. -/
theorem needsResponse_iff_getLast?_turnsOwed (content : String) :
    needsResponse content = true ↔ (turnsOwed content).getLast? = some .user := by
  rw [needsResponse_eq_owedAfter, turnsOwed_eq_filterMap]
  generalize lines content.toList = all
  induction all using List.reverseRecOn with
  | nil => simp
  | append_singleton all line ih =>
      rw [owedAfter_append, owedAfter_cons, owedAfter_nil, List.filterMap_append, owedAfterLine]
      by_cases huser : isUserLine line = true
      · simp [speaker, huser]
      · by_cases hassistant : isAssistantLine line = true
        · simp [speaker, huser, hassistant]
        · simpa [speaker, huser, hassistant] using ih

section Mark

variable {mark line blank text : List Char}

/-- What two of the readers look for: something that is not blank, and a blank at the end. -/
def IsMark (mark : List Char) : Prop := mark = userMark.toList ∨ mark = assistantMark.toList

/-- A turn that says nothing: behind the word of the mark the blank is missing or all there is. -/
def IsMute (mark line : List Char) : Prop :=
  mark.dropLast <+: line ∧ ∀ text, line = mark ++ text → isBlankText text = true

/-- A turn that says something, with blanks in front of it. -/
def IsIndented (mark line : List Char) : Prop :=
  ∃ blank text, line = blank ++ (mark ++ text) ∧ blank ≠ [] ∧ isBlankText blank = true ∧
    isBlankText text = false

/-- A line that is no turn at all, or says something behind a mark at its beginning. -/
def IsClear (line : List Char) : Prop :=
  ∀ mark, IsMark mark → ¬ IsMute mark line ∧ ¬ IsIndented mark line

theorem IsMark.exists_cons (h : IsMark mark) :
    ∃ c word, mark.dropLast = c :: word ∧ mark = c :: (word ++ [' ']) ∧ isBlank c = false := by
  rcases h with rfl | rfl
  · exact ⟨'U', "ser:".toList, by decide, by decide, by decide⟩
  · exact ⟨'A', "ssistant:".toList, by decide, by decide, by decide⟩

theorem IsMark.getLast?_eq (h : IsMark mark) : mark.getLast? = some ' ' := by
  rcases h with rfl | rfl
  · decide
  · decide

/-- A trimmed line begins with a mark if the line is a turn that says something, behind blanks or
not. -/
theorem IsMark.prefix_trim_iff (h : IsMark mark) :
    mark <+: trim line ↔ ∃ blank text, line = blank ++ (mark ++ text) ∧
      isBlankText blank = true ∧ isBlankText text = false := by
  obtain ⟨c, word, -, hmark, hc⟩ := h.exists_cons
  constructor
  · rintro ⟨text, htext⟩
    obtain ⟨after, hafter⟩ := exists_eq_trimEnd_append (trimStart line)
    rw [← trim, ← htext] at hafter
    refine ⟨line.takeWhile isBlank, text ++ after, ?_, List.all_takeWhile, ?_⟩
    · rw [← List.append_assoc mark, ← hafter, trimStart, List.takeWhile_append_dropWhile]
    · have hne : mark ++ text ≠ [] := by simp [hmark]
      obtain ⟨d, hd⟩ := Option.isSome_iff_exists.mp (List.getLast?_isSome.mpr hne)
      have hlast : isBlank d = false := isBlank_of_getLast?_trimEnd (by rw [← trim, ← htext, hd])
      have hspoken : isBlankText text = false :=
        isBlankText_of_getLast?_append h.getLast?_eq hd hlast
      rw [isBlankText, List.all_append, ← isBlankText, hspoken, Bool.false_and]
  · rintro ⟨blank, text, rfl, hblank, htext⟩
    have hstart : trimStart (blank ++ (mark ++ text)) = mark ++ text := by
      rw [trimStart, List.dropWhile_append_of_pos (List.all_eq_true.mp hblank), hmark,
        List.cons_append, List.dropWhile_cons_of_neg (by simp [hc])]
    rw [trim, hstart, trimEnd_append_of_not_isBlankText htext]
    exact List.prefix_append _ _

/-- What begins with the word of a mark does not begin with a blank. -/
theorem IsMark.eq_nil_of_isBlankText (h : IsMark mark) (hblank : isBlankText blank = true)
    (hword : mark.dropLast <+: blank ++ text) : blank = [] := by
  obtain ⟨c, word, hdrop, -, hc⟩ := h.exists_cons
  cases blank with
  | nil => rfl
  | cons d later =>
      rw [hdrop, List.cons_append, List.cons_prefix_cons] at hword
      rw [isBlankText, List.all_cons, ← hword.1, hc] at hblank
      cases hblank

/-- It makes no difference whether a line is trimmed and whether the mark has its blank, unless
the line is a turn that says nothing or one behind blanks. -/
theorem IsMark.dropLast_prefix_iff (h : IsMark mark) :
    (mark.dropLast <+: line ↔ mark <+: trim line) ↔
      ¬ IsMute mark line ∧ ¬ IsIndented mark line := by
  rw [h.prefix_trim_iff]
  constructor
  · intro hagree
    constructor
    · rintro ⟨hword, hmute⟩
      obtain ⟨blank, text, rfl, hblank, htext⟩ := hagree.mp hword
      obtain rfl := h.eq_nil_of_isBlankText hblank hword
      rw [hmute text rfl] at htext
      cases htext
    · rintro ⟨blank, text, rfl, hne, hblank, htext⟩
      exact hne (h.eq_nil_of_isBlankText hblank (hagree.mpr ⟨blank, text, rfl, hblank, htext⟩))
  · rintro ⟨hmute, hindented⟩
    constructor
    · intro hword
      by_contra hnone
      refine hmute ⟨hword, fun text htext => ?_⟩
      by_contra hspoken
      exact hnone ⟨[], text, htext, rfl, by simpa using hspoken⟩
    · rintro ⟨blank, text, rfl, hblank, htext⟩
      rcases eq_or_ne blank [] with rfl | hne
      · exact (List.dropLast_prefix mark).trans (List.prefix_append _ _)
      · exact absurd ⟨blank, text, rfl, hne, hblank, htext⟩ hindented

end Mark

section Speaker

variable {line : List Char}

/-- No text begins with both marks. -/
theorem not_prefix_of_userMark_prefix (h : userMark.toList <+: line) :
    ¬ assistantMark.toList <+: line := by
  obtain ⟨text, rfl⟩ := h
  simp [userMark, assistantMark]

theorem speaker_eq_some_iff (line : List Char) :
    (speaker line = some .user ↔ userMark.toList.dropLast <+: line) ∧
      (speaker line = some .assistant ↔ assistantMark.toList.dropLast <+: line) ∧
      speaker line ≠ some .system := by
  have huser : userMark.toList.dropLast = "User:".toList := by decide
  have hassistant : assistantMark.toList.dropLast = "Assistant:".toList := by decide
  rw [huser, hassistant, ← isUserLine_iff, ← isAssistantLine_iff, speaker]
  by_cases hline : isUserLine line = true
  · simp [hline, isAssistantLine_of_isUserLine hline]
  · by_cases hother : isAssistantLine line = true
    · simp [hline, hother]
    · simp [hline, hother]

theorem lineSpeaker_eq_some_iff (line : List Char) :
    (Message.lineSpeaker line = some .user ↔ userMark.toList <+: trim line) ∧
      (Message.lineSpeaker line = some .assistant ↔ assistantMark.toList <+: trim line) ∧
      Message.lineSpeaker line ≠ some .system := by
  unfold Message.lineSpeaker
  rcases Message.ofLine_cases (trim line) with ⟨text, htrim, hline⟩ | ⟨text, htrim, hline⟩ |
    ⟨hunmarked, hline⟩
  · have huser : userMark.toList <+: trim line := ⟨text, htrim.symm⟩
    simp [hline, Message.speaker?, huser, not_prefix_of_userMark_prefix huser]
  · have hassistant : assistantMark.toList <+: trim line := ⟨text, htrim.symm⟩
    have huser := mt not_prefix_of_userMark_prefix (not_not_intro hassistant)
    simp [hline, Message.speaker?, huser, hassistant]
  · simp [hline, Message.speaker?, hunmarked.1, hunmarked.2]

/-- Two of the readers see the same speaker in a line exactly if the line is clear. -/
theorem lineSpeaker_eq_speaker_iff (line : List Char) :
    Message.lineSpeaker line = speaker line ↔ IsClear line := by
  obtain ⟨huser, hassistant, hsystem⟩ := speaker_eq_some_iff line
  obtain ⟨huser', hassistant', hsystem'⟩ := lineSpeaker_eq_some_iff line
  have hboth : Message.lineSpeaker line = speaker line ↔
      (userMark.toList.dropLast <+: line ↔ userMark.toList <+: trim line) ∧
        (assistantMark.toList.dropLast <+: line ↔ assistantMark.toList <+: trim line) := by
    rw [← huser, ← hassistant, ← huser', ← hassistant']
    constructor
    · intro heq
      rw [heq]
      exact ⟨.rfl, .rfl⟩
    · rintro ⟨hfirst, hsecond⟩
      ext role
      cases role with
      | system => exact iff_of_false hsystem' hsystem
      | user => exact hfirst.symm
      | assistant => exact hsecond.symm
  rw [hboth, IsMark.dropLast_prefix_iff (.inl rfl), IsMark.dropLast_prefix_iff (.inr rfl)]
  constructor
  · rintro ⟨hfirst, hsecond⟩ mark (rfl | rfl)
    · exact hfirst
    · exact hsecond
  · exact fun hclear => ⟨hclear _ (.inl rfl), hclear _ (.inr rfl)⟩

instance (line : List Char) : Decidable (IsClear line) :=
  decidable_of_iff _ (lineSpeaker_eq_speaker_iff line)

end Speaker

section Stages

variable {content : String}

/-- Two readings of a list that keep agreeing as it grows agree everywhere. -/
theorem eq_of_forall_filterMap_take {α β : Type} {f g : α → Option β} {xs : List α}
    (h : ∀ n, (xs.take n).filterMap f = (xs.take n).filterMap g) {x : α} (hx : x ∈ xs) :
    f x = g x := by
  obtain ⟨before, after, rfl⟩ := List.append_of_mem hx
  have hbefore := h before.length
  have hmore := h (before ++ [x]).length
  rw [List.take_left] at hbefore
  have hsplit : before ++ x :: after = before ++ [x] ++ after := List.append_cons before x after
  rw [hsplit, List.take_left, List.filterMap_append, List.filterMap_append, hbefore,
    List.append_cancel_left_eq] at hmore
  cases hf : f x with
  | none =>
      cases hg : g x with
      | none => rfl
      | some b => simp [hf, hg] at hmore
  | some a =>
      cases hg : g x with
      | none => simp [hf, hg] at hmore
      | some b => simpa [hf, hg] using hmore

/-- The first lines of a conversation of whole lines are a conversation of whole lines. -/
theorem exists_lines_eq_take (h : IsWholeLines content.toList) (count : Nat) :
    ∃ begun later, content = begun ++ later ∧ IsWholeLines begun.toList ∧
      lines begun.toList = (lines content.toList).take count := by
  refine ⟨String.ofList ((pieces content.toList).take count).flatten,
    String.ofList ((pieces content.toList).drop count).flatten, ?_, ?_, ?_⟩
  · rw [← String.ofList_append, ← List.flatten_append, List.take_append_drop, flatten_pieces,
      String.ofList_toList]
  · rw [String.toList_ofList]
    exact isWholeLines_flatten_take_of_isWholeLines h count
  · rw [String.toList_ofList, lines, pieces_flatten_take, lines, List.map_take]

/-- The chat and what is owed are made of the same turns at every stage of a conversation exactly
if all of its lines are clear. -/
theorem turnsOf_eq_turnsOwed_iff (h : IsWholeLines content.toList) :
    (∀ begun later, content = begun ++ later → IsWholeLines begun.toList →
        Message.turnsOf (Message.ofPrompt (buildPrompt begun)) = turnsOwed begun) ↔
      ∀ line ∈ lines content.toList, IsClear line := by
  simp only [Message.turnsOf_ofPrompt_buildPrompt, turnsOwed_eq_filterMap,
    ← lineSpeaker_eq_speaker_iff]
  constructor
  · -- Two stages that differ by one line show how that line is read.
    intro hagree line hline
    refine eq_of_forall_filterMap_take (fun count => ?_) hline
    obtain ⟨begun, later, hcontent, hbegun, hlines⟩ := exists_lines_eq_take h count
    rw [← hlines]
    exact hagree begun later hcontent hbegun
  · rintro hclear begun later rfl hbegun
    apply List.filterMap_congr
    intro line hline
    apply hclear
    rw [String.toList_append, lines_append hbegun]
    exact List.mem_append_left _ hline

end Stages

section Reply

variable {content : String} {spoken : List (List Char)}

/-- The lines behind the last user's turn. -/
def linesAfterTurn (spoken : List (List Char)) : List (List Char) :=
  (spoken.reverse.takeWhile fun line => !isUserLine line).reverse

/-- If nothing is owed to a user there is an assistant's turn behind his last one. -/
theorem exists_isAssistantLine_of_owedAfter (hturn : ∃ line ∈ spoken, isUserLine line = true)
    (howed : owedAfter false spoken = false) :
    ∃ line ∈ linesAfterTurn spoken, isAssistantLine line = true := by
  induction spoken using List.reverseRecOn with
  | nil => simp at hturn
  | append_singleton spoken line ih =>
      rw [owedAfter_append, owedAfter_cons, owedAfter_nil, owedAfterLine] at howed
      split at howed
      · cases howed
      · next huser =>
          have hafter : linesAfterTurn (spoken ++ [line]) = linesAfterTurn spoken ++ [line] := by
            simp [linesAfterTurn, huser]
          rw [hafter]
          split at howed
          · next hassistant => exact ⟨line, by simp, hassistant⟩
          · obtain ⟨turn, hmem, hturn⟩ := hturn
            have hearlier : turn ∈ spoken := by
              rcases List.mem_append.mp hmem with hmem | hmem
              · exact hmem
              · rw [List.mem_singleton.mp hmem] at hturn
                exact absurd hturn huser
            obtain ⟨reply, hreply, hassistant⟩ := ih ⟨turn, hearlier, hturn⟩ howed
            exact ⟨reply, List.mem_append_left _ hreply, hassistant⟩

/-- What the client reports is said behind the last user's turn exactly if a line behind it has the
mark with its blank. -/
theorem exists_eq_append_content_iff (sessionId content : String) :
    (∃ line ∈ linesAfterTurn (lines content.toList),
        line = assistantMark.toList ++ (Response.mk sessionId content).content.toList) ↔
      ∃ line ∈ linesAfterTurn (lines content.toList), assistantMark.toList <+: line := by
  constructor
  · rintro ⟨line, hline, hreply⟩
    exact ⟨line, hline, _, hreply.symm⟩
  · rintro ⟨line, hline, text, hreply⟩
    rw [linesAfterTurn, List.mem_reverse] at hline
    have hmark : (afterMark assistantMark.toList line).isSome = true := by
      rw [← hreply, afterMark_append]
      rfl
    obtain ⟨reply, hfound⟩ := Option.isSome_iff_exists.mp
      (List.findSome?_isSome_iff.mpr ⟨line, hline, hmark⟩)
    have hcontent : (Response.mk sessionId content).content.toList = reply := by
      rw [Response.content, ← List.takeWhile_append_dropWhile (p := fun line => !isUserLine line)
        (l := (lines content.toList).reverse), List.findSome?_append, hfound, Option.some_or,
        Option.getD_some, String.toList_ofList]
    obtain ⟨last, hlast, hsaid⟩ := List.exists_of_findSome?_eq_some hfound
    refine ⟨last, ?_, ?_⟩
    · rwa [linesAfterTurn, List.mem_reverse]
    · rw [hcontent]
      exact eq_append_of_afterMark hsaid

end Reply

/-- How far the three readers agree on a conversation of whole lines. The turns that decide
whether a reply is owed are those of the chat, at every stage of the conversation, exactly if every
line is clear. And if the user has spoken and nothing is owed, there is an assistant's turn behind
the last user's turn; the client reports one exactly if one of them has the blank of the mark. -/
theorem readers_agree_iff {content : String} (h : IsWholeLines content.toList) :
    (needsResponse content = true ↔ (turnsOwed content).getLast? = some .user) ∧
      ((∀ begun later, content = begun ++ later → IsWholeLines begun.toList →
          Message.turnsOf (Message.ofPrompt (buildPrompt begun)) = turnsOwed begun) ↔
        ∀ line ∈ lines content.toList, IsClear line) ∧
      ((∃ line ∈ lines content.toList, isUserLine line = true) → needsResponse content = false →
        (∃ line ∈ linesAfterTurn (lines content.toList), isAssistantLine line = true) ∧
          ∀ sessionId,
            (∃ line ∈ linesAfterTurn (lines content.toList),
              line = assistantMark.toList ++ (Response.mk sessionId content).content.toList) ↔
            ∃ line ∈ linesAfterTurn (lines content.toList), assistantMark.toList <+: line) := by
  refine ⟨needsResponse_iff_getLast?_turnsOwed content, turnsOf_eq_turnsOwed_iff h,
    fun hturn howed => ⟨?_, fun sessionId => exists_eq_append_content_iff sessionId content⟩⟩
  rw [needsResponse_eq_owedAfter] at howed
  exact exists_isAssistantLine_of_owedAfter hturn howed

theorem readers_agree_iff_of_context :
    let content := "Be brief.\nUser: a\n  Why?\nAssistant: b\n"
    IsWholeLines content.toList ∧ (∀ line ∈ lines content.toList, IsClear line) ∧
      Message.turnsOf (Message.ofPrompt (buildPrompt content)) = turnsOwed content ∧
      (∃ line ∈ lines content.toList, isUserLine line = true) ∧ needsResponse content = false ∧
      ∃ line ∈ linesAfterTurn (lines content.toList),
        line = assistantMark.toList ++ (Response.mk "s" content).content.toList := by
  intro content
  have hwhole : IsWholeLines content.toList := by decide +kernel
  have hclear : ∀ line ∈ lines content.toList, IsClear line := by decide +kernel
  have hturn : ∃ line ∈ lines content.toList, isUserLine line = true := by decide +kernel
  have hnothing : needsResponse content = false := by decide +kernel
  have hmark : ∃ line ∈ linesAfterTurn (lines content.toList), assistantMark.toList <+: line := by
    decide +kernel
  obtain ⟨-, hturns, hreply⟩ := readers_agree_iff hwhole
  exact ⟨hwhole, hclear, hturns.mpr hclear content "" (by simp) hwhole, hturn, hnothing,
    ((hreply hturn hnothing).2 "s").mpr hmark⟩

/-- A message that says nothing is no turn of the chat, and a reply without the blank of the mark
is not what the client reports, which is an earlier one. -/
theorem not_forall_readers_agree :
    ¬ (∀ content : String, IsWholeLines content.toList →
        Message.turnsOf (Message.ofPrompt (buildPrompt content)) = turnsOwed content) ∧
      ¬ (∀ content sessionId : String, IsWholeLines content.toList →
        (∃ line ∈ lines content.toList, isUserLine line = true) → needsResponse content = false →
        ∃ line ∈ linesAfterTurn (lines content.toList), isAssistantLine line = true ∧
          (Response.mk sessionId content).content.toList <:+ line) := by
  constructor
  · intro hturns
    exact absurd (hturns "User: \n" (by decide)) (by decide +kernel)
  · intro hreply
    exact absurd (hreply "User: a\nAssistant: x\nUser: b\nAssistant:y\n" "s" (by decide)
      (by decide +kernel) (by decide +kernel)) (by decide +kernel)

end FileChat.Conversation
