/-
# A chat written out

A chat can be written out again: turns behind their marks, and what the system says as it is, line
by line. That every list of lines can come about in this way, and that reading what was written
out gives the chat again, is all there is to say about the reader: it gives the only chat that is
written out as the lines of the prompt.
-/

import Mathlib.Data.List.Chain
import FileChat.Proofs.Conversation.Chat

namespace FileChat.Conversation

open Text

namespace Message

/-- The lines of a prompt that hold something, without the cue if that is the last one. -/
def heard (prompt : String) : List (List Char) :=
  let all := lines (trimEnd prompt.toList)
  let turns := if all.getLast? = some "Assistant:".toList then all.dropLast else all
  (turns.filter fun line => !isBlankText line).map trim

/-- A message as the lines of a prompt that it is read from. -/
def written (message : Message) : List (List Char) :=
  match message.role with
  | .user => [userMark.toList ++ message.content.toList]
  | .assistant => [assistantMark.toList ++ message.content.toList]
  | .system => lines message.content.toList

/-- A chat as the lines of a prompt that it is read from. -/
def script (chat : List Message) : List (List Char) := chat.flatMap written

/-- A line without a mark is the system's. -/
def IsUnmarked (line : List Char) : Prop :=
  ¬ userMark.toList <+: line ∧ ¬ assistantMark.toList <+: line

/-- A message says something; the system's is unmarked lines with a line feed between them. -/
structure IsWhole (message : Message) : Prop where
  spoken : isBlankString message.content = false
  unmarked : message.role = .system → ∀ line ∈ lines message.content.toList, IsUnmarked line
  joined : message.role = .system →
    message.content.toList = ['\n'].intercalate (lines message.content.toList)

/-- The shape of a chat. -/
structure IsChat (chat : List Message) : Prop where
  apart : chat.IsChain IsApart
  whole : ∀ message ∈ chat, message.IsWhole

section Cue

variable {text whole : List Char}

/-- The cue behind whole lines is left out. -/
theorem withoutCue_append (h : IsWholeLines whole) :
    withoutCue (whole ++ "Assistant:".toList) = whole := by
  have hword : trimEnd cue.toList = "Assistant:".toList := by decide
  rw [withoutCue, hword, List.reverse_append, afterMark_append]
  rcases h with rfl | hlast
  · rfl
  · obtain ⟨before, rfl⟩ := List.getLast?_eq_some_iff.mp hlast
    simp

/-- Nothing else is left out. The text is read from its end, where the word of the cue comes
first. -/
theorem withoutCue_of_ne (h : ∀ whole, IsWholeLines whole → text ≠ whole ++ "Assistant:".toList) :
    withoutCue text = text := by
  have hword : trimEnd cue.toList = "Assistant:".toList := by decide
  have hsplit {rest : List Char} (hrest : afterMark "Assistant:".toList.reverse text.reverse =
      some rest) : text = rest.reverse ++ "Assistant:".toList := by
    rw [← List.reverse_inj, eq_append_of_afterMark hrest]
    simp
  unfold withoutCue
  rw [hword]
  dsimp only
  split
  · next hrest => exact absurd (hsplit hrest) (h [] isWholeLines_nil)
  · next c before hrest =>
      split
      · next hc =>
          refine absurd (hsplit hrest) (h _ (.inr ?_))
          simp [hc]
      · rfl
  · rfl

/-- The cue is left out if it is the last line. -/
theorem lines_withoutCue (text : List Char) (h : text.getLast? ≠ some '\n') :
    lines (withoutCue text) =
      if (lines text).getLast? = some "Assistant:".toList then (lines text).dropLast
      else lines text := by
  obtain ⟨whole, rest, rfl, hwhole, hfeed⟩ := exists_wholeLines_append text
  rcases eq_or_ne rest [] with rfl | hne
  · -- Whole lines that do not end with a line feed are no lines.
    rw [List.append_nil] at h
    obtain rfl := hwhole.resolve_right h
    rfl
  · have hall : lines (whole ++ rest) = lines whole ++ [rest] := by
      rw [lines_append hwhole, lines_of_not_mem hne hfeed]
    rw [hall, List.getLast?_concat, List.dropLast_concat]
    split
    · next hcue => rw [Option.some.inj hcue, withoutCue_append hwhole]
    · next hcue =>
        rw [withoutCue_of_ne, hall]
        intro other hother heq
        have hword : lines "Assistant:".toList = ["Assistant:".toList] := by decide
        have hlines := congrArg lines heq
        rw [hall, lines_append hother, hword] at hlines
        exact hcue (congrArg some (List.singleton_inj.mp (List.append_inj_right' hlines rfl)))

end Cue

/-- A line as a chat is made of: on one line, and with something at its end. -/
def IsHeard (line : List Char) : Prop :=
  '\n' ∉ line ∧ ∃ c, line.getLast? = some c ∧ isBlank c = false

theorem spokenInPrompt_eq_heard (prompt : String) : spokenInPrompt prompt = heard prompt := by
  have hlast : (trimEnd prompt.toList).getLast? ≠ some '\n' := fun h =>
    absurd (isBlank_of_getLast?_trimEnd h) (by decide)
  rw [spokenInPrompt, lines_withoutCue _ hlast, heard, List.filter_map, Function.comp_def]
  simp only [isEmpty_trim]

theorem isHeard_of_mem_heard {prompt : String} {line : List Char} (h : line ∈ heard prompt) :
    IsHeard line := by
  rw [heard, List.mem_map] at h
  obtain ⟨whole, hwhole, rfl⟩ := h
  obtain ⟨hmem, hblank⟩ := List.mem_filter.mp hwhole
  rw [← isEmpty_trim] at hblank
  constructor
  · have hline : whole ∈ lines (trimEnd prompt.toList) := by
      split at hmem
      · exact (List.dropLast_sublist _).mem hmem
      · exact hmem
    exact fun hfeed => not_mem_of_mem_lines hline (mem_of_mem_trim hfeed)
  · obtain ⟨c, hc⟩ : ∃ c, (trim whole).getLast? = some c := by
      rw [← Option.isSome_iff_exists, List.getLast?_isSome]
      simpa using hblank
    exact ⟨c, hc, isBlank_of_getLast?_trimEnd hc⟩

section Written

variable {line : List Char} {chat : List Message} {message : Message}

theorem ofLine_of_isUnmarked (h : IsUnmarked line) :
    ofLine line = ⟨.system, String.ofList line⟩ := by
  rw [ofLine, afterMark_of_not_prefix h.1, afterMark_of_not_prefix h.2]

theorem intercalate_append_cons (between first second : List Char) (later : List (List Char)) :
    between.intercalate ((first ++ second) :: later) =
      first ++ between.intercalate (second :: later) := by
  cases later with
  | nil => simp
  | cons next later => simp [List.intercalate_cons_cons]

/-- Lines of the system go on with a message of the system. -/
theorem foldl_addLine_of_isUnmarked {more : List (List Char)} (h : ∀ line ∈ more, IsUnmarked line)
    (before : List Char) (earlier : List Message) :
    more.foldl addLine (⟨.system, String.ofList before⟩ :: earlier) =
      ⟨.system, String.ofList (['\n'].intercalate (before :: more))⟩ :: earlier := by
  induction more generalizing before with
  | nil => simp
  | cons line later ih =>
      obtain ⟨hline, hlater⟩ := List.forall_mem_cons.mp h
      have hjoined : addLine (⟨.system, String.ofList before⟩ :: earlier) line =
          ⟨.system, String.ofList (before ++ '\n' :: line)⟩ :: earlier := by
        unfold addLine
        rw [ofLine_of_isUnmarked hline]
        simp [String.append_assoc]
      rw [List.foldl_cons, hjoined, ih hlater, List.append_cons, intercalate_append_cons,
        List.intercalate_cons_cons]

/-- What the system says is one line at least. -/
theorem exists_lines_eq_cons {text : String} (h : isBlankString text = false) :
    ∃ first later, lines text.toList = first :: later := by
  apply List.exists_cons_of_ne_nil
  intro hnone
  have htext := flatten_pieces text.toList
  rw [List.map_eq_nil_iff.mp hnone] at htext
  rw [isBlankString, ← htext] at h
  cases h

/-- Reading what a message was written as gives the message. -/
theorem foldl_addLine_written (h : message.IsWhole) {newestFirst : List Message}
    (happart : ∀ last ∈ newestFirst.head?, IsApart last message) :
    (written message).foldl addLine newestFirst = message :: newestFirst := by
  obtain ⟨role, content⟩ := message
  cases role with
  | user =>
      have hline := ofLine_userMark content.toList
      rw [String.ofList_toList] at hline
      rw [written, List.foldl_cons, List.foldl_nil, addLine_of_apart, hline]
      rwa [hline]
  | assistant =>
      have hline := ofLine_assistantMark content.toList
      rw [String.ofList_toList] at hline
      rw [written, List.foldl_cons, List.foldl_nil, addLine_of_apart, hline]
      rwa [hline]
  | system =>
      have hunmarked := h.unmarked rfl
      have hjoined := h.joined rfl
      obtain ⟨first, later, hlines⟩ := exists_lines_eq_cons h.spoken
      rw [hlines] at hunmarked hjoined
      obtain ⟨hfirst, hlater⟩ := List.forall_mem_cons.mp hunmarked
      rw [written, hlines, List.foldl_cons, addLine_of_apart, ofLine_of_isUnmarked hfirst,
        foldl_addLine_of_isUnmarked hlater, ← hjoined, String.ofList_toList]
      rwa [ofLine_of_isUnmarked hfirst]

/-- Reading a chat that was written out gives the chat. Of what was read before only the last
message matters, and only that it is not continued. -/
theorem foldl_addLine_script (h : IsChat chat) {newestFirst : List Message}
    (happart : ∀ last ∈ newestFirst.head?, ∀ first ∈ chat.head?, IsApart last first) :
    (script chat).foldl addLine newestFirst = chat.reverse ++ newestFirst := by
  induction chat generalizing newestFirst with
  | nil => rfl
  | cons message later ih =>
      obtain ⟨hmessage, hlater⟩ := List.forall_mem_cons.mp h.whole
      obtain ⟨hnext, hchain⟩ := List.isChain_cons.mp h.apart
      have hfirst : ∀ last ∈ newestFirst.head?, IsApart last message := fun last hlast =>
        happart last hlast message rfl
      have hafter : ∀ last ∈ (message :: newestFirst).head?, ∀ first ∈ later.head?,
          IsApart last first := by
        rintro last ⟨⟩ first hfirst
        exact hnext first hfirst
      rw [script, List.flatMap_cons, List.foldl_append, foldl_addLine_written hmessage hfirst,
        ← script, ih ⟨hchain, hlater⟩ hafter, List.reverse_cons, List.append_assoc,
        List.singleton_append]

/-- What a line is read as. -/
theorem ofLine_cases (line : List Char) :
    (∃ text, line = userMark.toList ++ text ∧ ofLine line = ⟨.user, String.ofList text⟩) ∨
      (∃ text, line = assistantMark.toList ++ text ∧
        ofLine line = ⟨.assistant, String.ofList text⟩) ∨
      IsUnmarked line ∧ ofLine line = ⟨.system, String.ofList line⟩ := by
  by_cases huser : userMark.toList <+: line
  · obtain ⟨text, rfl⟩ := huser
    exact .inl ⟨text, rfl, ofLine_userMark text⟩
  · by_cases hassistant : assistantMark.toList <+: line
    · obtain ⟨text, rfl⟩ := hassistant
      exact .inr (.inl ⟨text, rfl, ofLine_assistantMark text⟩)
    · exact .inr (.inr ⟨⟨huser, hassistant⟩, ofLine_of_isUnmarked ⟨huser, hassistant⟩⟩)

theorem isUnmarked_of_role (h : (ofLine line).role = .system) : IsUnmarked line := by
  rcases ofLine_cases line with ⟨text, -, hline⟩ | ⟨text, -, hline⟩ | ⟨hunmarked, -⟩
  · cases hline ▸ h
  · cases hline ▸ h
  · exact hunmarked

theorem IsHeard.ne_nil (h : IsHeard line) : line ≠ [] := by
  rintro rfl
  obtain ⟨-, c, hc, -⟩ := h
  cases hc

theorem IsHeard.lines_eq (h : IsHeard line) : lines line = [line] :=
  lines_of_not_mem h.ne_nil h.1

/-- A line that is heard is written as it was. -/
theorem written_ofLine (h : IsHeard line) : written (ofLine line) = [line] := by
  rcases ofLine_cases line with ⟨text, rfl, hline⟩ | ⟨text, rfl, hline⟩ | ⟨-, hline⟩
  · rw [hline, written, String.toList_ofList]
  · rw [hline, written, String.toList_ofList]
  · rw [hline, written, String.toList_ofList, h.lines_eq]

/-- A line that is heard says something, also behind its mark. -/
theorem isWhole_ofLine (h : IsHeard line) : (ofLine line).IsWhole := by
  have ⟨_, c, hlast, hc⟩ := h
  rcases ofLine_cases line with ⟨text, rfl, hline⟩ | ⟨text, rfl, hline⟩ | ⟨hunmarked, hline⟩
  · have htext := isBlankText_of_getLast?_append (by decide) hlast hc
    rw [hline]
    exact ⟨by rwa [isBlankString, String.toList_ofList], nofun, nofun⟩
  · have htext := isBlankText_of_getLast?_append (by decide) hlast hc
    rw [hline]
    exact ⟨by rwa [isBlankString, String.toList_ofList], nofun, nofun⟩
  · have htext := isBlankText_of_getLast? hlast hc
    rw [hline]
    constructor
    · rwa [isBlankString, String.toList_ofList]
    · intro _ other hother
      rw [String.toList_ofList, h.lines_eq, List.mem_singleton] at hother
      exact hother ▸ hunmarked
    · intro _
      rw [String.toList_ofList, h.lines_eq, List.intercalate_singleton]

/-- A line of the system in front of what the system says. -/
theorem isWhole_join {text : String} (hline : IsHeard line) (hunmarked : IsUnmarked line)
    (h : IsWhole ⟨.system, text⟩) :
    lines (line ++ '\n' :: text.toList) = line :: lines text.toList ∧
      IsWhole ⟨.system, String.ofList (line ++ '\n' :: text.toList)⟩ := by
  have hreturn : line.getLast? ≠ some '\r' := by
    obtain ⟨-, c, hlast, hc⟩ := hline
    rw [hlast, ne_eq, Option.some_inj]
    rintro rfl
    cases hc
  have hlines := lines_append_lineFeed_append hline.1 hreturn text.toList
  refine ⟨hlines, ?_, fun _ other hother => ?_, fun _ => ?_⟩
  · have hspoken := h.spoken
    rw [isBlankString] at hspoken
    rw [isBlankString, String.toList_ofList, List.append_cons, isBlankText, List.all_append,
      ← isBlankText, ← isBlankText, hspoken, Bool.and_false]
  · rw [String.toList_ofList, hlines] at hother
    rcases List.mem_cons.mp hother with rfl | hother
    · exact hunmarked
    · exact h.unmarked rfl other hother
  · obtain ⟨first, later, hcut⟩ := exists_lines_eq_cons h.spoken
    have hjoined := h.joined rfl
    rw [String.toList_ofList, hlines, hcut, List.intercalate_cons_cons, ← hcut, ← hjoined,
      List.append_cons]

/-- Every list of lines is how a chat is written out. The chat is made from its end, so a line joins
what the system says behind it. -/
theorem exists_script_eq {heardLines : List (List Char)} (h : ∀ line ∈ heardLines, IsHeard line) :
    ∃ chat, IsChat chat ∧ script chat = heardLines := by
  induction heardLines with
  | nil => exact ⟨[], ⟨.nil, by simp⟩, rfl⟩
  | cons line later ih =>
      obtain ⟨hline, hlater⟩ := List.forall_mem_cons.mp h
      obtain ⟨chat, hchat, hscript⟩ := ih hlater
      by_cases happart : ∀ first ∈ chat.head?, IsApart (ofLine line) first
      · refine ⟨ofLine line :: chat, ⟨List.isChain_cons.mpr ⟨happart, hchat.apart⟩, ?_⟩, ?_⟩
        · exact List.forall_mem_cons.mpr ⟨isWhole_ofLine hline, hchat.whole⟩
        · rw [script, List.flatMap_cons, written_ofLine hline, ← script, hscript,
            List.singleton_append]
      · rcases chat with _ | ⟨⟨role, text⟩, rest⟩
        · exact absurd (by simp) happart
        · obtain ⟨hsystem, rfl⟩ : (ofLine line).role = .system ∧ role = .system := by
            simpa [IsApart] using happart
          obtain ⟨hmessage, hrest⟩ := List.forall_mem_cons.mp hchat.whole
          obtain ⟨hnext, hchain⟩ := List.isChain_cons.mp hchat.apart
          obtain ⟨hlines, hjoin⟩ := isWhole_join hline (isUnmarked_of_role hsystem) hmessage
          refine ⟨⟨.system, String.ofList (line ++ '\n' :: text.toList)⟩ :: rest, ⟨?_, ?_⟩, ?_⟩
          · exact List.isChain_cons.mpr ⟨hnext, hchain⟩
          · exact List.forall_mem_cons.mpr ⟨hjoin, hrest⟩
          · rw [← hscript, script, script, List.flatMap_cons, List.flatMap_cons, written, written,
              String.toList_ofList, hlines, List.cons_append]

end Written

/-- Of the chats that are written out as the lines of a prompt there is but one, and it is read. -/
theorem ofPrompt_eq_of_isChat {prompt : String} {chat : List Message} (h : IsChat chat)
    (hscript : script chat = heard prompt) : ofPrompt prompt = chat := by
  rw [ofPrompt, spokenInPrompt_eq_heard, ← hscript, foldl_addLine_script h (by simp),
    List.append_nil, List.reverse_reverse]

/-- No text of a prompt is lost: the chat is written out as the lines of the prompt that hold
something, trimmed, in order and without the cue. No other chat is, so what was said makes out the
chat and the chat what was said. -/
theorem script_ofPrompt (prompt : String) :
    script (ofPrompt prompt) = heard prompt ∧ IsChat (ofPrompt prompt) ∧
      (∀ chat, IsChat chat → script chat = heard prompt → chat = ofPrompt prompt) ∧
      ∀ other, ofPrompt other = ofPrompt prompt ↔ heard other = heard prompt := by
  have hchat (prompt : String) :
      IsChat (ofPrompt prompt) ∧ script (ofPrompt prompt) = heard prompt := by
    obtain ⟨chat, hchat, hscript⟩ :=
      exists_script_eq fun line (hline : line ∈ heard prompt) => isHeard_of_mem_heard hline
    rw [ofPrompt_eq_of_isChat hchat hscript]
    exact ⟨hchat, hscript⟩
  have hunique (chat : List Message) (h : IsChat chat) (hscript : script chat = heard prompt) :
      chat = ofPrompt prompt := (ofPrompt_eq_of_isChat h hscript).symm
  refine ⟨(hchat prompt).2, (hchat prompt).1, hunique, fun other => ⟨fun h => ?_, fun h => ?_⟩⟩
  · rw [← (hchat other).2, h, (hchat prompt).2]
  · exact hunique _ (hchat other).1 ((hchat other).2.trans h)

theorem script_ofPrompt_of_terminators :
    let prompt := "  User: a\r\n\r\nbe brief \n\tbe kind\nAssistant:\n"
    let other := "User: a\nbe brief\nbe kind"
    heard other = heard prompt ∧ ofPrompt other = ofPrompt prompt ∧
      script (ofPrompt prompt) = heard prompt := by
  intro prompt other
  have hheard : heard other = heard prompt := by decide +kernel
  obtain ⟨hscript, -, -, hsame⟩ := script_ofPrompt prompt
  exact ⟨hheard, (hsame other).mpr hheard, hscript⟩

end Message

end FileChat.Conversation
