/-
# The chat behind a prompt

A prompt is read back as a chat line by line. The cue at its end is found whatever the
conversation says, and neither the terminators that the prompt leaves out nor the blanks around
a line make a difference, so the chat is made of the lines of the conversation that hold
something. Among turns each of them is one message.
-/

import FileChat.Conversation.Message
import FileChat.Conversation.Prompt
import FileChat.Proofs.Conversation.Turn
import FileChat.Proofs.Text.Blank

namespace FileChat.Conversation

open Text

/-- What of a conversation goes into a prompt. -/
def withoutFinalTerminators (content : List Char) : List Char :=
  dropEndWhile (fun c => c = '\n' || c = '\r') content

/-- Only blanks are left out of a prompt. -/
theorem exists_append_isBlankText (content : List Char) :
    ∃ blank, content = withoutFinalTerminators content ++ blank ∧ isBlankText blank = true := by
  induction content using List.reverseRecOn with
  | nil => exact ⟨[], rfl, rfl⟩
  | append_singleton content c ih =>
      rw [withoutFinalTerminators, dropEndWhile_append_singleton]
      by_cases hc : (decide (c = '\n') || decide (c = '\r')) = true
      · obtain ⟨blank, hcontent, hblank⟩ := ih
        rw [if_pos hc]
        refine ⟨blank ++ [c], ?_, ?_⟩
        · rw [← List.append_assoc]
          exact congrArg (· ++ [c]) hcontent
        · have hterminator : isBlank c = true := by
            rcases Bool.or_eq_true_iff.mp hc with hfeed | hreturn
            · rw [of_decide_eq_true hfeed]
              decide
            · rw [of_decide_eq_true hreturn]
              decide
          rw [isBlankText, List.all_append, ← isBlankText, hblank]
          simp [hterminator]
      · rw [if_neg hc]
        exact ⟨[], (List.append_nil _).symm, rfl⟩

namespace Message

/-- The cue of a prompt is recognized, whatever stands in front of it. -/
theorem withoutCue_buildPrompt (content : String) :
    withoutCue (trimEnd (buildPrompt content).toList) =
      withoutFinalTerminators content.toList ++ ['\n'] := by
  have hprompt : (buildPrompt content).toList =
      (withoutFinalTerminators content.toList ++ ['\n']) ++ cue.toList := by
    simp [buildPrompt, withoutFinalTerminators]
  have hword : trimEnd cue.toList = "Assistant:".toList := by decide
  have hreversed : (withoutFinalTerminators content.toList ++ ['\n'] ++
      "Assistant:".toList).reverse = "Assistant:".toList.reverse ++
        '\n' :: (withoutFinalTerminators content.toList).reverse := by
    simp
  rw [hprompt, trimEnd_append_of_not_isBlankText (by decide), hword, withoutCue, hword, hreversed,
    afterMark_append]
  simp

/-- A chat is made of the lines of the conversation that hold something. -/
theorem spokenInPrompt_buildPrompt (content : String) :
    spokenInPrompt (buildPrompt content) = spoken content.toList := by
  obtain ⟨blank, hcontent, hblank⟩ := exists_append_isBlankText content.toList
  have hprompt : spokenInPrompt (buildPrompt content) =
      spoken (withoutFinalTerminators content.toList ++ ['\n']) := by
    rw [spokenInPrompt, withoutCue_buildPrompt, spoken]
  rw [hprompt, spoken_append_singleton (by decide)]
  conv_rhs => rw [hcontent, spoken_append_of_isBlankText hblank]

/-- Two messages that can follow one another. What the system says at once is one message. -/
def IsApart (first second : Message) : Prop := ¬ (first.role = .system ∧ second.role = .system)

/-- A line that is not joined to what is in front of it is a message. -/
theorem addLine_of_apart {newestFirst : List Message} {line : List Char}
    (happart : ∀ last ∈ newestFirst.head?, IsApart last (ofLine line)) :
    addLine newestFirst line = ofLine line :: newestFirst := by
  unfold addLine
  split
  · next text before earlier hsystem =>
      rw [hsystem] at happart
      exact absurd ⟨rfl, rfl⟩ (happart _ rfl)
  · rfl

/-- Lines that are turns are not joined to what is in front of them. -/
theorem foldl_addLine {spokenLines : List (List Char)}
    (hturns : ∀ line ∈ spokenLines, (ofLine line).role ≠ .system) (newestFirst : List Message) :
    spokenLines.foldl addLine newestFirst = (spokenLines.map ofLine).reverse ++ newestFirst := by
  induction spokenLines generalizing newestFirst with
  | nil => rfl
  | cons line later ih =>
      obtain ⟨hline, hlater⟩ := List.forall_mem_cons.mp hturns
      have hmessage : addLine newestFirst line = ofLine line :: newestFirst :=
        addLine_of_apart fun _ _ hboth => hline hboth.2
      rw [List.foldl_cons, hmessage, ih hlater, List.map_cons, List.reverse_cons,
        List.append_assoc, List.singleton_append]

/-- A conversation of turns is a chat of as many messages. -/
theorem ofPrompt_buildPrompt {content : String}
    (hturns : ∀ line ∈ spoken content.toList, (ofLine line).role ≠ .system) :
    ofPrompt (buildPrompt content) = (spoken content.toList).map ofLine := by
  rw [ofPrompt, spokenInPrompt_buildPrompt, foldl_addLine hturns, List.append_nil,
    List.reverse_reverse]

section Turn

variable {text : String}

theorem ofLine_userMark (said : List Char) :
    ofLine (userMark.toList ++ said) = ⟨.user, String.ofList said⟩ := by
  rw [ofLine, afterMark_append]

theorem ofLine_assistantMark (said : List Char) :
    ofLine (assistantMark.toList ++ said) = ⟨.assistant, String.ofList said⟩ := by
  have huser : afterMark userMark.toList (assistantMark.toList ++ said) = none := by
    simp [userMark, assistantMark, afterMark]
  rw [ofLine, huser, afterMark_append]

/-- A turn that says something loses the blanks at its end. -/
theorem trim_mark_append {mark : String} {c : Char} {rest : List Char}
    (hmark : mark.toList = c :: rest) (hc : isBlank c = false)
    (htext : isBlankString text = false) :
    trim (mark ++ text).toList = mark.toList ++ trimEnd text.toList := by
  rw [String.toList_append, hmark, List.cons_append, trim_cons hc, ← List.cons_append, ← hmark,
    trimEnd_append_of_not_isBlankText htext]

theorem trim_messageLine (htext : isBlankString text = false) :
    trim (messageLine text) = userMark.toList ++ trimEnd text.toList :=
  trim_mark_append (c := 'U') rfl (by decide) htext

theorem trim_replyLine (htext : isBlankString (singleLine text) = false) :
    trim (replyLine text) = assistantMark.toList ++ trimEnd (singleLine text).toList :=
  trim_mark_append (c := 'A') rfl (by decide) htext

end Turn

end Message

end FileChat.Conversation
