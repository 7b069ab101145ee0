/-
# The window of a conversation

A conversation in which a user and the assistant take turns is longer than a service may be
asked to read. It is shortened by whole exchanges, so what is left begins with a message of the
user and ends with the question: read back as a chat, it is the newest turns of the conversation,
as many as fit the budget.
-/

import Mathlib.Data.List.DropRight
import FileChat.Client.Session
import FileChat.Proofs.Conversation.Chat

namespace FileChat.Conversation

open Text

/-- A message of the user, and the reply that was written behind it. -/
structure Exchange where
  message : String
  reply : String

/-- A message that a client sends and that holds more than blanks. -/
def IsSpoken (message : String) : Prop :=
  Client.Session.isSingleLine message = true ∧ isBlankString message = false

instance (message : String) : Decidable (IsSpoken message) :=
  inferInstanceAs (Decidable (_ ∧ _))

/-- An exchange in which both sides say something. -/
def Exchange.IsSpoken (exchange : Exchange) : Prop :=
  Conversation.IsSpoken exchange.message ∧ isBlankString (singleLine exchange.reply) = false

instance (exchange : Exchange) : Decidable exchange.IsSpoken :=
  inferInstanceAs (Decidable (_ ∧ _))

/-- The file of a conversation that ends with a question. -/
def dialogue : List Exchange → String → String
  | [], question => userLine question
  | exchange :: later, question =>
      userLine exchange.message ++ assistantLine exchange.reply ++ dialogue later question

/-- A turn as a message of a chat: blanks at its end are lost. -/
def said (role : Role) (text : String) : Message := ⟨role, String.ofList (trimEnd text.toList)⟩

/-- The turns of a conversation that ends with a question. -/
def turns : List Exchange → String → List Message
  | [], question => [said .user question]
  | exchange :: later, question =>
      said .user exchange.message :: said .assistant (singleLine exchange.reply) ::
        turns later question

/-- The newest `count` exchanges are those that a budget has room for: no larger number fits, and
only the last exchange, if there is one, is kept although it does not fit. -/
structure IsWindow (exchanges : List Exchange) (question : String) (budget count : Nat) :
    Prop where
  enough : min exchanges.length 1 ≤ count
  atMost : count ≤ exchanges.length
  larger : ∀ more, count < more → more ≤ exchanges.length →
    budget < (dialogue (exchanges.rtake more) question).length
  fits : (dialogue (exchanges.rtake count) question).length ≤ budget ∨
    count = min exchanges.length 1

section Shape

variable {exchanges : List Exchange} {question : String}

theorem length_turns (exchanges : List Exchange) (question : String) :
    (turns exchanges question).length = 2 * exchanges.length + 1 := by
  induction exchanges with
  | nil => rfl
  | cons exchange later ih =>
      simp only [turns, List.length_cons, ih]
      omega

/-- Two turns go with every exchange. -/
theorem turns_drop {count : Nat} (h : count ≤ exchanges.length) (question : String) :
    turns (exchanges.drop count) question = (turns exchanges question).drop (2 * count) := by
  induction exchanges generalizing count with
  | nil => rw [Nat.le_zero.mp h, List.drop_zero, Nat.mul_zero, List.drop_zero]
  | cons exchange later ih =>
      cases count with
      | zero => rfl
      | succ count => exact ih (Nat.le_of_succ_le_succ h)

/-- The newest exchanges are the newest turns. -/
theorem turns_rtake {count : Nat} (h : count ≤ exchanges.length) (question : String) :
    turns (exchanges.rtake count) question =
      (turns exchanges question).rtake (2 * count + 1) := by
  have hdropped : (turns exchanges question).length - (2 * count + 1) =
      2 * (exchanges.length - count) := by
    rw [length_turns]
    omega
  rw [List.rtake, List.rtake, hdropped, turns_drop (Nat.sub_le _ _)]

/-- The user and the assistant take turns. -/
theorem map_role_turns (exchanges : List Exchange) (question : String) :
    (turns exchanges question).map Message.role =
      (List.replicate exchanges.length [Role.user, Role.assistant]).flatten ++ [Role.user] := by
  induction exchanges with
  | nil => rfl
  | cons exchange later ih =>
      simp only [turns, List.map_cons, ih]
      rfl

theorem role_ne_system_of_mem_turns {message : Message} (h : message ∈ turns exchanges question) :
    message.role ≠ .system := by
  have hrole := List.mem_map_of_mem (f := Message.role) h
  rw [map_role_turns] at hrole
  intro hsystem
  simp [hsystem] at hrole

end Shape

section Lines

variable {message reply : String} {line : List Char}

theorem not_mem_messageLine (h : IsSpoken message) : '\n' ∉ messageLine message := by
  have hnone : ∀ c ∈ message.toList, ¬ (c = '\n' ∨ c = '\r') := by
    simpa [Client.Session.isSingleLine] using h.1
  rw [messageLine, String.toList_append]
  intro hmem
  rcases List.mem_append.mp hmem with hmark | hmessage
  · exact absurd hmark (by decide)
  · exact hnone _ hmessage (.inl rfl)

theorem pieces_userLine (h : IsSpoken message) :
    pieces (userLine message).toList = [(userLine message).toList] := by
  rw [toList_userLine]
  exact pieces_append_singleton (not_mem_messageLine h) '\n'

theorem pieces_assistantLine (reply : String) :
    pieces (assistantLine reply).toList = [(assistantLine reply).toList] := by
  rw [toList_assistantLine]
  exact pieces_append_singleton (not_mem_replyLine (by decide) reply) '\n'

/-- A line that holds something is the only line there is. -/
theorem spoken_of_not_mem (hfeed : '\n' ∉ line) (hne : trim line ≠ []) :
    spoken line = [trim line] := by
  have hline : line ≠ [] := by
    rintro rfl
    exact hne rfl
  rw [spoken_eq_pieces, pieces_of_not_mem hline hfeed, List.map_singleton]
  simp [hne]

theorem map_ofLine_spoken_userLine (h : IsSpoken message) :
    (spoken (userLine message).toList).map Message.ofLine = [said .user message] := by
  have htrim := Message.trim_messageLine h.2
  have hne : trim (messageLine message) ≠ [] := by
    rw [htrim]
    exact List.append_ne_nil_of_left_ne_nil (by decide) _
  rw [toList_userLine, spoken_append_singleton (by decide),
    spoken_of_not_mem (not_mem_messageLine h) hne, List.map_singleton, htrim,
    Message.ofLine_userMark, said]

theorem map_ofLine_spoken_assistantLine (h : isBlankString (singleLine reply) = false) :
    (spoken (assistantLine reply).toList).map Message.ofLine =
      [said .assistant (singleLine reply)] := by
  have htrim := Message.trim_replyLine h
  have hne : trim (replyLine reply) ≠ [] := by
    rw [htrim]
    exact List.append_ne_nil_of_left_ne_nil (by decide) _
  rw [toList_assistantLine, spoken_append_singleton (by decide),
    spoken_of_not_mem (not_mem_replyLine (by decide) reply) hne, List.map_singleton, htrim,
    Message.ofLine_assistantMark, said]

end Lines

section Dialogue

variable {exchanges : List Exchange} {question : String}

/-- The chat of a conversation is its turns. -/
theorem map_ofLine_spoken_dialogue (hexchanges : ∀ e ∈ exchanges, e.IsSpoken)
    (hquestion : IsSpoken question) :
    (spoken (dialogue exchanges question).toList).map Message.ofLine =
      turns exchanges question := by
  induction exchanges with
  | nil => exact map_ofLine_spoken_userLine hquestion
  | cons exchange later ih =>
      obtain ⟨hexchange, hlater⟩ := List.forall_mem_cons.mp hexchanges
      have hmessage := isWholeLines_userLine exchange.message
      have hreply := isWholeLines_assistantLine exchange.reply
      rw [dialogue, turns, String.toList_append, String.toList_append,
        spoken_append (hmessage.append hreply), spoken_append hmessage, List.map_append,
        List.map_append, map_ofLine_spoken_userLine hexchange.1,
        map_ofLine_spoken_assistantLine hexchange.2, ih hlater]
      rfl

theorem ofPrompt_buildPrompt_dialogue (hexchanges : ∀ e ∈ exchanges, e.IsSpoken)
    (hquestion : IsSpoken question) :
    Message.ofPrompt (buildPrompt (dialogue exchanges question)) = turns exchanges question := by
  have hchat := map_ofLine_spoken_dialogue hexchanges hquestion
  rw [Message.ofPrompt_buildPrompt, hchat]
  intro line hline
  have hturn : Message.ofLine line ∈ turns exchanges question := by
    rw [← hchat]
    exact List.mem_map_of_mem hline
  exact role_ne_system_of_mem_turns hturn

theorem length_pieces_dialogue (hexchanges : ∀ e ∈ exchanges, e.IsSpoken)
    (hquestion : IsSpoken question) :
    (pieces (dialogue exchanges question).toList).length = 2 * exchanges.length + 1 := by
  induction exchanges with
  | nil => rw [dialogue, pieces_userLine hquestion]; rfl
  | cons exchange later ih =>
      obtain ⟨hexchange, hlater⟩ := List.forall_mem_cons.mp hexchanges
      have hmessage := isWholeLines_userLine exchange.message
      have hreply := isWholeLines_assistantLine exchange.reply
      rw [dialogue, String.toList_append, String.toList_append,
        pieces_append (hmessage.append hreply), pieces_append hmessage,
        pieces_userLine hexchange.1, pieces_assistantLine, List.length_append, ih hlater]
      simp only [List.length_append, List.length_cons, List.length_nil]
      omega

/-- Two lines go if the text is too long and two more are behind them. -/
theorem trimToContext_append {first second rest : String}
    (hfirst : pieces first.toList = [first.toList]) (hfirstWhole : IsWholeLines first.toList)
    (hsecond : pieces second.toList = [second.toList]) (hsecondWhole : IsWholeLines second.toList)
    (budget : Nat) :
    trimToContext (first ++ second ++ rest) budget =
      if budget < (first ++ second ++ rest).length ∧ 2 ≤ (pieces rest.toList).length then
        trimToContext rest budget
      else first ++ second ++ rest := by
  have hcut : pieces (first ++ second ++ rest).toList =
      first.toList :: second.toList :: pieces rest.toList := by
    rw [String.toList_append, String.toList_append,
      pieces_append (hfirstWhole.append hsecondWhole), pieces_append hfirstWhole, hfirst, hsecond]
    rfl
  have hmore : (!((pieces rest.toList).drop 1).isEmpty) = true ↔
      2 ≤ (pieces rest.toList).length := by
    simp only [Bool.not_eq_true', List.isEmpty_eq_false_iff, ne_eq, List.drop_eq_nil_iff]
    omega
  have hleft : (first ++ second ++ rest).length - (first.length + second.length) =
      rest.length := by
    rw [String.length_append, String.length_append]
    omega
  simp only [trimToContext, hcut, dropOldest, Bool.and_eq_true, decide_eq_true_eq, hmore,
    String.length_toList, hleft]
  split
  · rfl
  · rw [← hcut, flatten_pieces, String.ofList_toList]

/-- One exchange goes if the conversation is too long and another is behind it. -/
theorem trimToContext_dialogue_cons {exchange : Exchange} {later : List Exchange}
    (hexchanges : ∀ e ∈ exchange :: later, e.IsSpoken) (hquestion : IsSpoken question)
    (budget : Nat) :
    trimToContext (dialogue (exchange :: later) question) budget =
      if budget < (dialogue (exchange :: later) question).length ∧ later ≠ [] then
        trimToContext (dialogue later question) budget
      else dialogue (exchange :: later) question := by
  obtain ⟨hexchange, hlater⟩ := List.forall_mem_cons.mp hexchanges
  have hmore : 2 ≤ (pieces (dialogue later question).toList).length ↔ later ≠ [] := by
    rw [length_pieces_dialogue hlater hquestion, ← List.length_pos_iff]
    omega
  rw [dialogue, trimToContext_append (pieces_userLine hexchange.1) (isWholeLines_userLine _)
    (pieces_assistantLine _) (isWholeLines_assistantLine _)]
  simp only [hmore]

/-- A conversation of a question alone is not shortened. -/
theorem trimToContext_userLine (h : IsSpoken question) (budget : Nat) :
    trimToContext (userLine question) budget = userLine question := by
  rw [trimToContext, pieces_userLine h, dropOldest]
  · simp
  · simp

/-- A window of what is behind an exchange is one with the exchange too, if that is too much. -/
theorem IsWindow.cons {exchange : Exchange} {later : List Exchange} {budget count : Nat}
    (h : IsWindow later question budget count) (hne : later ≠ [])
    (hlong : budget < (dialogue (exchange :: later) question).length) :
    IsWindow (exchange :: later) question budget count := by
  have hpos := List.length_pos_iff.mpr hne
  have hrtake {more : Nat} (hmore : more ≤ later.length) :
      (exchange :: later).rtake more = later.rtake more := by
    rw [List.rtake, List.rtake, List.length_cons, Nat.succ_sub hmore, List.drop_succ_cons]
  have hmin : min (exchange :: later).length 1 = min later.length 1 := by
    rw [List.length_cons]
    omega
  constructor
  · rw [hmin]
    exact h.enough
  · exact h.atMost.trans (Nat.le_succ _)
  · intro more hcount hmore
    rcases Nat.lt_or_ge later.length more with hwhole | hpart
    · have hall : (exchange :: later).rtake more = exchange :: later := by
        rw [List.rtake, List.length_cons, Nat.sub_eq_zero_of_le hwhole, List.drop_zero]
      rwa [hall]
    · rw [hrtake hpart]
      exact h.larger more hcount hpart
  · rw [hmin, hrtake h.atMost]
    exact h.fits

/-- All exchanges are a window if they fit or there is nothing to drop. -/
theorem IsWindow.all {budget : Nat}
    (h : (dialogue exchanges question).length ≤ budget ∨ exchanges.length ≤ 1) :
    IsWindow exchanges question budget exchanges.length := by
  constructor
  · exact Nat.min_le_left _ _
  · exact Nat.le_refl _
  · exact fun more hless hmore => absurd hmore (Nat.not_le_of_lt hless)
  · rw [List.rtake, Nat.sub_self, List.drop_zero]
    exact h.imp_right fun hone => (Nat.min_eq_left hone).symm

/-- Shortening leaves the newest exchanges and the question. -/
theorem exists_trimToContext_dialogue (hexchanges : ∀ e ∈ exchanges, e.IsSpoken)
    (hquestion : IsSpoken question) (budget : Nat) :
    ∃ count, IsWindow exchanges question budget count ∧
      trimToContext (dialogue exchanges question) budget =
        dialogue (exchanges.rtake count) question := by
  induction exchanges with
  | nil => exact ⟨0, IsWindow.all (.inr (Nat.zero_le 1)), trimToContext_userLine hquestion budget⟩
  | cons exchange later ih =>
      rw [trimToContext_dialogue_cons hexchanges hquestion]
      split
      · next hdrop =>
          obtain ⟨hlong, hne⟩ := hdrop
          obtain ⟨count, hcount, htrimmed⟩ := ih (List.forall_mem_cons.mp hexchanges).2
          refine ⟨count, hcount.cons hne hlong, ?_⟩
          rw [htrimmed, List.rtake, List.rtake, List.length_cons, Nat.succ_sub hcount.atMost,
            List.drop_succ_cons]
      · next hkeep =>
          refine ⟨(exchange :: later).length, IsWindow.all ?_, ?_⟩
          · by_cases hlong : budget < (dialogue (exchange :: later) question).length
            · right
              rw [not_and_not_right.mp hkeep hlong]
              rfl
            · exact .inl (Nat.le_of_not_lt hlong)
          · rw [List.rtake, Nat.sub_self, List.drop_zero]

end Dialogue

/-- The chat for a question is the newest turns of the conversation: whole exchanges, as many as
the budget has room for and at least the last one, and then the question. The user and the
assistant take turns in it, and every turn says what it says in the conversation. -/
theorem exists_ofPrompt_trimToContext {exchanges : List Exchange} {question : String}
    (hexchanges : ∀ e ∈ exchanges, e.IsSpoken) (hquestion : IsSpoken question) (budget : Nat) :
    ∃ count, IsWindow exchanges question budget count ∧
      Message.ofPrompt (buildPrompt (trimToContext (dialogue exchanges question) budget)) =
        (turns exchanges question).rtake (2 * count + 1) ∧
      ((turns exchanges question).rtake (2 * count + 1)).map Message.role =
        (List.replicate count [Role.user, Role.assistant]).flatten ++ [Role.user] := by
  obtain ⟨count, hwindow, htrimmed⟩ := exists_trimToContext_dialogue hexchanges hquestion budget
  have hkept : ∀ e ∈ exchanges.rtake count, e.IsSpoken := fun e he =>
    hexchanges e (List.mem_of_mem_drop he)
  have hcount : (exchanges.rtake count).length = count := by
    rw [List.rtake, List.length_drop]
    exact Nat.sub_sub_self hwindow.atMost
  refine ⟨count, hwindow, ?_, ?_⟩
  · rw [htrimmed, ofPrompt_buildPrompt_dialogue hkept hquestion, turns_rtake hwindow.atMost]
  · rw [← turns_rtake hwindow.atMost, map_role_turns, hcount]

theorem exists_ofPrompt_trimToContext_greeting :
    let exchanges : List Exchange := [⟨"Hi!  ", "Hello,\nyou"⟩, ⟨"  More?", "No.\n"⟩]
    (∀ e ∈ exchanges, e.IsSpoken) ∧ IsSpoken "Why? " ∧
      ∃ count, IsWindow exchanges "Why? " 45 count ∧
        Message.ofPrompt (buildPrompt (trimToContext (dialogue exchanges "Why? ") 45)) =
          (turns exchanges "Why? ").rtake (2 * count + 1) ∧
        ((turns exchanges "Why? ").rtake (2 * count + 1)).map Message.role =
          (List.replicate count [Role.user, Role.assistant]).flatten ++ [Role.user] := by
  have hexchanges : ∀ e ∈ [Exchange.mk "Hi!  " "Hello,\nyou", ⟨"  More?", "No.\n"⟩],
      e.IsSpoken := by decide
  have hquestion : IsSpoken "Why? " := by decide
  exact ⟨hexchanges, hquestion, exists_ofPrompt_trimToContext hexchanges hquestion 45⟩

example :
    Message.ofPrompt (buildPrompt (trimToContext
      (dialogue [⟨"Hi!  ", "Hello,\nyou"⟩, ⟨"  More?", "No.\n"⟩] "Why? ") 45)) =
    [⟨.user, "  More?"⟩, ⟨.assistant, "No."⟩, ⟨.user, "Why?"⟩] := by
  decide +kernel

end FileChat.Conversation
