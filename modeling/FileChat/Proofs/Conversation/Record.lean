/-
# What was written to a session

A session that is shared grows by turns of users and by replies. Here is what can be said of
such a record alone, without the workers that write it: a reply is made about the session as
it was at some time before, when it owed one, and only users have written since. That is all
a worker promises, and it decides both how many replies there can be and which turns a reply
has not seen.
-/

import FileChat.Proofs.Conversation.Turn
import FileChat.Proofs.Text.Utf8

namespace FileChat.Conversation

open Text

/-- One line that was appended to a session. -/
inductive Posting
  /-- A user's turn. -/
  | turn (message : String)
  /-- A reply, and the content that it was made about. -/
  | reply (text seen : String)
  deriving Repr, DecidableEq

namespace Posting

/-- The line as it is written, terminator included. -/
def line : Posting → String
  | .turn message => userLine message
  | .reply text _ => assistantLine text

/-- The line as it is read, without its terminator. -/
def words : Posting → List Char
  | .turn message => messageLine message
  | .reply text _ => replyLine text

def isTurn : Posting → Bool
  | .turn _ => true
  | .reply _ _ => false

def isReply : Posting → Bool
  | .turn _ => false
  | .reply _ _ => true

/-- A user's message is on one line. -/
def IsSingle : Posting → Prop
  | .turn message => '\n' ∉ message.toList ∧ '\r' ∉ message.toList
  | .reply _ _ => True

theorem isWholeLines_line (posting : Posting) : IsWholeLines posting.line.toList := by
  cases posting with
  | turn message => exact isWholeLines_userLine message
  | reply text seen => exact isWholeLines_assistantLine text

theorem lines_line {posting : Posting} (h : posting.IsSingle) :
    lines posting.line.toList = [posting.words] := by
  cases posting with
  | turn message => exact lines_userLine h.1 h.2
  | reply text seen => exact lines_assistantLine text

/-- The turns of users are the users' lines. -/
theorem isUserLine_words (posting : Posting) : isUserLine posting.words = posting.isTurn := by
  cases posting with
  | turn message => exact isUserLine_messageLine message
  | reply text seen => exact isUserLine_of_isAssistantLine (isAssistantLine_replyLine text)

/-- A reply is owed after a turn and only then. -/
theorem owedAfterLine_words (owed : Bool) (posting : Posting) :
    owedAfterLine owed posting.words = posting.isTurn := by
  cases posting with
  | turn message => rw [words, owedAfterLine_messageLine, isTurn]
  | reply text seen => rw [words, owedAfterLine_replyLine, isTurn]

end Posting

/-- The text that some postings make. -/
def textOf : List Posting → String
  | [] => ""
  | posting :: later => posting.line ++ textOf later

@[simp]
theorem textOf_nil : textOf [] = "" := rfl

@[simp]
theorem textOf_append (first second : List Posting) :
    textOf (first ++ second) = textOf first ++ textOf second := by
  induction first with
  | nil => simp
  | cons posting later ih => rw [List.cons_append, textOf, ih, textOf, String.append_assoc]

@[simp]
theorem textOf_singleton (posting : Posting) : textOf [posting] = posting.line := by
  rw [textOf, textOf_nil, String.append_empty]

theorem isWholeLines_textOf (log : List Posting) : IsWholeLines (textOf log).toList := by
  induction log with
  | nil => exact isWholeLines_nil
  | cons posting later ih =>
      rw [textOf, String.toList_append]
      exact posting.isWholeLines_line.append ih

/-- Each posting is one line of the text. -/
theorem lines_textOf {log : List Posting} (h : ∀ posting ∈ log, posting.IsSingle) :
    lines (textOf log).toList = log.map Posting.words := by
  induction log with
  | nil => rfl
  | cons posting later ih =>
      obtain ⟨hposting, hlater⟩ := List.forall_mem_cons.mp h
      rw [textOf, String.toList_append, lines_append posting.isWholeLines_line,
        Posting.lines_line hposting, ih hlater]
      rfl

/-- A reply is awaited that is made about what was there at some time before, when one was owed.
Only users have written since. -/
structure Awaits (start : Bytes) (log : List Posting) (seen : String) : Prop where
  split : ∃ earlier late, log = earlier ++ late ∧ (∀ posting ∈ late, posting.isTurn = true) ∧
    Utf8.decode (start ++ Utf8.encode (textOf earlier)) = some seen
  owed : needsResponse seen = true

/-- Every reply in a record was awaited when it was written, and every turn is on one line. -/
inductive Answered (start : Bytes) : List Posting → Prop
  | nil : Answered start []
  | turn {log : List Posting} {message : String} (h : Answered start log)
      (hsingle : (Posting.turn message).IsSingle) : Answered start (log ++ [.turn message])
  | reply {log : List Posting} {text seen : String} (h : Answered start log)
      (hawaits : Awaits start log seen) : Answered start (log ++ [.reply text seen])

/-- What is read now and owes a reply makes one awaited. -/
theorem awaits_of_decode {start : Bytes} {log : List Posting} {seen : String}
    (hdecode : Utf8.decode (start ++ Utf8.encode (textOf log)) = some seen)
    (howed : needsResponse seen = true) : Awaits start log seen :=
  ⟨⟨log, [], (List.append_nil log).symm, by simp, hdecode⟩, howed⟩

/-- A turn that comes meanwhile does not change what is awaited. -/
theorem Awaits.append_turn {start : Bytes} {log : List Posting} {seen : String}
    (h : Awaits start log seen) (message : String) :
    Awaits start (log ++ [.turn message]) seen := by
  obtain ⟨earlier, late, rfl, hlate, hdecode⟩ := h.split
  refine ⟨⟨earlier, late ++ [.turn message], by simp, ?_, hdecode⟩, h.owed⟩
  intro posting hposting
  rcases List.mem_append.mp hposting with hposting | hposting
  · exact hlate posting hposting
  · rw [List.mem_singleton.mp hposting]
    rfl

section Owed

variable {content : String} {log : List Posting} {posting : Posting}

/-- Behind whole lines the last posting says whether a reply is owed. -/
theorem needsResponse_append_textOf (hcontent : IsWholeLines content.toList)
    (h : ∀ known ∈ log ++ [posting], known.IsSingle) :
    needsResponse (content ++ textOf (log ++ [posting])) = posting.isTurn := by
  rw [needsResponse_append hcontent, lines_textOf h, List.map_append, owedAfter_append,
    List.map_singleton, owedAfter_cons, owedAfter_nil, Posting.owedAfterLine_words]

/-- Who is owed a reply has said something. -/
theorem exists_isUserLine_of_needsResponse (h : needsResponse content = true) :
    ∃ line ∈ lines content.toList, isUserLine line = true := by
  have hsaid (owed : Bool) (more : List (List Char)) (hmore : owedAfter owed more = true) :
      owed = true ∨ ∃ line ∈ more, isUserLine line = true := by
    induction more generalizing owed with
    | nil => exact .inl hmore
    | cons line later ih =>
        rcases ih (owedAfterLine owed line) hmore with howed | ⟨known, hknown, huser⟩
        · by_cases huser : isUserLine line = true
          · exact .inr ⟨line, List.mem_cons_self, huser⟩
          · rw [owedAfterLine, if_neg huser] at howed
            split at howed
            · cases howed
            · exact .inl howed
        · exact .inr ⟨known, List.mem_cons_of_mem _ hknown, huser⟩
  rw [needsResponse_eq_owedAfter] at h
  exact (hsaid _ _ h).resolve_left (by simp)

end Owed

namespace Awaits

variable {start : Bytes} {log : List Posting} {seen : String}

/-- What is awaited is about the text that the session began with and what was written then. -/
theorem exists_eq_append (h : Awaits start log seen) (hstart : Utf8.IsWholeLines start) :
    ∃ content earlier late, Utf8.decode start = some content ∧ log = earlier ++ late ∧
      (∀ posting ∈ late, posting.isTurn = true) ∧ seen = content ++ textOf earlier := by
  obtain ⟨earlier, late, hlog, hlate, hdecode⟩ := h.split
  rw [Utf8.decode_append_encode hstart.current_read] at hdecode
  obtain ⟨content, hcontent, rfl⟩ := Option.map_eq_some_iff.mp hdecode
  exact ⟨content, earlier, late, hcontent, hlog, hlate, rfl⟩

/-- A reply is awaited only behind a turn. -/
theorem isTurn_of_append {posting : Posting} (h : Awaits start (log ++ [posting]) seen)
    (hstart : Utf8.IsWholeLines start) (hsingle : ∀ known ∈ log ++ [posting], known.IsSingle) :
    posting.isTurn = true := by
  obtain ⟨content, earlier, late, hdecode, hlog, hlate, rfl⟩ := h.exists_eq_append hstart
  rcases List.eq_nil_or_concat late with rfl | ⟨before, last, rfl⟩
  · have howed := h.owed
    rw [List.append_nil] at hlog
    rw [← hlog, needsResponse_append_textOf (hstart.toList hdecode) hsingle] at howed
    exact howed
  · rw [List.concat_eq_append, ← List.append_assoc] at hlog
    obtain ⟨-, hsame⟩ := List.append_inj' hlog rfl
    obtain rfl : posting = last := by simpa using hsame
    exact hlate posting (by simp)

/-- As long as a reply is awaited it is owed. -/
theorem needsResponse_eq_true {content : String} (h : Awaits start log seen)
    (hstart : Utf8.IsWholeLines start) (hdecode : Utf8.decode start = some content)
    (hsingle : ∀ known ∈ log, known.IsSingle) :
    needsResponse (content ++ textOf log) = true := by
  rcases List.eq_nil_or_concat log with rfl | ⟨before, last, rfl⟩
  · obtain ⟨known, earlier, late, hknown, hlog, -, rfl⟩ := h.exists_eq_append hstart
    obtain rfl : content = known := Option.some.inj (hdecode.symm.trans hknown)
    obtain ⟨rfl, -⟩ := List.append_eq_nil_iff.mp hlog.symm
    exact h.owed
  · rw [List.concat_eq_append] at h hsingle ⊢
    rw [needsResponse_append_textOf (hstart.toList hdecode) hsingle]
    exact h.isTurn_of_append hstart hsingle

end Awaits

/-- How many users' lines there are in the text of a file. Bytes that are no text have none. -/
def userLines (bytes : Bytes) : Nat :=
  match Utf8.decode bytes with
  | some content => (lines content.toList).countP isUserLine
  | none => 0

namespace Answered

variable {start : Bytes} {log : List Posting}

theorem isSingle (h : Answered start log) : ∀ posting ∈ log, posting.IsSingle := by
  induction h with
  | nil => simp
  | turn _ hsingle ih =>
      intro posting hposting
      rcases List.mem_append.mp hposting with hposting | hposting
      · exact ih posting hposting
      · rwa [List.mem_singleton.mp hposting]
  | reply _ _ ih =>
      intro posting hposting
      rcases List.mem_append.mp hposting with hposting | hposting
      · exact ih posting hposting
      · rw [List.mem_singleton.mp hposting]
        trivial

/-- What was written first was in order before the rest came. -/
theorem of_append {first second : List Posting} (h : Answered start (first ++ second)) :
    Answered start first := by
  induction second using List.reverseRecOn with
  | nil => rwa [List.append_nil] at h
  | append_singleton second posting ih =>
      apply ih
      rw [← List.append_assoc] at h
      generalize hlog : first ++ second ++ [posting] = log at h
      cases h with
      | nil => simp at hlog
      | turn h hsingle => rwa [(List.append_inj' hlog rfl).1]
      | reply h hawaits => rwa [(List.append_inj' hlog rfl).1]

/-- The last reply was awaited. -/
theorem awaits {text seen : String} (h : Answered start (log ++ [.reply text seen])) :
    Awaits start log seen := by
  generalize hlog : log ++ [.reply text seen] = whole at h
  cases h with
  | nil => simp at hlog
  | turn h hsingle => simpa using (List.append_inj' hlog rfl).2
  | reply h hawaits =>
      obtain ⟨rfl, hsame⟩ := List.append_inj' hlog rfl
      obtain ⟨rfl, rfl⟩ : text = _ ∧ seen = _ := by simpa using hsame
      exact hawaits

/-- Between two replies there is a turn. -/
theorem exists_turn_between {first between rest : List Posting} {text seen later about : String}
    (hstart : Utf8.IsWholeLines start)
    (h : Answered start
      (first ++ [.reply text seen] ++ between ++ [.reply later about] ++ rest)) :
    ∃ message, Posting.turn message ∈ between := by
  have hawaits := h.of_append.awaits
  have hsingle := h.of_append.of_append.isSingle
  rcases List.eq_nil_or_concat between with rfl | ⟨before, last, rfl⟩
  · rw [List.append_nil] at hawaits hsingle
    cases hawaits.isTurn_of_append hstart hsingle
  · rw [List.concat_eq_append, ← List.append_assoc] at hawaits hsingle
    cases last with
    | turn message => exact ⟨message, by simp⟩
    | reply _ _ => cases hawaits.isTurn_of_append hstart hsingle

/-- There are no more replies than turns of users, and one fewer as long as one is owed. -/
theorem countP_isReply_le {content : String} (hstart : Utf8.IsWholeLines start)
    (hdecode : Utf8.decode start = some content) (h : Answered start log) :
    log.countP Posting.isReply + (if needsResponse (content ++ textOf log) then 1 else 0) ≤
      (lines content.toList).countP isUserLine + log.countP Posting.isTurn := by
  have hcontent := hstart.toList hdecode
  induction h with
  | nil =>
      rw [textOf_nil, String.append_empty]
      split
      · next howed =>
          have hsaid := List.countP_pos_iff.mpr (exists_isUserLine_of_needsResponse howed)
          simpa using hsaid
      · exact Nat.zero_le _
  | @turn log message hlog hsingle ih =>
      have hlast := needsResponse_append_textOf hcontent (hlog.turn hsingle).isSingle
      rw [hlast, List.countP_append, List.countP_append]
      simp [Posting.isTurn, Posting.isReply]
      omega
  | @reply log text seen hlog hawaits ih =>
      have hgrown : Answered start (log ++ [.reply text seen]) := hlog.reply hawaits
      have hlast := needsResponse_append_textOf hcontent hgrown.isSingle
      have howed := hawaits.needsResponse_eq_true hstart hdecode hlog.isSingle
      rw [howed] at ih
      rw [hlast, List.countP_append, List.countP_append]
      simpa [Posting.isTurn, Posting.isReply] using ih

/-- A file that is no text gets no reply. -/
theorem countP_isReply_eq_zero (hstart : Utf8.IsWholeLines start)
    (hdecode : Utf8.decode start = none) (h : Answered start log) :
    log.countP Posting.isReply = 0 := by
  induction h with
  | nil => rfl
  | turn hlog hsingle ih => rw [List.countP_append, ih]; rfl
  | reply hlog hawaits ih =>
      obtain ⟨content, _, _, hcontent, -⟩ := hawaits.exists_eq_append hstart
      rw [hdecode] at hcontent
      cases hcontent

/-- There are no more replies than users' lines in the whole text. -/
theorem countP_isReply_le_userLines (hstart : Utf8.IsWholeLines start) (h : Answered start log) :
    log.countP Posting.isReply ≤ userLines (start ++ Utf8.encode (textOf log)) := by
  rw [userLines, Utf8.decode_append_encode hstart.current_read]
  cases hdecode : Utf8.decode start with
  | none => exact Nat.le_of_eq (h.countP_isReply_eq_zero hstart hdecode)
  | some content =>
      have hturns : (log.map Posting.words).countP isUserLine = log.countP Posting.isTurn := by
        rw [List.countP_map]
        exact List.countP_congr fun posting _ => by simp [Posting.isUserLine_words]
      have hle := h.countP_isReply_le hstart hdecode
      rw [Option.map_some]
      dsimp only
      rw [String.toList_append, lines_append (hstart.toList hdecode), lines_textOf h.isSingle,
        List.countP_append, hturns]
      omega

end Answered

end FileChat.Conversation
