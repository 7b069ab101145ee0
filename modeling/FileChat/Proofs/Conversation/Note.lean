/-
# What daemons append

Behind the turns of a user daemons write replies, and if they find that they were interrupted,
that there was a restart. A client cannot tell the two apart: each is an assistant's turn, each
settles what is owed, and the last one is what the client reports.
-/

import FileChat.Proofs.Conversation.Record
import FileChat.Proofs.Conversation.Response

namespace FileChat.Conversation

/-- What daemons append to a session. -/
inductive Note
  /-- The reply of a worker. -/
  | answer (text : String)
  /-- That there was a restart. -/
  | notice
  deriving Repr, DecidableEq

namespace Note

/-- The reply as a user reads it. -/
def text : Note → String
  | .answer text => text
  | .notice => restartError

/-- The lines of some notes. -/
def linesOf : List Note → String
  | [] => ""
  | note :: later => assistantLine note.text ++ linesOf later

/-- What workers appended, of all that was appended. -/
def ofPostings (log : List Posting) : List Note :=
  log.filterMap fun
    | .turn _ => none
    | .reply text _ => some (.answer text)

@[simp]
theorem ofPostings_nil : ofPostings [] = [] := rfl

@[simp]
theorem ofPostings_reply (text seen : String) :
    ofPostings [.reply text seen] = [.answer text] := rfl

@[simp]
theorem ofPostings_append (earlier later : List Posting) :
    ofPostings (earlier ++ later) = ofPostings earlier ++ ofPostings later :=
  List.filterMap_append

theorem linesOf_append_singleton (notes : List Note) (note : Note) :
    linesOf (notes ++ [note]) = linesOf notes ++ assistantLine note.text := by
  induction notes with
  | nil => simp [linesOf]
  | cons first later ih => rw [List.cons_append, linesOf, ih, linesOf, String.append_assoc]

section Lines

variable {text : String} (hwhole : Text.IsWholeLines text.toList)

include hwhole

theorem isWholeLines_append_linesOf (notes : List Note) :
    Text.IsWholeLines (text ++ linesOf notes).toList := by
  induction notes using List.reverseRecOn with
  | nil => simpa [linesOf] using hwhole
  | append_singleton notes note ih =>
      rw [linesOf_append_singleton, ← String.append_assoc, String.toList_append]
      exact ih.append (isWholeLines_assistantLine _)

variable (howed : needsResponse text = true)

include howed

/-- A reply is owed until the first note is there. -/
theorem needsResponse_append_linesOf (notes : List Note) :
    needsResponse (text ++ linesOf notes) = notes.isEmpty := by
  rcases List.eq_nil_or_concat notes with rfl | ⟨notes, note, rfl⟩
  · simpa [linesOf] using howed
  · rw [List.concat_eq_append, linesOf_append_singleton, ← String.append_assoc,
      needsResponse_append_assistantLine (isWholeLines_append_linesOf hwhole notes)]
    simp

/-- Each note is a reply to the last turn. -/
theorem repliesToLast_append_linesOf (notes : List Note) :
    repliesToLast (text ++ linesOf notes) = notes.length := by
  induction notes using List.reverseRecOn with
  | nil => simpa [linesOf] using repliesToLast_of_needsResponse howed
  | append_singleton notes note ih =>
      rw [linesOf_append_singleton, ← String.append_assoc,
        repliesToLast_append_assistantLine (isWholeLines_append_linesOf hwhole notes), ih,
        List.length_append, List.length_singleton]

omit howed in
/-- What a client reports is the last note. -/
theorem content_append_linesOf_singleton (notes : List Note) (note : Note) (sessionId : String) :
    (Response.mk sessionId (text ++ linesOf (notes ++ [note]))).content =
      singleLine note.text := by
  rw [linesOf_append_singleton, ← String.append_assoc]
  exact content_append_assistantLine (isWholeLines_append_linesOf hwhole notes) sessionId note.text

end Lines

end Note

end FileChat.Conversation
