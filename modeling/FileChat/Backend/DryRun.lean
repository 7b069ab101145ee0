/-
# A backend without a model

For rehearsals: the reply is made from the prompt by a fixed rule, or fails in a fixed
way, edits may be done to the files while the call is under way, and every call is
recorded.
-/
import FileChat.Backend.Basic
import FileChat.Session.Store
import FileChat.Text.Lines

namespace FileChat.DryRun

/-- The rule by which calls are answered. -/
inductive Rule
  /-- Repeat the last thing the user said. -/
  | echo
  /-- Always the same text. -/
  | fixed (text : String)
  /-- The prompt itself. -/
  | prompt
  | fail (cause : BackendError)
  | crash
  deriving Repr, DecidableEq

/-- A call as it was received, with the sentinels that were there. -/
structure Record where
  call : Call
  sentinels : List String
  deriving Repr, DecidableEq

/-- What the user said last in a prompt. -/
def lastUserText (prompt : String) : String :=
  String.ofList <|
    ((Text.lines prompt.toList).reverse.findSome?
      (Text.afterMark Conversation.userMark.toList)).getD []

/-- The answer of a rule to a prompt. -/
def Rule.answer (rule : Rule) (prompt : String) : Answer :=
  match rule with
  | .echo => .reply ("Echo: " ++ lastUserText prompt)
  | .fixed text => .reply text
  | .prompt => .reply prompt
  | .fail cause => .failure cause
  | .crash => .crash

/-- The sentinels in a directory, in order. -/
def sentinelsIn (fs : FileSystem) (directory : Path) : List String :=
  match Session.names fs directory with
  | .ok found => Session.sorted (found.filter fun name => (Session.idOfSentinel? name).isSome)
  | .error _ => []

/-- The backend that answers by `rule`, does `edits` in each call before it answers, and
records its calls, oldest first. -/
def backend (directory : Path) (rule : Rule) (edits : List Edit) : Backend (List Record) where
  name := "stub"
  ask call w :=
    let record : Record := ⟨call, sentinelsIn w.files directory⟩
    (rule.answer call.prompt, edits.foldl World.edited { w with host := w.host ++ [record] })

end FileChat.DryRun
