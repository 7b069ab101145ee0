/-
# Answering one session

A worker answers a session in steps, each of which touches the world at most once: read
the conversation, mark the session with its sentinel, ask the backend, append the reply,
take the mark away. Between two steps others may do what they like, so what a step needs
of an earlier one is carried in the stage, not read again.
-/
import FileChat.Backend.Basic
import FileChat.Session.Watch
import FileChat.Conversation.Owed
import FileChat.Conversation.Prompt

namespace FileChat.Worker

open Session

/-- The limits that every call is made with. -/
structure Params where
  maxTokens : Nat
  temperature : Number.Binary32
  stop : List String
  /-- How many characters of a conversation go into a prompt. -/
  contextChars : Nat
  deriving Repr, DecidableEq

/-- What answering a session came to. -/
inductive Outcome
  /-- No reply was owed. -/
  | skipped
  /-- The reply was appended. -/
  | replied
  /-- There was no reply, and the reason was appended. -/
  | errorReply
  deriving Repr, DecidableEq

/-- What all workers share. -/
structure Generator (σ : Type) where
  backend : Backend σ
  directory : Path
  params : Params

/-- How far the answer to a session has got. -/
inductive Stage
  | reading
  /-- A reply is owed to this content; the sentinel comes next. -/
  | marking (content : String)
  /-- There could be no sentinel; the user is told why. -/
  | excusing (cause : StoreError)
  /-- The sentinel is there; the backend is asked about this content. -/
  | generating (content : String)
  /-- This reply is to be appended. -/
  | recording (reply : String) (outcome : Outcome)
  /-- The attempt to append was made; the sentinel has to go. -/
  | unmarking (appended : Except StoreError Unit) (outcome : Outcome)
  | finished (result : Except StoreError Outcome)
  /-- The backend took the worker with it. -/
  | crashed

namespace Stage

/-- Nothing is left to do. -/
def isOver : Stage → Bool
  | .finished _ => true
  | .crashed => true
  | _ => false

end Stage

/-- Append an assistant's turn to a session file. -/
def appendReply {σ : Type} (item : WorkItem) (reply : String) (w : World σ) :
    Except StoreError (World σ) :=
  (append w.files item.path (Conversation.assistantLine reply)).map fun files =>
    w.written item.path files

namespace Generator

variable {σ : Type} (g : Generator σ)

/-- The call that is made about a content. -/
def callFor (content : String) : Call where
  prompt := Conversation.buildPrompt (Conversation.trimToContext content g.params.contextChars)
  maxTokens := g.params.maxTokens
  temperature := g.params.temperature
  stop := g.params.stop

/-- One step of answering a session. -/
def step (item : WorkItem) (stage : Stage) (w : World σ) : Stage × World σ :=
  match stage with
  | .reading =>
    match read w.files item.path with
    | .error e => (.finished (.error e), w)
    | .ok content =>
      if Conversation.needsResponse content then (.marking content, w)
      else (.finished (.ok .skipped), w)
  | .marking content =>
    match createSentinel w.files g.directory item.id with
    | .error e => (.excusing e, w)
    | .ok files => (.generating content, w.written (sentinelPath g.directory item.id) files)
  | .excusing cause =>
    match appendReply item (Conversation.errorReply (": ".intercalate cause.chain)) w with
    | .error e => (.finished (.error e), w)
    | .ok after => (.finished (.ok .errorReply), after)
  | .generating content =>
    match g.backend.ask (g.callFor content) w with
    | (.reply text, after) => (.recording text .replied, after)
    | (.failure cause, after) =>
      (.recording (Conversation.errorReply cause.message) .errorReply, after)
    | (.crash, after) => (.crashed, after)
  | .recording reply outcome =>
    match appendReply item reply w with
    | .error e => (.unmarking (.error e) outcome, w)
    | .ok after => (.unmarking (.ok ()) outcome, after)
  | .unmarking appended outcome =>
    match removeSentinel w.files g.directory item.id with
    | .error e => (.finished (appended.bind fun _ => .error e), w)
    | .ok files => (.finished (appended.map fun _ => outcome), { w with files })
  | .finished result => (.finished result, w)
  | .crashed => (.crashed, w)

/-- The number of steps after which a session is answered. -/
def maxSteps : Nat := 5

/-- Several steps without anything in between. -/
def steps (item : WorkItem) : Nat → Stage × World σ → Stage × World σ
  | 0, at_ => at_
  | n + 1, at_ => steps item n (g.step item at_.1 at_.2)

/-- Answer a session with nothing in between. There is no result if the worker crashed. -/
def process (item : WorkItem) (w : World σ) : Option (Except StoreError Outcome) × World σ :=
  match g.steps item maxSteps (.reading, w) with
  | (.finished result, after) => (some result, after)
  | (_, after) => (none, after)

end Generator

end FileChat.Worker
