/-
# The sessions directory

What the daemon does to the files of a sessions directory: append a turn, read a
conversation, create and remove a sentinel, and clear the sentinels that an earlier daemon
left behind. A failure names the step that failed and carries its cause.
-/
import FileChat.Files.System
import FileChat.Session.Name
import FileChat.Conversation.Line

namespace FileChat.Session

/-- A step on the sessions directory that can fail. -/
inductive Step
  | openForAppend
  | read
  | createSentinel
  | removeSentinel
  | list
  deriving Repr, DecidableEq

namespace Step

/-- What a message says about a step that failed. -/
def failure : Step → String
  | .openForAppend => "Failed to open session file for append"
  | .read => "Failed to read session file"
  | .createSentinel => "Failed to create sentinel"
  | .removeSentinel => "Failed to remove sentinel"
  | .list => "Failed to list sessions dir"

end Step

/-- Why a step failed, and on what. -/
structure StoreError where
  step : Step
  path : Path
  cause : FileError
  deriving Repr, DecidableEq

/-- The messages of a failure, from the outside in. -/
def StoreError.chain (e : StoreError) : List String :=
  [e.step.failure ++ ": " ++ e.path, e.cause.message]

/-- Name the step of a failure. -/
def during {α : Type} (step : Step) (path : Path) (result : Except FileError α) :
    Except StoreError α :=
  result.mapError fun cause => ⟨step, path, cause⟩

/-- Append a text to a session file, which must exist. -/
def append (fs : FileSystem) (path : Path) (text : String) : Except StoreError FileSystem :=
  during .openForAppend path (fs.append path (Utf8.encode text))

/-- Read a session file. -/
def read (fs : FileSystem) (path : Path) : Except StoreError String :=
  during .read path (fs.readText path)

/-- Create the sentinel of a session, or empty it. -/
def createSentinel (fs : FileSystem) (directory : Path) (id : String) :
    Except StoreError FileSystem :=
  let path := sentinelPath directory id
  during .createSentinel path (fs.write path [])

/-- Remove the sentinel of a session. One that is missing needs no removal. -/
def removeSentinel (fs : FileSystem) (directory : Path) (id : String) :
    Except StoreError FileSystem :=
  let path := sentinelPath directory id
  match fs.remove path with
  | .error .notFound => .ok fs
  | result => during .removeSentinel path result

/-- The names in a sessions directory. -/
def names (fs : FileSystem) (directory : Path) : Except StoreError (List String) :=
  during .list directory (fs.list directory)

/-- Whether two names are in the order in which sessions are listed: by code points. -/
def inOrder (first second : String) : Bool := !decide (second < first)

/-- Names in the order in which sessions are listed. -/
def sorted (names : List String) : List String := names.mergeSort inOrder

/-- What recovery does first with a stale sentinel: the session that it names, if there is
one, is told that its reply will not come. -/
def reportRestart (fs : FileSystem) (directory : Path) (id : String) :
    Except StoreError FileSystem :=
  let path := Path.join directory id
  if !id.isEmpty && fs.isRegularFile path then
    append fs path (Conversation.assistantLine Conversation.restartError)
  else .ok fs

/-- Clear the stale sentinels among some names, one after the other. The first failure
ends the work and leaves what was done. Names that are no text are passed over. -/
def recoverEach (directory : Path) (fs : FileSystem) (recovered : List String) :
    List String → FileSystem × Except StoreError (List String)
  | [] => (fs, .ok recovered)
  | name :: later =>
    match ownerOf? name with
    | none => recoverEach directory fs recovered later
    | some id =>
      match reportRestart fs directory id with
      | .error e => (fs, .error e)
      | .ok told =>
        match removeSentinel told directory id with
        | .error e => (told, .error e)
        | .ok cleared => recoverEach directory cleared (id :: recovered) later

/-- Clear the sentinels that an earlier daemon left behind, and give the sessions that
were told so, in order. -/
def recoverStale (fs : FileSystem) (directory : Path) :
    FileSystem × Except StoreError (List String) :=
  match names fs directory with
  | .error e => (fs, .error e)
  | .ok found =>
    let (cleared, result) := recoverEach directory fs [] found
    (cleared, result.map sorted)

end FileChat.Session
