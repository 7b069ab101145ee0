/-
# Sessions of a client

A client and the daemon share nothing but the files of a sessions directory. A session
names one conversation in it: its file, and the sentinel that tells when a reply is on
its way.
-/
import FileChat.Conversation.Response
import FileChat.Files.System
import FileChat.Number.Duration
import FileChat.Session.Name
import FileChat.Text.Quoted

namespace FileChat.Client

/-- Where the shared tree is mounted if nothing is said. -/
def defaultMount : Path := "/mnt/kvbfs"

/-- The directory of sessions below the mount if nothing is said. -/
def defaultSubdirectory : String := "sessions"

/-- Why a client cannot do what it was asked. -/
inductive ClientError
  | files (cause : FileError)
  /-- No reply came in time; it may still come. -/
  | timeout (id : String) (waited : Duration)
  | notFound (id : String) (path : Path)
  | invalidId (id : String)
  | invalidMessage
  deriving Repr, DecidableEq

namespace ClientError

/-- The wording of a failure. -/
def message : ClientError → String
  | .files cause => "I/O error: " ++ cause.message
  | .timeout id waited =>
    "generation for session '" ++ id ++ "' did not complete within " ++ waited.text
  | .notFound id path => "session '" ++ id ++ "' not found at " ++ path
  | .invalidId id => "invalid session id: " ++ Text.quoted id
  | .invalidMessage => "message must be a single line"

/-- The messages of a failure, from the outside in. -/
def chain (e : ClientError) : List String :=
  match e with
  | .files cause => [e.message, cause.message]
  | _ => [e.message]

end ClientError

/-- A failure of a file operation is one of the client. -/
def onFiles {α : Type} (result : Except FileError α) : Except ClientError α :=
  result.mapError .files

/-- How a client waits. -/
structure Options where
  /-- The pause before each look at the files. -/
  pause : Duration
  /-- How long a reply is waited for if a call says nothing else. -/
  timeout : Duration
  deriving Repr, DecidableEq

/-- How a client waits if nothing is said. -/
def Options.standard : Options := ⟨.ofMilliseconds 100, .ofSeconds 120⟩

/-- The sessions directory for a mount and a subdirectory, either of which may be missing
or empty. -/
def resolveDirectory (mount : Option Path) (subdirectory : Option String) : Path :=
  Path.join ((mount.filter fun m => !m.isEmpty).getD defaultMount)
    ((subdirectory.filter fun s => !s.isEmpty).getD defaultSubdirectory)

/-- One conversation, as a client refers to it. -/
structure Session where
  id : String
  path : Path
  sentinel : Path
  options : Options
  deriving Repr, DecidableEq

namespace Session

/-- Refer to a session without touching any file. -/
def at? (id : String) (directory : Path) (options : Options) : Except ClientError Session :=
  if FileChat.Session.isValidId id then
    .ok ⟨id, Path.join directory id, FileChat.Session.sentinelPath directory id, options⟩
  else .error (.invalidId id)

/-- Refer to a session whose file must be there. -/
def ofFile? (fs : FileSystem) (id : String) (directory : Path) (options : Options) :
    Except ClientError Session := do
  let session ← at? id directory options
  if fs.isRegularFile session.path then return session
  else throw (.notFound session.id session.path)

/-- Refer to a session, and create the directory and the file if they are missing. What is
there is never changed. The tree is given back in any case, since directories may have
been created and the file not. -/
def openOrCreate (fs : FileSystem) (id : String) (directory : Path) (options : Options) :
    FileSystem × Except ClientError Session :=
  match at? id directory options with
  | .error e => (fs, .error e)
  | .ok session =>
    match fs.createDirectories directory with
    | (created, .error cause) => (created, .error (.files cause))
    | (created, .ok ()) =>
      match created.appendOrCreate session.path [] with
      | .error cause => (created, .error (.files cause))
      | .ok ready => (ready, .ok session)

/-- The text of the conversation; a missing file is an empty conversation. -/
def read (fs : FileSystem) (session : Session) : Except ClientError String :=
  match fs.readText session.path with
  | .error .notFound => .ok ""
  | result => onFiles result

/-- The conversation as the client reports it. -/
def readResponse (fs : FileSystem) (session : Session) :
    Except ClientError Conversation.Response :=
  (session.read fs).map fun text => ⟨session.id, text⟩

/-- Remove the file of the session. One that is missing needs no removal. -/
def delete (fs : FileSystem) (session : Session) : Except ClientError FileSystem :=
  match fs.remove session.path with
  | .error .notFound => .ok fs
  | result => onFiles result

/-- Whether a message can be written as one turn. -/
def isSingleLine (message : String) : Bool :=
  !message.toList.any fun c => c = '\n' || c = '\r'

/-- Append a turn of the user, and give the length of the file with it. -/
def appendTurn (fs : FileSystem) (session : Session) (message : String) :
    Except ClientError (FileSystem × Nat) := do
  if !isSingleLine message then throw .invalidMessage
  let turn := Utf8.encode (Conversation.userLine message)
  let after ← onFiles (fs.appendOrCreate session.path turn)
  let seen ← onFiles (after.metadata session.path)
  return (after, seen.size)

end Session

end FileChat.Client
