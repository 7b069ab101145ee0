/-
# Backends

A backend continues a prompt. It is asked with the limits on the reply, and it answers
with a text or with the reason why there is none. What it does meanwhile, to the files or
to a host of its own, is part of the world that it hands back.
-/
import FileChat.Files.Edit
import FileChat.Number.Binary

namespace FileChat

/-- Why an exchange with a server brought no usable response. -/
inductive TransportError
  /-- The request could not be made at all: its address or a header is not valid. -/
  | malformedRequest
  /-- The address is valid, but nobody can be asked at it: it names no host, a protocol that
  is not spoken here, or what cannot be sent. -/
  | unusable (url : String)
  /-- Nobody answered, or with something that is no answer. -/
  | notSent (url : String)
  /-- The response is incomplete or does not have the expected form. -/
  | undecodable
  deriving Repr, DecidableEq

namespace TransportError

/-- The wording of a failed exchange. -/
def message : TransportError → String
  | .malformedRequest => "builder error"
  | .unusable url => "builder error for url (" ++ url ++ ")"
  | .notSent url => "error sending request for url (" ++ url ++ ")"
  | .undecodable => "error decoding response body"

end TransportError

/-- Why a backend gave no reply, or could not be started. -/
inductive BackendError
  | transport (cause : TransportError)
  /-- The server refused the request. -/
  | refused (status : Nat) (body : String)
  /-- The response holds no reply. -/
  | noReply (detail : String)
  /-- The model server could not be started. -/
  | notStarted (program : Path) (cause : FileError)
  /-- The model server did not become ready in time. -/
  | notReady (url : String) (waitedSeconds : Nat)
  deriving Repr, DecidableEq

namespace BackendError

/-- The wording of a failure. -/
def message : BackendError → String
  | .transport cause => "request failed: " ++ cause.message
  | .refused status body => "API request failed (" ++ toString status ++ "): " ++ body
  | .noReply detail => "malformed response: " ++ detail
  | .notStarted program cause => "failed to start " ++ program ++ ": " ++ cause.message
  | .notReady url waited =>
    "model server at " ++ url ++ " not ready after " ++ toString waited ++ "s"

/-- The messages of a failure, from the outside in. -/
def chain (e : BackendError) : List String :=
  match e with
  | .transport cause => [e.message, cause.message]
  | .notStarted _ cause => [e.message, cause.message]
  | _ => [e.message]

end BackendError

/-- A question to a backend. -/
structure Call where
  prompt : String
  maxTokens : Nat
  temperature : Number.Binary32
  stop : List String
  deriving Repr, DecidableEq

/-- What becomes of a call. -/
inductive Answer
  | reply (text : String)
  | failure (cause : BackendError)
  /-- The worker that made the call is gone. -/
  | crash
  deriving Repr, DecidableEq

/-- The files, what lies behind the backend, and a directory that may be watched. -/
structure World (σ : Type) where
  files : FileSystem
  host : σ
  /-- Where the watched directory is. -/
  watched : Option Location
  /-- The notices that it has given and nobody has heard yet, oldest first. -/
  notices : List Notice

namespace World

variable {σ : Type}

/-- A world in which nothing has happened yet. -/
def start (files : FileSystem) (host : σ) : World σ := ⟨files, host, none, []⟩

/-- Watch the directory that a path leads to, from now on. -/
def watch (w : World σ) (directory : Path) : World σ :=
  { w with watched := w.files.locate? directory, notices := [] }

/-- Whether a notice comes from the watched directory: it is about an entry there, or about
none. -/
def isWatched (w : World σ) (notice : Notice) : Bool :=
  match notice.place? with
  | some place => w.watched = some place.dropLast
  | none => w.watched.isSome

/-- The world with those of some more notices that the watched directory gives. -/
def noticing (w : World σ) (more : List Notice) : World σ :=
  { w with notices := w.notices ++ more.filter w.isWatched }

/-- The world after a file was written and closed. -/
def written (w : World σ) (path : Path) (files : FileSystem) : World σ :=
  { w with files }.noticing (files.closing path)

/-- The world after an edit by others. -/
def edited (w : World σ) (e : Edit) : World σ :=
  let (files, notices) := e.apply w.files
  { w with files, watched := w.watched.bind (e.carry? w.files) }.noticing notices

end World

/-- A backend: a name, and what a call does to the world. -/
structure Backend (σ : Type) where
  name : String
  ask : Call → World σ → Answer × World σ

end FileChat
