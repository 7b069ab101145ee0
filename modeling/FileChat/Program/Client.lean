/-
# The client program

One run of the client: a command line, an environment and the surroundings go in, and what
it leaves on its two outputs comes out, with its exit code. A reply that reports a failure
is shown like any other, but the exit code tells.
-/
import FileChat.Client.Stream
import FileChat.CommandLine.Client
import FileChat.Program.Report

namespace FileChat.Program

open Client CommandLine

variable {σ : Type}

/-- The line that tells which session is spoken in. -/
def sessionLine (session : Client.Session) : String := "session: " ++ session.id ++ "\n"

/-- Open the session of a message and go on there. -/
def inSession (env : Surroundings σ) (i : Invocation) (id : String) (s : σ)
    (go : Client.Session → σ → σ × Finish) : σ × Finish :=
  match Client.Session.openIn env id i.directory i.options s with
  | (s, .error e) => (s, failed "" "" e.chain)
  | (s, .ok session) => go session s

/-- What a sent message leaves behind. -/
def sendFinish (session : Client.Session) :
    Except ClientError Conversation.Response → Finish
  | .ok reply =>
    .exited (if reply.isError then 1 else 0) (reply.content ++ "\n") (sessionLine session)
  | .error e =>
    failed "" (sessionLine session) (("Failed to send to session " ++ session.id) :: e.chain)

/-- Send a message and show the reply. -/
def send (env : Surroundings σ) (message : String) (session : Client.Session) (s : σ) :
    σ × Finish :=
  let (s, result) := session.send env message none s
  (s, sendFinish session result)

/-- What is shown of the pieces of a reply, up to the first failure. -/
def shown : List (Except ClientError String) → String × Option ClientError
  | [] => ("", none)
  | .error e :: _ => ("", some e)
  | .ok piece :: later =>
    let (text, failure) := shown later
    (piece ++ text, failure)

/-- Send a message and show the reply piece by piece. -/
def stream (env : Surroundings σ) (message : String) (session : Client.Session) (s : σ) :
    σ × Finish :=
  match session.stream env message none s with
  | (s, .failed e) => (s, failed "" (sessionLine session) e.chain)
  | (s, .beyondClock) => (s, beyondClock "" (sessionLine session))
  | (s, .begun streaming) =>
    let (pieces, s) := session.drain env streaming (fun _ s => s) s
    match shown pieces with
    | (text, none) => (s, .exited 0 text (sessionLine session))
    | (text, some e) => (s, failed text (sessionLine session) e.chain)

/-- Show a conversation, which must exist. -/
def read (fs : FileSystem) (i : Invocation) (id : String) : Finish :=
  match (Client.Session.ofFile? fs id i.directory i.options).bind (·.read fs) with
  | .ok text => .exited 0 text ""
  | .error e => failed "" "" e.chain

/-- Remove a conversation. -/
def delete (env : Surroundings σ) (i : Invocation) (id : String) (s : σ) : σ × Finish :=
  match Client.Session.at? id i.directory i.options with
  | .error e => (s, failed "" "" e.chain)
  | .ok session =>
    match session.delete (env.files s) with
    | .error e => (s, failed "" "" e.chain)
    | .ok files => (env.wrote session.path files s, .exited 0 "" "")

/-- Do what a command line asks for. A message without a session goes to `freshId`. -/
def perform (env : Surroundings σ) (freshId : String) (i : Invocation) (s : σ) : σ × Finish :=
  match i.errand with
  | .send id words => inSession env i (id.getD freshId) s (send env (" ".intercalate words))
  | .stream id words => inSession env i (id.getD freshId) s (stream env (" ".intercalate words))
  | .read id => (s, read (env.files s) i id)
  | .delete id => delete env i id s

/-- One run of the client. -/
def runClient (env : Surroundings σ) (environment : Environment) (arguments : List String)
    (freshId : String) (s : σ) : σ × Finish :=
  match Invocation.ofArguments environment arguments with
  | .error refusal => (s, .refused refusal)
  | .ok i => perform env freshId i s

end FileChat.Program
