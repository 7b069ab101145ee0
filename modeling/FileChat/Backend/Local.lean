/-
# Models on this machine

The backend that starts a server for a model and gives it the prompt as it is. The server
takes a while until it is ready, and is asked for its health until then.
-/
import FileChat.Config.Basic
import FileChat.Http.Exchange
import FileChat.Json.Document

namespace FileChat.Local

open Json

/-- How often the server is asked for its health: twice a second, for five minutes. -/
def maxHealthChecks : Nat := 600

/-- How many seconds the server has to become ready. -/
def readySeconds : Nat := 300

/-- Where the server of a model listens. -/
def base (model : LocalModel) : String := "http://127.0.0.1:" ++ toString model.port

/-- The arguments of the server. -/
def arguments (model : LocalModel) (contextTokens : Nat) : List String :=
  let file := match model.path with
    | some path => ["-m", path]
    | none => []
  file ++ ["-c", toString contextTokens, "-ngl", toString model.gpuLayers,
    "--host", "127.0.0.1", "--port", toString model.port]

/-- Where a program without a slash in its name is looked up if nothing is said. -/
def standardSearch : List Path :=
  ["/usr/local/sbin", "/usr/local/bin", "/usr/sbin", "/usr/bin", "/sbin", "/bin"]

/-- The directories of a list with colons between them. -/
def searchOf (listed : String) : List Path := (listed.toList.splitOn ':').map String.ofList

/-- Whether what a path leads to can be started. -/
def checkExecutable (fs : FileSystem) (path : Path) : Except FileError Unit :=
  match fs.resolve path with
  | .error cause => .error cause
  | .ok (.found _ (.file _ true)) => .ok ()
  | .ok (.found _ _) => .error .permissionDenied
  | .ok (.vacant _ _) => .error .notFound

/-- Look a name up in some directories, one after the other. What cannot be started is
passed over; it is the reason for a failure if nothing better is found. -/
def lookUp (fs : FileSystem) (name : String) (reason : FileError) :
    List Path → Except FileError Unit
  | [] => .error reason
  | directory :: later =>
    match checkExecutable fs (Path.join directory name) with
    | .error .permissionDenied => lookUp fs name .permissionDenied later
    | .error .notFound => lookUp fs name reason later
    | .error .notADirectory => lookUp fs name reason later
    | result => result

/-- The longest argument of a program, in bytes. -/
def maxArgumentBytes : Nat := 131071

/-- Whether a program can be started with some arguments. -/
def checkProgram (fs : FileSystem) (search : List Path) (program : Path)
    (arguments : List String) : Except FileError Unit := do
  if (program :: arguments).any fun word => word.toList.contains '\x00' then throw .nulInArgument
  if program.toList.contains '/' then checkExecutable fs program
  else if program.isEmpty then throw .notFound
  else if FileSystem.maxNameBytes < program.utf8ByteSize then throw .nameTooLong
  else lookUp fs program .notFound search
  if arguments.any fun word => maxArgumentBytes < word.utf8ByteSize then throw .argumentTooLong

/-- Ask for the health of a server until it is ready. -/
def awaitReady (port : Nat) : Nat → Http.Host → Bool × Http.Host
  | 0, host => (false, host)
  | n + 1, host =>
    match host.checkHealth port with
    | (true, host) => (true, host)
    | (false, host) => awaitReady port n host

/-- Start the server of a model and wait until it is ready. -/
def start (fs : FileSystem) (search : List Path) (model : LocalModel) (contextTokens : Nat)
    (host : Http.Host) : Except BackendError Unit × Http.Host :=
  let words := arguments model contextTokens
  match checkProgram fs search model.program words with
  | .error cause => (.error (.notStarted model.program cause), host)
  | .ok () =>
    let running := { host with launched := some ⟨model.program, words⟩ }
    match awaitReady model.port maxHealthChecks running with
    | (true, host) => (.ok (), host)
    | (false, host) => (.error (.notReady (base model ++ "/health") readySeconds), host)

/-- The body of a request. -/
def body (call : Call) : Outgoing :=
  .object [("prompt", .text call.prompt), ("n_predict", .natural call.maxTokens),
    ("temperature", .ofReal call.temperature), ("stop", .ofTexts call.stop),
    ("stream", .bool false)]

/-- The reply in a response: its content, without blanks around it. -/
def decodeReply (response : Bytes) : Except BackendError String :=
  match (parse? response).bind (Value.field? "content") with
  | some (some (.text (some content))) => .ok (Text.trimString content)
  | _ => .error (.transport .undecodable)

/-- Ask the server of a model. -/
def ask (model : LocalModel) (call : Call) (host : Http.Host) :
    Except BackendError String × Http.Host :=
  match host.post (base model ++ "/completion") none (body call) with
  | (.ok reply, host) => (reply.interpret decodeReply, host)
  | (.error cause, host) => (.error (.transport cause), host)

/-- The backend of a model whose server is ready. -/
def backend (model : LocalModel) : Backend Http.Host :=
  .ofHost BackendKind.localModel.name (ask model)

end FileChat.Local
