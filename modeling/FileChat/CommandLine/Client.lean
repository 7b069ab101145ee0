/-
# The client's command line

A command with its own options comes after options that may also follow it; there they
win. What is not given comes from the environment or is the standard.
-/
import FileChat.CommandLine.Options

namespace FileChat.CommandLine

/-- What the client is asked to do. -/
inductive Errand
  /-- Write a message and wait for the reply; without a session, in a new one. -/
  | send (session : Option String) (message : List String)
  /-- Write a message and show the reply as it comes. -/
  | stream (session : Option String) (message : List String)
  /-- Show a conversation. -/
  | read (session : String)
  /-- Remove a conversation. -/
  | delete (session : String)
  deriving Repr, DecidableEq

/-- A command line of the client that was understood. -/
structure Invocation where
  directory : Path
  options : Client.Options
  errand : Errand
  deriving Repr, DecidableEq

/-- The commands of the client. -/
inductive Command
  | send
  | stream
  | read
  | delete
  deriving Repr, DecidableEq

namespace Command

/-- The command with a given name. -/
def ofName? (name : String) : Option Command :=
  match name with
  | "send" => some .send
  | "stream" => some .stream
  | "read" => some .read
  | "delete" => some .delete
  | _ => none

end Command

/-- The command that only asks for help. -/
def helpName : String := "help"

/-- Where the shared tree is mounted. -/
def mountFlag : Flag := ⟨"mount", isPath, some Setting.mount.key⟩

/-- The directory of sessions below the mount. -/
def subdirectoryFlag : Flag :=
  ⟨"sessions-subdir", fun _ => true, some Setting.subdirectory.key⟩

/-- The sessions directory, whatever else is said. -/
def directoryFlag : Flag := ⟨"sessions-dir", isPath, none⟩

/-- How many seconds a reply is waited for. -/
def timeoutFlag : Flag :=
  ⟨"timeout-secs", fun value => (Number.readUnsigned 64 value).isSome, none⟩

/-- How many milliseconds pass between two looks. -/
def pauseFlag : Flag := ⟨"poll-ms", fun value => (Number.readUnsigned 64 value).isSome, none⟩

/-- The session that a command is about. -/
def sessionFlag : Flag := ⟨"session", fun _ => true, none⟩

/-- The options that may come before or after the command. -/
def sharedFlags : List Flag :=
  [mountFlag, subdirectoryFlag, directoryFlag, timeoutFlag, pauseFlag]

/-- The options before the command. -/
def outerLevel : Level := ⟨sharedFlags, true⟩

/-- The options after the command. -/
def innerLevel : Level := ⟨sessionFlag :: sharedFlags, false⟩

/-- How a request for help by command is answered: help on one command at most. -/
def refuseHelp : List String → Refusal
  | [] => .help
  | [name] => if name = helpName || (Command.ofName? name).isSome then .help else .usage
  | _ => .usage

/-- How a client waits, by what is given. -/
def optionsOf (value? : Flag → Option String) : Client.Options where
  pause := (((value? pauseFlag).bind (Number.readUnsigned 64)).map fun n =>
    Duration.ofMilliseconds (max n 1)).getD Client.Options.standard.pause
  timeout := (((value? timeoutFlag).bind (Number.readUnsigned 64)).map
    Duration.ofSeconds).getD Client.Options.standard.timeout

/-- The sessions directory, by what is given. -/
def directoryOf (value? : Flag → Option String) : Path :=
  (value? directoryFlag).getD
    (Client.resolveDirectory (value? mountFlag) (value? subdirectoryFlag))

/-- What a command with its session and its words asks for. -/
def errandOf (command : Command) (session : Option String) (words : List String) :
    Except Refusal Errand :=
  match command, session, words with
  | .send, session, word :: words => .ok (.send session (word :: words))
  | .stream, session, word :: words => .ok (.stream session (word :: words))
  | .read, some session, [] => .ok (.read session)
  | .delete, some session, [] => .ok (.delete session)
  | _, _, _ => .error .usage

/-- Read what comes after a command, `outer` being what came before it. -/
def readCommand (env : Environment) (outer : Reading) (command : Command)
    (arguments : List String) : Except Refusal Invocation := do
  let (inner, rest) ← innerLevel.read .empty arguments
  let given ← inner.settle
  let innerStandIns ← innerLevel.standIns env given
  let errand ← errandOf command (given.lookup sessionFlag.name) rest.arguments
  let before ← outer.settle
  let _ ← outerLevel.standIns env before
  let value? (flag : Flag) : Option String :=
    given.lookup flag.name <|> before.lookup flag.name <|> innerStandIns.lookup flag.name
  return ⟨directoryOf value?, optionsOf value?, errand⟩

/-- Everything that options before a command or the environment in their place say. -/
def saidBefore (env : Environment) (outer : Reading) : Except Refusal Given := do
  let given ← outer.settle
  return given ++ (← outerLevel.standIns env given)

/-- Turn away a command line without a command: with help, if it says nothing at all. -/
def refuseWithoutCommand (env : Environment) (outer : Reading) : Refusal :=
  match saidBefore env outer with
  | .error refusal => refusal
  | .ok said => if said.isEmpty then .help else .usage

/-- Read the client's command line. -/
def Invocation.ofArguments (env : Environment) (arguments : List String) :
    Except Refusal Invocation := do
  let (outer, rest) ← outerLevel.read .empty arguments
  match rest with
  | ⟨[], _⟩ => throw (refuseWithoutCommand env outer)
  | ⟨_ :: _, true⟩ => throw .usage
  | ⟨name :: later, false⟩ =>
    if name = helpName then throw (refuseHelp later)
    match Command.ofName? name with
    | none => throw .usage
    | some command => readCommand env outer command later

end FileChat.CommandLine
