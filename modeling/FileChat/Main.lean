/-
# The command line

The client on this machine's files. What is done and said is decided elsewhere; here a
part of the tree is read in, and what was changed in it is written back. There is no
network here, so the daemon only checks its configuration and makes its directory ready.
-/
import FileChat.Client.FreshId
import FileChat.Daemon.Prepare
import FileChat.Program.Client
import FileChat.Program.Daemon

namespace FileChat.Main

open Client CommandLine

/-! ## Files -/

/-- The location and what is around it, from the outside in. -/
def wayTo (place : Location) : List Location :=
  (List.range (place.length + 1)).map place.take

/-- The path of a location. -/
def pathOf (place : Location) : Path := "/" ++ "/".intercalate place

/-- The location that a path names in a working directory, dots resolved. -/
def locationOf (workingDirectory : Location) (path : Path) : Location :=
  (Path.parts path).foldl
    (fun place step =>
      if step = "." then place else if step = ".." then place.dropLast else place ++ [step])
    (if Path.isAbsolute path then [] else workingDirectory)

/-- What is at a location of this machine. -/
def readEntry (place : Location) : IO (Option Entry) := do
  let path := System.mkFilePath [pathOf place]
  match ← path.metadata.toBaseIO with
  | .error _ => return none
  | .ok seen =>
    match seen.type with
    | .dir => return some .directory
    | .file =>
      match ← (IO.FS.readBinFile path).toBaseIO with
      | .ok bytes => return some (.file bytes.toList false)
      | .error _ => return none
    | _ => return none

/-- The part of the tree that some paths lead through. -/
def readTree (paths : List Path) : IO FileSystem := do
  let here := Path.parts (← IO.currentDir).toString
  let places := (here :: paths.map (locationOf here)).flatMap wayTo
  let mut fs : FileSystem := { FileSystem.empty with workingDirectory := here }
  for place in places do
    if place ≠ [] then
      if let some entry ← readEntry place then fs := fs.put place entry
  return fs

/-- Add to a file, or replace it if its beginning has changed. -/
def writeFile (place : Location) (before after : Bytes) : IO Unit := do
  match before.isPrefixOf? after with
  | some added =>
    let handle ← IO.FS.Handle.mk (pathOf place) .append
    handle.write ⟨added.toArray⟩
    handle.flush
  | none => IO.FS.writeBinFile (pathOf place) ⟨after.toArray⟩

/-- Write back what has changed. -/
def writeTree (before after : FileSystem) : IO Unit := do
  for (place, entry) in after.entries.reverse do
    match before.get? place, entry with
    | some (.file old _), .file new _ => if old ≠ new then writeFile place old new
    | none, .file new _ => writeFile place [] new
    | none, .directory => IO.FS.createDirAll (pathOf place)
    | _, _ => pure ()
  for (place, _) in before.entries do
    if (after.get? place).isNone then IO.FS.removeFile (pathOf place)

/-! ## The client -/

/-- Say how a program ended. -/
def report (finish : Program.Finish) : IO UInt32 := do
  match finish with
  | .refused .usage =>
    (← IO.getStderr).putStrLn "usage: [OPTIONS] send|stream|read|delete [OPTIONS] [MESSAGE]..."
  | .refused _ =>
    (← IO.getStdout).putStrLn
      "Conduct a conversation by appending to a session file: send, stream, read or delete."
  | .exited _ stdout stderr =>
    (← IO.getStderr).putStr stderr
    (← IO.getStdout).putStr stdout
  return UInt32.ofNat finish.code

/-- The tree that a session is in. -/
def sessionTree (session : Client.Session) : IO FileSystem :=
  readTree [session.path, session.sentinel]

/-- The pause between two looks. -/
def sleep (session : Client.Session) : IO Unit :=
  IO.sleep (UInt32.ofNat (max 1 session.options.pause.milliseconds))

/-- Look at a session until the reply is there or the time is over. -/
partial def awaitReply (session : Client.Session) (sizeBefore deadline : Nat) :
    Waiting → IO Bool
  | .settled => return true
  | .watching sentinelSeen => do
    if deadline ≤ (← IO.monoNanosNow) then return false
    sleep session
    awaitReply session sizeBefore deadline
      (session.look sizeBefore sentinelSeen (← sessionTree session))
  | .measuring => return false

/-- Show what a session's file gains until the reply is over. -/
partial def showReply (session : Client.Session) (deadline : Nat) (reply : ReplyStream) :
    IO (Option ClientError) := do
  if reply.done || deadline ≤ (← IO.monoNanosNow) then return none
  sleep session
  match reply.poll (← sessionTree session) session with
  | (.error e, _) => return some e
  | (.ok piece, reply) =>
    let out ← IO.getStdout
    out.putStr (piece.getD "")
    out.flush
    showReply session deadline reply

/-- Write a turn of the user. -/
def writeTurn (session : Client.Session) (message : String) : IO (Except ClientError Nat) := do
  let before ← sessionTree session
  match session.appendTurn before message with
  | .error e => return .error e
  | .ok (after, size) =>
    writeTree before after
    return .ok size

/-- Send a message and wait for the reply. -/
def send (session : Client.Session) (message : String) : IO Program.Finish := do
  match ← writeTurn session message with
  | .error e => return Program.sendFinish session (.error e)
  | .ok size =>
    let deadline := (← IO.monoNanosNow) + session.options.timeout.nanoseconds
    if ← awaitReply session size deadline (.watching false) then
      return Program.sendFinish session (session.readResponse (← sessionTree session))
    else
      return Program.sendFinish session (.error (.timeout session.id session.options.timeout))

/-- Send a message and show the reply as it comes. -/
def stream (session : Client.Session) (message : String) : IO Program.Finish := do
  let told := Program.sessionLine session
  match ← writeTurn session message with
  | .error e => return Program.failed "" told e.chain
  | .ok size =>
    match Clock.after? (← IO.monoNanosNow) session.options.timeout with
    | none => return Program.beyondClock "" told
    | some deadline =>
      match ← showReply session deadline (.ofOffset size) with
      | none => return .exited 0 "" told
      | some e => return Program.failed "" told e.chain

/-- Open a session and go on there. -/
def inSession (i : Invocation) (id : Option String)
    (go : Client.Session → IO Program.Finish) : IO Program.Finish := do
  let id := id.getD (freshId (← IO.getRandomBytes 16).toList)
  let before ← readTree [Path.join i.directory id]
  let (after, opened) := Client.Session.openOrCreate before id i.directory i.options
  writeTree before after
  match opened with
  | .ok session => go session
  | .error e => return Program.failed "" "" e.chain

/-- Do what a command line asks for. -/
def perform (i : Invocation) : IO Program.Finish := do
  match i.errand with
  | .send id words => inSession i id fun session => send session (" ".intercalate words)
  | .stream id words => inSession i id fun session => stream session (" ".intercalate words)
  | .read id => return Program.read (← readTree [Path.join i.directory id]) i id
  | .delete id =>
    let before ← readTree [Path.join i.directory id]
    let (after, finish) := Program.delete Scene.surroundings i id (.still before)
    writeTree before after.files
    return finish

/-! ## The daemon -/

/-- Make the directory of a daemon ready. -/
def prepare (config : Config) : IO Program.Finish := do
  let directory ← System.mkFilePath [config.directory] |>.readDir.toBaseIO
  let names := match directory with
    | .ok entries => entries.toList.map fun entry => Path.join config.directory entry.fileName
    | .error _ => []
  let before ← readTree (config.directory :: names)
  let (after, prepared) := config.prepare before (← IO.monoNanosNow)
  writeTree before after
  match prepared with
  | .error .beyondClock => return Program.aborted PrepareError.beyondClock.chain
  | .error e => return Program.failed "" "" e.chain
  | .ok _ => return Program.failed "" "" ["Failed to load backend", "there is no network"]

/-- One run of the daemon. -/
def runDaemon (environment : Environment) (arguments : List String) : IO Program.Finish := do
  match configure environment arguments with
  | .error (.commandLine refusal) => return .refused refusal
  | .error (.config cause) => return Program.misconfigured cause
  | .ok config =>
    match config.check (← readTree config.localModel.path.toList) with
    | .error cause => return Program.misconfigured cause
    | .ok () => prepare config

/-- The environment of this process, as far as a program looks at it. -/
def readEnvironment : IO Environment := do
  let settings : List Setting :=
    [.mount, .subdirectory, .backend, .contextTokens, .maxTokens, .temperature, .stop,
      .workers, .queueCapacity, .mountWait, .modelPath, .gpuLayers, .serverProgram, .serverPort,
      .apiKey, .apiBase, .apiModel]
  let known ← settings.mapM fun setting => return (setting.key, ← IO.getEnv setting.key)
  return fun key => (known.lookup key).join

/-- One run of the client. -/
def runClient (environment : Environment) (arguments : List String) : IO Program.Finish := do
  match Invocation.ofArguments environment arguments with
  | .error refusal => return .refused refusal
  | .ok i => perform i

end FileChat.Main

/-- The client, or with `daemon` in front of its arguments the daemon. -/
def main (arguments : List String) : IO UInt32 := do
  let environment ← FileChat.Main.readEnvironment
  let finish ← match arguments with
    | "daemon" :: later => FileChat.Main.runDaemon environment later
    | _ => FileChat.Main.runClient environment arguments
  FileChat.Main.report finish
