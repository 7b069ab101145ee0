/-
# The daemon program

One run of the daemon: it reads its configuration, makes the sessions directory and the
backend ready, answers what there is to answer, and ends in good order when it is told to.
-/
import FileChat.Backend.Load
import FileChat.CommandLine.Daemon
import FileChat.Daemon.Prepare
import FileChat.Daemon.Run
import FileChat.Program.Report

namespace FileChat.Program

open CommandLine

/-- The exit code for a configuration that is refused. -/
def configurationCode : Nat := 2

/-- The end of a daemon whose configuration is refused. -/
def misconfigured (cause : ConfigError) : Finish :=
  .exited configurationCode "" ("Configuration error: " ++ cause.message ++ "\n")

/-- The end of a daemon that had to give up because of a limit of the machine. -/
def aborted (chain : List String) : Finish :=
  .exited abortCode "" (inline chain ++ "\n")

/-- Run a daemon whose backend is ready until it is told to end. -/
def serve (config : Config) (backend : Backend Http.Host) (world : World Http.Host) :
    World Http.Host × Finish :=
  match Daemon.start config world with
  | .error (.notListed e) => (world, failed "" "" e.chain)
  | .error e => (world, aborted e.chain)
  | .ok daemon =>
    let g := Daemon.generatorOf config backend
    let ended := (daemon.settle g).shutDown g
    match ended.verdict with
    | .ok () => (ended.pool.world, .exited 0 "" "")
    | .error message => (ended.pool.world, failed "" "" [message])

/-- Run a daemon with its configuration from a moment on. -/
def runConfigured (config : Config) (search : List Path) (fs : FileSystem) (host : Http.Host)
    (start : Nat := 0) : World Http.Host × Finish :=
  match config.prepare fs start with
  | (files, .error .beyondClock) => (.start files host, aborted PrepareError.beyondClock.chain)
  | (files, .error e) => (.start files host, failed "" "" e.chain)
  | (files, .ok _) =>
    match config.load files search host with
    | (.error e, host) =>
      (.start files host, failed "" "" ("Failed to load backend" :: e.chain))
    | (.ok backend, host) => serve config backend (.start files host)

/-- Where programs are looked up. -/
def searchIn (environment : Environment) : List Path :=
  match environment "PATH" with
  | some listed => Local.searchOf listed
  | none => Local.standardSearch

/-- One run of the daemon from a moment on, which is told to end once it has nothing to do. -/
def runDaemon (environment : Environment) (arguments : List String) (fs : FileSystem)
    (host : Http.Host) (start : Nat := 0) : World Http.Host × Finish :=
  match loadConfig fs environment arguments with
  | .error (.commandLine refusal) => (.start fs host, .refused refusal)
  | .error (.config cause) => (.start fs host, misconfigured cause)
  | .ok config => runConfigured config (searchIn environment) fs host start

end FileChat.Program
