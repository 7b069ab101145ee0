/-
# Before the daemon starts

The sessions directory is made ready: the mount is waited for, the directory is created,
and the sentinels that an earlier daemon left behind are cleared, so that no client waits
for a reply that nobody is generating.
-/
import FileChat.Config.Basic
import FileChat.Config.Mount
import FileChat.Session.Store

namespace FileChat

/-- Why the sessions directory cannot be made ready. -/
inductive PrepareError
  | notMounted (mount : Path) (waited : Duration)
  | noDirectory (cause : FileError)
  | notRecovered (cause : Session.StoreError)
  /-- The clock cannot show when the wait for the mount is over, and the program ends. -/
  | beyondClock
  deriving Repr, DecidableEq

namespace PrepareError

/-- The messages of a failure, from the outside in. -/
def chain : PrepareError → List String
  | .notMounted mount waited =>
    ["Mount point '" ++ mount ++ "' not available after " ++ waited.text]
  | .noDirectory cause => ["Failed to create sessions directory", cause.message]
  | .notRecovered cause => "Failed to recover stale sentinels" :: cause.chain
  | .beyondClock => ["overflow when adding duration to instant"]

end PrepareError

namespace Config

/-- The looks for the mount from a moment on. The files may change while it is waited for. -/
def lookForMount (files : Nat → FileSystem) (start : Nat) (config : Config) : Mount.Waited :=
  Mount.await (fun passed => (files (start + passed)).isDirectory config.mount) config.mountWait 0

/-- Wait for the mount from a moment on. The clock has to show the deadline. -/
def awaitMount (files : Nat → FileSystem) (start : Nat) (config : Config) :
    Except PrepareError Unit :=
  match Clock.after? start config.mountWait with
  | none => .error .beyondClock
  | some _ =>
    if (config.lookForMount files start).found then .ok ()
    else .error (.notMounted config.mount config.mountWait)

/-- Make the sessions directory ready from a moment on, and tell which sessions had a stale
sentinel. The files stay as they are while the mount is waited for. -/
def prepare (fs : FileSystem) (config : Config) (start : Nat := 0) :
    FileSystem × Except PrepareError (List String) :=
  match config.awaitMount (fun _ => fs) start with
  | .error e => (fs, .error e)
  | .ok () =>
    match fs.createDirectories config.directory with
    | (created, .error cause) => (created, .error (.noDirectory cause))
    | (created, .ok ()) =>
      let (cleared, recovered) := Session.recoverStale created config.directory
      (cleared, recovered.mapError .notRecovered)

end Config

end FileChat
