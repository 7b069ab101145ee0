/-
# Running the daemon

One order of the daemon's steps, for when nobody else is in a hurry: what can be queued is
queued, then what can be heard is heard, then the first worker that can goes on. A client
of such a daemon finds all work done whenever it has paused.
-/
import FileChat.Client.Scene
import FileChat.Daemon.Basic

namespace FileChat.Daemon

open Worker

variable {σ : Type}

/-- The first step of several that is possible. -/
def stepFirst? (g : Generator σ) (labels : List Label) (d : Daemon σ) : Option (Daemon σ) :=
  labels.findSome? fun label => d.step? g label

/-- The steps that the daemon makes by itself. -/
def ownLabels (d : Daemon σ) : List Label :=
  [.list, .look, .queueFound, .stopWatching, .queueInHand, .hear] ++
    (List.range d.pool.workers.length).map .work

/-- Steps of the daemon until it can make none or `fuel` runs out. -/
def steps (g : Generator σ) : Nat → Daemon σ → Daemon σ
  | 0, d => d
  | fuel + 1, d =>
    match d.stepFirst? g d.ownLabels with
    | some next => steps g fuel next
    | none => d

/-- Enough steps for all that is there to be done. -/
def enoughSteps (d : Daemon σ) : Nat :=
  let world := d.pool.world
  1000 * (d.survey.length + d.pool.queue.length + world.notices.length +
    world.files.entries.length + d.pool.workers.length + 1)

/-- Go on until nothing is left to do. -/
def settle (g : Generator σ) (d : Daemon σ) : Daemon σ := d.steps g d.enoughSteps

/-- Steps until all sessions that were found are queued. -/
def queueAll (g : Generator σ) : Nat → Daemon σ → Daemon σ
  | 0, d => d
  | fuel + 1, d =>
    if d.isCaughtUp then d
    else
      match d.stepFirst? g d.ownLabels with
      | some next => queueAll g fuel next
      | none => d

/-- Have the daemon end: it stops listening, and its workers work off the queue. -/
def shutDown (g : Generator σ) (d : Daemon σ) : Daemon σ :=
  settle g { d with pool := { d.pool with cancelled := true } }

/-- What a daemon that came to its end reports. -/
def verdict (d : Daemon σ) : Except String Unit :=
  if d.pool.crashes = 0 then .ok ()
  else .error (toString d.pool.crashes ++ " generation worker(s) panicked")

/-- A session that a client need not wait for: something was said in it, no reply is owed,
and none is on its way. -/
def isAnswered (fs : FileSystem) (directory : Path) (id : String) : Bool :=
  match fs.readText (Path.join directory id) with
  | .ok text =>
    !text.isEmpty && !Conversation.needsResponse text &&
      !fs.pathExists (Session.sentinelPath directory id)
  | .error _ => false

/-- A daemon with the time that has gone by. -/
structure Timed (σ : Type) where
  daemon : Daemon σ
  /-- Nanoseconds since the start. -/
  clock : Nat

namespace Timed

/-- Let time go by, in which the daemon does what there is to do. -/
def pass (g : Generator σ) (length : Duration) (t : Timed σ) : Timed σ :=
  ⟨t.daemon.settle g, t.clock + length.nanoseconds⟩

/-- The files that the daemon works on. -/
def files (t : Timed σ) : FileSystem := t.daemon.pool.world.files

/-- Somebody wrote and closed a file. -/
def wrote (path : Path) (files : FileSystem) (t : Timed σ) : Timed σ :=
  { t with daemon := t.daemon.inWorld (t.daemon.pool.world.written path files) }

/-- The surroundings of a client of the daemon. -/
def surroundings (g : Generator σ) : Client.Surroundings (Timed σ) where
  files := files
  now := clock
  pass := pass g
  wrote := wrote

/-- Follow a script next to the daemon. -/
def act (g : Generator σ) (script : List Action) (t : Timed σ) : Timed σ :=
  script.foldl
    (fun t action =>
      match action with
      | .edit e => { t with daemon := t.daemon.inWorld (t.daemon.pool.world.edited e) }
      | .pause length => t.pass g length)
    t

end Timed

end FileChat.Daemon
