/-
# A daemon and its clients

A daemon runs beside clients that open, extend, close and delete sessions. A client that closes
a session leaves a notice of it, whatever it wrote, and the daemon hears of the notices one by
one, as its own steps allow. Notices may be lost as long as there is a notice of that. All of it
happens in any order.
-/

import FileChat.Daemon.Basic
import FileChat.Proofs.Worker.Due

namespace FileChat

open FileSystem Session Worker

variable {σ : Type}

/-- A file that a client has open for appending. -/
structure Handle where
  name : String
  /-- The file still has its name; a file that was deleted goes on without one. -/
  linked : Bool
  deriving Repr, DecidableEq

/-- A handle after the file of a name was deleted. -/
def Handle.afterDelete (name : String) (handle : Handle) : Handle :=
  if handle.name = name then { handle with linked := false } else handle

/-- A daemon with the files that clients have open. -/
structure Served (σ : Type) where
  daemon : Daemon σ
  handles : List Handle

namespace Served

/-- The daemon's world. -/
def world (s : Served σ) : World σ := s.daemon.pool.world

/-- The same daemon in another world, with other open files. -/
def inWorld (s : Served σ) (world : World σ) (handles : List Handle) : Served σ :=
  ⟨s.daemon.inWorld world, handles⟩

/-- What can happen next. -/
inductive Step (g : Generator σ) (place : Location) (s : Served σ) : Served σ → Prop
  /-- The daemon or one of its workers goes on, or the daemon is told to end. -/
  | own {label : Daemon.Label} {daemon : Daemon σ} (hown : ∀ e, label ≠ .edit e)
      (hstep : s.daemon.step? g label = some daemon) : Step g place s ⟨daemon, s.handles⟩
  /-- A client opens a session, which is made if it is missing. -/
  | opened {name : String} {files : FileSystem} (hname : IsSessionName name)
      (hopen : s.world.files.appendOrCreate (Path.join g.directory name) [] = .ok files) :
      Step g place s (s.inWorld { s.world with files } (⟨name, true⟩ :: s.handles))
  /-- A client appends whole lines to a file that it has open. What goes to a file without a
  name is seen by nobody. -/
  | wrote {name : String} {lines : Bytes} {files : FileSystem}
      (hname : IsSessionName name) (hhandle : ⟨name, true⟩ ∈ s.handles)
      (hlines : Utf8.IsWholeLines lines)
      (hwrite : s.world.files.append (Path.join g.directory name) lines = .ok files) :
      Step g place s (s.inWorld { s.world with files } s.handles)
  /-- A client closes a file, and the directory gives notice of it. -/
  | closed {handle : Handle} (hhandle : handle ∈ s.handles) :
      Step g place s
        (s.inWorld (s.world.noticing [.closed (place ++ [handle.name])])
          (s.handles.erase handle))
  /-- Some notices are lost, and the directory says so. -/
  | overflowed {left : List Notice} (hlost : .lost ∈ left)
      (hleft : left.Sublist (s.world.notices ++ [.lost])) :
      Step g place s (s.inWorld { s.world with notices := left } s.handles)
  /-- A client deletes a session. Who has it open keeps it without its name. -/
  | deleted {name : String} {files : FileSystem} (hname : IsSessionName name)
      (hdelete : s.world.files.remove (Path.join g.directory name) = .ok files) :
      Step g place s
        (s.inWorld { s.world with files } (s.handles.map (Handle.afterDelete name)))

/-- What can come of a beginning. -/
inductive Reached (g : Generator σ) (place : Location) (begin : Served σ) : Served σ → Prop
  | start : Reached g place begin begin
  | step {s after : Served σ} (h : Reached g place begin s) (hstep : Step g place s after) :
      Reached g place begin after

/-- Nothing is under way: the daemon was not told to end, all that was there is queued, no
client has a file open, no notice waits to be heard or is in hand, no session waits in the
queue, and no worker is at one. -/
structure IsQuiet (s : Served σ) : Prop where
  going : s.daemon.pool.cancelled = false
  caughtUp : s.daemon.isCaughtUp = true
  handles : s.handles = []
  notices : s.world.notices = []
  inHand : s.daemon.inHand = []
  queue : s.daemon.pool.queue = []
  idle : ∀ activity ∈ s.daemon.pool.workers, activity.item? = none

end Served

end FileChat
