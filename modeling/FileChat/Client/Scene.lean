/-
# A client among others

The surroundings of a client whose counterpart follows a script: once a certain file has
grown, a list of edits and pauses begins, and runs while the client waits.
-/
import FileChat.Client.Stream
import FileChat.Files.Edit

namespace FileChat.Client

/-- The length of a file, or zero if it cannot be seen. -/
def sizeOf (fs : FileSystem) (path : Path) : Nat :=
  match fs.metadata path with
  | .ok seen => seen.size
  | .error _ => 0

/-- A script that begins when a file has grown beyond a size. -/
structure Trigger where
  watched : Path
  size : Nat
  script : List Action

/-- Files that others edit while time goes on. -/
structure Scene where
  files : FileSystem
  /-- Nanoseconds since the start. -/
  clock : Nat
  /-- Edits to come, with their times in increasing order. -/
  later : List (Nat × Edit)
  /-- What others will do once they see that a file has grown. -/
  trigger : Option Trigger

namespace Scene

/-- Files that nobody edits. -/
def still (files : FileSystem) : Scene := ⟨files, 0, [], none⟩

/-- Files for which others follow a script once a file has grown beyond its present size. -/
def watching (files : FileSystem) (watched : Path) (script : List Action) : Scene :=
  ⟨files, 0, [], some ⟨watched, sizeOf files watched, script⟩⟩

/-- Do the edits whose time has come. -/
def catchUp (s : Scene) : Scene :=
  let due := s.later.takeWhile fun timed => timed.1 ≤ s.clock
  { s with
    files := (s.files.applyAll (due.map Prod.snd)).1
    later := s.later.dropWhile fun timed => timed.1 ≤ s.clock }

/-- Let time go by. -/
def pass (length : Duration) (s : Scene) : Scene :=
  { s with clock := s.clock + length.nanoseconds }.catchUp

/-- The client wrote and closed a file. If others were waiting for that, they begin. -/
def wrote (files : FileSystem) (s : Scene) : Scene :=
  let s := { s with files }
  match s.trigger with
  | some trigger =>
    if trigger.size < sizeOf files trigger.watched then
      { s with later := Action.schedule s.clock trigger.script, trigger := none }.catchUp
    else s
  | none => s

/-- Follow a script, pauses included. -/
def act (script : List Action) (s : Scene) : Scene :=
  script.foldl
    (fun s action =>
      match action with
      | .edit e => { s with files := (e.apply s.files).1 }
      | .pause length => s.pass length)
    s

/-- Let others come to the end of their script. -/
def finish (s : Scene) : Scene :=
  { s with files := (s.files.applyAll (s.later.map Prod.snd)).1, later := [] }

/-- The surroundings of a client in a scene. -/
def surroundings : Surroundings Scene where
  files := files
  now := clock
  pass := pass
  wrote _ files s := s.wrote files

end Scene

end FileChat.Client
