/-
# Edits by others

The directory of a conversation is shared. An edit is what some other program does to it;
a script of edits and pauses says when. A directory that is watched gives notice of an
edit when a file that was written is closed, and when an entry is moved in. The watch is
on the directory and not on its name, so it goes where the directory is moved to. If there
are too many notices some are lost, and there is a notice of that.
-/
import FileChat.Files.System
import FileChat.Number.Duration

namespace FileChat

/-- What another program does to the tree. -/
inductive Edit
  /-- Create a file or replace its contents. -/
  | write (path : Path) (bytes : Bytes)
  /-- Add to a file, creating it if it is missing. -/
  | append (path : Path) (bytes : Bytes)
  /-- Create a directory and those around it. -/
  | makeDirectory (path : Path)
  /-- Remove a file, a link, or a directory with everything in it. -/
  | remove (path : Path)
  /-- Move an entry, in place of what has the new name. -/
  | rename (source target : Path)
  /-- Create a symbolic link. -/
  | link (target path : Path)
  deriving Repr, DecidableEq

/-- What the directory around a location can tell about it. -/
inductive Notice
  /-- A file that was open for writing was closed. -/
  | closed (place : Location)
  /-- An entry was moved there. -/
  | movedTo (place : Location)
  /-- An entry was moved there from another place in the same directory. -/
  | movedWithin (source place : Location)
  /-- Notices were lost. -/
  | lost
  deriving Repr, DecidableEq

namespace Notice

/-- The location a notice is about. -/
def place? : Notice → Option Location
  | .closed place => some place
  | .movedTo place => some place
  | .movedWithin _ place => some place
  | .lost => none

/-- The notices of moving an entry. Inside a directory there are two: that something came,
and from where. -/
def ofMove (source target : Location) : List Notice :=
  if source.dropLast = target.dropLast then [.movedTo target, .movedWithin source target]
  else [.movedTo target]

end Notice

/-- The notice of closing the file that a path leads to. -/
def FileSystem.closing (fs : FileSystem) (path : Path) : List Notice :=
  match fs.locate? path with
  | some place => [.closed place]
  | none => []

namespace Edit

/-- Where a path puts its last name, whether that name is taken or not. -/
def target? (fs : FileSystem) (path : Path) : Option Location :=
  match fs.resolveLast path with
  | .ok (.found place _) => some place
  | .ok (.vacant directory name) => some (directory ++ [name])
  | .error _ => none

/-- Whether an entry can be moved to a location: not below itself, and a directory only to
a free name or in place of an empty directory, another entry not in place of one. -/
def canMove (fs : FileSystem) (source : Location) (entry : Entry) (target : Location) : Bool :=
  !source.isPrefixOf target &&
    match fs.get? target with
    | none => true
    | some .directory => entry = .directory && target ≠ [] && (fs.names target).isEmpty
    | some _ => entry ≠ .directory

/-- The old and the new location of what an edit moves. Nothing is moved onto itself. -/
def move? (fs : FileSystem) (source target : Path) : Option (Location × Location) :=
  match fs.resolveLast source, target? fs target with
  | .ok (.found place entry), some new =>
    if canMove fs place entry new then some (place, new) else none
  | _, _ => none

/-- The location of what is removed with a path. The root is not. -/
def removed? (fs : FileSystem) (path : Path) : Option Location :=
  match fs.resolveLast path with
  | .ok (.found place _) => if place.isEmpty then none else some place
  | _ => none

/-- Do an edit, and give the notices of it. An edit that fails changes nothing. -/
def apply (fs : FileSystem) : Edit → FileSystem × List Notice
  | .write path bytes =>
    match fs.write path bytes with
    | .ok changed => (changed, changed.closing path)
    | .error _ => (fs, [])
  | .append path bytes =>
    match fs.appendOrCreate path bytes with
    | .ok changed => (changed, changed.closing path)
    | .error _ => (fs, [])
  | .makeDirectory path => ((fs.createDirectories path).1, [])
  | .remove path =>
    match removed? fs path with
    | some place => (fs.eraseTree place, [])
    | none => (fs, [])
  | .rename source target =>
    match move? fs source target with
    | some (place, new) => (fs.moveTree place new, Notice.ofMove place new)
    | none => (fs, [])
  | .link target path =>
    match fs.resolveLast path with
    | .ok (.vacant directory name) => (fs.put (directory ++ [name]) (.link target), [])
    | _ => (fs, [])

/-- Where an edit takes the directory at a location, if the directory is still there
after it. -/
def carry? (fs : FileSystem) (e : Edit) (place : Location) : Option Location :=
  match e with
  | .remove path =>
    match removed? fs path with
    | some gone => if gone.isPrefixOf place then none else some place
    | none => some place
  | .rename source target =>
    match move? fs source target with
    | some (old, new) =>
      match old.isPrefixOf? place with
      | some below => some (new ++ below)
      | none => if new.isPrefixOf place then none else some place
    | none => some place
  | _ => some place

end Edit

/-- A step of a script: an edit, or a pause. -/
inductive Action
  | edit (e : Edit)
  | pause (length : Duration)
  deriving Repr, DecidableEq

namespace Action

/-- The edits of a script with their times, if it starts at a given time. -/
def schedule (start : Nat) : List Action → List (Nat × Edit)
  | [] => []
  | .edit e :: later => (start, e) :: schedule start later
  | .pause length :: later => schedule (start + length.nanoseconds) later

/-- The edits of a script, without its pauses. -/
def edits (script : List Action) : List Edit :=
  script.filterMap fun
    | .edit e => some e
    | .pause _ => none

end Action

/-- Do several edits one after the other, and give the notices of all. -/
def FileSystem.applyAll (fs : FileSystem) (edits : List Edit) : FileSystem × List Notice :=
  edits.foldl
    (fun (fs, notices) e =>
      let (changed, more) := e.apply fs
      (changed, notices ++ more))
    (fs, [])

end FileChat
