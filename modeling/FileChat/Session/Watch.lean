/-
# Watching a sessions directory

Only the end of a write matters: a client appends a turn and closes the file, or moves a
finished file in. Whether a reply is owed is not decided here; an event only says which
sessions to look at.
-/
import FileChat.Session.Store
import FileChat.Files.Edit

namespace FileChat.Session

/-- What a file was open for. -/
inductive OpenMode
  | any
  | execute
  | read
  | write
  | other
  deriving Repr, DecidableEq

/-- Which end of a rename an event is about. -/
inductive RenameSide
  | any
  | source
  | target
  /-- Both ends; the destination comes last. -/
  | both
  | other
  deriving Repr, DecidableEq

/-- What happened to an entry. -/
inductive EventKind
  | opened (mode : OpenMode)
  | closed (mode : OpenMode)
  | accessed
  | created
  | changed
  | renamed (side : RenameSide)
  | removed
  /-- Nobody knows what: events were lost. -/
  | lost
  | other
  deriving Repr, DecidableEq

/-- An event in a watched directory. -/
structure Event where
  kind : EventKind
  paths : List Path
  deriving Repr, DecidableEq

/-- Whether a kind of event means that a writer is done with the entry. -/
def EventKind.isWriteComplete : EventKind → Bool
  | .closed .write => true
  | .renamed .target => true
  | .renamed .both => true
  | _ => false

/-- A session that may owe a reply. -/
structure WorkItem where
  path : Path
  id : String
  deriving Repr, DecidableEq, Inhabited

/-- The work item for an entry of the sessions directory, if it is a session: its name is a
visible text and it is a regular file, directly or through a link. -/
def workItem? (fs : FileSystem) (directory path : Path) : Option WorkItem :=
  match (Path.fileName? path).bind Path.text? with
  | none => none
  | some name =>
    let file := Path.join directory name
    if !isHiddenName name && fs.isRegularFile file then some ⟨file, name⟩ else none

/-- The paths of an event whose entries are complete. Of a rename with both ends that is
only the destination. -/
def Event.completePaths (event : Event) : List Path :=
  if !event.kind.isWriteComplete then []
  else if event.kind = .renamed .both then event.paths.getLast?.toList
  else event.paths

/-- The work items for an event. -/
def workItems (fs : FileSystem) (directory : Path) (event : Event) : List WorkItem :=
  event.completePaths.filterMap (workItem? fs directory)

/-- Sessions in the order in which they are listed. -/
def inIdOrder (items : List WorkItem) : List WorkItem :=
  items.mergeSort fun first second => inOrder first.id second.id

/-- All sessions in the directory, in order. -/
def scan (fs : FileSystem) (directory : Path) : Except StoreError (List WorkItem) :=
  (names fs directory).map fun found =>
    inIdOrder (found.filterMap fun name => workItem? fs directory (Path.join directory name))

/-- The event by which a watcher of a directory learns of a notice from it. The path in it
is the one by which the watcher knows the directory, wherever that is by now. -/
def Event.ofNotice? (directory : Path) (notice : Notice) : Option Event :=
  let path (name : String) : Path := Path.join directory name
  match notice with
  | .closed place => place.getLast?.map fun name => ⟨.closed .write, [path name]⟩
  | .movedTo place => place.getLast?.map fun name => ⟨.renamed .target, [path name]⟩
  | .movedWithin source place => place.getLast?.map fun name =>
    ⟨.renamed .both, source.getLast?.toList.map path ++ [path name]⟩
  | .lost => some ⟨.lost, []⟩

end FileChat.Session
