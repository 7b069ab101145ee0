/-
# The file system

Files, directories and symbolic links below one root. The whole tree is one table from
locations to entries, so an operation is a change at one location, and two operations at
different locations do not meet. Following a path is the only place where directories,
links and the limits on names come in.
-/
import FileChat.Text.Utf8
import FileChat.Files.Path
import FileChat.Files.Error

namespace FileChat

/-- A place in the tree: the names on the way from the root, as they are spelled. -/
abbrev Location := List String

/-- What is at a location. -/
inductive Entry
  | file (bytes : Bytes) (executable : Bool)
  | directory
  | link (target : Path)
  deriving Repr, DecidableEq

/-- A tree of files. The root is a directory and is not listed. -/
structure FileSystem where
  entries : List (Location × Entry)
  /-- Where relative paths begin. -/
  workingDirectory : Location
  /-- Every location is listed once. -/
  nodup : (entries.map Prod.fst).Nodup

namespace FileSystem

/-- Only the root. -/
def empty : FileSystem := ⟨[], [], by simp⟩

instance : Inhabited FileSystem := ⟨empty⟩

/-- What is at a location. -/
def get? (fs : FileSystem) (place : Location) : Option Entry :=
  if place = [] then some .directory else fs.entries.lookup place

/-- Put an entry at a location, in place of what was there. -/
def put (fs : FileSystem) (place : Location) (entry : Entry) : FileSystem :=
  if h : place ∈ fs.entries.map Prod.fst then
    { fs with
      entries := fs.entries.map fun known => if known.1 = place then (place, entry) else known
      nodup := by
        have same : (fs.entries.map fun known =>
            if known.1 = place then (place, entry) else known).map Prod.fst =
            fs.entries.map Prod.fst := by
          rw [List.map_map]
          refine List.map_congr_left fun known _ => ?_
          simp only [Function.comp]
          split
          · simp_all
          · rfl
        rw [same]
        exact fs.nodup }
  else
    { fs with
      entries := (place, entry) :: fs.entries
      nodup := by
        rw [List.map_cons]
        exact List.nodup_cons.2 ⟨h, fs.nodup⟩ }

/-- Keep the locations with a property. -/
def keep (fs : FileSystem) (p : Location → Bool) : FileSystem :=
  { fs with
    entries := fs.entries.filter fun known => p known.1
    nodup := fs.nodup.sublist (List.filter_sublist.map Prod.fst) }

/-- Take away what is at a location. -/
def erase (fs : FileSystem) (place : Location) : FileSystem := fs.keep (· ≠ place)

/-- Take away what is at a location and everything below it. -/
def eraseTree (fs : FileSystem) (place : Location) : FileSystem :=
  fs.keep fun other => !place.isPrefixOf other

/-- Move what is at a location, with everything below it. What was at the new location
is gone. -/
def moveTree (fs : FileSystem) (source target : Location) : FileSystem :=
  let moved := fs.entries.filterMap fun known =>
    (source.isPrefixOf? known.1).map fun below => (target ++ below, known.2)
  moved.foldl (fun rest known => rest.put known.1 known.2)
    ((fs.eraseTree target).eraseTree source)

/-- The names in a directory, in no particular order. -/
def names (fs : FileSystem) (place : Location) : List String :=
  fs.entries.filterMap fun known =>
    if known.1 ≠ [] && known.1.dropLast = place then known.1.getLast? else none

/-- The longest name a directory can hold, in bytes. -/
def maxNameBytes : Nat := 255

/-- The longest path that can be followed, in bytes. -/
def maxPathBytes : Nat := 4095

/-- How many links are followed on one path. -/
def maxLinks : Nat := 40

/-- Where a path leads: to an entry, or to a free name in a directory. -/
inductive Place
  | found (place : Location) (entry : Entry)
  | vacant (directory : Location) (name : String)
  deriving Repr, DecidableEq

/-- What a path is followed for. -/
inductive Aim
  /-- To reach an entry. A link at the end is followed. -/
  | reach
  /-- To reach a file, or to create it under the last name. A link at the end is followed,
  and a last name with a slash after it can only be a directory's. -/
  | create
  /-- To find the entry that has the last name. A link there stands for itself. -/
  | hold
  deriving Repr, DecidableEq

/-- Follow steps from a directory; `links` is how many links may still be followed. Steps
that are empty or a dot stay where they are. -/
def walk (fs : FileSystem) (aim : Aim) (links : Nat) (here : Location) :
    List String → Except FileError Place
  | [] => .ok (.found here .directory)
  | step :: later =>
    if step = "" || step = "." then walk fs aim links here later
    else if step = ".." then walk fs aim links here.dropLast later
    else if aim = .create && later = [""] then .error .isADirectory
    else if maxNameBytes < step.utf8ByteSize then .error .nameTooLong
    else
      let place := here ++ [step]
      match fs.get? place with
      | none => if later.isEmpty then .ok (.vacant here step) else .error .notFound
      | some .directory => walk fs aim links place later
      | some (.file bytes executable) =>
        if later.isEmpty then .ok (.found place (.file bytes executable))
        else .error .notADirectory
      | some (.link target) =>
        if later.isEmpty && aim = .hold then .ok (.found place (.link target))
        else
          match links with
          | 0 => .error .tooManyLinks
          | left + 1 =>
            walk fs aim left (if Path.isAbsolute target then [] else here)
              (Path.steps target ++ later)
termination_by steps => (links, steps.length)

/-- Follow steps from where a path begins. -/
def follow (fs : FileSystem) (aim : Aim) (path : Path) (steps : List String) :
    Except FileError Place :=
  if path.toList.contains '\x00' then .error .nulInPath
  else if path.isEmpty then .error .notFound
  else if maxPathBytes < path.utf8ByteSize then .error .nameTooLong
  else
    fs.walk aim maxLinks (if Path.isAbsolute path then [] else fs.workingDirectory) steps

/-- Where a path leads. -/
def resolve (fs : FileSystem) (path : Path) : Except FileError Place :=
  fs.follow .reach path (Path.steps path)

/-- Where a path leads, when a link at its end stands for itself, and a final slash says
nothing. -/
def resolveLast (fs : FileSystem) (path : Path) : Except FileError Place :=
  fs.follow .hold path (Path.parts path)

/-- What can be known of an entry without opening it. -/
structure Metadata where
  isFile : Bool
  isDirectory : Bool
  /-- The length in bytes; directories have a nominal one. -/
  size : Nat
  deriving Repr, DecidableEq

/-- The nominal length of a directory. -/
def directorySize : Nat := 4096

/-- Look at what a path leads to. -/
def metadata (fs : FileSystem) (path : Path) : Except FileError Metadata := do
  match ← fs.resolve path with
  | .found _ (.file bytes _) => return ⟨true, false, bytes.length⟩
  | .found _ _ => return ⟨false, true, directorySize⟩
  | .vacant _ _ => throw .notFound

/-- Whether a path leads to an entry. -/
def pathExists (fs : FileSystem) (path : Path) : Bool := (fs.metadata path).isOk

/-- Whether a path leads to a regular file. -/
def isRegularFile (fs : FileSystem) (path : Path) : Bool :=
  match fs.metadata path with
  | .ok seen => seen.isFile
  | .error _ => false

/-- Whether a path leads to a directory. -/
def isDirectory (fs : FileSystem) (path : Path) : Bool :=
  match fs.metadata path with
  | .ok seen => seen.isDirectory
  | .error _ => false

/-- The contents of the file a path leads to. -/
def readBytes (fs : FileSystem) (path : Path) : Except FileError Bytes := do
  match ← fs.resolve path with
  | .found _ (.file bytes _) => return bytes
  | .found _ _ => throw .isADirectory
  | .vacant _ _ => throw .notFound

/-- The contents of the file a path leads to, as a text. -/
def readText (fs : FileSystem) (path : Path) : Except FileError String := do
  match Utf8.decode (← fs.readBytes path) with
  | some text => return text
  | none => throw .notText

/-- Add bytes to a file that exists. -/
def append (fs : FileSystem) (path : Path) (added : Bytes) : Except FileError FileSystem := do
  match ← fs.resolve path with
  | .found place (.file bytes executable) =>
    return fs.put place (.file (bytes ++ added) executable)
  | .found _ _ => throw .isADirectory
  | .vacant _ _ => throw .notFound

/-- Open a file for writing, creating it if the name is free, and replace its contents by
a function of them. -/
def openOrCreate (fs : FileSystem) (path : Path) (change : Bytes → Bytes) :
    Except FileError FileSystem := do
  match ← fs.follow .create path (Path.steps path) with
  | .found place (.file bytes executable) => return fs.put place (.file (change bytes) executable)
  | .found _ _ => throw .isADirectory
  | .vacant directory name => return fs.put (directory ++ [name]) (.file (change []) false)

/-- Add bytes to a file, creating it first if it is missing. -/
def appendOrCreate (fs : FileSystem) (path : Path) (added : Bytes) :
    Except FileError FileSystem :=
  fs.openOrCreate path (· ++ added)

/-- Create a file, or replace the contents of one. -/
def write (fs : FileSystem) (path : Path) (bytes : Bytes) : Except FileError FileSystem :=
  fs.openOrCreate path fun _ => bytes

/-- Remove a file or a link. A final slash asks for a directory, which is not removed. -/
def remove (fs : FileSystem) (path : Path) : Except FileError FileSystem := do
  match ← fs.resolveLast path with
  | .found _ .directory => throw .isADirectory
  | .found place _ =>
    if Path.hasFinalSlash path then throw .notADirectory
    return fs.erase place
  | .vacant _ _ => throw .notFound

/-- Create one directory. -/
def makeDirectory (fs : FileSystem) (path : Path) : Except FileError FileSystem := do
  match ← fs.resolveLast path with
  | .found _ _ => throw .exists
  | .vacant directory name => return fs.put (directory ++ [name]) .directory

/-- Create one directory, unless it is there. -/
def ensureDirectory (fs : FileSystem) (path : Path) : Except FileError FileSystem :=
  match fs.makeDirectory path with
  | .ok changed => .ok changed
  | .error cause => if fs.isDirectory path then .ok fs else .error cause

/-- Create the first of some directories, each of which is around the one before it. If
that cannot be done because the directory around it is missing, that one is created
first, and stays also if the rest fails. The root and the empty path, which is where
relative paths begin, are always there. -/
def ensureDirectories (fs : FileSystem) : List Path → FileSystem × Except FileError Unit
  | [] => (fs, .ok ())
  | path :: around =>
    if path.isEmpty then (fs, .ok ())
    else
      match fs.ensureDirectory path with
      | .ok changed => (changed, .ok ())
      | .error .notFound =>
        match fs.ensureDirectories around with
        | (created, .error cause) => (created, .error cause)
        | (created, .ok ()) =>
          match created.ensureDirectory path with
          | .ok changed => (changed, .ok ())
          | .error cause => (created, .error cause)
      | .error cause => (fs, .error cause)

/-- The directories around a path, from the inside out; `fuel` bounds their number. -/
def around : Nat → Path → List Path
  | 0, _ => []
  | fuel + 1, path =>
    match Path.parent? path with
    | some parent => parent :: around fuel parent
    | none => []

/-- Create a directory with all directories around it that are missing. What could be
created stays. -/
def createDirectories (fs : FileSystem) (path : Path) : FileSystem × Except FileError Unit :=
  fs.ensureDirectories (path :: around ((Path.parts path).length + 1) path)

/-- The names in the directory a path leads to. -/
def list (fs : FileSystem) (path : Path) : Except FileError (List String) := do
  match ← fs.resolve path with
  | .found place .directory => return fs.names place
  | .found _ _ => throw .notADirectory
  | .vacant _ _ => throw .notFound

/-- The location of the entry a path leads to. -/
def locate? (fs : FileSystem) (path : Path) : Option Location :=
  match fs.resolve path with
  | .ok (.found place _) => some place
  | _ => none

/-- Everything below a location, by the names that lead to it from there. -/
def entriesBelow (fs : FileSystem) (place : Location) : List (Location × Entry) :=
  fs.entries.filterMap fun known =>
    match place.isPrefixOf? known.1 with
    | some [] => none
    | some below => some (below, known.2)
    | none => none

end FileSystem

end FileChat
