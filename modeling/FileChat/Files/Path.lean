/-
# Paths

A path is the text a user wrote. It is joined and taken apart without looking at any
file, and never normalised: what was written is what messages show. The names in a directory
are bytes, and need not be a text.
-/
import FileChat.Text.Utf8

namespace FileChat

/-- The text of a path. -/
abbrev Path := String

namespace Path

/-- How the name with some bytes is spelled: as the text that it is, and if it is none, with a
NUL, which no name holds, before every byte that is not ASCII. -/
def spell (bytes : Bytes) : String :=
  match Utf8.decode bytes with
  | some text => text
  | none => String.ofList (bytes.flatMap fun byte =>
      if byte < 0x80 then [Char.ofNat byte.toNat] else ['\x00', Char.ofNat byte.toNat])

/-- The text that a name is, if it is one. -/
def text? (name : String) : Option String :=
  if name.toList.contains '\x00' then none else some name

/-- Whether a path begins at the root. -/
def isAbsolute (path : Path) : Bool := path.toList.head? = some '/'

/-- Whether a path ends with a slash, and so can only name a directory. -/
def hasFinalSlash (path : Path) : Bool := path.toList.getLast? = some '/'

/-- A name below a directory. An absolute name replaces the directory; an empty one adds
the final slash. -/
def join (directory name : Path) : Path :=
  if isAbsolute name then name
  else if directory.isEmpty || hasFinalSlash directory then directory ++ name
  else directory ++ "/" ++ name

/-- The names between the slashes of a path. -/
def parts (path : Path) : List String :=
  ((path.toList.splitOn '/').filter fun part => !part.isEmpty).map String.ofList

/-- The steps that lead along a path. A final slash is an empty step, which stays at the
directory that it asks for. -/
def steps (path : Path) : List String :=
  if hasFinalSlash path then parts path ++ [""] else parts path

/-- The names of a path that mean something: dots stand for the place they are at and are
left out, except at the start of a relative path. -/
def components (path : Path) : List String :=
  let named := (parts path).filter (· ≠ ".")
  if !isAbsolute path && (parts path).head? = some "." then "." :: named else named

/-- The last name of a path, if it ends with a name. -/
def fileName? (path : Path) : Option String :=
  (components path).getLast?.filter fun name => name ≠ ".." && name ≠ "."

/-- The path without its last component; the root and the empty path have none. -/
def parent? (path : Path) : Option Path :=
  let names := components path
  if names.isEmpty then none
  else some ((if isAbsolute path then "/" else "") ++ "/".intercalate names.dropLast)

end Path

end FileChat
