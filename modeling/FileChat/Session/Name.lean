/-
# Names in a sessions directory

A session is a file with a visible name. While a reply to it is being generated, a hidden
file beside it, its sentinel, says so; the name of the sentinel is made from the name of
the session and gives it back.
-/
import FileChat.Files.Path
import FileChat.Text.Blank

namespace FileChat.Session

/-- What the name of a sentinel begins with. -/
def sentinelMark : String := ".generating."

/-- Names that no session has: the empty name, and those that begin with a dot. -/
def isHiddenName (name : String) : Bool :=
  name.isEmpty || name.toList.head? = some '.'

/-- Names that a client may give to a session: visible, and without separators. -/
def isValidId (id : String) : Bool :=
  !isHiddenName id && !id.toList.any fun c => c = '/' || c = '\\'

/-- The name of the sentinel of a session. -/
def sentinelName (id : String) : String := sentinelMark ++ id

/-- The path of the sentinel of a session. -/
def sentinelPath (directory : Path) (id : String) : Path := Path.join directory (sentinelName id)

/-- The session whose sentinel has a given name, if a sentinel has it. -/
def idOfSentinel? (name : String) : Option String :=
  (Text.afterMark sentinelMark.toList name.toList).map String.ofList

/-- The session that a name in the directory is the sentinel of. A name that is no text is no
sentinel's. -/
def ownerOf? (name : String) : Option String := (Path.text? name).bind idOfSentinel?

/-- A sentinel's name is hidden, so it is not the name of a session. -/
theorem isHiddenName_sentinelName (id : String) : isHiddenName (sentinelName id) = true := by
  simp [isHiddenName, sentinelName, sentinelMark]

/-- The name of a sentinel gives back the session. -/
theorem idOfSentinel?_sentinelName (id : String) :
    idOfSentinel? (sentinelName id) = some id := by
  simp [idOfSentinel?, sentinelName]

end FileChat.Session
