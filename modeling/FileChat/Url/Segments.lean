/-
# Paths of addresses

A path is made of segments behind slashes. Segments of dots are resolved, so that a path
names a place directly. A letter with a colon names a drive, which nothing leads out of;
in a path to a file it is written with a colon even if something else was.
-/
import FileChat.Url.Percent

namespace FileChat.Url.Segments

/-- A segment that stands for where it is. -/
def isDot (segment : List Char) : Bool :=
  let word := segment.map Char.toLower
  word = ['.'] || word = "%2e".toList

/-- A segment that stands for what is around it. -/
def isDoubleDot (segment : List Char) : Bool :=
  let word := segment.map Char.toLower
  word = "..".toList || word = ".%2e".toList || word = "%2e.".toList || word = "%2e%2e".toList

/-- A segment that names a drive. -/
def isDrive : List Char → Bool
  | [letter, mark] => letter.isAlpha && (mark = ':' || mark = '|')
  | _ => false

/-- The segments around the last of some, of which the last comes first. -/
def around : List (List Char) → List (List Char)
  | [] => []
  | last :: before => if isDrive last then last :: before else before

/-- Resolve the dots of segments behind those that are done, of which the last comes first.
A dot at the end leaves the slash in front of it. -/
def resolve (done : List (List Char)) : List (List Char) → List (List Char)
  | [] => done.reverse
  | segment :: later =>
    let stay (done : List (List Char)) := if later.isEmpty then [] :: done else done
    if isDoubleDot segment then resolve (stay (around done)) later
    else if isDot segment then resolve (stay done) later
    else resolve (segment :: done) later

/-- The segments of a path, encoded. -/
def ofPath (isSeparator : Char → Bool) (path : List Char) : List (List Char) :=
  (path.splitOnP isSeparator).map (Percent.encode Percent.path)

/-- Segments with a slash in front of each. -/
def text (segments : List (List Char)) : String :=
  String.ofList (segments.flatMap ('/' :: ·))

end FileChat.Url.Segments
