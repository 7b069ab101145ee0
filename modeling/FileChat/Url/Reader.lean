/-
# Reading addresses

An address is a text that somebody wrote. It is taken apart from the left: the scheme, then
who asks and whom, as far as the scheme has a place for that, then the path, the query and
the fragment. What is found is put into the form in which it is sent.
-/
import FileChat.Number.Natural
import FileChat.Url.Basic
import FileChat.Url.Host
import FileChat.Url.Segments

namespace FileChat.Url

/-- A slash. Backslashes are slashes under special schemes. -/
def isSlash (special : Bool) (c : Char) : Bool := c = '/' || (special && c = '\\')

/-- What ends the part of an address that names a host. -/
def endsAuthority (special : Bool) (c : Char) : Bool :=
  isSlash special c || c = '?' || c = '#'

/-- A text without blanks and control characters at its ends, and without line ends and
tabs anywhere. -/
def cleaned (word : List Char) : List Char :=
  let bare (c : Char) : Bool := c.toNat ≤ 0x20
  (Text.dropEndWhile bare (word.dropWhile bare)).filter fun c =>
    c ≠ '\t' && c ≠ '\n' && c ≠ '\r'

/-- The scheme in front of the first colon, and what is after it. -/
def scheme? (word : List Char) : Option (String × List Char) :=
  let name := word.takeWhile fun c => c.isAlphanum || c = '+' || c = '-' || c = '.'
  match word.drop name.length with
  | ':' :: rest =>
    if (name.head?.map Char.isAlpha).getD false then
      some (String.ofList (name.map Char.toLower), rest)
    else none
  | _ => none

/-! ## Whom, and who asks -/

/-- Who asks and whom. -/
structure Authority where
  user : String
  password : Option String
  host : String
  port : Option Nat
  deriving Repr, DecidableEq

/-- What is before a mark, and what is after it, if it is there. -/
def cut (mark : Char) (word : List Char) : List Char × Option (List Char) :=
  match word.dropWhile (· ≠ mark) with
  | [] => (word, none)
  | _ :: after => (word.takeWhile (· ≠ mark), some after)

/-- What is before the last at sign of a text and what is after it, if there is one. -/
def cutUser? (word : List Char) : Option (List Char × List Char) :=
  let after := (word.reverse.takeWhile (· ≠ '@')).reverse
  if word.contains '@' then some (word.take (word.length - after.length - 1), after) else none

/-- The name and the password of the one who asks. An empty password is none. -/
def readUser (word : List Char) : String × Option String :=
  let written (part : List Char) := String.ofList (Percent.encode Percent.user part)
  let (name, password) := cut ':' word
  (written name, (password.filter fun part => !part.isEmpty).map written)

/-- A host, and what follows it from the colon on. Colons in brackets belong to the host. -/
def cutHost (inBrackets : Bool) : List Char → List Char × List Char
  | [] => ([], [])
  | c :: later =>
    if c = ':' && !inBrackets then ([], c :: later)
    else
      let (host, rest) := cutHost (c = '[' || (inBrackets && c ≠ ']')) later
      (c :: host, rest)

/-- The port that a word of digits stands for, which is not named if it is the usual one. -/
def port? (scheme : String) (word : List Char) : Option (Option Nat) :=
  if word.isEmpty then some none
  else
    match Number.digitsValue? word with
    | some n =>
      if n < 0x10000 then some (if usualPort? scheme = some n then none else some n) else none
    | none => none

/-- Who asks and whom, and what is after that. Where somebody is named to ask, somebody has
to be asked; a port needs a host, and so does every hosted scheme. -/
def authority? (scheme : String) (word : List Char) : Option (Authority × List Char) := do
  let special := isSpecial scheme
  let all := word.takeWhile fun c => !endsAuthority special c
  let rest := word.drop all.length
  let (userWord, named) := (cutUser? all).getD ([], all)
  let (user, password) := readUser userWord
  let (hostWord, portPart) := cutHost false named
  let isNobody := all.head? = some '@' && named.isEmpty && !rest.isEmpty
  if hostWord.isEmpty && (special || isNobody || !portPart.isEmpty || !user.isEmpty ||
      password.isSome) then none
  else
    let host ← if special then Host.reached? hostWord else Host.any? hostWord
    let digits := (portPart.drop 1).takeWhile (· ≠ '\\')
    let port ← port? scheme digits
    return (⟨user, password, host, port⟩, portPart.drop (1 + digits.length) ++ rest)

/-! ## Path, query and fragment -/

/-- A path, and what is after it from a question mark or a number sign on. -/
def cutPath (word : List Char) : List Char × List Char :=
  let path := word.takeWhile fun c => c ≠ '?' && c ≠ '#'
  (path, word.drop path.length)

/-- The query and the fragment that follow a path. -/
def tail (special : Bool) (word : List Char) : Option String × Option String :=
  let (before, fragment) := cut '#' word
  let query := match before with
    | _ :: query =>
      some (String.ofList
        (Percent.encode (if special then Percent.hostedQuery else Percent.query) query))
    | [] => none
  (query, fragment.map fun f => String.ofList (Percent.encode Percent.fragment f))

/-- The segments of a path. The first slash is that in front of the first segment. -/
def segments (special : Bool) (path : List Char) : List (List Char) :=
  let path := match path with
    | c :: later => if isSlash special c then later else path
    | [] => []
  Segments.resolve [] (Segments.ofPath (isSlash special) path)

/-! ## Whole addresses -/

/-- Read an address with an authority in front of its path. -/
def readAuthority? (scheme : String) (word : List Char) : Option Url := do
  let special := isSpecial scheme
  let (authority, rest) ← authority? scheme word
  let (path, after) := cutPath rest
  let (query, fragment) := tail special after
  return {
    scheme, user := authority.user, password := authority.password
    host := some authority.host, port := authority.port
    path := if path.isEmpty && !special then "" else Segments.text (segments special path)
    query, fragment }

/-- The host of a file. This machine is not named. -/
def fileHost? (word : List Char) : Option String :=
  if word.isEmpty then some ""
  else (Host.reached? word).map fun host => if host = "localhost" then "" else host

/-- The path of a file, and whether it is on a drive of this machine. The mark of a drive
becomes a colon, and slashes in front of the path become one. -/
def filePath (path : List Char) : String × Bool :=
  let (onDrive, all) := match segments true path with
    | first :: later =>
      if Segments.isDrive first then (true, (first.take 1 ++ [':']) :: later)
      else (false, first :: later)
    | [] => (false, [])
  let kept := match all.dropWhile List.isEmpty with
    | [] => [[]]
    | kept => kept
  (Segments.text kept, onDrive)

/-- Read the address of a file. Behind two slashes is its host, unless a drive is there. -/
def readFile? (scheme : String) (word : List Char) : Option Url := do
  let (hostWord, rest) := match word with
    | first :: second :: later =>
      if isSlash true first && isSlash true second then
        let host := later.takeWhile fun c => !endsAuthority true c
        if Segments.isDrive host then ([], later) else (host, later.drop host.length)
      else ([], word)
    | _ => ([], word)
  let host ← fileHost? hostWord
  let (path, after) := cutPath rest
  let (path, onDrive) := filePath path
  let (query, fragment) := tail true after
  return {
    scheme, user := "", password := none, host := some (if onDrive then "" else host)
    port := none, path, query, fragment }

/-- Read an address without an authority. Behind a slash it has segments, and otherwise all
of it is one. -/
def readPath (scheme : String) (word : List Char) : Url :=
  let (path, after) := cutPath word
  let (query, fragment) := tail false after
  { scheme, user := "", password := none, host := none, port := none
    path :=
      if path.head? = some '/' then Segments.text (segments false path)
      else String.ofList (Percent.encode Percent.nothing path)
    query, fragment }

/-- Read an address. There is none without a scheme. -/
def read (text : String) : Option Url := do
  let (scheme, rest) ← scheme? (cleaned text.toList)
  if isHosted scheme then readAuthority? scheme (rest.dropWhile (isSlash true))
  else if isFile scheme then readFile? scheme rest
  else
    match rest with
    | '/' :: '/' :: later => readAuthority? scheme later
    | _ => return readPath scheme rest

end FileChat.Url
