/-
# Addresses

The address of a service in its parts, each as it is sent and shown: letters of the scheme
in lower case, a port only if it is not the usual one, and everything encoded that may not
stand where it is.
-/
import FileChat.Text.Blank

namespace FileChat

/-- An address in its parts. -/
structure Url where
  scheme : String
  /-- Who asks. An empty name without a password is nobody. -/
  user : String
  password : Option String
  /-- There is none if no place for it is marked, and it may be empty. -/
  host : Option String
  port : Option Nat
  /-- With the slash that it begins with, if there is a host. -/
  path : String
  query : Option String
  fragment : Option String
  deriving Repr, DecidableEq

namespace Url

/-- Schemes whose addresses lead to a host, with slashes of either kind. -/
def isHosted (scheme : String) : Bool :=
  scheme = "http" || scheme = "https" || scheme = "ws" || scheme = "wss" || scheme = "ftp"

/-- The scheme of files, which may be on a host. -/
def isFile (scheme : String) : Bool := scheme = "file"

/-- Schemes whose addresses are read by rules of their own. -/
def isSpecial (scheme : String) : Bool := isHosted scheme || isFile scheme

/-- The port that is meant if none is written. -/
def usualPort? (scheme : String) : Option Nat :=
  if scheme = "http" || scheme = "ws" then some 80
  else if scheme = "https" || scheme = "wss" then some 443
  else if scheme = "ftp" then some 21
  else none

/-- What is sent to the host: the path with the query. -/
def target (url : Url) : String :=
  match url.query with
  | some query => url.path ++ "?" ++ query
  | none => url.path

/-- Whether somebody in particular asks. -/
def hasUser (url : Url) : Bool := !url.user.isEmpty || url.password.isSome

/-- Who asks, as it is shown before the host. -/
def userText (url : Url) : String :=
  let password := match url.password with
    | some password => ":" ++ password
    | none => ""
  if url.hasUser then url.user ++ password ++ "@" else ""

/-- What is shown between the scheme and the path. A path that begins with two slashes
would be taken for a host, so a dot is put in front of it. -/
def authorityText (url : Url) : String :=
  match url.host with
  | some host =>
    let port := match url.port with
      | some port => ":" ++ toString port
      | none => ""
    "//" ++ url.userText ++ host ++ port
  | none => if url.path.toList.take 2 = ['/', '/'] then "/." else ""

/-- The address as a text. -/
def text (url : Url) : String :=
  let fragment := match url.fragment with
    | some fragment => "#" ++ fragment
    | none => ""
  url.scheme ++ ":" ++ url.authorityText ++ url.target ++ fragment

/-- The address without the one who asks. -/
def withoutUser (url : Url) : Url := { url with user := "", password := none }

/-- Whether an address leads to a host at all. -/
def hasHost (url : Url) : Bool := (url.host.map fun host => !host.isEmpty).getD false

/-- Whether an address is spoken to in a protocol that is known here. -/
def isWeb (url : Url) : Bool := url.scheme = "http" || url.scheme = "https"

/-- The port an address leads to. -/
def portNumber? (url : Url) : Option Nat := url.port <|> usualPort? url.scheme

/-- The longest address that is sent, in bytes. -/
def maxTextBytes : Nat := 65534

/-- Whether an address can be sent: it is not too long, and its host has no character that
encloses one. -/
def canBeSent (url : Url) : Bool :=
  url.text.utf8ByteSize ≤ maxTextBytes &&
    !((url.host.getD "").toList.any fun c =>
      c = '"' || c.toNat = 0x60 || c.toNat = 0x7B || c.toNat = 0x7D)

/-- An address without slashes at its end, so that a path can be put behind it. -/
def withoutFinalSlashes (address : String) : String :=
  String.ofList (Text.dropEndWhile (· = '/') address.toList)

/-- Nobody in particular asks with an address that tells nobody. -/
theorem hasUser_withoutUser (url : Url) : url.withoutUser.hasUser = false := by
  simp [hasUser, withoutUser]

end Url

end FileChat
