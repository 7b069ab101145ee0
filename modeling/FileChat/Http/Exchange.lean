/-
# Exchanges with a host

A backend speaks to one host on this machine. The host answers by a list of replies, the
last of which it repeats, and keeps what it received. No other host answers, and this one
answers nobody who wants to speak in secret.
-/
import FileChat.Backend.Basic
import FileChat.Http.Credentials
import FileChat.Http.Message
import FileChat.Json.Outgoing
import FileChat.Url.Reader

namespace FileChat.Http

/-- What a request asks for. -/
inductive Method
  | get
  | post
  deriving Repr, DecidableEq

/-- A request as a host receives it. -/
structure Request where
  method : Method
  /-- The path with the query. -/
  target : String
  authorization : Option String
  body : Option Json.Outgoing

namespace Reply

/-- The status says that the request was granted. -/
def isSuccess (r : Reply) : Bool := 200 ≤ r.status && r.status < 300

/-- The text in a granted reply, or why there is none. What a refusal says is shown as far
as it is text, and a broken one says nothing. -/
def interpret (r : Reply) (decode : Bytes → Except BackendError String) :
    Except BackendError String :=
  if !r.isSuccess then
    .error (.refused r.status (if r.cut then "" else Utf8.decodeLossy r.body))
  else if r.cut then .error (.transport .undecodable)
  else decode r.body

end Reply

/-- A program that was started. -/
structure Launch where
  program : Path
  arguments : List String
  deriving Repr, DecidableEq

/-- A host on this machine. -/
structure Host where
  port : Nat
  /-- The replies to come. The last is repeated. -/
  replies : List Reply
  /-- The statuses of its health to come. The last is repeated. -/
  health : List Nat
  /-- What it received, oldest first. -/
  received : List Request
  /-- The server that was started for it. -/
  launched : Option Launch

namespace Host

/-- What comes next in a list whose last element is repeated. -/
def nextOf {α : Type} : List α → Option α × List α
  | [] => (none, [])
  | [x] => (some x, [x])
  | x :: later => (some x, later)

/-- Whether an address leads to the host. -/
def isAt (host : Host) (url : Url) : Bool :=
  url.scheme = "http" && (url.host = some "127.0.0.1" || url.host = some "localhost") &&
    url.portNumber? = some host.port

/-- Whether a text can stand in a header. -/
def isHeaderText (text : String) : Bool :=
  text.toList.all fun c => (c = '\t' || 0x20 ≤ c.toNat) && c.toNat ≠ 0x7F

/-- What comes back if the script says nothing. -/
def silence : Reply := ⟨503, [], true⟩

/-- The address that is asked, and the header that shows who asks. What the address itself
says about that comes before what else there is to show. -/
def addressed (url : Url) (authorization : Option String) : Url × Option String :=
  match Credentials.ofUrl? url with
  | some credentials => (url.withoutUser, some credentials.header)
  | none => (url, authorization.map Text.trimString)

/-- Post a body to an address and have the host answer. A request that cannot be made is
not received. -/
def post (host : Host) (address : String) (authorization : Option String)
    (body : Json.Outgoing) : Except TransportError Reply × Host :=
  match Url.read address with
  | none => (.error .malformedRequest, host)
  | some url =>
    let (asked, shown) := addressed url authorization
    if !url.hasHost then (.error (.unusable url.text), host)
    else if !(authorization.map isHeaderText).getD true then (.error .malformedRequest, host)
    else if !asked.isWeb || !asked.canBeSent then (.error (.unusable asked.text), host)
    else if !host.isAt asked then (.error (.notSent asked.text), host)
    else
      let (reply, later) := nextOf host.replies
      let request : Request := ⟨.post, asked.target, shown, some body⟩
      let answer := match (reply.getD silence).arrived? with
        | some arrived => .ok arrived
        | none => .error (.notSent asked.text)
      (answer, { host with replies := later, received := host.received ++ [request] })

/-- Ask the host at a port of this machine for its health. -/
def checkHealth (host : Host) (port : Nat) : Bool × Host :=
  if port = host.port then
    let (status, later) := nextOf host.health
    (((status.map fun s => 200 ≤ s && s < 300).getD false),
      { host with
        health := later
        received := host.received ++ [⟨.get, "/health", none, none⟩] })
  else (false, host)

end Host

end FileChat.Http

namespace FileChat

/-- A backend behind a host, which touches no file. -/
def Backend.ofHost (name : String)
    (ask : Call → Http.Host → Except BackendError String × Http.Host) : Backend Http.Host where
  name := name
  ask call w :=
    match ask call w.host with
    | (.ok text, host) => (.reply text, { w with host })
    | (.error cause, host) => (.failure cause, { w with host })

end FileChat
