/-
# Waiting for a reply

A client that has written a turn looks at the files again and again. The reply is there
when the sentinel has come and gone, or when the file has grown while no sentinel is in
sight: then all of it happened between two looks.
-/
import FileChat.Client.Session

namespace FileChat.Client

/-- The surroundings of a client: the files, a clock in nanoseconds, and how the world goes
on while the client sleeps or after it has changed what is at a path. -/
structure Surroundings (σ : Type) where
  files : σ → FileSystem
  now : σ → Nat
  pass : Duration → σ → σ
  wrote : Path → FileSystem → σ → σ

/-- How far a client has got in waiting. What it sees of the sentinel and of the file are
two observations, and others may act in between. -/
inductive Waiting
  /-- It looks for the sentinel next, having seen it before or not. -/
  | watching (sentinelSeen : Bool)
  /-- No sentinel was ever in sight, so it looks at the length of the file next. -/
  | measuring
  /-- The reply is there. -/
  | settled
  deriving Repr, DecidableEq

/-- One observation of a client that waits for a file to grow beyond a length. A file that
cannot be seen has not grown. -/
def Waiting.step (session : Session) (sizeBefore : Nat) (fs : FileSystem) : Waiting → Waiting
  | .watching sentinelSeen =>
    if fs.pathExists session.sentinel then .watching true
    else if sentinelSeen then .settled
    else .measuring
  | .measuring =>
    match fs.metadata session.path with
    | .ok seen => if sizeBefore < seen.size then .settled else .watching false
    | .error _ => .watching false
  | .settled => .settled

/-- A pause between two looks. One that is shorter than a millisecond is counted as one,
so that a clock that only pauses move does move. -/
def tick (pause : Duration) : Duration := ⟨max pause.nanoseconds 1000000⟩

/-- How many looks begin before `available` nanoseconds are over, with a pause before each. -/
def looks (pause : Duration) (available : Nat) : Nat :=
  (available + (tick pause).nanoseconds - 1) / (tick pause).nanoseconds

namespace Session

variable {σ : Type}

/-- Open a session, creating what is missing, and go on in surroundings that know of it. -/
def openIn (env : Surroundings σ) (id : String) (directory : Path) (options : Options) (s : σ) :
    σ × Except ClientError Session :=
  match openOrCreate (env.files s) id directory options with
  | (files, .ok session) => (env.wrote session.path files s, .ok session)
  | (files, .error e) => (env.wrote directory files s, .error e)

/-- Look at the files once: for the sentinel and, if that leaves it open, at the length. -/
def look (session : Session) (sizeBefore : Nat) (sentinelSeen : Bool) (fs : FileSystem) :
    Waiting :=
  match Waiting.step session sizeBefore fs (.watching sentinelSeen) with
  | .measuring => Waiting.step session sizeBefore fs .measuring
  | seen => seen

/-- A look leaves nothing open. -/
theorem look_ne_measuring (session : Session) (sizeBefore : Nat) (sentinelSeen : Bool)
    (fs : FileSystem) : session.look sizeBefore sentinelSeen fs ≠ .measuring := by
  unfold look
  split
  · simp only [Waiting.step]
    split
    · split <;> simp
    · simp
  · next seen h => exact h

/-- Look at the files up to `n` times, with a pause before each look, and tell whether the
reply came. -/
def awaitReply (env : Surroundings σ) (session : Session) (sizeBefore : Nat) :
    Nat → Waiting → σ → σ × Bool
  | _, .settled, s => (s, true)
  | n + 1, .watching sentinelSeen, s =>
    let s := env.pass (tick session.options.pause) s
    awaitReply env session sizeBefore n (session.look sizeBefore sentinelSeen (env.files s)) s
  | _, _, s => (s, false)

/-- Write a turn and wait until it is answered. -/
def send (env : Surroundings σ) (session : Session) (message : String) (timeout : Option Duration)
    (s : σ) : σ × Except ClientError Conversation.Response :=
  match session.appendTurn (env.files s) message with
  | .error e => (s, .error e)
  | .ok (written, sizeBefore) =>
    let limit := timeout.getD session.options.timeout
    let s := env.wrote session.path written s
    let count := looks session.options.pause limit.nanoseconds
    match session.awaitReply env sizeBefore count (.watching false) s with
    | (s, true) => (s, session.readResponse (env.files s))
    | (s, false) => (s, .error (.timeout session.id limit))

end Session

end FileChat.Client
