/-
# Reading a reply as it comes

A stream yields what is appended after the client's turn, piece by piece. It begins to
count the reply as started when it sees the sentinel or the first new bytes, and it ends
when after that nothing has changed for a few looks and there is no sentinel, when the
file is gone, or at its deadline. A character of which only some bytes are there yet is
held back.
-/
import FileChat.Client.Wait
import FileChat.Number.Clock

namespace FileChat.Client

/-- How many looks without a change end a stream. -/
def stableLooks : Nat := 3

/-- How far a reply has been read. -/
structure ReplyStream where
  /-- The bytes of the file up to here have been yielded or were there before. -/
  offset : Nat
  /-- Looks since the last change. -/
  unchanged : Nat
  started : Bool
  done : Bool
  deriving Repr, DecidableEq

namespace ReplyStream

/-- A stream of what comes after the first `offset` bytes. -/
def ofOffset (offset : Nat) : ReplyStream := ⟨offset, 0, false, false⟩

/-- Take new bytes, and yield their text if there is any. -/
def accept (r : ReplyStream) (fresh : Bytes) : Option String × ReplyStream :=
  let taken := fresh.take (fresh.length - Utf8.unfinished fresh)
  let text := Utf8.decodeLossy taken
  (if text.isEmpty then none else some text,
    { r with offset := r.offset + taken.length, unchanged := 0, started := true })

/-- A look at which there was nothing new. -/
def quiet (r : ReplyStream) : ReplyStream := { r with unchanged := r.unchanged + 1 }

/-- Judge whether the stream goes on, by whether the sentinel is there. -/
def settle (r : ReplyStream) (sentinelThere : Bool) : ReplyStream :=
  if sentinelThere then { r with started := true }
  else if r.started && stableLooks ≤ r.unchanged then { r with done := true }
  else r

/-- The bytes of a file from one offset to another. -/
def readRange (fs : FileSystem) (path : Path) (first last : Nat) : Except FileError Bytes :=
  (fs.readBytes path).map fun bytes => (bytes.drop first).take (last - first)

/-- What is next in one look at the files. Each part is an observation of its own, and
others may act in between. -/
inductive Look
  /-- The length of the file is seen. -/
  | measuring
  /-- There is more than was read before; what is there up to this length is read. -/
  | reading (size : Nat)
  /-- The sentinel is looked for, and after that this is yielded. -/
  | checking (chunk : Option String)
  | ended (result : Except ClientError (Option String))

/-- How many observations of a look are left, at most. -/
def Look.left : Look → Nat
  | .measuring => 3
  | .reading _ => 2
  | .checking _ => 1
  | .ended _ => 0

/-- One observation of a look. -/
def observe (fs : FileSystem) (session : Session) : Look → ReplyStream → Look × ReplyStream
  | .measuring, r =>
    match fs.metadata session.path with
    | .error .notFound => (.ended (.ok none), { r with done := true })
    | .error cause => (.ended (.error (.files cause)), r)
    | .ok seen =>
      if r.offset < seen.size then (.reading seen.size, r) else (.checking none, r.quiet)
  | .reading size, r =>
    match readRange fs session.path r.offset size with
    | .error cause => (.ended (.error (.files cause)), r)
    | .ok fresh =>
      let (chunk, r) := r.accept fresh
      (.checking chunk, r)
  | .checking chunk, r => (.ended (.ok chunk), r.settle (fs.pathExists session.sentinel))
  | .ended result, r => (.ended result, r)

/-- Every observation brings a look nearer to its end, so three are enough. -/
theorem left_observe_le (fs : FileSystem) (session : Session) (look : Look) (r : ReplyStream) :
    (observe fs session look r).1.left ≤ look.left - 1 := by
  cases look with
  | measuring =>
    simp only [observe]
    split
    · simp [Look.left]
    · simp [Look.left]
    · split <;> simp [Look.left]
  | reading size =>
    simp only [observe]
    split <;> simp [Look.left]
  | checking chunk => simp [observe, Look.left]
  | ended result => simp [observe, Look.left]

/-- Look at the files once, with nothing in between. -/
def poll (fs : FileSystem) (session : Session) (r : ReplyStream) :
    Except ClientError (Option String) × ReplyStream :=
  let (measured, r) := observe fs session .measuring r
  let (read, r) := observe fs session measured r
  match observe fs session read r with
  | (.ended result, r) => (result, r)
  | (_, r) => (.ok none, r)

variable {σ : Type}

/-- Look up to `n` times, with a pause before each look, until there is something to yield
or the stream is over. A failure is yielded and ends the stream. -/
def advance (env : Surroundings σ) (session : Session) :
    Nat → ReplyStream → σ → Option (Except ClientError String) × ReplyStream × σ
  | 0, r, s => (none, r, s)
  | n + 1, r, s =>
    if r.done then (none, r, s)
    else
      let s := env.pass (tick session.options.pause) s
      match r.poll (env.files s) session with
      | (.ok (some chunk), r) => (some (.ok chunk), r, s)
      | (.ok none, r) => advance env session n r s
      | (.error e, r) => (some (.error e), { r with done := true }, s)

/-- What a stream yields next before `deadline`, on the clock of its surroundings. -/
def next (env : Surroundings σ) (session : Session) (deadline : Nat) (r : ReplyStream) (s : σ) :
    Option (Except ClientError String) × ReplyStream × σ :=
  advance env session (looks session.options.pause (deadline - env.now s)) r s

end ReplyStream

/-- A stream that was begun, with its deadline. -/
structure Streaming where
  reply : ReplyStream
  deadline : Nat

/-- What becomes of the attempt to begin a stream. -/
inductive Beginning
  | begun (streaming : Streaming)
  /-- The turn could not be written. -/
  | failed (cause : ClientError)
  /-- The turn is written, but the clock cannot show the deadline, and the program ends. -/
  | beyondClock

namespace Session

variable {σ : Type}

/-- Write a turn, and begin to read what comes after it. -/
def stream (env : Surroundings σ) (session : Session) (message : String)
    (timeout : Option Duration) (s : σ) : σ × Beginning :=
  match session.appendTurn (env.files s) message with
  | .error e => (s, .failed e)
  | .ok (written, offset) =>
    let s := env.wrote session.path written s
    match Clock.after? (env.now s) (timeout.getD session.options.timeout) with
    | some deadline => (s, .begun ⟨.ofOffset offset, deadline⟩)
    | none => (s, .beyondClock)

/-- Everything that a stream yields; before each step the surroundings may go on in a way of
their own. Each step but the last yields something, and there are at most as many as there
are looks before the deadline. -/
def collect (env : Surroundings σ) (session : Session) (deadline : Nat) (before : Nat → σ → σ) :
    Nat → Nat → ReplyStream → σ → List (Except ClientError String) × σ
  | 0, _, _, s => ([], s)
  | fuel + 1, index, r, s =>
    match r.next env session deadline (before index s) with
    | (none, _, s) => ([], s)
    | (some chunk, r, s) =>
      let (later, s) := collect env session deadline before fuel (index + 1) r s
      (chunk :: later, s)

/-- Everything that a stream yields until it ends. -/
def drain (env : Surroundings σ) (session : Session) (streaming : Streaming)
    (before : Nat → σ → σ) (s : σ) : List (Except ClientError String) × σ :=
  let fuel := looks session.options.pause (streaming.deadline - env.now s) + 1
  session.collect env streaming.deadline before fuel 0 streaming.reply s

end Session

end FileChat.Client
