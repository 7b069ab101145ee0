/-
# The daemon

A daemon subscribes to its sessions directory, then looks which sessions are there, queues
them, and after them those that it gets notice of, as far as the queue has room; its
workers answer them. When it learns that notices were lost it looks again which sessions are
there. Each thing that can happen next is a step with a label, so a run is a list of labels,
and what others do to the files in between is one of them. The names in the directory are
looked at one by one, since others do not wait for that to be over.
-/
import FileChat.Config.Basic
import FileChat.Worker.Pool

namespace FileChat

open Session Worker

/-- How far a daemon has got with the sessions that are there when it begins, or when it
learns that notices were lost. -/
inductive Survey
  /-- The directory was not listed yet. -/
  | unlisted
  /-- Of the names that were listed, the first time or again, these are still to be looked at;
  these sessions were found so far. -/
  | looking (again : Bool) (names : List String) (items : List WorkItem)
  /-- All names were looked at, and of the sessions found at the beginning these are not
  queued yet. -/
  | queueing (items : List WorkItem)
  deriving Repr, DecidableEq

namespace Survey

/-- How many names and sessions are still to be dealt with. -/
def length : Survey → Nat
  | .unlisted => 0
  | .looking _ names items => names.length + items.length
  | .queueing items => items.length

end Survey

/-- A daemon in progress. -/
structure Daemon (σ : Type) where
  pool : Pool σ
  /-- The path of the sessions directory. -/
  directory : Path
  /-- How many sessions the queue can hold. -/
  capacity : Nat
  /-- What is left of the sessions that are there when the daemon begins or looks again. -/
  survey : Survey
  /-- Sessions that an event led to and that are not queued yet. -/
  inHand : List WorkItem
  /-- Whether notices are listened to. -/
  watching : Bool

namespace Daemon

/-- What can happen next. -/
inductive Label
  /-- The names in the directory are listed. -/
  | list
  /-- The next of these names is looked at. -/
  | look
  /-- A session that was found is queued. -/
  | queueFound
  /-- A session that an event led to is queued. -/
  | queueInHand
  /-- The next notice is heard. -/
  | hear
  /-- A worker goes on. -/
  | work (worker : Nat)
  /-- The daemon is told to end. -/
  | cancel
  /-- Notices are no longer listened to. -/
  | stopWatching
  /-- Somebody else does something to the files. -/
  | edit (e : Edit)
  deriving Repr, DecidableEq

variable {σ : Type}

/-- Whether one more session can be queued. -/
def hasRoom (d : Daemon σ) : Bool := d.pool.queue.length < d.capacity

/-- The daemon with another world. -/
def inWorld (d : Daemon σ) (world : World σ) : Daemon σ :=
  { d with pool := { d.pool with world } }

/-- Stop listening. Nobody adds to the queue after that. -/
def deaf (d : Daemon σ) : Daemon σ :=
  { d with watching := false, inHand := [], pool := { d.pool with closed := true } }

/-- All that was there is queued. -/
def isCaughtUp (d : Daemon σ) : Bool := d.survey = .queueing []

/-- List the names in the directory. -/
def list (d : Daemon σ) : Except StoreError (Daemon σ) :=
  (names d.pool.world.files d.directory).map fun found =>
    { d with survey := .looking false found [] }

/-- List the names in the directory, if that was not done before. -/
def list? (d : Daemon σ) : Option (Daemon σ) :=
  match d.survey with
  | .unlisted => d.list.toOption
  | _ => none

/-- Look at the next name that was listed. After the last one the sessions are put in
order; those that were looked for again are then in hand, as after any other event. -/
def look? (d : Daemon σ) : Option (Daemon σ) :=
  match d.survey with
  | .looking again (name :: later) items =>
    let item := workItem? d.pool.world.files d.directory (Path.join d.directory name)
    some { d with survey := .looking again later (items ++ item.toList) }
  | .looking false [] items => some { d with survey := .queueing (inIdOrder items) }
  | .looking true [] items =>
    some { d with survey := .queueing [], inHand := d.inHand ++ inIdOrder items }
  | _ => none

/-- Queue the next session that was found. If no worker is left, the rest are given up. -/
def queueFound? (d : Daemon σ) : Option (Daemon σ) :=
  match d.survey with
  | .queueing (item :: later) =>
    if !d.pool.isAlive then some { d with survey := .queueing [] }
    else if d.hasRoom then some { d with survey := .queueing later, pool := d.pool.enqueue item }
    else none
  | _ => none

/-- Queue the next session in hand. If no worker is left, there is no reason to listen. -/
def queueInHand? (d : Daemon σ) : Option (Daemon σ) :=
  match d.inHand with
  | [] => none
  | item :: later =>
    if !d.pool.isAlive then some d.deaf
    else if d.hasRoom then some { d with inHand := later, pool := d.pool.enqueue item }
    else none

/-- What a daemon does about an event: the sessions that it leads to are in hand, and if
events were lost, the names in the directory are to be looked at again. If they cannot be
listed, nothing is done. -/
def heed (event : Event) (d : Daemon σ) : Daemon σ :=
  if event.kind = .lost then
    match names d.pool.world.files d.directory with
    | .ok found => { d with survey := .looking true found [] }
    | .error _ => d
  else { d with inHand := workItems d.pool.world.files d.directory event }

/-- Hear the next notice. That is done only when all that was found or heard before is
queued. -/
def hear? (d : Daemon σ) : Option (Daemon σ) :=
  if !d.watching || !d.isCaughtUp || !d.inHand.isEmpty then none
  else
    match d.pool.world.notices with
    | [] => none
    | notice :: later =>
      let after := d.inWorld { d.pool.world with notices := later }
      match Event.ofNotice? d.directory notice with
      | some event => some (after.heed event)
      | none => some after

/-- Stop listening after a cancellation. The sessions that were found are queued first. -/
def stopWatching? (d : Daemon σ) : Option (Daemon σ) :=
  if d.pool.cancelled && d.watching && d.isCaughtUp then some d.deaf else none

/-- What the daemon becomes by a step, if the step is possible. -/
def step? (g : Generator σ) (label : Label) (d : Daemon σ) : Option (Daemon σ) :=
  match label with
  | .list => d.list?
  | .look => d.look?
  | .queueFound => d.queueFound?
  | .queueInHand => d.queueInHand?
  | .hear => d.hear?
  | .work worker => (d.pool.step? g worker).map fun pool => { d with pool }
  | .cancel => some { d with pool := { d.pool with cancelled := true } }
  | .stopWatching => d.stopWatching?
  | .edit e => some (d.inWorld (d.pool.world.edited e))

/-- What all workers of a configuration share. -/
def generatorOf (config : Config) (backend : Backend σ) : Generator σ where
  backend := backend
  directory := config.directory
  params := {
    maxTokens := config.maxTokens
    temperature := config.temperature
    stop := config.stop
    contextChars := config.contextChars }

/-- The largest queue that can be made. -/
def maxCapacity : Nat := 0x1FFFFFFFFFFFFFFF

/-- Why a daemon cannot start. -/
inductive StartError
  /-- A queue of this capacity cannot be made, and the program ends. -/
  | badCapacity (capacity : Nat)
  | notListed (cause : StoreError)
  deriving Repr, DecidableEq

namespace StartError

/-- The messages of a failure, from the outside in. -/
def chain : StartError → List String
  | .badCapacity capacity => ["no queue can hold " ++ toString capacity ++ " sessions"]
  | .notListed cause => cause.chain

end StartError

/-- A daemon that has just subscribed to its directory, in a world whose earlier notices
nobody heard. -/
def subscribed (config : Config) (world : World σ) : Daemon σ where
  pool := Pool.start config.workers (world.watch config.directory)
  directory := config.directory
  capacity := config.queueCapacity
  survey := .unlisted
  inHand := []
  watching := true

/-- Subscribe to the directory of a configuration, and list the names that are there. -/
def start (config : Config) (world : World σ) : Except StartError (Daemon σ) :=
  if config.queueCapacity = 0 || maxCapacity < config.queueCapacity then
    .error (.badCapacity config.queueCapacity)
  else (subscribed config world).list.mapError .notListed

end Daemon

end FileChat
