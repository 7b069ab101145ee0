/-
# A pool of workers

Workers take sessions from one queue and answer them. The receiving end of the queue
passes from hand to hand: the worker that holds it waits for the next session, or, once
the pool is cancelled, takes only what is already queued. Each step below is one thing
that a worker does without being interrupted; the pool runs in any order of such steps.
-/
import FileChat.Worker.Job
import FileChat.Worker.Locks

namespace FileChat.Worker

open Session

/-- What a worker is doing. -/
inductive Activity
  /-- It waits for the receiving end of the queue. -/
  | seeking
  /-- It holds the receiving end and waits for a session. -/
  | receiving
  /-- It holds the receiving end after a cancellation. -/
  | draining
  /-- It has a session and asks for the handle to its lock. -/
  | opening (item : WorkItem)
  /-- It waits for the lock of its session. -/
  | entering (item : WorkItem) (lock : Lock)
  /-- It answers its session. -/
  | working (item : WorkItem) (lock : Lock) (stage : Stage)
  /-- It has left the lock and gives the handle back. -/
  | leaving (item : WorkItem) (lock : Lock)
  | stopped
  | crashed

namespace Activity

/-- The worker is gone. -/
def isOver : Activity → Bool
  | .stopped => true
  | .crashed => true
  | _ => false

/-- The worker went down. -/
def isCrash : Activity → Bool
  | .crashed => true
  | _ => false

end Activity

/-- A pool in progress. -/
structure Pool (σ : Type) where
  world : World σ
  queue : List WorkItem
  /-- Nobody will add to the queue. -/
  closed : Bool
  cancelled : Bool
  /-- The worker that holds the receiving end of the queue. -/
  receiver : Option Nat
  locks : Locks
  workers : List Activity

namespace Pool

variable {σ : Type}

/-- A pool before its first step. -/
def start (workers : Nat) (world : World σ) : Pool σ :=
  ⟨world, [], false, false, none, .empty, List.replicate workers .seeking⟩

/-- Whether somebody can still take from the queue. -/
def isAlive (p : Pool σ) : Bool := p.workers.any fun activity => !activity.isOver

/-- The number of workers that went down. -/
def crashes (p : Pool σ) : Nat := p.workers.countP Activity.isCrash

/-- Add to the queue. -/
def enqueue (p : Pool σ) (item : WorkItem) : Pool σ := { p with queue := p.queue ++ [item] }

/-- Set what a worker is doing. -/
def become (p : Pool σ) (worker : Nat) (activity : Activity) : Pool σ :=
  { p with workers := p.workers.set worker activity }

/-- Take the first session from the queue, and let go of the receiving end. -/
def takeItem (p : Pool σ) (worker : Nat) (item : WorkItem) (later : List WorkItem) : Pool σ :=
  { p with queue := later, receiver := none }.become worker (.opening item)

/-- Let go of the receiving end and stop. -/
def stop (p : Pool σ) (worker : Nat) : Pool σ :=
  { p with receiver := none }.become worker .stopped

/-- One step of one worker, if it can make one. -/
def step? (g : Generator σ) (worker : Nat) (p : Pool σ) : Option (Pool σ) :=
  match p.workers[worker]? with
  | none => none
  | some .seeking =>
    if p.receiver.isSome then none
    else
      some ({ p with receiver := some worker }.become worker
        (if p.cancelled then .draining else .receiving))
  | some .receiving =>
    match p.queue with
    | item :: later => some (p.takeItem worker item later)
    | [] =>
      if p.closed then some (p.stop worker)
      else if p.cancelled then some (p.become worker .draining)
      else none
  | some .draining =>
    match p.queue with
    | item :: later => some (p.takeItem worker item later)
    | [] => some (p.stop worker)
  | some (.opening item) =>
    let (lock, locks) := p.locks.take item.id
    some ({ p with locks }.become worker (.entering item lock))
  | some (.entering item lock) =>
    (p.locks.enter? lock).map fun locks =>
      { p with locks }.become worker (.working item lock .reading)
  | some (.working item lock stage) =>
    let (next, world) := g.step item stage p.world
    match next with
    | .finished _ =>
      some ({ p with world, locks := p.locks.leave lock }.become worker (.leaving item lock))
    | .crashed =>
      some ({ p with world, locks := (p.locks.leave lock).drop lock }.become worker .crashed)
    | _ => some ({ p with world }.become worker (.working item lock next))
  | some (.leaving item lock) =>
    some ({ p with locks := p.locks.release item.id lock }.become worker .seeking)
  | some .stopped => none
  | some .crashed => none

/-- A step of the first worker that can make one. -/
def stepAny? (g : Generator σ) (p : Pool σ) : Option (Pool σ) :=
  (List.range p.workers.length).findSome? fun worker => p.step? g worker

/-- Steps, each of the first worker that can make one, until nobody can or `fuel` runs
out. -/
def run (g : Generator σ) : Nat → Pool σ → Pool σ
  | 0, p => p
  | fuel + 1, p =>
    match p.stepAny? g with
    | some next => run g fuel next
    | none => p

/-- Enough steps for a queue to be worked off and for all workers to stop. -/
def enoughSteps (p : Pool σ) : Nat := 16 * (p.queue.length + p.workers.length + 1)

/-- Work off a queue of sessions and stop: after a cancellation, or else after closing the
queue. -/
def runAll (g : Generator σ) (workers : Nat) (items : List WorkItem) (cancelFirst : Bool)
    (world : World σ) : Pool σ :=
  let p := { Pool.start workers world with
    queue := items
    closed := !cancelFirst
    cancelled := cancelFirst }
  p.run g p.enoughSteps

end Pool

end FileChat.Worker
