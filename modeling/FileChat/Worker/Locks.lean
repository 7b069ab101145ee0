/-
# Locks of sessions

Two workers must not answer one session at the same time, so each session that is being
answered has a lock. A table gives out handles to the locks. A lock is made when the
first handle to it is asked for, and the table forgets it when the last handle is given
back, so the table holds no more than the sessions in progress. A lock that was forgotten
and made again is a different lock.
-/

namespace FileChat.Worker

/-- A lock, told apart from all others by its number. -/
abbrev Lock := Nat

/-- The locks of the sessions in progress. -/
structure Locks where
  /-- The lock of each session in the table. -/
  table : List (String × Lock)
  /-- The handles that were given out and not given back. -/
  handles : List Lock
  /-- The locks that are held. -/
  held : List Lock
  /-- The number of the next lock to be made. -/
  next : Lock
  deriving Repr, DecidableEq

namespace Locks

/-- No session is in progress. -/
def empty : Locks := ⟨[], [], [], 0⟩

/-- Give out a handle to the lock of a session. -/
def take (locks : Locks) (id : String) : Lock × Locks :=
  match locks.table.lookup id with
  | some lock => (lock, { locks with handles := lock :: locks.handles })
  | none =>
    (locks.next,
      { locks with
        table := (id, locks.next) :: locks.table
        handles := locks.next :: locks.handles
        next := locks.next + 1 })

/-- Enter a lock, unless it is held. -/
def enter? (locks : Locks) (lock : Lock) : Option Locks :=
  if lock ∈ locks.held then none else some { locks with held := lock :: locks.held }

/-- Leave a lock. -/
def leave (locks : Locks) (lock : Lock) : Locks :=
  { locks with held := locks.held.erase lock }

/-- Drop a handle without looking at the table. -/
def drop (locks : Locks) (lock : Lock) : Locks :=
  { locks with handles := locks.handles.erase lock }

/-- Give a handle back. The table forgets the session if nobody else has a handle to the
lock it lists. -/
def release (locks : Locks) (id : String) (lock : Lock) : Locks :=
  let dropped := locks.drop lock
  match dropped.table.lookup id with
  | some listed =>
    if listed ∈ dropped.handles then dropped
    else { dropped with table := dropped.table.filter fun known => known.1 ≠ id }
  | none => dropped

end Locks

end FileChat.Worker
