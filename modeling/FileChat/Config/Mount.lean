/-
# Waiting for the mount

The daemon may start before the shared tree is mounted. It looks for it, pauses, and looks
again; a look at or after the deadline is the last. The history of the mount is a function
of time, so the wait is a function too.
-/
import FileChat.Number.Clock

namespace FileChat.Mount

/-- The longest pause between two looks. -/
def longestPause : Duration := .ofSeconds 2

/-- The pause between two looks when `wait` is the whole time. -/
def pause (wait : Duration) : Nat := min longestPause.nanoseconds wait.nanoseconds

/-- How a wait went. -/
structure Waited where
  /-- When it looked, counted from its beginning. -/
  looks : List Nat
  /-- What its last look found. -/
  found : Bool
  deriving Repr, DecidableEq

/-- Look until the mount is there or, at or after the deadline, is not. Before the deadline
there is a time left to wait, so the pause is not empty. -/
def await (mounted : Nat → Bool) (wait : Duration) (now : Nat) : Waited :=
  if mounted now then ⟨[now], true⟩
  else if wait.nanoseconds ≤ now then ⟨[now], false⟩
  else
    let later := await mounted wait (now + pause wait)
    ⟨now :: later.looks, later.found⟩
termination_by wait.nanoseconds - now
decreasing_by
  have : 0 < pause wait := by
    simp only [pause, longestPause, Duration.ofSeconds, Duration.perSecond]
    omega
  omega

end FileChat.Mount
