/-
# The clock

A moment is a number of nanoseconds since the clock's zero. A clock shows no moment whose
whole seconds do not fit a signed word, and a program that has to name such a moment
cannot go on.
-/
import FileChat.Number.Duration

namespace FileChat.Clock

/-- No moment that a clock shows has this many seconds or more. -/
def endSeconds : Nat := 0x8000000000000000

/-- The moment that comes a length of time after `now`, if the clock can show it. -/
def after? (now : Nat) (length : Duration) : Option Nat :=
  let moment := now + length.nanoseconds
  if moment / Duration.perSecond < endSeconds then some moment else none

/-- A moment that can be shown is the sum. -/
theorem eq_add_of_after? {now moment : Nat} {length : Duration}
    (h : after? now length = some moment) : moment = now + length.nanoseconds := by
  simp only [after?] at h
  split at h
  · exact (Option.some.inj h).symm
  · exact nomatch h

end FileChat.Clock
