/-
# What the table of locks lists

The table alone gives out handles, and it forgets a lock only together with the last handle to
it. So a handle is always one to the lock that is listed, and what is listed is in use: calls
may come and go as they like, and the table neither lists two locks for one session at once nor
keeps one that nobody needs.
-/

import FileChat.Proofs.Worker.Exclusion
import FileChat.Proofs.Worker.Job
import Mathlib.Logic.Relation

namespace FileChat.Worker

open FileSystem Session

namespace Locks

variable {locks after : Locks} {id other : String} {lock known : Lock}

/-- Every lock in the table is that of one session, and somebody has a handle to it. -/
structure IsTidy (locks : Locks) : Prop where
  made {id : String} {lock : Lock} : locks.table.lookup id = some lock → lock < locks.next
  apart {id other : String} {lock : Lock} : locks.table.lookup id = some lock →
    locks.table.lookup other = some lock → id = other
  used {id : String} {lock : Lock} : locks.table.lookup id = some lock → lock ∈ locks.handles

/-- The session of a handle that is given out, and the others. -/
theorem lookup_take_eq (locks : Locks) (id other : String) :
    (locks.take id).2.table.lookup other =
      if other = id then some (locks.take id).1 else locks.table.lookup other := by
  by_cases hother : other = id
  · rw [if_pos hother, hother, lookup_take]
  · rw [if_neg hother]
    unfold take
    split
    · rfl
    · exact List.lookup_cons.trans (by rw [beq_false_of_ne hother])

/-- A handle is to a lock that was in the table or to one that was just made. -/
theorem take_eq (locks : Locks) (id : String) :
    locks.table.lookup id = some (locks.take id).1 ∧ (locks.take id).2.next = locks.next ∨
      (locks.take id).1 = locks.next ∧ (locks.take id).2.next = locks.next + 1 := by
  unfold take
  split
  · next hlisted => exact .inl ⟨hlisted, rfl⟩
  · exact .inr ⟨rfl, rfl⟩

/-- The handles to other locks are not those that are given back. -/
theorem mem_handles_release (hmem : known ∈ locks.handles) (hne : known ≠ lock) :
    known ∈ (locks.release id lock).handles := by
  rw [handles_release]
  exact (List.mem_erase_of_ne hne).mpr hmem

theorem next_release (locks : Locks) (id : String) (lock : Lock) :
    (locks.release id lock).next = locks.next := by
  unfold release
  dsimp only
  split
  · split <;> rfl
  · rfl

/-- What is listed once a handle was given back was listed before. The session is among it only
if there are more handles to its lock. -/
theorem lookup_of_lookup_release (hlisted : locks.table.lookup id = some lock)
    (h : (locks.release id lock).table.lookup other = some known) :
    locks.table.lookup other = some known ∧
      (other = id → known ∈ (locks.release id lock).handles) := by
  rw [handles_release]
  unfold release at h
  dsimp only [drop] at h
  rw [hlisted] at h
  dsimp only at h
  split at h
  · next hmore =>
      refine ⟨h, ?_⟩
      rintro rfl
      obtain rfl : lock = known := Option.some.inj (hlisted.symm.trans h)
      exact hmore
  · rw [lookup_filter_ne] at h
    split at h
    · cases h
    · next hother => exact ⟨h, fun hsame => absurd hsame hother⟩

namespace IsTidy

theorem empty : Locks.empty.IsTidy where
  made hlisted := by cases hlisted
  apart hlisted := by cases hlisted
  used hlisted := by cases hlisted

/-- Who holds a lock is of no matter for the table. -/
theorem of_eq (h : locks.IsTidy) (htable : after.table = locks.table)
    (hhandles : after.handles = locks.handles) (hnext : after.next = locks.next) :
    after.IsTidy where
  made hlisted := hnext ▸ h.made (htable ▸ hlisted)
  apart hlisted hother := h.apart (htable ▸ hlisted) (htable ▸ hother)
  used hlisted := hhandles ▸ h.used (htable ▸ hlisted)

/-- A lock that is made for a session is no other session's. -/
theorem lookup_ne_take (h : locks.IsTidy) (hother : other ≠ id) :
    locks.table.lookup other ≠ some (locks.take id).1 := by
  intro hlisted
  rcases take_eq locks id with ⟨hown, -⟩ | ⟨hmade, -⟩
  · exact hother (h.apart hlisted hown)
  · rw [hmade] at hlisted
    exact Nat.lt_irrefl _ (h.made hlisted)

protected theorem take (h : locks.IsTidy) (id : String) : (locks.take id).2.IsTidy where
  made {other lock} hlisted := by
    rw [lookup_take_eq] at hlisted
    have hbefore (hthere : locks.table.lookup other = some lock) :
        lock < (locks.take id).2.next := by
      rcases take_eq locks id with ⟨-, hnext⟩ | ⟨-, hnext⟩
      · rw [hnext]
        exact h.made hthere
      · rw [hnext]
        exact Nat.lt_succ_of_lt (h.made hthere)
    split at hlisted
    · next hsame =>
        obtain rfl := Option.some.inj hlisted
        rcases take_eq locks id with ⟨hown, -⟩ | ⟨hmade, hnext⟩
        · exact hbefore (hsame ▸ hown)
        · rw [hmade, hnext]
          exact Nat.lt_succ_self _
    · exact hbefore hlisted
  apart {one other lock} hone hother := by
    rw [lookup_take_eq] at hone hother
    split at hone
    · next hid =>
        obtain rfl := Option.some.inj hone
        split at hother
        · next hsame => exact hid.trans hsame.symm
        · next hne => exact absurd hother (h.lookup_ne_take hne)
    · next hne =>
        split at hother
        · obtain rfl := Option.some.inj hother
          exact absurd hone (h.lookup_ne_take hne)
        · exact h.apart hone hother
  used {other lock} hlisted := by
    rw [lookup_take_eq] at hlisted
    rw [handles_take]
    split at hlisted
    · obtain rfl := Option.some.inj hlisted
      exact List.mem_cons_self
    · exact List.mem_cons_of_mem _ (h.used hlisted)

protected theorem release (h : locks.IsTidy) (hlisted : locks.table.lookup id = some lock) :
    (locks.release id lock).IsTidy where
  made hafter := by
    rw [next_release]
    exact h.made (lookup_of_lookup_release hlisted hafter).1
  apart hone hother :=
    h.apart (lookup_of_lookup_release hlisted hone).1 (lookup_of_lookup_release hlisted hother).1
  used {other known} hafter := by
    obtain ⟨hbefore, hown⟩ := lookup_of_lookup_release hlisted hafter
    by_cases hsame : other = id
    · exact hown hsame
    · refine mem_handles_release (h.used hbefore) ?_
      rintro rfl
      exact hsame (h.apart hbefore hlisted)

end IsTidy

end Locks

namespace Pool

variable {σ : Type} {g : Generator σ} {p after : Pool σ}

/-- What may happen to a pool: a worker takes a step and does not go down, somebody else wants a
session answered, or anything changes that is neither a worker nor a lock. -/
inductive Move (g : Generator σ) (p : Pool σ) : Pool σ → Prop
  | worked (worker : Nat) {after : Pool σ} (hstep : p.step? g worker = some after)
      (hlives : after.workers[worker]? ≠ some .crashed) : Move g p after
  | called (item : WorkItem) : Move g p { p with workers := p.workers ++ [.opening item] }
  | altered {after : Pool σ} (hworkers : after.workers = p.workers)
      (hlocks : after.locks = p.locks) : Move g p after

/-- The locks tell what the workers are doing, and the table lists what they need. -/
structure Orderly (p : Pool σ) : Prop where
  guarded : p.Guarded
  tidy : p.locks.IsTidy

/-- A call that has not begun has no part in the locks. -/
theorem Guarded.call (h : p.Guarded) (item : WorkItem) :
    Guarded { p with workers := p.workers ++ [.opening item] } where
  listed {i activity id lock} hactivity hclaim := by
    rcases List.mem_append.mp (List.mem_of_getElem? hactivity) with hold | hnew
    · obtain ⟨j, hj⟩ := List.getElem?_of_mem hold
      exact h.listed hj hclaim
    · obtain rfl := List.mem_singleton.mp hnew
      cases hclaim
  handles lock := by
    have hnone : (Activity.opening item).hasHandle lock = false := rfl
    simp [h.handles, hnone]
  held lock := by
    have hnone : (Activity.opening item).isInside lock = false := rfl
    simp [h.held, hnone]
  alone := h.alone

namespace Orderly

theorem start (workers : Nat) (world : World σ) : (Pool.start workers world).Orderly :=
  ⟨guarded_start workers world, .empty⟩

/-- A worker that does not go down gives its handle back through the table. -/
theorem of_step? (h : p.Orderly) {worker : Nat} (hstep : p.step? g worker = some after)
    (hlives : after.workers[worker]? ≠ some .crashed) : after.Orderly := by
  refine ⟨h.guarded.of_step? hstep, ?_⟩
  obtain ⟨old, new, rest, hworker, hturn, rfl⟩ := exists_turn hstep
  cases hturn with
  | sought | took | stopped | warned | advanced => exact h.tidy
  | opened => exact h.tidy.take _
  | entered henter =>
      obtain ⟨-, rfl⟩ := Locks.enter?_eq_some henter
      exact h.tidy.of_eq rfl rfl rfl
  | finished => exact h.tidy.of_eq rfl rfl rfl
  | crashed hcrashed => exact absurd (Turn.getElem?_become_self (.crashed hcrashed) hworker) hlives
  | left => exact h.tidy.release (h.guarded.listed hworker rfl)

/-- Whatever happens to a pool, its locks stay in order. -/
theorem of_move (h : p.Orderly) (hmove : Move g p after) : after.Orderly := by
  cases hmove with
  | worked worker hstep hlives => exact h.of_step? hstep hlives
  | called item => exact ⟨h.guarded.call item, h.tidy⟩
  | altered hworkers hlocks => exact ⟨h.guarded.of_eq hworkers hlocks, hlocks ▸ h.tidy⟩

theorem of_moves {workers : Nat} {world : World σ}
    (h : Relation.ReflTransGen (Move g) (Pool.start workers world) p) : p.Orderly := by
  induction h with
  | refl => exact .start workers world
  | tail _ hmove ih => exact ih.of_move hmove

/-- The table lists what the calls in progress have handles to, and nothing else: a lock that is
listed has a handle, and it is listed for the session of the owner. -/
theorem lookup_eq_some_iff (h : p.Orderly) {id : String} {lock : Lock} :
    p.locks.table.lookup id = some lock ↔
      ∃ activity ∈ p.workers, activity.claim? = some (id, lock) := by
  constructor
  · intro hlisted
    have hcount : 0 < p.workers.countP (·.hasHandle lock) :=
      h.guarded.handles lock ▸ List.count_pos_iff.mpr (h.tidy.used hlisted)
    obtain ⟨activity, hactivity, hhandle⟩ := List.countP_pos_iff.mp hcount
    obtain ⟨⟨owner, known⟩, hclaim, hsame⟩ :=
      Option.map_eq_some_iff.mp (of_decide_eq_true hhandle)
    obtain rfl : known = lock := hsame
    obtain ⟨i, hi⟩ := List.getElem?_of_mem hactivity
    obtain rfl := h.tidy.apart hlisted (h.guarded.listed hi hclaim)
    exact ⟨activity, hactivity, hclaim⟩
  · rintro ⟨activity, hactivity, hclaim⟩
    obtain ⟨i, hi⟩ := List.getElem?_of_mem hactivity
    exact h.guarded.listed hi hclaim

theorem table_eq_nil (h : p.Orderly) (hidle : ∀ activity ∈ p.workers, activity.claim? = none) :
    p.locks.table = [] := by
  cases htable : p.locks.table with
  | nil => rfl
  | cons pair rest =>
      have hlisted : p.locks.table.lookup pair.1 = some pair.2 := by
        rw [htable]
        exact List.lookup_cons_self
      obtain ⟨activity, hactivity, hclaim⟩ := h.lookup_eq_some_iff.mp hlisted
      rw [hidle activity hactivity] at hclaim
      cases hclaim

end Orderly

/-- However many calls there are and however their steps interleave: no two of them are inside
the lock of one session, a session is in the table exactly while a call has a handle to its
lock, and the table is empty when no call is left. -/
theorem exclusive_and_pruned {workers : Nat} {world : World σ}
    (h : Relation.ReflTransGen (Move g) (Pool.start workers world) p) :
    (∀ (i j : Nat) (item other : WorkItem) (lock known : Lock) (stage further : Stage),
      p.workers[i]? = some (.working item lock stage) →
      p.workers[j]? = some (.working other known further) → item.id = other.id → i = j) ∧
    (∀ (id : String) (lock : Lock), p.locks.table.lookup id = some lock ↔
      ∃ activity ∈ p.workers, activity.claim? = some (id, lock)) ∧
    ((∀ activity ∈ p.workers, activity.claim? = none) → p.locks.table = []) := by
  have horderly := Orderly.of_moves h
  refine ⟨fun i j item other lock known stage further hi hj hid => ?_, fun id lock => ?_, ?_⟩
  · exact horderly.guarded.eq_of_working hi hj hid
  · exact horderly.lookup_eq_some_iff
  · exact horderly.table_eq_nil

/-- Two calls on one session, one of which answers it while the other waits for its lock. -/
theorem exclusive_and_pruned_of_two_calls : ∃ p : Pool (List DryRun.Record),
    Relation.ReflTransGen (Move (rehearsal .echo))
      (Pool.start 0 (.start (withFile "a" (Utf8.encode "User: hi\n")) [])) p ∧
    p.workers = [.working (itemOf "/s" "a") 0 .reading, .entering (itemOf "/s" "a") 0] ∧
    p.locks.table = [("a", 0)] ∧
    ∀ id lock, p.locks.table.lookup id = some lock ↔
      ∃ activity ∈ p.workers, activity.claim? = some (id, lock) := by
  have hcalled := (Relation.ReflTransGen.single (Move.called (g := rehearsal .echo)
    (p := Pool.start 0 (.start (withFile "a" (Utf8.encode "User: hi\n")) []))
    (itemOf "/s" "a"))).tail (Move.called (itemOf "/s" "a"))
  have hmoves := ((hcalled.tail (Move.worked 0 rfl (by simp [become]))).tail
    (Move.worked 0 rfl (by simp [become]))).tail (Move.worked 1 rfl (by simp [become]))
  exact ⟨_, hmoves, rfl, rfl, (exclusive_and_pruned hmoves).2.1⟩

end Pool

end FileChat.Worker
