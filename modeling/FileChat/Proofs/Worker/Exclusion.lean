/-
# One worker for a session

The table of locks, the handles and the locks that are held are bookkeeping about the workers:
whoever has a session in progress has a handle to the lock that the table lists for it, and
whoever answers it holds that lock, alone. No turn of a worker spoils this, so two workers
never answer one session at the same time.
-/

import FileChat.Proofs.Lookup
import FileChat.Proofs.Worker.Pool

namespace FileChat.Worker

open Session

namespace Activity

/-- The session that a worker has in progress, and the lock that it has a handle to. -/
def claim? : Activity → Option (String × Lock)
  | .entering item lock => some (item.id, lock)
  | .working item lock _ => some (item.id, lock)
  | .leaving item lock => some (item.id, lock)
  | _ => none

/-- Whether a worker has a handle to a lock. -/
def hasHandle (lock : Lock) (activity : Activity) : Bool :=
  activity.claim?.map Prod.snd = some lock

/-- Whether a worker holds a lock. -/
def isInside (lock : Lock) : Activity → Bool
  | .working _ known _ => known = lock
  | _ => false

section Handles

variable {item : WorkItem} {lock known : Lock} {stage : Stage}

@[simp]
theorem hasHandle_entering : (entering item lock).hasHandle known = decide (lock = known) := by
  simp [hasHandle, claim?]

@[simp]
theorem hasHandle_working :
    (working item lock stage).hasHandle known = decide (lock = known) := by
  simp [hasHandle, claim?]

@[simp]
theorem hasHandle_leaving : (leaving item lock).hasHandle known = decide (lock = known) := by
  simp [hasHandle, claim?]

@[simp]
theorem isInside_working :
    (working item lock stage).isInside known = decide (lock = known) := rfl

end Handles

end Activity

namespace Locks

variable {locks : Locks} {id other : String} {lock known : Lock}

/-- The handle that is given out is one to the lock that is listed then. -/
theorem lookup_take (locks : Locks) (id : String) :
    (locks.take id).2.table.lookup id = some (locks.take id).1 := by
  unfold take
  split
  · next lock hlisted => exact hlisted
  · exact List.lookup_cons_self

/-- Giving out a handle replaces no lock. -/
theorem lookup_take_of_lookup (h : locks.table.lookup other = some known) (id : String) :
    (locks.take id).2.table.lookup other = some known := by
  unfold take
  split
  · exact h
  · next hnone =>
      have hne : other ≠ id := by
        rintro rfl
        simp [hnone] at h
      rw [List.lookup_cons, beq_false_of_ne hne]
      exact h

theorem handles_take (locks : Locks) (id : String) :
    (locks.take id).2.handles = (locks.take id).1 :: locks.handles := by
  unfold take
  split <;> rfl

theorem held_take (locks : Locks) (id : String) : (locks.take id).2.held = locks.held := by
  unfold take
  split <;> rfl

theorem handles_release (locks : Locks) (id : String) (lock : Lock) :
    (locks.release id lock).handles = locks.handles.erase lock := by
  unfold release
  dsimp only
  split
  · split <;> rfl
  · rfl

theorem held_release (locks : Locks) (id : String) (lock : Lock) :
    (locks.release id lock).held = locks.held := by
  unfold release
  dsimp only
  split
  · split <;> rfl
  · rfl

/-- Giving a handle back leaves the other sessions listed, and also its own if somebody still
has a handle. -/
theorem lookup_release (h : locks.table.lookup other = some known)
    (hkept : other = id → known ∈ locks.handles.erase lock) :
    (locks.release id lock).table.lookup other = some known := by
  unfold release
  dsimp only
  split
  · next listed hlisted =>
      split
      · exact h
      · next hgone =>
          have hne : other ≠ id := by
            rintro rfl
            obtain rfl : known = listed := Option.some.inj (h.symm.trans hlisted)
            exact hgone (hkept rfl)
          exact (lookup_filter_ne locks.table id other).trans ((if_neg hne).trans h)
  · exact h

theorem enter?_eq_some {after : Locks} (h : locks.enter? lock = some after) :
    lock ∉ locks.held ∧ after = { locks with held := lock :: locks.held } := by
  unfold enter? at h
  split at h
  · cases h
  · next hfree => exact ⟨hfree, (Option.some.inj h).symm⟩

end Locks

namespace Pool

variable {σ : Type} {g : Generator σ} {worker : Nat} {p after rest : Pool σ} {old new : Activity}

/-- The locks of a pool tell what its workers are doing. -/
structure Guarded (p : Pool σ) : Prop where
  /-- Who has a session in progress has a handle to the lock that is listed for it. -/
  listed {i : Nat} {activity : Activity} {id : String} {lock : Lock} :
    p.workers[i]? = some activity → activity.claim? = some (id, lock) →
      p.locks.table.lookup id = some lock
  handles (lock : Lock) : p.locks.handles.count lock = p.workers.countP (·.hasHandle lock)
  held (lock : Lock) : p.locks.held.count lock = p.workers.countP (·.isInside lock)
  alone (lock : Lock) : p.locks.held.count lock ≤ 1

/-- What is counted of the workers changes with the one that took its turn. -/
theorem countP_set_workers (hworker : p.workers[worker]? = some old) (new : Activity)
    (q : Activity → Bool) :
    (p.workers.set worker new).countP q + (if q old then 1 else 0) =
      p.workers.countP q + (if q new then 1 else 0) := by
  obtain ⟨hlt, hget⟩ := List.getElem?_eq_some_iff.mp hworker
  have hle : (if q old then 1 else 0) ≤ p.workers.countP q :=
    hget ▸ List.boole_getElem_le_countP (p := q) hlt
  rw [List.countP_set hlt, hget]
  omega

/-- Before the first step no lock is known and no session is in progress. -/
theorem guarded_start (workers : Nat) (world : World σ) : (Pool.start workers world).Guarded where
  listed hworker hclaim := by
    obtain ⟨-, rfl⟩ := List.mem_replicate.mp (List.mem_of_getElem? hworker)
    cases hclaim
  handles lock := by
    rw [start, List.countP_replicate]
    rfl
  held lock := by
    rw [start, List.countP_replicate]
    rfl
  alone lock := Nat.zero_le 1

namespace Guarded

/-- What is not about workers and locks does not matter. -/
theorem of_eq (hp : p.Guarded) (hworkers : rest.workers = p.workers)
    (hlocks : rest.locks = p.locks) : rest.Guarded where
  listed hactivity hclaim := by
    rw [hworkers] at hactivity
    rw [hlocks]
    exact hp.listed hactivity hclaim
  handles lock := by rw [hworkers, hlocks, hp.handles]
  held lock := by rw [hworkers, hlocks, hp.held]
  alone lock := by
    rw [hlocks]
    exact hp.alone lock

/-- What has to be shown of a turn: the lock that the worker counts on is listed, those that the
others count on still are, and handles and held locks change with the worker's own. -/
theorem become (hp : p.Guarded) (hworker : p.workers[worker]? = some old)
    (hworkers : rest.workers = p.workers)
    (hown : ∀ id lock, new.claim? = some (id, lock) → rest.locks.table.lookup id = some lock)
    (hothers : ∀ i activity id lock, i ≠ worker → p.workers[i]? = some activity →
      activity.claim? = some (id, lock) → rest.locks.table.lookup id = some lock)
    (hhandles : ∀ lock, rest.locks.handles.count lock + (if old.hasHandle lock then 1 else 0) =
      p.locks.handles.count lock + (if new.hasHandle lock then 1 else 0))
    (hheld : ∀ lock, rest.locks.held.count lock + (if old.isInside lock then 1 else 0) =
      p.locks.held.count lock + (if new.isInside lock then 1 else 0))
    (halone : ∀ lock, rest.locks.held.count lock ≤ 1) :
    (rest.become worker new).Guarded where
  listed {i activity id lock} hactivity hclaim := by
    rw [Pool.become, hworkers] at hactivity
    by_cases hi : i = worker
    · subst hi
      have hlt := (List.getElem?_eq_some_iff.mp hworker).1
      rw [List.getElem?_set_self hlt] at hactivity
      obtain rfl := Option.some.inj hactivity
      exact hown id lock hclaim
    · rw [List.getElem?_set_ne (Ne.symm hi)] at hactivity
      exact hothers i activity id lock hi hactivity hclaim
  handles lock := by
    have hcount := countP_set_workers hworker new (·.hasHandle lock)
    have hbefore := hp.handles lock
    have hafter := hhandles lock
    rw [Pool.become, hworkers]
    dsimp only at hcount ⊢
    omega
  held lock := by
    have hcount := countP_set_workers hworker new (·.isInside lock)
    have hbefore := hp.held lock
    have hafter := hheld lock
    rw [Pool.become, hworkers]
    dsimp only at hcount ⊢
    omega
  alone := halone

/-- A turn that leaves the locks alone keeps the worker's part in them. -/
theorem become_of_locks_eq (hp : p.Guarded) (hworker : p.workers[worker]? = some old)
    (hworkers : rest.workers = p.workers) (hlocks : rest.locks = p.locks)
    (hclaim : new.claim? = old.claim?) (hinside : ∀ lock, new.isInside lock = old.isInside lock) :
    (rest.become worker new).Guarded := by
  apply hp.become hworker hworkers
  · intro id lock hown
    rw [hlocks]
    exact hp.listed hworker (hclaim ▸ hown)
  · intro i activity id lock _ hactivity hother
    rw [hlocks]
    exact hp.listed hactivity hother
  · intro lock
    rw [hlocks, Activity.hasHandle, Activity.hasHandle, hclaim]
  · intro lock
    rw [hlocks, hinside]
  · rw [hlocks]
    exact hp.alone

/-- A worker that got a handle has a session in progress. -/
theorem of_opened (hp : p.Guarded) {item : WorkItem}
    (hworker : p.workers[worker]? = some (.opening item)) (hworkers : rest.workers = p.workers)
    (hlocks : rest.locks = (p.locks.take item.id).2) :
    (rest.become worker (.entering item (p.locks.take item.id).1)).Guarded := by
  apply hp.become hworker hworkers
  · intro id lock hown
    obtain ⟨rfl, rfl⟩ := Prod.mk.inj (Option.some.inj hown)
    rw [hlocks]
    exact Locks.lookup_take p.locks item.id
  · intro i activity id lock _ hactivity hother
    rw [hlocks]
    exact Locks.lookup_take_of_lookup (hp.listed hactivity hother) item.id
  · intro lock
    have hopening : (Activity.opening item).hasHandle lock = false := rfl
    rw [hlocks, Locks.handles_take, List.count_cons]
    simp [hopening]
  · intro lock
    rw [hlocks, Locks.held_take]
    simp [Activity.isInside]
  · intro lock
    rw [hlocks, Locks.held_take]
    exact hp.alone lock

/-- A worker enters a lock that nobody holds. -/
theorem of_entered (hp : p.Guarded) {item : WorkItem} {lock : Lock}
    (hworker : p.workers[worker]? = some (.entering item lock))
    (hworkers : rest.workers = p.workers) (henter : p.locks.enter? lock = some rest.locks) :
    (rest.become worker (.working item lock .reading)).Guarded := by
  obtain ⟨hfree, hlocks⟩ := Locks.enter?_eq_some henter
  apply hp.become hworker hworkers
  · intro id known hown
    rw [hlocks]
    exact hp.listed hworker hown
  · intro i activity id known _ hactivity hother
    rw [hlocks]
    exact hp.listed hactivity hother
  · intro known
    rw [hlocks]
    rfl
  · intro known
    have hentering : (Activity.entering item lock).isInside known = false := rfl
    rw [hlocks, List.count_cons]
    simp [hentering]
  · intro known
    rw [hlocks, List.count_cons]
    have halone := hp.alone known
    split
    · next hsame =>
        obtain rfl : lock = known := by simpa using hsame
        simp [List.count_eq_zero.mpr hfree]
    · exact halone

/-- A worker leaves its lock and keeps the handle, or loses both. -/
theorem of_left (hp : p.Guarded) {item : WorkItem} {lock : Lock} {stage : Stage}
    (hworker : p.workers[worker]? = some (.working item lock stage))
    (hworkers : rest.workers = p.workers)
    (hnew : new = .leaving item lock ∧ rest.locks = p.locks.leave lock ∨
      new = .crashed ∧ rest.locks = (p.locks.leave lock).drop lock) :
    (rest.become worker new).Guarded := by
  have htable : rest.locks.table = p.locks.table := by
    rcases hnew with ⟨-, hlocks⟩ | ⟨-, hlocks⟩ <;> rw [hlocks] <;> rfl
  have hheld : rest.locks.held = p.locks.held.erase lock := by
    rcases hnew with ⟨-, hlocks⟩ | ⟨-, hlocks⟩ <;> rw [hlocks] <;> rfl
  have hinside (known : Lock) : new.isInside known = false := by
    rcases hnew with ⟨rfl, -⟩ | ⟨rfl, -⟩ <;> rfl
  have hmem : 0 < p.locks.handles.count lock := by
    rw [hp.handles, List.countP_pos_iff]
    exact ⟨_, List.mem_of_getElem? hworker, by simp⟩
  have hin : 0 < p.locks.held.count lock := by
    rw [hp.held, List.countP_pos_iff]
    exact ⟨_, List.mem_of_getElem? hworker, by simp⟩
  apply hp.become hworker hworkers
  · intro id known hown
    rw [htable]
    rcases hnew with ⟨rfl, -⟩ | ⟨rfl, -⟩
    · exact hp.listed hworker hown
    · cases hown
  · intro i activity id known _ hactivity hother
    rw [htable]
    exact hp.listed hactivity hother
  · intro known
    rcases hnew with ⟨rfl, hlocks⟩ | ⟨rfl, hlocks⟩
    · rw [hlocks, Locks.leave, Activity.hasHandle_working, Activity.hasHandle_leaving]
    · have hcrashed : Activity.crashed.hasHandle known = false := rfl
      rw [hlocks, Locks.drop, Locks.leave, Activity.hasHandle_working, hcrashed]
      dsimp only
      rw [List.count_erase]
      by_cases hsame : lock = known
      · subst hsame
        simp
        omega
      · simp [hsame]
  · intro known
    rw [hinside, hheld, List.count_erase, Activity.isInside_working]
    by_cases hsame : lock = known
    · subst hsame
      simp
      omega
    · simp [hsame]
  · intro known
    rw [hheld, List.count_erase]
    exact Nat.le_trans (Nat.sub_le _ _) (hp.alone known)

/-- A worker gives its handle back. Whoever else has one to that lock still counts, and finds it
listed. -/
theorem of_released (hp : p.Guarded) {item : WorkItem} {lock : Lock}
    (hworker : p.workers[worker]? = some (.leaving item lock))
    (hworkers : rest.workers = p.workers) (hlocks : rest.locks = p.locks.release item.id lock) :
    (rest.become worker .seeking).Guarded := by
  have herase (known : Lock) : (p.locks.handles.erase lock).count known =
      (p.workers.set worker .seeking).countP (·.hasHandle known) := by
    have hcount := countP_set_workers hworker .seeking (·.hasHandle known)
    have hbefore := hp.handles known
    have hseeking : Activity.seeking.hasHandle known = false := rfl
    simp only [Activity.hasHandle_leaving, hseeking] at hcount
    rw [List.count_erase]
    by_cases hsame : lock = known
    · simp [hsame] at hcount ⊢
      omega
    · simp [hsame] at hcount ⊢
      omega
  apply hp.become hworker hworkers
  · intro id known hown
    cases hown
  · intro i activity id known hi hactivity hother
    rw [hlocks]
    apply Locks.lookup_release (hp.listed hactivity hother)
    intro _
    rw [← List.count_pos_iff, herase, List.countP_pos_iff]
    refine ⟨activity, List.mem_of_getElem? (i := i) ?_, by simp [Activity.hasHandle, hother]⟩
    rw [List.getElem?_set_ne (Ne.symm hi), hactivity]
  · intro known
    have hcount := countP_set_workers hworker .seeking (·.hasHandle known)
    rw [hlocks, Locks.handles_release, herase, hp.handles]
    exact hcount
  · intro known
    rw [hlocks, Locks.held_release]
    rfl
  · intro known
    rw [hlocks, Locks.held_release]
    exact hp.alone known

/-- No turn of a worker spoils the bookkeeping. -/
theorem of_step? (hp : p.Guarded) (h : p.step? g worker = some after) : after.Guarded := by
  obtain ⟨old, new, rest, hworker, hturn, rfl⟩ := exists_turn h
  cases hturn with
  | sought =>
      refine hp.become_of_locks_eq hworker rfl rfl ?_ fun lock => ?_
      · split <;> rfl
      · split <;> rfl
  | took hold =>
      rcases hold with rfl | rfl
      · exact hp.become_of_locks_eq hworker rfl rfl rfl fun _ => rfl
      · exact hp.become_of_locks_eq hworker rfl rfl rfl fun _ => rfl
  | stopped hold =>
      rcases hold with ⟨rfl, -⟩ | rfl
      · exact hp.become_of_locks_eq hworker rfl rfl rfl fun _ => rfl
      · exact hp.become_of_locks_eq hworker rfl rfl rfl fun _ => rfl
  | warned => exact hp.become_of_locks_eq hworker rfl rfl rfl fun _ => rfl
  | opened => exact hp.of_opened hworker rfl rfl
  | entered henter => exact hp.of_entered hworker rfl henter
  | advanced => exact hp.become_of_locks_eq hworker rfl rfl rfl fun _ => rfl
  | finished => exact hp.of_left hworker rfl (.inl ⟨rfl, rfl⟩)
  | crashed => exact hp.of_left hworker rfl (.inr ⟨rfl, rfl⟩)
  | left => exact hp.of_released hworker rfl rfl

/-- Two workers that answer the same session are the same worker. -/
theorem eq_of_working (hp : p.Guarded) {i j : Nat} {item other : WorkItem} {lock known : Lock}
    {stage further : Stage} (hi : p.workers[i]? = some (.working item lock stage))
    (hj : p.workers[j]? = some (.working other known further)) (hid : item.id = other.id) :
    i = j := by
  obtain rfl : lock = known := by
    have hlisted := hp.listed hi rfl
    rw [hid, hp.listed hj rfl] at hlisted
    exact (Option.some.inj hlisted).symm
  by_cases hne : i = j
  · exact hne
  exfalso
  have hcount := countP_set_workers hi .seeking (·.isInside lock)
  have hrest : 0 < (p.workers.set i .seeking).countP (·.isInside lock) := by
    rw [List.countP_pos_iff]
    refine ⟨_, List.mem_of_getElem? (i := j) ((List.getElem?_set_ne hne).trans hj), ?_⟩
    simp
  have halone := hp.held lock ▸ hp.alone lock
  have hinside : (Activity.working item lock stage).isInside lock = true := by simp
  have hoff : Activity.seeking.isInside lock = false := rfl
  rw [hinside, hoff, if_pos rfl, if_neg (by simp)] at hcount
  omega

end Guarded

end Pool

end FileChat.Worker
