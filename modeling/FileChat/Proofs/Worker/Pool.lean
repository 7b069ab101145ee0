/-
# What a step of a pool can do

A step of a pool is one worker's turn. Each turn takes the worker from one activity to the
next and touches one more thing at most: the queue and its receiving end, the locks, or the
world.
-/

import FileChat.Worker.Pool

namespace FileChat.Worker

open Session

/-- The session that a worker is at. -/
def Activity.item? : Activity → Option WorkItem
  | .opening item => some item
  | .entering item _ => some item
  | .working item _ _ => some item
  | .leaving item _ => some item
  | _ => none

/-- The worker answers a session. -/
def Activity.isWorking : Activity → Bool
  | .working _ _ _ => true
  | _ => false

namespace Pool

variable {σ : Type} {g : Generator σ} {worker : Nat} {p after : Pool σ}

/-- The turns that a worker can take: its activity before and after, and the rest of the
pool. -/
inductive Turn (g : Generator σ) (worker : Nat) (p : Pool σ) : Activity → Activity → Pool σ → Prop
  | sought (hfree : p.receiver.isSome = false) :
      Turn g worker p .seeking (if p.cancelled then .draining else .receiving)
        { p with receiver := some worker }
  | took {old : Activity} {item : WorkItem} {later : List WorkItem}
      (hold : old = .receiving ∨ old = .draining) (hqueue : p.queue = item :: later) :
      Turn g worker p old (.opening item) { p with queue := later, receiver := none }
  | stopped {old : Activity} (hold : old = .receiving ∧ p.closed = true ∨ old = .draining)
      (hqueue : p.queue = []) :
      Turn g worker p old .stopped { p with receiver := none }
  | warned (hqueue : p.queue = []) (hopen : p.closed = false) (hcancelled : p.cancelled = true) :
      Turn g worker p .receiving .draining p
  | opened {item : WorkItem} :
      Turn g worker p (.opening item) (.entering item (p.locks.take item.id).1)
        { p with locks := (p.locks.take item.id).2 }
  | entered {item : WorkItem} {lock : Lock} {locks : Locks}
      (henter : p.locks.enter? lock = some locks) :
      Turn g worker p (.entering item lock) (.working item lock .reading) { p with locks }
  | advanced {item : WorkItem} {lock : Lock} {stage next : Stage} {world : World σ}
      (hstep : g.step item stage p.world = (next, world)) (hnext : next.isOver = false) :
      Turn g worker p (.working item lock stage) (.working item lock next) { p with world }
  | finished {item : WorkItem} {lock : Lock} {stage : Stage}
      {result : Except StoreError Outcome} {world : World σ}
      (hstep : g.step item stage p.world = (.finished result, world)) :
      Turn g worker p (.working item lock stage) (.leaving item lock)
        { p with world, locks := p.locks.leave lock }
  | crashed {item : WorkItem} {lock : Lock} {stage : Stage} {world : World σ}
      (hstep : g.step item stage p.world = (.crashed, world)) :
      Turn g worker p (.working item lock stage) .crashed
        { p with world, locks := (p.locks.leave lock).drop lock }
  | left {item : WorkItem} {lock : Lock} :
      Turn g worker p (.leaving item lock) .seeking
        { p with locks := p.locks.release item.id lock }

section Turn

variable {old new : Activity} {rest : Pool σ}

theorem Turn.workers_eq (h : Turn g worker p old new rest) : rest.workers = p.workers := by
  cases h <;> rfl

theorem Turn.closed_eq (h : Turn g worker p old new rest) : rest.closed = p.closed := by
  cases h <;> rfl

theorem Turn.cancelled_eq (h : Turn g worker p old new rest) : rest.cancelled = p.cancelled := by
  cases h <;> rfl

/-- A turn brings nothing into the queue. -/
theorem Turn.mem_queue (h : Turn g worker p old new rest) {item : WorkItem}
    (hitem : item ∈ rest.queue) : item ∈ p.queue := by
  cases h with
  | took hold hqueue => exact hqueue ▸ List.mem_cons_of_mem _ hitem
  | _ => exact hitem

/-- A worker is at the session that it was at, or at one from the queue. -/
theorem Turn.item?_eq_some (h : Turn g worker p old new rest) {item : WorkItem}
    (hitem : new.item? = some item) : old.item? = some item ∨ item ∈ p.queue := by
  cases h with
  | sought => split at hitem <;> cases hitem
  | took hold hqueue =>
      obtain rfl := Option.some.inj hitem
      exact .inr (hqueue ▸ List.mem_cons_self)
  | stopped | warned | crashed | left => cases hitem
  | opened | entered | advanced | finished => exact .inl hitem

/-- A worker that answers no session leaves the world alone, and begins with reading. -/
theorem Turn.of_idle (h : Turn g worker p old new rest) (hidle : old.isWorking = false) :
    rest.world = p.world ∧
      ∀ item lock stage, new = .working item lock stage → stage = .reading := by
  cases h with
  | sought =>
      refine ⟨rfl, fun item lock stage hnew => ?_⟩
      split at hnew <;> cases hnew
  | entered => exact ⟨rfl, fun item lock stage hnew => (Activity.working.inj hnew).2.2.symm⟩
  | advanced | finished | crashed => cases hidle
  | _ => exact ⟨rfl, fun item lock stage hnew => by cases hnew⟩

/-- A worker that answers a session takes one step at it and stays, unless it is done or goes
down. -/
theorem Turn.of_working {item : WorkItem} {lock : Lock} {stage : Stage}
    (h : Turn g worker p (.working item lock stage) new rest) :
    rest.world = (g.step item stage p.world).2 ∧
      (new = .working item lock (g.step item stage p.world).1 ∨ new = .leaving item lock ∨
        new = .crashed) ∧
      ((g.step item stage p.world).1.isOver = false →
        new = .working item lock (g.step item stage p.world).1) := by
  cases h with
  | took hold => rcases hold with hold | hold <;> cases hold
  | stopped hold => rcases hold with ⟨hold, -⟩ | hold <;> cases hold
  | advanced hstep hnext =>
      rw [hstep]
      exact ⟨rfl, .inl rfl, fun _ => rfl⟩
  | finished hstep =>
      rw [hstep]
      exact ⟨rfl, .inr (.inl rfl), fun hover => by cases hover⟩
  | crashed hstep =>
      rw [hstep]
      exact ⟨rfl, .inr (.inr rfl), fun hover => by cases hover⟩

/-- A worker that does not go down took a step that lets it live. -/
theorem Turn.step_ne_crashed {item : WorkItem} {lock : Lock} {stage : Stage}
    (h : Turn g worker p (.working item lock stage) new rest) (hlives : new ≠ .crashed) :
    (g.step item stage p.world).1 ≠ .crashed := by
  cases h with
  | took hold => rcases hold with hold | hold <;> cases hold
  | stopped hold => rcases hold with ⟨hold, -⟩ | hold <;> cases hold
  | advanced hstep hnext =>
      rw [hstep]
      rintro rfl
      cases hnext
  | finished hstep =>
      rw [hstep]
      exact fun hsame => by cases hsame
  | crashed => exact absurd rfl hlives

/-- The workers of a pool after one of them took its turn. -/
theorem getElem?_become {i : Nat} {activity : Activity}
    (h : (rest.become worker new).workers[i]? = some activity) :
    i = worker ∧ activity = new ∨ i ≠ worker ∧ rest.workers[i]? = some activity := by
  by_cases hi : i = worker
  · subst hi
    have hlt : i < rest.workers.length := by
      have := (List.getElem?_eq_some_iff.mp h).1
      rwa [become, List.length_set] at this
    rw [become, List.getElem?_set_self hlt] at h
    exact .inl ⟨rfl, (Option.some.inj h).symm⟩
  · rw [become, List.getElem?_set_ne (Ne.symm hi)] at h
    exact .inr ⟨hi, h⟩

/-- The worker that took its turn is where the turn ends. -/
theorem Turn.getElem?_become_self (h : Turn g worker p old new rest)
    (hworker : p.workers[worker]? = some old) :
    (rest.become worker new).workers[worker]? = some new :=
  List.getElem?_set_self (h.workers_eq ▸ (List.getElem?_eq_some_iff.mp hworker).1)

/-- The other workers are where they were. -/
theorem Turn.getElem?_become_of_ne (h : Turn g worker p old new rest) {i : Nat}
    (hi : i ≠ worker) : (rest.become worker new).workers[i]? = p.workers[i]? := by
  rw [become, List.getElem?_set_ne (Ne.symm hi), h.workers_eq]

/-- Whatever session a worker is at then, some worker was at it or it was queued. -/
theorem Turn.exists_item? (h : Turn g worker p old new rest)
    (hworker : p.workers[worker]? = some old) {i : Nat} {activity : Activity} {item : WorkItem}
    (hat : (rest.become worker new).workers[i]? = some activity)
    (hitem : activity.item? = some item) :
    (∃ before ∈ p.workers, before.item? = some item) ∨ item ∈ p.queue := by
  rcases getElem?_become hat with ⟨rfl, rfl⟩ | ⟨-, hother⟩
  · rcases h.item?_eq_some hitem with hold | hqueued
    · exact .inl ⟨old, List.mem_of_getElem? hworker, hold⟩
    · exact .inr hqueued
  · rw [h.workers_eq] at hother
    exact .inl ⟨activity, List.mem_of_getElem? hother, hitem⟩

end Turn

/-- A step of a pool is a turn of one of its workers. -/
theorem exists_turn (h : p.step? g worker = some after) :
    ∃ old new rest, p.workers[worker]? = some old ∧ Turn g worker p old new rest ∧
      after = rest.become worker new := by
  unfold step? at h
  cases hworker : p.workers[worker]? with
  | none => rw [hworker] at h; cases h
  | some old =>
      rw [hworker] at h
      refine ⟨old, ?_⟩
      cases old with
      | seeking =>
          dsimp only at h
          split at h
          · cases h
          · next hfree =>
              exact ⟨_, _, rfl, .sought (by simpa using hfree), (Option.some.inj h).symm⟩
      | receiving =>
          dsimp only at h
          split at h
          · next item later hqueue =>
              exact ⟨_, _, rfl, .took (.inl rfl) hqueue, (Option.some.inj h).symm⟩
          · next hqueue =>
              split at h
              · next hclosed =>
                  exact ⟨_, _, rfl, .stopped (.inl ⟨rfl, hclosed⟩) hqueue, (Option.some.inj h).symm⟩
              · next hopen =>
                  split at h
                  · next hcancelled =>
                      exact ⟨_, _, rfl, .warned hqueue (by simpa using hopen) hcancelled,
                        (Option.some.inj h).symm⟩
                  · cases h
      | draining =>
          dsimp only at h
          split at h
          · next item later hqueue =>
              exact ⟨_, _, rfl, .took (.inr rfl) hqueue, (Option.some.inj h).symm⟩
          · next hqueue => exact ⟨_, _, rfl, .stopped (.inr rfl) hqueue, (Option.some.inj h).symm⟩
      | opening item => exact ⟨_, _, rfl, .opened, (Option.some.inj h).symm⟩
      | entering item lock =>
          obtain ⟨locks, henter, hafter⟩ := Option.map_eq_some_iff.mp h
          exact ⟨_, _, rfl, .entered henter, hafter.symm⟩
      | working item lock stage =>
          dsimp only at h
          cases hstep : g.step item stage p.world with
          | mk next world =>
              rw [hstep] at h
              cases next with
              | finished result => exact ⟨_, _, rfl, .finished hstep, (Option.some.inj h).symm⟩
              | crashed => exact ⟨_, _, rfl, .crashed hstep, (Option.some.inj h).symm⟩
              | _ => exact ⟨_, _, rfl, .advanced hstep rfl, (Option.some.inj h).symm⟩
      | leaving item lock => exact ⟨_, _, rfl, .left, (Option.some.inj h).symm⟩
      | stopped => cases h
      | crashed => cases h

/-- Every turn can be taken by a worker that is where the turn begins. -/
theorem Turn.step?_eq {old new : Activity} {rest : Pool σ} (h : Turn g worker p old new rest)
    (hworker : p.workers[worker]? = some old) :
    p.step? g worker = some (rest.become worker new) := by
  unfold step?
  rw [hworker]
  cases h with
  | sought hfree =>
      dsimp only
      rw [hfree]
      rfl
  | took hold hqueue =>
      rcases hold with rfl | rfl
      · dsimp only
        rw [hqueue]
        rfl
      · dsimp only
        rw [hqueue]
        rfl
  | stopped hold hqueue =>
      rcases hold with ⟨rfl, hclosed⟩ | rfl
      · simp [hqueue, hclosed, stop]
      · simp [hqueue, stop]
  | warned hqueue hopen hcancelled => simp [hqueue, hopen, hcancelled]
  | opened => rfl
  | entered henter =>
      dsimp only
      rw [henter]
      rfl
  | @advanced item lock stage next world hstep hnext =>
      dsimp only
      rw [hstep]
      cases next with
      | finished _ | crashed => cases hnext
      | _ => rfl
  | finished hstep | crashed hstep =>
      dsimp only
      rw [hstep]
  | left => rfl

end Pool

end FileChat.Worker
