/-
# How much work is left

Every step takes a worker nearer to the end of what it is at, and what is at the head of the
queue is as much work as it takes to answer it, so a pool whose queue nobody fills comes to rest.
It does not come to rest before the queue is empty and nobody has a session in progress: whoever
waits for a lock waits for a worker that can go on, and the receiving end of the queue is always
free or in the hands of a worker that takes what is there.
-/

import FileChat.Proofs.Worker.Due
import FileChat.Proofs.Worker.Exclusion

namespace FileChat.Worker

open Session

variable {σ : Type}

/-- How many steps of answering a session are left, at most. -/
def Stage.left : Stage → Nat
  | .reading => 5
  | .marking _ => 4
  | .excusing _ => 3
  | .generating _ => 3
  | .recording _ _ => 2
  | .unmarking _ _ => 1
  | .finished _ => 0
  | .crashed => 0

/-- A step at a session that is not over goes on. -/
theorem Stage.left_step_lt (g : Generator σ) (item : WorkItem) {stage : Stage}
    (h : stage.isOver = false) (w : World σ) : (g.step item stage w).1.left < stage.left := by
  unfold Generator.step
  cases stage with
  | reading =>
      dsimp only
      split
      · simp [left]
      · split <;> simp [left]
  | finished _ | crashed => cases h
  | _ =>
      dsimp only
      split <;> simp [left]

/-- What is over stays over. -/
theorem isOver_step (g : Generator σ) (item : WorkItem) {stage : Stage}
    (h : stage.isOver = true) (w : World σ) : (g.step item stage w).1.isOver = true := by
  cases stage with
  | finished _ | crashed => rfl
  | _ => cases h

namespace Activity

/-- How much a worker has to do before it stops if it finds no other session. -/
def effort : Activity → Nat
  | .opening _ => 12
  | .entering _ _ => 11
  | .working _ _ stage => 5 + stage.left
  | .leaving _ _ => 4
  | .seeking => 3
  | .receiving => 2
  | .draining => 1
  | .stopped => 0
  | .crashed => 0

/-- How much some workers have to do together. -/
def efforts : List Activity → Nat
  | [] => 0
  | activity :: others => activity.effort + efforts others

/-- What workers have to do together changes with the one that goes on. -/
theorem efforts_set {workers : List Activity} {i : Nat} {old : Activity}
    (h : workers[i]? = some old) (new : Activity) :
    efforts (workers.set i new) + old.effort = efforts workers + new.effort := by
  induction workers generalizing i with
  | nil => cases h
  | cons first others ih =>
      cases i with
      | zero =>
          obtain rfl := Option.some.inj h
          simp only [List.set_cons_zero, efforts]
          omega
      | succ i =>
          have hothers := ih h
          simp only [List.set_cons_succ, efforts]
          omega

theorem efforts_replicate (n : Nat) (activity : Activity) :
    efforts (List.replicate n activity) = n * activity.effort := by
  induction n with
  | zero => exact (Nat.zero_mul _).symm
  | succ n ih => rw [List.replicate_succ, efforts, ih, Nat.succ_mul, Nat.add_comm]

/-- The worker has the receiving end of the queue. -/
def isTaking : Activity → Bool
  | .receiving => true
  | .draining => true
  | _ => false

end Activity

namespace Pool

variable {g : Generator σ} {worker : Nat} {p after rest : Pool σ} {old new : Activity}

/-- How much all workers have to do, with what is queued. -/
def effort (p : Pool σ) : Nat := Activity.efforts p.workers + 12 * p.queue.length

/-- A turn is one thing less to do. -/
theorem Turn.effort_lt (h : Turn g worker p old new rest) :
    new.effort + 12 * rest.queue.length < old.effort + 12 * p.queue.length := by
  cases h with
  | sought => split <;> simp [Activity.effort]
  | took hold hqueue =>
      rcases hold with rfl | rfl
      · simp [Activity.effort, hqueue]
        omega
      · simp [Activity.effort, hqueue]
        omega
  | stopped hold => rcases hold with ⟨rfl, -⟩ | rfl <;> simp [Activity.effort]
  | @advanced item lock stage next world hstep hnext =>
      have hgoing : stage.isOver = false := by
        by_contra hover
        have hstill := isOver_step g item (Bool.not_eq_false _ ▸ hover) p.world
        rw [hstep, hnext] at hstill
        cases hstill
      have hless := Stage.left_step_lt g item hgoing p.world
      rw [hstep] at hless
      simp only [Activity.effort] at hless ⊢
      omega
  | warned | opened | entered | finished | crashed | left =>
      simp only [Activity.effort, Stage.left]
      omega

/-- A step of a worker is one thing less to do. -/
theorem effort_lt_of_step? (h : p.step? g worker = some after) : after.effort < p.effort := by
  obtain ⟨old, new, rest, hworker, hturn, rfl⟩ := exists_turn h
  have hefforts := Activity.efforts_set hworker new
  have hless := hturn.effort_lt
  rw [effort, effort, become, hturn.workers_eq]
  dsimp only
  omega

/-- Who has the receiving end of the queue takes from it until it lets go. -/
theorem Turn.exists_taking (hturn : Turn g worker p old new rest)
    (hworker : p.workers[worker]? = some old)
    (h : ∀ {i}, p.receiver = some i →
      ∃ activity, p.workers[i]? = some activity ∧ activity.isTaking = true) {i : Nat}
    (hreceiver : (rest.become worker new).receiver = some i) :
    ∃ activity, (rest.become worker new).workers[i]? = some activity ∧
      activity.isTaking = true := by
  have hnow := hturn.getElem?_become_self hworker
  have hkept (hreceiver : p.receiver = some i)
      (hgoes : old.isTaking = true → new.isTaking = true) :
      ∃ activity, (rest.become worker new).workers[i]? = some activity ∧
        activity.isTaking = true := by
    obtain ⟨activity, hi, htaking⟩ := h hreceiver
    by_cases hsame : i = worker
    · subst hsame
      obtain rfl := Option.some.inj (hi.symm.trans hworker)
      exact ⟨new, hnow, hgoes htaking⟩
    · exact ⟨activity, (hturn.getElem?_become_of_ne hsame).trans hi, htaking⟩
  cases hturn with
  | sought =>
      obtain rfl : worker = i := Option.some.inj hreceiver
      refine ⟨_, hnow, ?_⟩
      split <;> rfl
  | took | stopped => cases hreceiver
  | warned => exact hkept hreceiver fun _ => rfl
  | opened | entered | advanced | finished | crashed | left =>
      exact hkept hreceiver fun htaking => by cases htaking

/-- The receiving end of the queue is free or in the hands of a worker that takes from it, nobody
has stopped before the queue was empty, and nobody has gone down or is about to. -/
structure Attended (p : Pool σ) : Prop where
  receiver {i : Nat} :
    p.receiver = some i → ∃ activity, p.workers[i]? = some activity ∧ activity.isTaking = true
  stopped : .stopped ∈ p.workers → p.queue = []
  alive : .crashed ∉ p.workers
  ongoing {item : WorkItem} {lock : Lock} {stage : Stage} :
    .working item lock stage ∈ p.workers → stage.isOver = false

namespace Attended

theorem start (workers : Nat) (world : World σ) : (Pool.start workers world).Attended where
  receiver hnone := by cases hnone
  stopped _ := rfl
  alive hcrashed := by cases (List.mem_replicate.mp hcrashed).2
  ongoing hworking := by cases (List.mem_replicate.mp hworking).2


theorem of_turn (h : p.Attended) (hsteady : g.backend.IsSteady)
    (hworker : p.workers[worker]? = some old) (hturn : Turn g worker p old new rest) :
    (rest.become worker new).Attended := by
  have hold : old ∈ p.workers := List.mem_of_getElem? hworker
  have hmem {activity : Activity} (hactivity : activity ∈ (rest.become worker new).workers) :
      activity = new ∨ activity ∈ p.workers := by
    obtain ⟨i, hi⟩ := List.getElem?_of_mem hactivity
    rcases getElem?_become hi with ⟨-, rfl⟩ | ⟨-, hother⟩
    · exact .inl rfl
    · exact .inr (hturn.workers_eq ▸ List.mem_of_getElem? hother)
  refine ⟨hturn.exists_taking hworker h.receiver, fun hstopped => ?_, fun hcrashed => ?_,
    fun hworking => ?_⟩
  · rcases hmem hstopped with hnew | hbefore
    · cases hturn with
      | sought => split at hnew <;> cases hnew
      | stopped _ hqueue => exact hqueue
      | _ => cases hnew
    · refine List.eq_nil_iff_forall_not_mem.mpr fun item hitem => ?_
      have hqueued := hturn.mem_queue hitem
      rw [h.stopped hbefore] at hqueued
      cases hqueued
  · rcases hmem hcrashed with hnew | hbefore
    · cases hturn with
      | sought => split at hnew <;> cases hnew
      | crashed hstep =>
          exact step_ne_crashed hsteady _ (h.ongoing hold) p.world (congrArg Prod.fst hstep)
      | _ => cases hnew
    · exact h.alive hbefore
  · rcases hmem hworking with hnew | hbefore
    · cases hturn with
      | sought => split at hnew <;> cases hnew
      | entered => exact (Activity.working.inj hnew).2.2 ▸ rfl
      | advanced _ hnext => exact (Activity.working.inj hnew).2.2 ▸ hnext
      | _ => cases hnew
    · exact h.ongoing hbefore

theorem of_step? (h : p.Attended) (hsteady : g.backend.IsSteady)
    (hstep : p.step? g worker = some after) : after.Attended := by
  obtain ⟨old, new, rest, hworker, hturn, rfl⟩ := exists_turn hstep
  exact h.of_turn hsteady hworker hturn

end Attended

section Rest

/-- No worker can take a step. -/
def IsStuck (g : Generator σ) (p : Pool σ) : Prop := ∀ worker, p.step? g worker = none

theorem IsStuck.not_turn (h : p.IsStuck g) (hworker : p.workers[worker]? = some old) :
    ¬ Turn g worker p old new rest := fun hturn => by
  have hstep := hturn.step?_eq hworker
  rw [h worker] at hstep
  cases hstep

/-- A worker that answers a session can go on. -/
theorem IsStuck.isWorking_eq (h : p.IsStuck g) (hactivity : old ∈ p.workers) :
    old.isWorking = false := by
  obtain ⟨worker, hworker⟩ := List.getElem?_of_mem hactivity
  cases old with
  | working item lock stage =>
      cases hstep : g.step item stage p.world with
      | mk next world =>
          cases next with
          | finished result => exact absurd (Turn.finished hstep) (h.not_turn hworker)
          | crashed => exact absurd (Turn.crashed hstep) (h.not_turn hworker)
          | _ => exact absurd (Turn.advanced hstep rfl) (h.not_turn hworker)
  | _ => rfl

/-- Where nobody can go on, nobody has a session in progress: who waits for a lock waits for a
worker that answers a session. -/
theorem IsStuck.item?_eq (h : p.IsStuck g) (hp : p.Guarded) (hactivity : old ∈ p.workers) :
    old.item? = none := by
  obtain ⟨worker, hworker⟩ := List.getElem?_of_mem hactivity
  cases old with
  | opening item => exact absurd .opened (h.not_turn hworker)
  | entering item lock =>
      have hheld : lock ∈ p.locks.held := by
        by_contra hfree
        exact h.not_turn hworker (.entered (if_neg hfree))
      have hcount : 0 < p.workers.countP (·.isInside lock) :=
        hp.held lock ▸ List.count_pos_iff.mpr hheld
      obtain ⟨holder, hholder, hinside⟩ := List.countP_pos_iff.mp hcount
      have hidle := h.isWorking_eq hholder
      cases holder with
      | working => cases hidle
      | _ => cases hinside
  | working item lock stage =>
      exact absurd (h.isWorking_eq hactivity) (by simp [Activity.isWorking])
  | leaving item lock => exact absurd .left (h.not_turn hworker)
  | _ => rfl

/-- Where nobody can go on, nothing is left in the queue. -/
theorem IsStuck.queue_eq (h : p.IsStuck g) (hp : p.Guarded) (hattended : p.Attended)
    (hstaffed : p.workers ≠ []) : p.queue = [] := by
  by_contra hqueue
  obtain ⟨item, later, hqueued⟩ := List.exists_cons_of_ne_nil hqueue
  have htaking {i : Nat} {activity : Activity} (hi : p.workers[i]? = some activity) :
      activity.isTaking ≠ true := by
    intro htakes
    cases activity with
    | receiving => exact h.not_turn hi (.took (.inl rfl) hqueued)
    | draining => exact h.not_turn hi (.took (.inr rfl) hqueued)
    | _ => cases htakes
  obtain ⟨activity, hactivity⟩ := List.exists_mem_of_ne_nil _ hstaffed
  obtain ⟨worker, hworker⟩ := List.getElem?_of_mem hactivity
  have hnone := h.item?_eq hp hactivity
  cases activity with
  | seeking =>
      cases hreceiver : p.receiver with
      | none => exact h.not_turn hworker (.sought (by rw [hreceiver]; rfl))
      | some i =>
          obtain ⟨other, hi, htakes⟩ := hattended.receiver hreceiver
          exact htaking hi htakes
  | receiving | draining => exact htaking hworker rfl
  | stopped => exact hqueue (hattended.stopped hactivity)
  | crashed => exact hattended.alive hactivity
  | opening | entering | working | leaving => cases hnone

/-- Who is not among the workers takes no step. -/
theorem isStuck_of_stepAny?_eq_none (h : p.stepAny? g = none) : p.IsStuck g := by
  intro worker
  rcases Nat.lt_or_ge worker p.workers.length with hlt | hge
  · exact List.findSome?_eq_none_iff.mp h worker (List.mem_range.mpr hlt)
  · rw [step?, List.getElem?_eq_none hge]

theorem exists_of_stepAny?_eq_some (h : p.stepAny? g = some after) :
    ∃ worker, p.step? g worker = some after := by
  obtain ⟨worker, -, hstep⟩ := List.exists_of_findSome?_eq_some h
  exact ⟨worker, hstep⟩

/-- A pool that takes as many steps as there are things to do comes to rest. -/
theorem isStuck_run {fuel : Nat} (hfuel : p.effort ≤ fuel) : (p.run g fuel).IsStuck g := by
  induction fuel generalizing p with
  | zero =>
      intro worker
      by_contra hstep
      obtain ⟨next, hnext⟩ := Option.ne_none_iff_exists'.mp hstep
      exact Nat.not_lt_zero _ (Nat.lt_of_lt_of_le (effort_lt_of_step? hnext) hfuel)
  | succ fuel ih =>
      rw [run]
      cases hany : p.stepAny? g with
      | none => exact isStuck_of_stepAny?_eq_none hany
      | some next =>
          obtain ⟨worker, hstep⟩ := exists_of_stepAny?_eq_some hany
          exact ih (Nat.le_of_lt_succ (Nat.lt_of_lt_of_le (effort_lt_of_step? hstep) hfuel))

end Rest

end Pool

end FileChat.Worker
