/-
# A pool that is told to stop

Each worker finds out for itself that the pool was cancelled or the queue closed, before it has the
receiving end of the queue or while it waits with it, and stops when it finds the queue empty then.
A journal of what was queued and what each worker did shows that nothing gets lost on the way out:
what was queued before the cancellation is taken in order before anybody stops, and whoever took a
session answers it, once, before stopping.
-/

import Mathlib.Logic.Relation
import FileChat.Proofs.Worker.Effort

namespace FileChat.Worker

open Session

variable {σ : Type}

/-- What happens to a pool, as far as its queue is concerned. -/
inductive Occurrence
  /-- A session was queued. -/
  | sent (item : WorkItem)
  | closed
  | cancelled
  /-- A worker took a session from the queue. -/
  | taken (worker : Nat) (item : WorkItem)
  /-- A worker began with a session. -/
  | begun (worker : Nat) (item : WorkItem)
  /-- A worker was done with a session. -/
  | ended (worker : Nat) (item : WorkItem)
  | exited (worker : Nat)
  deriving DecidableEq

namespace Occurrence

def sent? : Occurrence → Option WorkItem
  | .sent item => some item
  | _ => none

def taken? : Occurrence → Option WorkItem
  | .taken _ item => some item
  | _ => none

def takenBy? (i : Nat) : Occurrence → Option WorkItem
  | .taken worker item => if worker = i then some item else none
  | _ => none

def begunBy? (i : Nat) : Occurrence → Option WorkItem
  | .begun worker item => if worker = i then some item else none
  | _ => none

def endedBy? (i : Nat) : Occurrence → Option WorkItem
  | .ended worker item => if worker = i then some item else none
  | _ => none

/-- What happens when a worker goes from one activity to the next. -/
def ofTurn? (worker : Nat) : Activity → Activity → Option Occurrence
  | .opening item, _ => some (.begun worker item)
  | .leaving item _, _ => some (.ended worker item)
  | _, .opening item => some (.taken worker item)
  | _, .stopped => some (.exited worker)
  | _, _ => none

end Occurrence

namespace Activity

/-- The session that a worker has taken and not begun with. -/
def fresh? : Activity → Option WorkItem
  | .opening item => some item
  | _ => none

/-- The session that a worker has begun with and is not done with. -/
def current? : Activity → Option WorkItem
  | .entering item _ => some item
  | .working item _ _ => some item
  | .leaving item _ => some item
  | _ => none

end Activity

/-- A pool with what happened to it, in order. -/
structure Journal (σ : Type) where
  pool : Pool σ
  log : List Occurrence

namespace Journal

/-- The sessions that were queued. -/
def sent (log : List Occurrence) : List WorkItem := log.filterMap Occurrence.sent?

/-- The sessions that were queued before the first cancellation. -/
def early (log : List Occurrence) : List WorkItem := sent (log.takeWhile (· ≠ .cancelled))

/-- The sessions that were taken from the queue, by whomever. -/
def taken (log : List Occurrence) : List WorkItem := log.filterMap Occurrence.taken?

/-- The sessions that one worker took from the queue. -/
def takenBy (i : Nat) (log : List Occurrence) : List WorkItem :=
  log.filterMap (Occurrence.takenBy? i)

/-- The sessions that one worker began with. -/
def begunBy (i : Nat) (log : List Occurrence) : List WorkItem :=
  log.filterMap (Occurrence.begunBy? i)

/-- The sessions that one worker was done with. -/
def endedBy (i : Nat) (log : List Occurrence) : List WorkItem :=
  log.filterMap (Occurrence.endedBy? i)

/-- Nothing has happened. -/
def start (workers : Nat) (world : World σ) : Journal σ := ⟨Pool.start workers world, []⟩

/-- What can happen next, as long as no worker goes down. -/
inductive Step (g : Generator σ) (j : Journal σ) : Journal σ → Prop
  /-- A worker goes on. -/
  | worked (worker : Nat) {old new : Activity} {after : Pool σ}
      (hold : j.pool.workers[worker]? = some old) (hstep : j.pool.step? g worker = some after)
      (hnew : after.workers[worker]? = some new) (hlives : new ≠ .crashed) :
      Step g j ⟨after, j.log ++ (Occurrence.ofTurn? worker old new).toList⟩
  /-- A session is queued. -/
  | sent (item : WorkItem) (hopen : j.pool.closed = false) :
      Step g j ⟨j.pool.enqueue item, j.log ++ [.sent item]⟩
  | closed : Step g j ⟨{ j.pool with closed := true }, j.log ++ [.closed]⟩
  | cancelled : Step g j ⟨{ j.pool with cancelled := true }, j.log ++ [.cancelled]⟩
  /-- Something else happens in the world. -/
  | altered (world : World σ) : Step g j ⟨{ j.pool with world }, j.log⟩

section Log

variable {log more : List Occurrence} {i : Nat}

theorem sent_append (log more : List Occurrence) : sent (log ++ more) = sent log ++ sent more :=
  List.filterMap_append

theorem taken_append (log more : List Occurrence) : taken (log ++ more) = taken log ++ taken more :=
  List.filterMap_append

theorem takenBy_append (i : Nat) (log more : List Occurrence) :
    takenBy i (log ++ more) = takenBy i log ++ takenBy i more := List.filterMap_append

theorem begunBy_append (i : Nat) (log more : List Occurrence) :
    begunBy i (log ++ more) = begunBy i log ++ begunBy i more := List.filterMap_append

theorem endedBy_append (i : Nat) (log more : List Occurrence) :
    endedBy i (log ++ more) = endedBy i log ++ endedBy i more := List.filterMap_append

/-- What was queued early was queued first. -/
theorem early_prefix (log : List Occurrence) : early log <+: sent log :=
  (List.takeWhile_prefix _).filterMap _

/-- After a cancellation nothing is early any more. -/
theorem early_append_of_mem (h : .cancelled ∈ log) (more : List Occurrence) :
    early (log ++ more) = early log := by
  have hshort : (log.takeWhile (· ≠ .cancelled)).length ≠ log.length := by
    intro hlength
    rw [← (List.takeWhile_prefix _).eq_of_length hlength] at h
    have hother := List.all_eq_true.mp List.all_takeWhile _ h
    simp at hother
  rw [early, List.takeWhile_append, if_neg hshort, early]

/-- What happens besides queueing makes nothing early. -/
theorem early_append_of_sent (h : sent more = []) (log : List Occurrence) :
    early (log ++ more) = early log := by
  have hnone : sent (more.takeWhile (· ≠ .cancelled)) = [] :=
    List.prefix_nil.mp (h ▸ early_prefix more)
  rw [early, List.takeWhile_append]
  split
  · next hlength =>
      rw [sent_append, hnone, List.append_nil, early,
        (List.takeWhile_prefix _).eq_of_length hlength]
  · rfl

end Log

/-- What holds of every journal of a pool. -/
structure Kept (workers : Nat) (j : Journal σ) : Prop where
  guarded : j.pool.Guarded
  staffed : j.pool.workers.length = workers
  alive : .crashed ∉ j.pool.workers
  receiver {i : Nat} : j.pool.receiver = some i →
    ∃ activity, j.pool.workers[i]? = some activity ∧ activity.isTaking = true
  closed : j.pool.closed = true ↔ .closed ∈ j.log
  cancelled : j.pool.cancelled = true ↔ .cancelled ∈ j.log
  draining : .draining ∈ j.pool.workers → .cancelled ∈ j.log
  /-- What was queued was taken in order or is still queued. -/
  fifo : taken j.log ++ j.pool.queue = sent j.log
  /-- What a worker took it has begun with, or will begin with next. -/
  begun (i : Nat) :
    takenBy i j.log = begunBy i j.log ++ (j.pool.workers[i]?.bind Activity.fresh?).toList
  /-- What a worker began with it is done with, or it is at it. -/
  ended (i : Nat) :
    begunBy i j.log = endedBy i j.log ++ (j.pool.workers[i]?.bind Activity.current?).toList
  /-- Nobody stops unless told to, and nothing that was queued early is left in the queue then. -/
  exited {i : Nat} : .exited i ∈ j.log →
    (.cancelled ∈ j.log ∨ .closed ∈ j.log) ∧ early j.log <+: taken j.log
  stopped : .stopped ∈ j.pool.workers → ∃ i, .exited i ∈ j.log

section Turn

variable {g : Generator σ} {worker i : Nat} {p rest : Pool σ} {old new : Activity}
  {occurrence : Occurrence}

/-- A turn of a worker takes from the front of the queue what it says to take. -/
theorem taken_ofTurn? (h : Pool.Turn g worker p old new rest) :
    taken (Occurrence.ofTurn? worker old new).toList ++ rest.queue = p.queue := by
  cases h with
  | sought => split <;> rfl
  | took hold hqueue =>
      rw [hqueue]
      rcases hold with rfl | rfl
      · rfl
      · rfl
  | stopped hold =>
      rcases hold with ⟨rfl, -⟩ | rfl
      · rfl
      · rfl
  | warned | opened | entered | advanced | finished | crashed | left => rfl

/-- What happens in a turn is what the worker itself did. -/
theorem mem_ofTurn? (h : occurrence ∈ (Occurrence.ofTurn? worker old new).toList) :
    (∃ item, occurrence = .taken worker item) ∨ (∃ item, occurrence = .begun worker item) ∨
      (∃ item, occurrence = .ended worker item) ∨
      occurrence = .exited worker ∧ new = .stopped := by
  rw [Option.mem_toList] at h
  unfold Occurrence.ofTurn? at h
  split at h
  all_goals cases h
  · exact .inr (.inl ⟨_, rfl⟩)
  · exact .inr (.inr (.inl ⟨_, rfl⟩))
  · exact .inl ⟨_, rfl⟩
  · exact .inr (.inr (.inr ⟨rfl, rfl⟩))

/-- A worker begins with what it took. -/
theorem begunBy_ofTurn? (h : Pool.Turn g worker p old new rest) (hlives : new ≠ .crashed) :
    old.fresh?.toList ++ takenBy worker (Occurrence.ofTurn? worker old new).toList =
      begunBy worker (Occurrence.ofTurn? worker old new).toList ++ new.fresh?.toList := by
  cases h with
  | sought => split <;> rfl
  | @took _ item _ hold =>
      have hown : Occurrence.takenBy? worker (.taken worker item) = some item := if_pos rfl
      rcases hold with rfl | rfl
      · exact List.filterMap_cons_some hown
      · exact List.filterMap_cons_some hown
  | stopped hold => rcases hold with ⟨rfl, -⟩ | rfl <;> rfl
  | @opened item =>
      have hown : Occurrence.begunBy? worker (.begun worker item) = some item := if_pos rfl
      show [item] = List.filterMap (Occurrence.begunBy? worker) [.begun worker item] ++ []
      rw [List.filterMap_cons_some hown]
      rfl
  | crashed => exact absurd rfl hlives
  | warned | entered | advanced | finished | left => rfl

/-- A worker is done with what it began with. -/
theorem endedBy_ofTurn? (h : Pool.Turn g worker p old new rest) (hlives : new ≠ .crashed) :
    old.current?.toList ++ begunBy worker (Occurrence.ofTurn? worker old new).toList =
      endedBy worker (Occurrence.ofTurn? worker old new).toList ++ new.current?.toList := by
  cases h with
  | sought => split <;> rfl
  | took hold => rcases hold with rfl | rfl <;> rfl
  | stopped hold => rcases hold with ⟨rfl, -⟩ | rfl <;> rfl
  | @opened item =>
      have hown : Occurrence.begunBy? worker (.begun worker item) = some item := if_pos rfl
      exact List.filterMap_cons_some hown
  | @left item _ =>
      have hown : Occurrence.endedBy? worker (.ended worker item) = some item := if_pos rfl
      show [item] = List.filterMap (Occurrence.endedBy? worker) [.ended worker item] ++ []
      rw [List.filterMap_cons_some hown]
      rfl
  | crashed => exact absurd rfl hlives
  | warned | entered | advanced | finished => rfl

/-- Only a worker of a pool that was cancelled drains the queue. -/
theorem cancelled_of_draining (h : Pool.Turn g worker p old new rest) (hnew : new = .draining) :
    p.cancelled = true := by
  cases h with
  | sought =>
      by_contra hcancelled
      rw [if_neg hcancelled] at hnew
      cases hnew
  | warned _ _ hcancelled => exact hcancelled
  | _ => cases hnew

/-- A worker stops when it was told to and finds the queue empty. -/
theorem of_stopped (h : Pool.Turn g worker p old new rest) (hnew : new = .stopped) :
    (old = .receiving ∧ p.closed = true ∨ old = .draining) ∧ p.queue = [] ∧
      Occurrence.ofTurn? worker old new = some (.exited worker) := by
  cases h with
  | sought => split at hnew <;> cases hnew
  | stopped hold hqueue =>
      refine ⟨hold, hqueue, ?_⟩
      rcases hold with ⟨rfl, -⟩ | rfl
      · rfl
      · rfl
  | _ => cases hnew

/-- What a worker does is not what another one does. -/
theorem by_ofTurn?_of_ne (hi : i ≠ worker) (old new : Activity) :
    takenBy i (Occurrence.ofTurn? worker old new).toList = [] ∧
      begunBy i (Occurrence.ofTurn? worker old new).toList = [] ∧
      endedBy i (Occurrence.ofTurn? worker old new).toList = [] := by
  have hne : ¬ worker = i := Ne.symm hi
  cases happened : Occurrence.ofTurn? worker old new with
  | none => exact ⟨rfl, rfl, rfl⟩
  | some occurrence =>
      have hmem : occurrence ∈ (Occurrence.ofTurn? worker old new).toList := by
        rw [happened]
        exact List.mem_singleton_self occurrence
      rcases mem_ofTurn? hmem with ⟨item, rfl⟩ | ⟨item, rfl⟩ | ⟨item, rfl⟩ | ⟨rfl, -⟩
      · exact ⟨List.filterMap_cons_none (if_neg hne), rfl, rfl⟩
      · exact ⟨rfl, List.filterMap_cons_none (if_neg hne), rfl⟩
      · exact ⟨rfl, rfl, List.filterMap_cons_none (if_neg hne)⟩
      · exact ⟨rfl, rfl, rfl⟩

/-- A worker stops only itself. -/
theorem of_exited_mem_ofTurn? (h : .exited i ∈ (Occurrence.ofTurn? worker old new).toList) :
    new = .stopped := by
  rcases mem_ofTurn? h with ⟨_, hother⟩ | ⟨_, hother⟩ | ⟨_, hother⟩ | ⟨-, hnew⟩
  · cases hother
  · cases hother
  · cases hother
  · exact hnew

/-- A worker neither cancels the pool nor closes the queue. -/
theorem not_mem_ofTurn? (hflag : occurrence = .closed ∨ occurrence = .cancelled) :
    occurrence ∉ (Occurrence.ofTurn? worker old new).toList := by
  intro hown
  rcases mem_ofTurn? hown with ⟨item, rfl⟩ | ⟨item, rfl⟩ | ⟨item, rfl⟩ | ⟨rfl, -⟩ <;>
    simp at hflag

/-- After a turn everybody but the worker is at what they were at. -/
theorem mem_workers_become (h : Pool.Turn g worker p old new rest) {activity : Activity}
    (hactivity : activity ∈ (rest.become worker new).workers) :
    activity = new ∨ activity ∈ p.workers := by
  obtain ⟨i, hi⟩ := List.getElem?_of_mem hactivity
  rcases Pool.getElem?_become hi with ⟨-, rfl⟩ | ⟨-, hother⟩
  · exact .inl rfl
  · exact .inr (h.workers_eq ▸ List.mem_of_getElem? hother)

/-- A worker queues nothing. -/
theorem sent_ofTurn? (worker : Nat) (old new : Activity) :
    sent (Occurrence.ofTurn? worker old new).toList = [] := by
  apply List.filterMap_eq_nil_iff.mpr
  intro occurrence h
  rcases mem_ofTurn? h with ⟨item, rfl⟩ | ⟨item, rfl⟩ | ⟨item, rfl⟩ | ⟨rfl, -⟩ <;> rfl

end Turn

section Invariant

variable {g : Generator σ} {workers : Nat} {j after : Journal σ}

theorem kept_start (workers : Nat) (world : World σ) : Kept workers (start workers world) := by
  have hidle {activity : Activity} (h : activity ∈ (Pool.start workers world).workers) :
      activity = .seeking := (List.mem_replicate.mp h).2
  have hnone (i : Nat) (f : Activity → Option WorkItem) (hf : f .seeking = none) :
      (Pool.start workers world).workers[i]?.bind f = none := by
    cases hi : (Pool.start workers world).workers[i]? with
    | none => rfl
    | some activity =>
        obtain rfl := hidle (List.mem_of_getElem? hi)
        exact hf
  constructor
  · exact Pool.guarded_start workers world
  · exact List.length_replicate
  · exact fun h => by cases hidle h
  · exact fun h => by cases h
  · exact iff_of_false (by nofun) (by nofun)
  · exact iff_of_false (by nofun) (by nofun)
  · exact fun h => by cases hidle h
  · rfl
  · intro i
    show [] = [] ++ ((Pool.start workers world).workers[i]?.bind Activity.fresh?).toList
    rw [hnone i _ rfl]
    rfl
  · intro i
    show [] = [] ++ ((Pool.start workers world).workers[i]?.bind Activity.current?).toList
    rw [hnone i _ rfl]
    rfl
  · exact fun h => by cases h
  · exact fun h => by cases hidle h

namespace Kept

variable (h : Kept workers j)

include h

/-- Whoever stops was told to and finds that everything queued early has been taken. -/
theorem exited_of_worked {worker : Nat} {old new : Activity} {rest : Pool σ}
    (hworker : j.pool.workers[worker]? = some old)
    (hturn : Pool.Turn g worker j.pool old new rest) {i : Nat}
    (hexited : .exited i ∈ j.log ++ (Occurrence.ofTurn? worker old new).toList) :
    (.cancelled ∈ j.log ∨ .closed ∈ j.log) ∧ early j.log <+: taken j.log := by
  rcases List.mem_append.mp hexited with hbefore | hnow
  · exact h.exited hbefore
  · obtain ⟨hold, hqueue, -⟩ := of_stopped hturn (of_exited_mem_ofTurn? hnow)
    have hall := h.fifo
    rw [hqueue, List.append_nil] at hall
    refine ⟨?_, hall ▸ early_prefix j.log⟩
    rcases hold with ⟨-, hclosed⟩ | rfl
    · exact .inr (h.closed.mp hclosed)
    · exact .inl (h.draining (List.mem_of_getElem? hworker))

/-- A worker goes on. -/
theorem of_worked {worker : Nat} {old new : Activity} {rest : Pool σ}
    (hworker : j.pool.workers[worker]? = some old)
    (hturn : Pool.Turn g worker j.pool old new rest)
    (hguarded : (rest.become worker new).Guarded) (hlives : new ≠ .crashed) :
    Kept workers
      ⟨rest.become worker new, j.log ++ (Occurrence.ofTurn? worker old new).toList⟩ := by
  have hsent := sent_ofTurn? worker old new
  have hself := hturn.getElem?_become_self hworker
  constructor
  · exact hguarded
  · rw [← h.staffed, ← hturn.workers_eq]
    exact List.length_set
  · intro hcrashed
    rcases mem_workers_become hturn hcrashed with hnew | hbefore
    · exact hlives hnew.symm
    · exact h.alive hbefore
  · exact hturn.exists_taking hworker h.receiver
  · rw [List.mem_append, or_iff_left (not_mem_ofTurn? (.inl rfl)), ← h.closed, ← hturn.closed_eq]
    rfl
  · rw [List.mem_append, or_iff_left (not_mem_ofTurn? (.inr rfl)), ← h.cancelled,
      ← hturn.cancelled_eq]
    rfl
  · intro hdraining
    apply List.mem_append_left
    rcases mem_workers_become hturn hdraining with hnew | hbefore
    · exact h.cancelled.mp (cancelled_of_draining hturn hnew.symm)
    · exact h.draining hbefore
  · show taken (j.log ++ _) ++ rest.queue = sent (j.log ++ _)
    rw [taken_append, List.append_assoc, taken_ofTurn? hturn, h.fifo, sent_append, hsent,
      List.append_nil]
  · intro i
    rw [takenBy_append, begunBy_append, h.begun]
    by_cases hi : i = worker
    · subst hi
      rw [hself, hworker, List.append_assoc, Option.bind_some, Option.bind_some,
        begunBy_ofTurn? hturn hlives, List.append_assoc]
    · obtain ⟨htaken, hbegun, -⟩ := by_ofTurn?_of_ne hi old new
      rw [htaken, hbegun, hturn.getElem?_become_of_ne hi, List.append_nil, List.append_nil]
  · intro i
    rw [begunBy_append, endedBy_append, h.ended]
    by_cases hi : i = worker
    · subst hi
      rw [hself, hworker, List.append_assoc, Option.bind_some, Option.bind_some,
        endedBy_ofTurn? hturn hlives, List.append_assoc]
    · obtain ⟨-, hbegun, hended⟩ := by_ofTurn?_of_ne hi old new
      rw [hbegun, hended, hturn.getElem?_become_of_ne hi, List.append_nil, List.append_nil]
  · intro i hexited
    rw [early_append_of_sent hsent, taken_append, List.mem_append, List.mem_append]
    obtain ⟨htold, hearly⟩ := h.exited_of_worked hworker hturn hexited
    exact ⟨htold.imp .inl .inl, hearly.trans (List.prefix_append _ _)⟩
  · intro hstopped
    rcases mem_workers_become hturn hstopped with hnew | hbefore
    · obtain ⟨-, -, hexited⟩ := of_stopped hturn hnew.symm
      exact ⟨worker, List.mem_append_right _ (by rw [hexited]; exact List.mem_singleton_self _)⟩
    · obtain ⟨i, hi⟩ := h.stopped hbefore
      exact ⟨i, List.mem_append_left _ hi⟩

/-- Something happens that is not a worker's doing. -/
theorem of_outside {pool : Pool σ} {more : List Occurrence}
    (hworkers : pool.workers = j.pool.workers) (hlocks : pool.locks = j.pool.locks)
    (hreceiver : pool.receiver = j.pool.receiver)
    (hmore : ∀ occurrence ∈ more, (∃ item, occurrence = .sent item) ∨ occurrence = .closed ∨
      occurrence = .cancelled)
    (hqueue : pool.queue = j.pool.queue ++ sent more)
    (hclosed : pool.closed = true ↔ .closed ∈ j.log ++ more)
    (hcancelled : pool.cancelled = true ↔ .cancelled ∈ j.log ++ more)
    (hopen : j.pool.closed = true → sent more = []) : Kept workers ⟨pool, j.log ++ more⟩ := by
  have hnone (f : Occurrence → Option WorkItem) (hsent : ∀ item, f (.sent item) = none)
      (hclosed : f .closed = none) (hcancelled : f .cancelled = none) : more.filterMap f = [] := by
    apply List.filterMap_eq_nil_iff.mpr
    intro occurrence hoccurrence
    rcases hmore occurrence hoccurrence with ⟨item, rfl⟩ | rfl | rfl
    · exact hsent item
    · exact hclosed
    · exact hcancelled
  have htaken : taken more = [] := hnone _ (fun _ => rfl) rfl rfl
  have hexited {i : Nat} (hi : .exited i ∈ j.log ++ more) : .exited i ∈ j.log := by
    rcases List.mem_append.mp hi with hbefore | hnow
    · exact hbefore
    · rcases hmore _ hnow with ⟨item, h⟩ | h | h <;> cases h
  constructor
  · exact h.guarded.of_eq hworkers hlocks
  · exact hworkers ▸ h.staffed
  · exact hworkers ▸ h.alive
  · intro i hi
    dsimp only at hi ⊢
    rw [hworkers]
    exact h.receiver (hreceiver ▸ hi)
  · exact hclosed
  · exact hcancelled
  · intro hdraining
    exact List.mem_append_left _ (h.draining (hworkers ▸ hdraining))
  · dsimp only
    rw [taken_append, htaken, List.append_nil, hqueue, ← List.append_assoc, h.fifo, sent_append]
  · intro i
    have htakenBy : takenBy i more = [] := hnone _ (fun _ => rfl) rfl rfl
    have hbegunBy : begunBy i more = [] := hnone _ (fun _ => rfl) rfl rfl
    rw [takenBy_append, begunBy_append, htakenBy, hbegunBy, List.append_nil, List.append_nil,
      hworkers, h.begun]
  · intro i
    have hbegunBy : begunBy i more = [] := hnone _ (fun _ => rfl) rfl rfl
    have hendedBy : endedBy i more = [] := hnone _ (fun _ => rfl) rfl rfl
    rw [begunBy_append, endedBy_append, hbegunBy, hendedBy, List.append_nil, List.append_nil,
      hworkers, h.ended]
  · intro i hi
    obtain ⟨htold, hearly⟩ := h.exited (hexited hi)
    have hsame : early (j.log ++ more) = early j.log := by
      rcases htold with hcancelled | hclosed
      · exact early_append_of_mem hcancelled more
      · exact early_append_of_sent (hopen (h.closed.mpr hclosed)) j.log
    rw [hsame, taken_append, htaken, List.append_nil]
    exact ⟨htold.imp (List.mem_append_left _) (List.mem_append_left _), hearly⟩
  · intro hstopped
    obtain ⟨i, hi⟩ := h.stopped (hworkers ▸ hstopped)
    exact ⟨i, List.mem_append_left _ hi⟩

omit h in
/-- Whatever happens next, the journal is kept. -/
theorem of_step (h : Kept workers j) (hstep : Step g j after) : Kept workers after := by
  cases hstep with
  | worked worker hold hstep hnew hlives =>
      have hguarded := h.guarded.of_step? hstep
      obtain ⟨old', new', rest, hworker, hturn, rfl⟩ := Pool.exists_turn hstep
      obtain rfl := Option.some.inj (hworker.symm.trans hold)
      obtain rfl := Option.some.inj ((hturn.getElem?_become_self hworker).symm.trans hnew)
      exact h.of_worked hworker hturn hguarded hlives
  | sent item hopen =>
      refine h.of_outside rfl rfl rfl ?_ rfl ?_ ?_ ?_
      · simp
      · simp [Pool.enqueue, h.closed]
      · simp [Pool.enqueue, h.cancelled]
      · simp [hopen]
  | closed =>
      refine h.of_outside rfl rfl rfl ?_ (List.append_nil _).symm ?_ ?_ fun _ => rfl
      · simp
      · simp
      · simp [h.cancelled]
  | cancelled =>
      refine h.of_outside rfl rfl rfl ?_ (List.append_nil _).symm ?_ ?_ fun _ => rfl
      · simp
      · simp [h.closed]
      · simp
  | altered world =>
      have hkept : Kept workers ⟨{ j.pool with world }, j.log ++ []⟩ := by
        refine h.of_outside rfl rfl rfl ?_ (List.append_nil _).symm ?_ ?_ fun _ => rfl
        · simp
        · simp [h.closed]
        · simp [h.cancelled]
      rwa [List.append_nil] at hkept

/-- Nobody waits with the receiving end of the queue when a pool that was told to stop is at
rest. -/
theorem not_isTaking_of_isStuck (htold : .cancelled ∈ j.log ∨ .closed ∈ j.log)
    (hstuck : j.pool.IsStuck g) {i : Nat} {activity : Activity}
    (hworker : j.pool.workers[i]? = some activity) : activity.isTaking ≠ true := by
  intro htakes
  cases hqueue : j.pool.queue with
  | cons item later =>
      cases activity with
      | receiving => exact hstuck.not_turn hworker (.took (.inl rfl) hqueue)
      | draining => exact hstuck.not_turn hworker (.took (.inr rfl) hqueue)
      | _ => cases htakes
  | nil =>
      cases activity with
      | receiving =>
          cases hclosed : j.pool.closed with
          | true => exact hstuck.not_turn hworker (.stopped (.inl ⟨rfl, hclosed⟩) hqueue)
          | false =>
              have hcancelled : j.pool.cancelled = true := by
                rcases htold with hcancelled | hclose
                · exact h.cancelled.mpr hcancelled
                · rw [h.closed.mpr hclose] at hclosed
                  cases hclosed
              exact hstuck.not_turn hworker (.warned hqueue hclosed hcancelled)
      | draining => exact hstuck.not_turn hworker (.stopped (.inr rfl) hqueue)
      | _ => cases htakes

/-- A pool that was told to stop is at rest only when all of its workers have stopped. -/
theorem eq_stopped_of_isStuck (htold : .cancelled ∈ j.log ∨ .closed ∈ j.log)
    (hstuck : j.pool.IsStuck g) {activity : Activity} (hactivity : activity ∈ j.pool.workers) :
    activity = .stopped := by
  obtain ⟨i, hi⟩ := List.getElem?_of_mem hactivity
  have hnone := hstuck.item?_eq h.guarded hactivity
  cases activity with
  | seeking =>
      cases hreceiver : j.pool.receiver with
      | none => exact absurd (.sought (by rw [hreceiver]; rfl)) (hstuck.not_turn hi)
      | some holder =>
          obtain ⟨other, hother, htakes⟩ := h.receiver hreceiver
          exact absurd htakes (h.not_isTaking_of_isStuck htold hstuck hother)
  | receiving | draining => exact absurd rfl (h.not_isTaking_of_isStuck htold hstuck hi)
  | stopped => rfl
  | crashed => exact absurd hactivity h.alive
  | opening | entering | working | leaving => cases hnone

end Kept

end Invariant

/-- However many workers there are, whatever is queued, whenever the pool is cancelled, and however
the steps interleave: what is queued is taken in order, each session that is taken is begun with
and ended once, by the worker that took it, and nobody stops unless told to. By the time somebody
stops, everything that was queued before the cancellation has been taken, and by the time all have
stopped it has been answered. Every step of a worker is one thing less to do, and a pool that was
told to stop comes to rest only when all have stopped. -/
theorem drained {g : Generator σ} {workers : Nat} {world : World σ} {j : Journal σ}
    (hrun : Relation.ReflTransGen (Step g) (start workers world) j) :
    taken j.log ++ j.pool.queue = sent j.log ∧
    (∀ i, takenBy i j.log = begunBy i j.log ++ (j.pool.workers[i]?.bind Activity.fresh?).toList ∧
      begunBy i j.log = endedBy i j.log ++
        (j.pool.workers[i]?.bind Activity.current?).toList) ∧
    (∀ i, .exited i ∈ j.log →
      (.cancelled ∈ j.log ∨ .closed ∈ j.log) ∧ early j.log <+: taken j.log) ∧
    (0 < workers → (∀ activity ∈ j.pool.workers, activity.isOver = true) →
      early j.log <+: taken j.log ∧
        ∀ i, takenBy i j.log = begunBy i j.log ∧ begunBy i j.log = endedBy i j.log) ∧
    (.cancelled ∈ j.log ∨ .closed ∈ j.log → j.pool.IsStuck g →
      ∀ activity ∈ j.pool.workers, activity = .stopped) ∧
    ∀ worker after, j.pool.step? g worker = some after → after.effort < j.pool.effort := by
  have hkept : Kept workers j := by
    induction hrun with
    | refl => exact kept_start workers world
    | tail _ hstep ih => exact ih.of_step hstep
  refine ⟨hkept.fifo, fun i => ⟨hkept.begun i, hkept.ended i⟩, fun i => hkept.exited, ?_,
    fun htold hstuck activity => hkept.eq_stopped_of_isStuck htold hstuck,
    fun worker after => Pool.effort_lt_of_step?⟩
  intro hstaffed hover
  have hstopped : ∀ activity ∈ j.pool.workers, activity = .stopped := by
    intro activity hactivity
    have hover := hover activity hactivity
    cases activity with
    | stopped => rfl
    | crashed => exact absurd hactivity hkept.alive
    | _ => cases hover
  have hnone (f : Activity → Option WorkItem) (hf : f .stopped = none) (i : Nat) :
      j.pool.workers[i]?.bind f = none := by
    cases hi : j.pool.workers[i]? with
    | none => rfl
    | some activity =>
        obtain rfl := hstopped activity (List.mem_of_getElem? hi)
        exact hf
  refine ⟨?_, fun i => ⟨?_, ?_⟩⟩
  · rw [← hkept.staffed] at hstaffed
    obtain ⟨activity, hactivity⟩ := List.exists_mem_of_length_pos hstaffed
    obtain ⟨i, hi⟩ := hkept.stopped (hstopped activity hactivity ▸ hactivity)
    exact (hkept.exited hi).2
  · rw [hkept.begun, hnone _ rfl, Option.toList_none, List.append_nil]
  · rw [hkept.ended, hnone _ rfl, Option.toList_none, List.append_nil]

/-- One session is queued before the cancellation, one worker takes it, and the other stops. -/
theorem drained_of_two_workers : ∃ j : Journal (List DryRun.Record),
    Relation.ReflTransGen (Step (rehearsal .echo))
      (start 2 (.start (FileSystem.withFile "a" (Utf8.encode "User: hi\n")) [])) j ∧
    .exited 1 ∈ j.log ∧ early j.log = [itemOf "/s" "a"] ∧ early j.log <+: taken j.log := by
  have h1 : Relation.ReflTransGen (Step (rehearsal .echo))
      (start 2 (.start (FileSystem.withFile "a" (Utf8.encode "User: hi\n")) [])) _ :=
    .single (.sent (itemOf "/s" "a") rfl)
  have h2 := h1.tail .cancelled
  have h3 := h2.tail (.worked 0 rfl rfl rfl (by nofun))
  have h4 := h3.tail (.worked 0 rfl rfl rfl (by nofun))
  have h5 := h4.tail (.worked 1 rfl rfl rfl (by nofun))
  have h6 := h5.tail (.worked 1 rfl rfl rfl (by nofun))
  refine ⟨_, h6, ?_, rfl, ?_⟩
  · decide
  · exact ((drained h6).2.2.1 1 (by decide)).2

end Journal

end FileChat.Worker
