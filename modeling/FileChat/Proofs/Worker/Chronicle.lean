/-
# Clients and workers on the same sessions

Clients write turns into sessions, somebody queues sessions as often and in whatever order, and
the workers of a pool answer them, all step by step in any order. Besides the pool a chronicle
keeps what nobody in the program remembers: which content each worker read last, and what was
appended to each session. The record of a session is the file as far as it grew, and each reply
in it was made about something that was once the whole file.
-/

import Mathlib.Logic.Function.Basic
import FileChat.Proofs.Client.Session
import FileChat.Proofs.Worker.Exclusion
import FileChat.Proofs.Worker.Job

namespace FileChat.Worker

open Conversation FileSystem Session

/-- The worker has read its session and has yet to append to it. -/
def Stage.hasRead : Stage → Bool
  | .marking _ => true
  | .excusing _ => true
  | .generating _ => true
  | .recording _ _ => true
  | _ => false

/-- Only who has read a session appends to it. -/
theorem Stage.hasRead_of_appended? {stage next : Stage} {reply : String}
    (h : stage.appended? next = some reply) : stage.hasRead = true := by
  cases stage with
  | marking _ | excusing _ | generating _ | recording _ _ => rfl
  | reading | unmarking _ _ | finished _ | crashed => cases h

/-- Who has read a session after a step has just done so, or had done so before and has not
appended yet. -/
theorem Advances.of_hasRead {σ : Type} {directory : Path} {place : Location} {id : String}
    {w after : World σ} {stage next : Stage} (h : Advances directory place id w stage next after)
    (hread : next.hasRead = true) :
    (∃ text, stage = .reading ∧ next = .marking text ∧
        w.files.readText (Path.join directory id) = .ok text ∧ needsResponse text = true) ∨
      stage.hasRead = true ∧ stage.appended? next = none := by
  cases h with
  | ended hover =>
      cases stage with
      | finished _ | crashed => cases hread
      | _ => cases hover
  | owing htext howed => exact .inl ⟨_, rfl, rfl, htext, howed⟩
  | unmarkable | marked | answered => exact .inr ⟨rfl, rfl⟩
  | unreadable | skipped | crashed | excused | unexcused | recorded | unrecorded | unmarked =>
      cases hread

variable {σ : Type}

/-- A pool with a record of what was read and written. -/
structure Chronicle (σ : Type) where
  pool : Pool σ
  /-- The content that each worker read last. -/
  seen : Nat → String
  /-- What was appended to each session, in order. -/
  log : String → List Posting

namespace Chronicle

/-- The beginning: nothing was read and nothing was appended. -/
def start (workers : Nat) (world : World σ) : Chronicle σ :=
  ⟨Pool.start workers world, fun _ => "", fun _ => []⟩

/-- The record after a step of a worker that answers a session: what it read, and what it
appended. -/
def record (c : Chronicle σ) (worker : Nat) (item : WorkItem) (stage next : Stage) :
    Chronicle σ where
  pool := c.pool
  seen :=
    match stage, next with
    | .reading, .marking content => Function.update c.seen worker content
    | _, _ => c.seen
  log :=
    match stage.appended? next with
    | some reply =>
      Function.update c.log item.id (c.log item.id ++ [.reply reply (c.seen worker)])
    | none => c.log

/-- The record after a step of a worker that was doing something. -/
def observe (g : Generator σ) (c : Chronicle σ) (worker : Nat) : Option Activity → Chronicle σ
  | some (.working item _ stage) =>
    c.record worker item stage (g.step item stage c.pool.world).1
  | _ => c

/-- What can happen next. -/
inductive Step (g : Generator σ) (c : Chronicle σ) : Chronicle σ → Prop
  /-- A worker goes on. -/
  | worked (worker : Nat) {pool : Pool σ} (hstep : c.pool.step? g worker = some pool) :
      Step g c { c.observe g worker c.pool.workers[worker]? with pool }
  /-- A client appends a turn. -/
  | said {id message : String} {options : Client.Options} {session : Client.Session}
      {files : FileSystem} {size : Nat}
      (hsession : Client.Session.at? id g.directory options = .ok session)
      (hsaid : session.appendTurn c.pool.world.files message = .ok (files, size)) :
      Step g c
        { c with
          pool := { c.pool with world := c.pool.world.written session.path files }
          log := Function.update c.log id (c.log id ++ [.turn message]) }
  /-- A session is queued, for whatever reason. -/
  | notified {id : String} (hid : IsSessionName id) :
      Step g c { c with pool := c.pool.enqueue (itemOf g.directory id) }
  | closed : Step g c { c with pool := { c.pool with closed := true } }
  | cancelled : Step g c { c with pool := { c.pool with cancelled := true } }

/-- What can come of a beginning. -/
inductive Reached (g : Generator σ) (begin : Chronicle σ) : Chronicle σ → Prop
  | start : Reached g begin begin
  | step {c after : Chronicle σ} (h : Reached g begin c) (hstep : Step g c after) :
      Reached g begin after

/-- What holds of every chronicle that began with a tree. -/
structure Kept (g : Generator σ) (place : Location) (origin : FileSystem) (c : Chronicle σ) :
    Prop where
  holds : c.pool.world.files.Holds g.directory place
  guarded : c.pool.Guarded
  queued : ∀ item ∈ c.pool.queue, IsItemOf g.directory item
  busy {activity : Activity} {item : WorkItem} :
    activity ∈ c.pool.workers → activity.item? = some item → IsItemOf g.directory item
  /-- The record of a session is what its file grew by. -/
  bytes {id : String} : IsSessionName id → c.pool.world.files.bytesAt (place ++ [id]) =
    origin.bytesAt (place ++ [id]) ++ Utf8.encode (textOf (c.log id))
  answered {id : String} : IsSessionName id → Answered (origin.bytesAt (place ++ [id])) (c.log id)
  /-- A worker that has read its session has a reply to write that is awaited. -/
  awaited {i : Nat} {item : WorkItem} {lock : Lock} {stage : Stage} :
    c.pool.workers[i]? = some (.working item lock stage) → stage.hasRead = true →
      Awaits (origin.bytesAt (place ++ [item.id])) (c.log item.id) (c.seen i)

variable {g : Generator σ} {place : Location} {origin : FileSystem} {c after : Chronicle σ}

theorem kept_start {world : World σ} (h : world.files.Holds g.directory place) (workers : Nat) :
    Kept g place world.files (start workers world) where
  holds := h
  guarded := Pool.guarded_start workers world
  queued _ hitem := by cases hitem
  busy hworker hitem := by
    obtain ⟨-, rfl⟩ := List.mem_replicate.mp hworker
    cases hitem
  bytes _ := by
    rw [start, textOf_nil, Utf8.encode_empty, List.append_nil]
    rfl
  answered _ := .nil
  awaited hworker _ := by
    obtain ⟨-, hactivity⟩ := List.mem_replicate.mp (List.mem_of_getElem? hworker)
    cases hactivity

namespace Kept

/-- What a client does to a session. -/
theorem said (h : Kept g place origin c) {id message : String} {options : Client.Options}
    {session : Client.Session} {files : FileSystem} {size : Nat}
    (hsession : Client.Session.at? id g.directory options = .ok session)
    (hsaid : session.appendTurn c.pool.world.files message = .ok (files, size)) :
    Kept g place origin
      { c with
        pool := { c.pool with world := c.pool.world.written session.path files }
        log := Function.update c.log id (c.log id ++ [.turn message]) } := by
  obtain ⟨hid, hpath⟩ := Client.Session.of_at?_eq_ok hsession
  obtain ⟨hsingle, hgrows⟩ := Client.Session.of_appendTurn_eq_ok h.holds hid hpath hsaid
  refine ⟨hgrows.holds h.holds, h.guarded.of_eq rfl rfl, h.queued, h.busy, ?_, ?_, ?_⟩
  · intro other hother
    by_cases hsame : other = id
    · subst hsame
      dsimp only
      rw [Function.update_self, textOf_append, textOf_singleton, Utf8.encode_append,
        ← List.append_assoc, ← h.bytes hother]
      exact hgrows.bytesAt_eq
    · dsimp only
      rw [Function.update_of_ne hsame, ← h.bytes hother]
      exact bytesAt_of_get?_eq (hgrows.get?_of_ne (by simpa using hsame))
  · intro other hother
    by_cases hsame : other = id
    · subst hsame
      dsimp only
      rw [Function.update_self]
      exact (h.answered hother).turn hsingle
    · dsimp only
      rw [Function.update_of_ne hsame]
      exact h.answered hother
  · intro i item lock stage hworker hread
    have hawaits := h.awaited hworker hread
    by_cases hsame : item.id = id
    · dsimp only
      rw [hsame, Function.update_self]
      exact (hsame ▸ hawaits).append_turn message
    · dsimp only
      rw [Function.update_of_ne hsame]
      exact hawaits

/-- A change of the queue. -/
theorem of_queue (h : Kept g place origin c) {pool : Pool σ}
    (hworld : pool.world = c.pool.world) (hworkers : pool.workers = c.pool.workers)
    (hlocks : pool.locks = c.pool.locks)
    (hqueue : ∀ item ∈ pool.queue, item ∈ c.pool.queue ∨ IsItemOf g.directory item) :
    Kept g place origin { c with pool } where
  holds := hworld ▸ h.holds
  guarded := h.guarded.of_eq hworkers hlocks
  queued item hitem := (hqueue item hitem).elim (h.queued item) fun hnew => hnew
  busy hworker := h.busy (hworkers ▸ hworker)
  bytes hid := hworld ▸ h.bytes hid
  answered := h.answered
  awaited hworker := h.awaited (hworkers ▸ hworker)

end Kept

section Record

variable (c) {worker : Nat} {item : WorkItem} {stage next : Stage}

theorem seen_record_of_ne {i : Nat} (hi : i ≠ worker) :
    (c.record worker item stage next).seen i = c.seen i := by
  unfold record
  dsimp only
  split
  · exact Function.update_of_ne hi _ _
  · rfl

theorem seen_record_of_hasRead (h : stage.hasRead = true) :
    (c.record worker item stage next).seen = c.seen := by
  cases stage with
  | marking _ | excusing _ | generating _ | recording _ _ => rfl
  | reading | unmarking _ _ | finished _ | crashed => cases h

theorem log_record_of_none (h : stage.appended? next = none) :
    (c.record worker item stage next).log = c.log := by
  unfold record
  dsimp only
  rw [h]

theorem log_record_of_some {reply : String} (h : stage.appended? next = some reply) :
    (c.record worker item stage next).log =
      Function.update c.log item.id (c.log item.id ++ [.reply reply (c.seen worker)]) := by
  unfold record
  dsimp only
  rw [h]

theorem log_record_of_ne {id : String} (hid : id ≠ item.id) :
    (c.record worker item stage next).log id = c.log id := by
  cases h : stage.appended? next with
  | none => rw [log_record_of_none c h]
  | some reply => rw [log_record_of_some c h, Function.update_of_ne hid]

end Record

namespace Kept

section Turn

variable {worker : Nat} {old new : Activity} {rest : Pool σ} {id other : String} {lock : Lock}
  {stage next : Stage} {w : World σ}

/-- After a turn too, only sessions are answered. -/
theorem isItemOf_of_turn (h : Kept g place origin c)
    (hworker : c.pool.workers[worker]? = some old)
    (hturn : Pool.Turn g worker c.pool old new rest) {activity : Activity} {item : WorkItem}
    (hactivity : activity ∈ (rest.become worker new).workers)
    (hitem : activity.item? = some item) : IsItemOf g.directory item := by
  obtain ⟨i, hi⟩ := List.getElem?_of_mem hactivity
  rcases hturn.exists_item? hworker hi hitem with ⟨before, hbefore, hthere⟩ | hqueued
  · exact h.busy hbefore hthere
  · exact h.queued item hqueued

/-- A turn of a worker that answers no session. -/
theorem of_idle (h : Kept g place origin c) (hworker : c.pool.workers[worker]? = some old)
    (hturn : Pool.Turn g worker c.pool old new rest)
    (hguarded : (rest.become worker new).Guarded) (hidle : old.isWorking = false) :
    Kept g place origin { c with pool := rest.become worker new } := by
  obtain ⟨hworld, hreading⟩ := hturn.of_idle hidle
  refine ⟨?_, hguarded, fun item hmem => h.queued item (hturn.mem_queue hmem),
    h.isItemOf_of_turn hworker hturn, ?_, h.answered, ?_⟩
  · exact hworld ▸ h.holds
  · intro id hid
    exact hworld ▸ h.bytes hid
  · intro i item lock stage hat hstage
    rcases Pool.getElem?_become hat with ⟨rfl, rfl⟩ | ⟨-, hother⟩
    · obtain rfl := hreading item lock stage rfl
      cases hstage
    · exact h.awaited (hturn.workers_eq ▸ hother) hstage

/-- What a worker appends is put on the record of its session. -/
theorem bytes_record (h : Kept g place origin c) (hid : IsSessionName id)
    (hadvances : Advances g.directory place id c.pool.world stage next w)
    (hother : IsSessionName other) :
    w.files.bytesAt (place ++ [other]) = origin.bytesAt (place ++ [other]) ++
      Utf8.encode (textOf ((c.record worker (itemOf g.directory id) stage next).log other)) := by
  by_cases hsame : other = id
  · subst hsame
    rcases hadvances.bytesAt_eq hid with ⟨hnone, hbytes⟩ | ⟨reply, hsome, hbytes⟩
    · rw [log_record_of_none c hnone, ← h.bytes hid]
      exact hbytes
    · rw [log_record_of_some c hsome, itemOf, Function.update_self, textOf_append,
        textOf_singleton, Utf8.encode_append, ← List.append_assoc, ← h.bytes hid]
      exact hbytes
  · rw [log_record_of_ne c hsame, ← h.bytes hother]
    exact bytesAt_of_get?_eq (hadvances.get?_of_ne hother hsame)

/-- What a worker appends was awaited. -/
theorem answered_record (h : Kept g place origin c)
    (hworker : c.pool.workers[worker]? = some (.working (itemOf g.directory id) lock stage))
    (hother : IsSessionName other) :
    Answered (origin.bytesAt (place ++ [other]))
      ((c.record worker (itemOf g.directory id) stage next).log other) := by
  by_cases hsame : other = id
  · subst hsame
    cases happended : stage.appended? next with
    | none =>
        rw [log_record_of_none c happended]
        exact h.answered hother
    | some reply =>
        rw [log_record_of_some c happended, itemOf, Function.update_self]
        exact (h.answered hother).reply
          (h.awaited hworker (Stage.hasRead_of_appended? happended))
  · rw [log_record_of_ne c hsame]
    exact h.answered hother

/-- A worker that has read its session then has a reply to write that is awaited. -/
theorem awaits_record (h : Kept g place origin c) (hid : IsSessionName id)
    (hworker : c.pool.workers[worker]? = some (.working (itemOf g.directory id) lock stage))
    (hadvances : Advances g.directory place id c.pool.world stage next w)
    (hread : next.hasRead = true) :
    Awaits (origin.bytesAt (place ++ [id]))
      ((c.record worker (itemOf g.directory id) stage next).log id)
      ((c.record worker (itemOf g.directory id) stage next).seen worker) := by
  rcases hadvances.of_hasRead hread with ⟨text, rfl, rfl, htext, howed⟩ | ⟨hbefore, hnone⟩
  · obtain ⟨-, bytes, executable, hfile, hdecode⟩ :=
      (h.holds.readText_join hid.isName).mp htext
    rw [← bytesAt_of_file hfile, h.bytes hid] at hdecode
    rw [log_record_of_none c rfl, record]
    dsimp only
    rw [Function.update_self]
    exact awaits_of_decode hdecode howed
  · rw [log_record_of_none c hnone, seen_record_of_hasRead c hbefore]
    exact h.awaited hworker hbefore

/-- A turn of a worker that answers a session. -/
theorem of_working (h : Kept g place origin c) (hsilent : g.backend.IsSilent)
    {item : WorkItem} (hworker : c.pool.workers[worker]? = some (.working item lock stage))
    (hturn : Pool.Turn g worker c.pool (.working item lock stage) new rest)
    (hguarded : (rest.become worker new).Guarded) :
    Kept g place origin
      { c.record worker item stage (g.step item stage c.pool.world).1 with
        pool := rest.become worker new } := by
  obtain ⟨id, hid, rfl⟩ := h.busy (List.mem_of_getElem? hworker) rfl
  obtain ⟨hworld, hnew, -⟩ := hturn.of_working
  have hadvances := advances_step h.holds hid hsilent stage
  rw [← hworld] at hadvances
  generalize (g.step (itemOf g.directory id) stage c.pool.world).1 = next at hadvances hnew ⊢
  refine ⟨hadvances.holds h.holds, hguarded, ?_, h.isItemOf_of_turn hworker hturn, ?_, ?_, ?_⟩
  · exact fun item hmem => h.queued item (hturn.mem_queue hmem)
  · exact fun hother => h.bytes_record hid hadvances hother
  · exact fun hother => h.answered_record hworker hother
  · intro i item known further hat hread
    rcases Pool.getElem?_become hat with ⟨rfl, hnow⟩ | ⟨hi, hother⟩
    · obtain ⟨rfl, rfl, rfl⟩ : item = itemOf g.directory id ∧ known = lock ∧ further = next := by
        rcases hnew with rfl | rfl | rfl
        · exact Activity.working.inj hnow
        · cases hnow
        · cases hnow
      exact h.awaits_record hid hworker hadvances hread
    · -- Nobody else is at this session, so what was appended is in nobody else's record.
      rw [hturn.workers_eq] at hother
      have hne : item.id ≠ id := fun hsame => hi (h.guarded.eq_of_working hother hworker hsame)
      rw [log_record_of_ne c hne, seen_record_of_ne c hi]
      exact h.awaited hother hread

end Turn

/-- Any turn of a worker. -/
theorem worked (h : Kept g place origin c) (hsilent : g.backend.IsSilent) {worker : Nat}
    {pool : Pool σ} (hstep : c.pool.step? g worker = some pool) :
    Kept g place origin { c.observe g worker c.pool.workers[worker]? with pool } := by
  have hguarded := h.guarded.of_step? hstep
  obtain ⟨old, new, rest, hworker, hturn, rfl⟩ := Pool.exists_turn hstep
  rw [hworker]
  cases old with
  | working item lock stage => exact h.of_working hsilent hworker hturn hguarded
  | _ => exact h.of_idle hworker hturn hguarded rfl

/-- Whatever happens next, it still holds. -/
theorem of_step (h : Kept g place origin c) (hsilent : g.backend.IsSilent)
    (hstep : Step g c after) : Kept g place origin after := by
  cases hstep with
  | worked worker hstep => exact h.worked hsilent hstep
  | said hsession hsaid => exact h.said hsession hsaid
  | notified hid =>
      refine h.of_queue rfl rfl rfl fun item hitem => ?_
      rcases List.mem_append.mp hitem with hitem | hitem
      · exact .inl hitem
      · exact .inr ⟨_, hid, List.mem_singleton.mp hitem⟩
  | closed => exact h.of_queue rfl rfl rfl fun item hitem => .inl hitem
  | cancelled => exact h.of_queue rfl rfl rfl fun item hitem => .inl hitem

end Kept

/-- Whatever happened, it holds. -/
theorem Reached.kept {workers : Nat} {world : World σ} (h : Reached g (.start workers world) c)
    (hfs : world.files.Holds g.directory place) (hsilent : g.backend.IsSilent) :
    Kept g place world.files c := by
  induction h with
  | start => exact kept_start hfs workers
  | step _ hstep ih => exact ih.of_step hsilent hstep

end Chronicle

end FileChat.Worker
