/-
# One session among the work of a pool

Somebody queues sessions, as often and in whatever order, and workers answer them. What becomes
of one of these sessions is a path of a few stations: nobody has touched it, a worker has marked
it and asks, has the answer, has appended it, and then the session is answered for good, since a
worker that reads it finds nothing owed. Only the worker that has the session to itself takes it
from one station to the next. Everybody else leaves it where it is.
-/

import FileChat.Proofs.Worker.Effort
import FileChat.Proofs.Worker.Sequence

namespace FileChat.Worker

open Conversation FileSystem Session

variable {σ : Type}

/-- A pool, and the sessions that somebody has yet to queue. -/
structure Workload (σ : Type) where
  pool : Pool σ
  unsent : List WorkItem

section Turns

variable {g : Generator σ} {worker : Nat} {p rest : Pool σ} {new : Activity} {item : WorkItem}
  {lock : Lock} {stage next : Stage} {w : World σ}

/-- A worker that is done with a session leaves its lock. -/
theorem Pool.Turn.of_finished (h : Turn g worker p (.working item lock stage) new rest)
    {result : Except StoreError Outcome}
    (hstep : g.step item stage p.world = (.finished result, w)) :
    new = .leaving item lock ∧ rest.world = w := by
  refine ⟨?_, h.of_working.1.trans (congrArg Prod.snd hstep)⟩
  cases h with
  | took hold => rcases hold with hold | hold <;> cases hold
  | stopped hold => rcases hold with ⟨hold, -⟩ | hold <;> cases hold
  | advanced hother hnext =>
      obtain rfl := congrArg Prod.fst (hother.symm.trans hstep)
      cases hnext
  | finished => rfl
  | crashed hother => cases congrArg Prod.fst (hother.symm.trans hstep)

/-- A worker that is not done with a session goes on. -/
theorem Pool.Turn.of_advanced (h : Turn g worker p (.working item lock stage) new rest)
    (hstep : g.step item stage p.world = (next, w)) (hnext : next.isOver = false) :
    new = .working item lock next ∧ rest.world = w := by
  obtain ⟨hworld, -, hstays⟩ := h.of_working
  rw [hstep] at hworld hstays
  exact ⟨hstays hnext, hworld⟩

end Turns

namespace Workload

/-- Nothing was queued yet. -/
def start (workers : Nat) (items : List WorkItem) (world : World σ) : Workload σ :=
  ⟨Pool.start workers world, items⟩

/-- What can happen next: the next session is queued, a worker takes a step, or, when all are
queued, the queue is closed or the pool is cancelled. -/
inductive Step (g : Generator σ) (l : Workload σ) : Workload σ → Prop
  | sent {item : WorkItem} {later : List WorkItem} (hunsent : l.unsent = item :: later) :
      Step g l ⟨l.pool.enqueue item, later⟩
  | worked (worker : Nat) {pool : Pool σ} (hstep : l.pool.step? g worker = some pool) :
      Step g l { l with pool }
  | closed (hsent : l.unsent = []) : Step g l { l with pool := { l.pool with closed := true } }
  | cancelled (hsent : l.unsent = []) :
      Step g l { l with pool := { l.pool with cancelled := true } }

/-- The files of the directory. -/
def files (l : Workload σ) : FileSystem := l.pool.world.files

/-- The same work after a worker took its turn. -/
def turned (l : Workload σ) (rest : Pool σ) (worker : Nat) (new : Activity) : Workload σ :=
  { l with pool := rest.become worker new }

/-- Everything that was to be queued was, and has been processed. -/
def IsDone (l : Workload σ) : Prop :=
  l.unsent = [] ∧ l.pool.queue = [] ∧ ∀ activity ∈ l.pool.workers, activity.item? = none

/-- A worker answers a session and has got to a stage. -/
def IsAt (l : Workload σ) (i : Nat) (id : String) (stage : Stage) : Prop :=
  ∃ item lock, l.pool.workers[i]? = some (.working item lock stage) ∧ item.id = id

/-- Somebody will queue a session, or it is queued, or a worker is on its way to it. -/
def Minds (l : Workload σ) (item : WorkItem) : Prop := item ∈ l.unsent ∨ l.pool.Minds item

variable {g : Generator σ} {answer : String → Answer} {calls : σ → List Call}
  {place : Location} {origin : FileSystem} {id text : String} {l after : Workload σ}
  {asked again : List String} {worker : Nat} {old new : Activity} {rest : Pool σ}

section IsAt

/-- A worker that answers no session takes nobody else's place. -/
theorem isAt_of_idle (hworker : l.pool.workers[worker]? = some old)
    (hturn : Pool.Turn g worker l.pool old new rest) (hidle : old.isWorking = false) {i : Nat}
    {stage : Stage} :
    (IsAt (l.turned rest worker new) i id stage →
      stage = .reading ∨ l.IsAt i id stage) ∧
    (l.IsAt i id stage → IsAt (l.turned rest worker new) i id stage) := by
  constructor
  · rintro ⟨item, lock, hat, hid⟩
    rcases Pool.getElem?_become hat with ⟨rfl, rfl⟩ | ⟨-, hother⟩
    · exact .inl (hturn.of_idle hidle |>.2 item lock stage rfl)
    · exact .inr ⟨item, lock, hturn.workers_eq ▸ hother, hid⟩
  · rintro ⟨item, lock, hat, hid⟩
    have hne : i ≠ worker := by
      rintro rfl
      obtain rfl := Option.some.inj (hworker.symm.trans hat)
      cases hidle
    exact ⟨item, lock, (hturn.getElem?_become_of_ne hne).trans hat, hid⟩

/-- A worker that answers another session takes nobody else's place. -/
theorem isAt_of_other {item : WorkItem} {lock : Lock} {stage : Stage} (hne : id ≠ item.id)
    (hworker : l.pool.workers[worker]? = some (.working item lock stage))
    (hturn : Pool.Turn g worker l.pool (.working item lock stage) new rest) {i : Nat}
    {further : Stage} :
    IsAt (l.turned rest worker new) i id further ↔ l.IsAt i id further := by
  constructor
  · rintro ⟨known, lock', hat, hid⟩
    rcases Pool.getElem?_become hat with ⟨rfl, hnow⟩ | ⟨-, hother⟩
    · rcases hturn.of_working.2.1 with rfl | rfl | rfl
      · obtain ⟨rfl, -⟩ := Activity.working.inj hnow
        exact absurd hid.symm hne
      · cases hnow
      · cases hnow
    · exact ⟨known, lock', hturn.workers_eq ▸ hother, hid⟩
  · rintro ⟨known, lock', hat, hid⟩
    have hi : i ≠ worker := by
      rintro rfl
      obtain ⟨rfl, -⟩ := Activity.working.inj (Option.some.inj (hworker.symm.trans hat))
      exact hne hid.symm
    exact ⟨known, lock', (hturn.getElem?_become_of_ne hi).trans hat, hid⟩

/-- Who answers a session has it to itself. -/
theorem IsAt.eq_of_working (hl : l.pool.Guarded) {item : WorkItem} {lock : Lock}
    {stage further : Stage} (hworker : l.pool.workers[worker]? = some (.working item lock stage))
    {i : Nat} (hat : l.IsAt i item.id further) : i = worker ∧ further = stage := by
  obtain ⟨other, known, hi, hid⟩ := hat
  obtain rfl := hl.eq_of_working hi hworker hid
  exact ⟨rfl, (Activity.working.inj (Option.some.inj (hi.symm.trans hworker))).2.2⟩

/-- After a turn at a session only the worker that took it can be there. -/
theorem isAt_of_own (hl : l.pool.Guarded) {item : WorkItem} {lock : Lock} {stage : Stage}
    (hworker : l.pool.workers[worker]? = some (.working item lock stage))
    (hturn : Pool.Turn g worker l.pool (.working item lock stage) new rest) {i : Nat}
    {further : Stage}
    (hat : IsAt (l.turned rest worker new) i item.id further) :
    ∃ known, new = .working item known further := by
  obtain ⟨other, known, hi, hid⟩ := hat
  rcases Pool.getElem?_become hi with ⟨rfl, rfl⟩ | ⟨hne, hother⟩
  · rcases hturn.of_working.2.1 with hnew | hnew | hnew
    · obtain ⟨rfl, -⟩ := Activity.working.inj hnew
      exact ⟨known, rfl⟩
    · cases hnew
    · cases hnew
  · rw [hturn.workers_eq] at hother
    exact absurd (hl.eq_of_working hother hworker hid) hne

/-- A worker is where its turn took it. -/
theorem isAt_become {item : WorkItem} {lock : Lock} {stage : Stage}
    (hworker : l.pool.workers[worker]? = some old)
    (hturn : Pool.Turn g worker l.pool old (.working item lock stage) rest) :
    IsAt (l.turned rest worker (.working item lock stage)) worker item.id stage :=
  ⟨item, lock, hturn.getElem?_become_self hworker, rfl⟩

end IsAt

/-- How far a session has got. A worker that has it to itself has brought it there, or nobody has
touched it and somebody minds it if it owes a reply, or it is answered. -/
inductive Standing (g : Generator σ) (answer : String → Answer) (place : Location)
    (origin : FileSystem) (id text : String) (l : Workload σ) (asked : List String) : Prop
  | untouched (hsame : SameAt place id origin l.files) (hasked : id ∉ asked)
      (hat : ∀ {i : Nat} {stage : Stage}, l.IsAt i id stage →
        stage = .reading ∨ stage = .marking text ∧ needsResponse text = true)
      (hminded : needsResponse text = true → l.Minds (itemOf g.directory id))
  | generating {i : Nat} {executable : Bool} (howed : needsResponse text = true)
      (hat : l.IsAt i id (.generating text))
      (hsession : l.files.get? (place ++ [id]) = origin.get? (place ++ [id]))
      (hmarked : l.files.get? (place ++ [sentinelName id]) = some (.file [] executable))
      (hasked : id ∉ asked)
  | recording {i : Nat} {executable : Bool} {reply : String} {outcome : Outcome}
      (howed : needsResponse text = true) (hat : l.IsAt i id (.recording reply outcome))
      (hturn : g.turnAbout? answer text = some (reply, outcome))
      (hsession : l.files.get? (place ++ [id]) = origin.get? (place ++ [id]))
      (hmarked : l.files.get? (place ++ [sentinelName id]) = some (.file [] executable))
      (hasked : id ∈ asked)
  | unmarking {i : Nat} {executable known : Bool} {bytes : Bytes} {reply : String}
      {outcome : Outcome}
      (howed : needsResponse text = true) (hat : l.IsAt i id (.unmarking (.ok ()) outcome))
      (hturn : g.turnAbout? answer text = some (reply, outcome))
      (hfile : origin.get? (place ++ [id]) = some (.file bytes known))
      (hsession : l.files.get? (place ++ [id]) =
        some (.file (bytes ++ Utf8.encode (assistantLine reply)) known))
      (hmarked : l.files.get? (place ++ [sentinelName id]) = some (.file [] executable))
      (hasked : id ∈ asked)
  | answered (howed : needsResponse text = true)
      (hanswered : IsAnswered g answer place origin l.files id text) (hasked : id ∈ asked)
      (hat : ∀ {i : Nat} {stage : Stage}, l.IsAt i id stage → stage = .reading)

namespace Standing

/-- What leaves a session, its sentinel and those at it alone leaves it where it stands. -/
theorem of_same (h : Standing g answer place origin id text l asked)
    (hsame : SameAt place id l.files after.files) (hasked : id ∈ again ↔ id ∈ asked)
    (hnew : ∀ {i stage}, after.IsAt i id stage → stage = .reading ∨ l.IsAt i id stage)
    (hold : ∀ {i stage}, l.IsAt i id stage → after.IsAt i id stage)
    (hminds : l.Minds (itemOf g.directory id) → after.Minds (itemOf g.directory id)) :
    Standing g answer place origin id text after again := by
  cases h with
  | untouched huntouched hunasked hat hminded =>
      refine .untouched (huntouched.trans hsame) (fun hin => hunasked (hasked.mp hin)) ?_
        fun howed => hminds (hminded howed)
      exact fun hthere => (hnew hthere).elim .inl hat
  | generating howed hat hsession hmarked hunasked =>
      exact .generating howed (hold hat) ((hsame _ isOf_session).trans hsession)
        ((hsame _ isOf_sentinel).trans hmarked) fun hin => hunasked (hasked.mp hin)
  | recording howed hat hturn hsession hmarked hin =>
      exact .recording howed (hold hat) hturn ((hsame _ isOf_session).trans hsession)
        ((hsame _ isOf_sentinel).trans hmarked) (hasked.mpr hin)
  | unmarking howed hat hturn hfile hsession hmarked hin =>
      exact .unmarking howed (hold hat) hturn hfile ((hsame _ isOf_session).trans hsession)
        ((hsame _ isOf_sentinel).trans hmarked) (hasked.mpr hin)
  | answered howed hanswered hin hat =>
      refine .answered howed (hanswered.of_sameAt (fun _ _ => rfl) hsame) (hasked.mpr hin) ?_
      exact fun hthere => (hnew hthere).elim (fun hreading => hreading) hat

/-- What a turn at a session comes to: the session stands somewhere, and it is among those asked
about if the backend was asked now. -/
structure Goes (g : Generator σ) (answer : String → Answer) (calls : σ → List Call)
    (place : Location) (origin : FileSystem) (id text : String) (l after : Workload σ)
    (asked again : List String) : Prop where
  standing : Standing g answer place origin id text after again
  asks : again = asked ∧ calls after.pool.world.host = calls l.pool.world.host ∨
    id ∉ asked ∧ again = asked ++ [id] ∧ needsResponse text = true ∧
      calls after.pool.world.host = calls l.pool.world.host ++ [g.callFor text]

section Own

variable {lock : Lock} {stage : Stage}

/-- A worker at a session that nobody has touched reads it or marks it. -/
theorem goes_of_untouched (hready : Ready g.directory place origin id text)
    (hholds : l.files.Holds g.directory place) (hl : l.pool.Guarded)
    (hworker : l.pool.workers[worker]? = some (.working (itemOf g.directory id) lock stage))
    (hturn : Pool.Turn g worker l.pool (.working (itemOf g.directory id) lock stage) new rest)
    (hsame : SameAt place id origin l.files) (hasked : id ∉ asked)
    (hat : stage = .reading ∨ stage = .marking text ∧ needsResponse text = true) :
    Goes g answer calls place origin id text l (l.turned rest worker new) asked asked := by
  have hnow := hready.of_sameAt hholds hsame
  have hminds {further : Stage} (hnew : new = .working (itemOf g.directory id) lock further)
      (hdue : further.isDue = true) : (l.turned rest worker new).Minds (itemOf g.directory id) := by
    refine .inr (.inr ⟨new, List.mem_of_getElem? (hturn.getElem?_become_self hworker), ?_⟩)
    rw [hnew]
    exact ⟨rfl, hdue⟩
  rcases hat with rfl | ⟨rfl, howed⟩
  · have hstep := step_reading hnow.finds.read
    cases howed : needsResponse text with
    | true =>
        rw [howed, if_pos rfl] at hstep
        obtain ⟨hnew, hworld⟩ := hturn.of_advanced hstep rfl
        have hfiles : (l.turned rest worker new).files = l.files := congrArg World.files hworld
        refine ⟨.untouched (hfiles ▸ hsame) hasked (fun hthere => ?_) fun _ => hminds hnew rfl,
          .inl ⟨rfl, congrArg (fun w => calls w.host) hworld⟩⟩
        obtain ⟨known, hknown⟩ := isAt_of_own hl hworker hturn hthere
        exact .inr ⟨(Activity.working.inj (hknown.symm.trans hnew)).2.2, howed⟩
    | false =>
        rw [howed, if_neg (by simp)] at hstep
        obtain ⟨hnew, hworld⟩ := hturn.of_finished hstep
        have hfiles : (l.turned rest worker new).files = l.files := congrArg World.files hworld
        refine ⟨.untouched (hfiles ▸ hsame) hasked (fun hthere => ?_) fun hyes => ?_,
          .inl ⟨rfl, congrArg (fun w => calls w.host) hworld⟩⟩
        · obtain ⟨known, hknown⟩ := isAt_of_own hl hworker hturn hthere
          cases hknown.symm.trans hnew
        · rw [howed] at hyes
          cases hyes
  · obtain ⟨marked, hmark⟩ := hnow.markable
    have hid := hready.finds.session
    have hdiff := differsAt_of_createSentinel hholds hid.noSlash hmark
    obtain ⟨-, executable, hsentinel⟩ := get?_of_createSentinel hholds hid.noSlash hmark
    obtain ⟨rfl, hworld⟩ := hturn.of_advanced (step_marking hmark) rfl
    have hfiles (new : Activity) : (l.turned rest worker new).files = marked :=
      congrArg World.files hworld
    refine ⟨.generating howed (isAt_become hworker hturn) ?_ (hfiles _ ▸ hsentinel) hasked,
      .inl ⟨rfl, congrArg (fun w => calls w.host) hworld⟩⟩
    rw [← hsame _ isOf_session, hfiles]
    exact hdiff.get?_of_ne (spot_ne_sentinel place hid id)

/-- A worker that has marked its session asks about it. -/
theorem goes_of_generating (hanswers : g.backend.Answers answer calls)
    (hworker : l.pool.workers[worker]? =
      some (.working (itemOf g.directory id) lock (.generating text)))
    (hturn : Pool.Turn g worker l.pool
      (.working (itemOf g.directory id) lock (.generating text)) new rest)
    (howed : needsResponse text = true) {executable : Bool}
    (hsession : l.files.get? (place ++ [id]) = origin.get? (place ++ [id]))
    (hmarked : l.files.get? (place ++ [sentinelName id]) = some (.file [] executable))
    (hasked : id ∉ asked) :
    Goes g answer calls place origin id text l (l.turned rest worker new) asked
      (asked ++ [id]) := by
  obtain ⟨reply, outcome, hreply, -⟩ := exists_turnFor? (hanswers.lives (g.callFor text).prompt)
  have hanswer := hanswers.answer_eq (g.callFor text) l.pool.world
  obtain ⟨rfl, hworld⟩ := hturn.of_advanced
    (step_generating (itemOf g.directory id) (by rw [hanswer, hreply])) rfl
  obtain ⟨host, hhost⟩ := hanswers.silent (g.callFor text) l.pool.world
  have hfiles (new : Activity) : (l.turned rest worker new).files = l.files := by
    have hasked := congrArg World.files hworld
    rw [hhost] at hasked
    exact hasked
  refine ⟨.recording howed (isAt_become hworker hturn) hreply (hfiles _ ▸ hsession)
    (hfiles _ ▸ hmarked) (List.mem_append_right _ (List.mem_singleton_self _)),
    .inr ⟨hasked, rfl, howed, ?_⟩⟩
  rw [← hanswers.calls_eq (g.callFor text) l.pool.world, ← hworld]
  rfl

/-- A worker that has an answer appends it. -/
theorem goes_of_recording (hready : Ready g.directory place origin id text)
    (hholds : l.files.Holds g.directory place) {reply : String} {outcome : Outcome}
    (hworker : l.pool.workers[worker]? =
      some (.working (itemOf g.directory id) lock (.recording reply outcome)))
    (hturn : Pool.Turn g worker l.pool
      (.working (itemOf g.directory id) lock (.recording reply outcome)) new rest)
    (howed : needsResponse text = true)
    (hreply : g.turnAbout? answer text = some (reply, outcome)) {executable : Bool}
    (hsession : l.files.get? (place ++ [id]) = origin.get? (place ++ [id]))
    (hmarked : l.files.get? (place ++ [sentinelName id]) = some (.file [] executable))
    (hasked : id ∈ asked) :
    Goes g answer calls place origin id text l (l.turned rest worker new) asked asked := by
  have hid := hready.finds.session
  obtain ⟨herror, bytes, known, hfile, -⟩ :=
    (hready.finds.holds.readText_join hid.isName).mp hready.finds.read
  obtain ⟨told, htold, hhost, hgrows, hnow⟩ :=
    exists_appended hholds hid.isName herror (hsession.trans hfile) reply
  obtain ⟨rfl, hworld⟩ := hturn.of_advanced (step_recording htold) rfl
  have hfiles (new : Activity) : (l.turned rest worker new).files = told.files :=
    congrArg World.files hworld
  have hstill (new : Activity) : (l.turned rest worker new).files.get?
      (place ++ [sentinelName id]) = some (.file [] executable) := by
    rw [hfiles, hgrows.get?_of_ne (spot_ne_sentinel place hid id).symm]
    exact hmarked
  refine ⟨.unmarking howed (isAt_become hworker hturn) hreply hfile (hfiles _ ▸ hnow)
    (hstill _) hasked, .inl ⟨rfl, ?_⟩⟩
  · rw [← hhost, ← hworld]
    rfl

/-- A worker that has appended its answer takes the mark away. -/
theorem goes_of_unmarking (hready : Ready g.directory place origin id text)
    (hholds : l.files.Holds g.directory place) (hl : l.pool.Guarded) {reply : String}
    {outcome : Outcome}
    (hworker : l.pool.workers[worker]? =
      some (.working (itemOf g.directory id) lock (.unmarking (.ok ()) outcome)))
    (hturn : Pool.Turn g worker l.pool
      (.working (itemOf g.directory id) lock (.unmarking (.ok ()) outcome)) new rest)
    (howed : needsResponse text = true)
    (hreply : g.turnAbout? answer text = some (reply, outcome)) {executable known : Bool}
    {bytes : Bytes} (hfile : origin.get? (place ++ [id]) = some (.file bytes known))
    (hsession : l.files.get? (place ++ [id]) =
      some (.file (bytes ++ Utf8.encode (assistantLine reply)) known))
    (hmarked : l.files.get? (place ++ [sentinelName id]) = some (.file [] executable))
    (hasked : id ∈ asked) :
    Goes g answer calls place origin id text l (l.turned rest worker new) asked asked := by
  have hid := hready.finds.session
  obtain ⟨marked, hmark⟩ := hready.markable
  obtain ⟨herror, -⟩ := (createSentinel_eq_ok hready.finds.holds hid.noSlash).mp hmark
  have hclear := removeSentinel_of_file hholds hid.noSlash herror hmarked
  obtain ⟨hnew, hworld⟩ := hturn.of_finished (step_unmarking hclear)
  have hfiles : (l.turned rest worker new).files = l.files.erase (place ++ [sentinelName id]) :=
    congrArg World.files hworld
  have hroot : place ++ [sentinelName id] ≠ [] := by simp
  refine ⟨.answered howed ⟨fun _ => ⟨bytes, known, reply, outcome, hfile, hreply, ?_, ?_⟩,
    fun hnothing => ?_⟩ hasked fun hthere => ?_, .inl ⟨rfl, ?_⟩⟩
  · rw [hfiles, get?_erase _ hroot, if_neg (spot_ne_sentinel place hid id), hsession]
  · rw [hfiles, get?_erase _ hroot, if_pos rfl]
  · rw [howed] at hnothing
    cases hnothing
  · obtain ⟨lock', hthere⟩ := isAt_of_own hl hworker hturn hthere
    cases hthere.symm.trans hnew
  · exact congrArg (fun w => calls w.host) hworld

/-- A worker at a session that is answered finds nothing owed. -/
theorem goes_of_answered (hready : Ready g.directory place origin id text)
    (hholds : l.files.Holds g.directory place) (hl : l.pool.Guarded)
    (hworker : l.pool.workers[worker]? = some (.working (itemOf g.directory id) lock .reading))
    (hturn : Pool.Turn g worker l.pool (.working (itemOf g.directory id) lock .reading) new rest)
    (howed : needsResponse text = true)
    (hanswered : IsAnswered g answer place origin l.files id text) (hasked : id ∈ asked) :
    Goes g answer calls place origin id text l (l.turned rest worker new) asked asked := by
  have hid := hready.finds.session
  obtain ⟨herror, bytes, executable, hfile, hdecode⟩ :=
    (hready.finds.holds.readText_join hid.isName).mp hready.finds.read
  obtain ⟨_, _, reply, outcome, hthere, -, hsession, -⟩ := hanswered.owed howed
  obtain ⟨rfl, rfl⟩ := Entry.file.inj (Option.some.inj (hfile.symm.trans hthere))
  have hcomplete : (Utf8.Reader.read bytes).current = none := by
    rw [Utf8.decode_eq_some_iff.mp hdecode]
  have hread : l.pool.world.files.readText (Path.join g.directory id) =
      .ok (text ++ assistantLine reply) := by
    refine (hholds.readText_join hid.isName).mpr ⟨herror, _, executable, hsession, ?_⟩
    rw [Utf8.decode_append_encode hcomplete, hdecode, Option.map_some]
  have hstep := step_reading hread
  rw [needsResponse_append_assistantLine hready.whole, if_neg (by simp)] at hstep
  obtain ⟨hnew, hworld⟩ := hturn.of_finished hstep
  have hfiles : (l.turned rest worker new).files = l.files := congrArg World.files hworld
  refine ⟨.answered howed (hfiles ▸ hanswered) hasked fun hagain => ?_,
    .inl ⟨rfl, congrArg (fun w => calls w.host) hworld⟩⟩
  obtain ⟨known, hknown⟩ := isAt_of_own hl hworker hturn hagain
  cases hknown.symm.trans hnew

/-- A turn of a worker at the session takes it to its next station. -/
theorem exists_goes (h : Standing g answer place origin id text l asked)
    (hready : Ready g.directory place origin id text)
    (hholds : l.files.Holds g.directory place) (hl : l.pool.Guarded)
    (hanswers : g.backend.Answers answer calls)
    (hworker : l.pool.workers[worker]? = some (.working (itemOf g.directory id) lock stage))
    (hturn : Pool.Turn g worker l.pool (.working (itemOf g.directory id) lock stage) new rest) :
    ∃ again, Goes g answer calls place origin id text l (l.turned rest worker new) asked again := by
  cases h with
  | untouched hsame hasked hat _ =>
      exact ⟨asked, goes_of_untouched hready hholds hl hworker hturn hsame hasked
        (hat ⟨_, lock, hworker, rfl⟩)⟩
  | generating howed hat hsession hmarked hasked =>
      obtain ⟨-, rfl⟩ := IsAt.eq_of_working hl hworker hat
      exact ⟨_, goes_of_generating hanswers hworker hturn howed hsession hmarked hasked⟩
  | recording howed hat hreply hsession hmarked hasked =>
      obtain ⟨-, rfl⟩ := IsAt.eq_of_working hl hworker hat
      exact ⟨asked, goes_of_recording hready hholds hworker hturn howed hreply hsession hmarked
        hasked⟩
  | unmarking howed hat hreply hfile hsession hmarked hasked =>
      obtain ⟨-, rfl⟩ := IsAt.eq_of_working hl hworker hat
      exact ⟨asked, goes_of_unmarking hready hholds hl hworker hturn howed hreply hfile hsession
        hmarked hasked⟩
  | answered howed hanswered hasked hat =>
      obtain rfl := hat ⟨_, lock, hworker, rfl⟩
      exact ⟨asked, goes_of_answered hready hholds hl hworker hturn howed hanswered hasked⟩

end Own

end Standing

end Workload

end FileChat.Worker
