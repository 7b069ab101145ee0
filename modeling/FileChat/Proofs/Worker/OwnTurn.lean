/-
# Behind one's own turn

A client has said something in a session and says nothing more there. What happens then looks
simple from that session: a worker may mark it, append one reply behind the turn and take the
mark away, and nothing else is done to it. So whoever sees the mark and later does not see it
any more finds a reply behind the turn, unless the mark was that of a worker who had appended
before. The same is seen by a daemon that begins with a session in which nobody speaks any more,
so what was said before is any record here, and a turn at its end is only one case.
-/

import FileChat.Proofs.Worker.Chronicle
import FileChat.Proofs.Worker.Due

namespace FileChat

open FileSystem Session

namespace Conversation

/-- Behind a reply to whole lines nobody awaits another one. -/
theorem not_awaits_of_reply {start : Bytes} {log : List Posting} {text seen about : String}
    (hwhole : Utf8.IsWholeLines (start ++ Utf8.encode (textOf log))) :
    ¬ Awaits start (log ++ [.reply text seen]) about := by
  intro hawaits
  obtain ⟨earlier, late, hlog, hlate, hdecode⟩ := hawaits.split
  obtain rfl : late = [] := by
    rcases List.eq_nil_or_concat late with hnil | ⟨before, last, rfl⟩
    · exact hnil
    · have hlast := congrArg List.getLast? hlog
      obtain rfl : Posting.reply text seen = last := by simpa using hlast
      exact absurd (hlate (.reply text seen) (by simp)) (by simp [Posting.isTurn])
  rw [List.append_nil] at hlog
  rw [← hlog, textOf_append, textOf_singleton, Utf8.encode_append, ← List.append_assoc,
    Posting.line, Utf8.decode_append_encode hwhole.current_read] at hdecode
  obtain ⟨content, hcontent, rfl⟩ := Option.map_eq_some_iff.mp hdecode
  have howed := hawaits.owed
  rw [needsResponse_append_assistantLine (hwhole.toList hcontent)] at howed
  cases howed

/-- A turn that was said ends the line, whatever was in front of it. -/
theorem isWholeLines_append_turn (start : Bytes) (log : List Posting) (message : String) :
    Utf8.IsWholeLines (start ++ Utf8.encode (textOf (log ++ [.turn message]))) := by
  rw [textOf_append, textOf_singleton, Posting.line, userLine, ← String.append_assoc]
  rcases Utf8.isWholeLines_encode_append_lineFeed (textOf log ++ (userMark ++ message)) with
    hnil | hlast
  · simp [Utf8.encode] at hnil
  · exact .inr (by rw [List.getLast?_append, hlast, Option.some_or])

end Conversation

namespace Worker

open Conversation

variable {σ : Type}

/-- The sentinel of the session is the worker's own. -/
def Stage.isMarked : Stage → Bool
  | .generating _ => true
  | .recording _ _ => true
  | .unmarking _ _ => true
  | _ => false

namespace Advances

variable {directory : Path} {place : Location} {id : String} {w after : World σ}
  {stage next : Stage}

/-- A reply is prepared only for what was just read. -/
theorem of_marking {content : String}
    (h : Advances directory place id w stage (.marking content) after) :
    stage = .reading ∧ after = w ∧ w.files.readText (Path.join directory id) = .ok content := by
  cases h with
  | ended hover => cases hover
  | owing hread => exact ⟨rfl, rfl, hread⟩

/-- Who has marked the session after a step finds the sentinel. -/
theorem sentinel_of_isMarked (h : Advances directory place id w stage next after)
    (hid : IsSessionName id) (hnext : next.isMarked = true)
    (hthere : stage.isMarked = true → w.files.get? (place ++ [sentinelName id]) ≠ none) :
    after.files.get? (place ++ [sentinelName id]) ≠ none := by
  cases h with
  | ended hover =>
      cases stage with
      | finished _ | crashed => cases hnext
      | _ => cases hover
  | marked _ hnow => exact hnow
  | answered hfiles =>
      rw [hfiles]
      exact hthere rfl
  | recorded hfiles =>
      rw [hfiles.get?_of_ne (spot_ne_sentinel place hid id).symm]
      exact hthere rfl
  | unrecorded => exact hthere rfl
  | _ => cases hnext

/-- Who is about to take the mark away has appended a turn if the session is there. -/
theorem exists_appended?_of_unmarking {appended : Except StoreError Unit} {outcome : Outcome}
    (h : Advances directory place id w stage (.unmarking appended outcome) after)
    {bytes : Bytes} (hread : w.files.readBytes (Path.join directory id) = .ok bytes) :
    ∃ reply, stage.appended? (.unmarking appended outcome) = some reply := by
  cases h with
  | ended hover => cases hover
  | recorded => exact ⟨_, rfl⟩
  | unrecorded hgone => exact absurd hread (hgone bytes)

end Advances

namespace Chronicle

variable {g : Generator σ} {place : Location} {origin : FileSystem} {id message : String}
  {earlier : List Posting} {c after : Chronicle σ}

/-- A worker answers a session and has got to a stage. -/
def IsAt (c : Chronicle σ) (i : Nat) (id : String) (stage : Stage) : Prop :=
  ∃ item lock, c.pool.workers[i]? = some (.working item lock stage) ∧ item.id = id

/-- A worker has read a session and has yet to append to it. -/
def Reads (c : Chronicle σ) (i : Nat) (id : String) : Prop :=
  ∃ stage, c.IsAt i id stage ∧ stage.hasRead = true

/-- The sentinel of a session is there. -/
def IsMarked (place : Location) (id : String) (c : Chronicle σ) : Prop :=
  c.pool.world.files.get? (place ++ [sentinelName id]) ≠ none

/-- What a step comes to, seen from one session. -/
inductive Effect (g : Generator σ) (place : Location) (id : String) (c after : Chronicle σ) : Prop
  | elsewhere (hlog : after.log id = c.log id)
      (hsession : after.pool.world.files.get? (place ++ [id]) =
        c.pool.world.files.get? (place ++ [id]))
      (hsentinel : after.pool.world.files.get? (place ++ [sentinelName id]) =
        c.pool.world.files.get? (place ++ [sentinelName id]))
      (hnew : ∀ {i stage}, after.IsAt i id stage →
        stage = .reading ∨ c.IsAt i id stage ∧ after.seen i = c.seen i)
      (hold : ∀ {i stage}, c.IsAt i id stage → after.IsAt i id stage ∧ after.seen i = c.seen i)
  | said {message : String} (hlog : after.log id = c.log id ++ [.turn message])
      (hsession : Grows (place ++ [id]) (Utf8.encode (userLine message)) c.pool.world.files
        after.pool.world.files)
      (hworkers : after.pool.workers = c.pool.workers) (hseen : after.seen = c.seen)
  | advanced {i : Nat} {stage next : Stage} (hbefore : c.IsAt i id stage)
      (hadvances : Advances g.directory place id c.pool.world stage next after.pool.world)
      (hlog : after.log id = c.log id ++
        ((stage.appended? next).map fun reply => .reply reply (c.seen i)).toList)
      (hseen : ∀ content, next = .marking content → after.seen i = content)
      (hkept : stage.hasRead = true → after.seen i = c.seen i)
      (hlives : g.backend.IsSteady → stage.isOver = false → next ≠ .crashed)
      (hnew : ∀ {j further}, after.IsAt j id further → j = i ∧ further = next)
      (hnow : next.isOver = false → after.IsAt i id next)

section Effect

/-- The workers at a session do not change with the rest of the chronicle. -/
theorem isAt_iff_of_workers (hworkers : after.pool.workers = c.pool.workers) {i : Nat}
    {stage : Stage} : after.IsAt i id stage ↔ c.IsAt i id stage := by
  rw [IsAt, IsAt, hworkers]

/-- Two workers at one session are the same worker at the same stage. -/
theorem IsAt.unique {i j : Nat} {stage further : Stage} (hc : c.pool.Guarded)
    (hi : c.IsAt i id stage) (hj : c.IsAt j id further) : j = i ∧ further = stage := by
  obtain ⟨item, lock, hwork, rfl⟩ := hi
  obtain ⟨other, known, hwork', hsame⟩ := hj
  obtain rfl := hc.eq_of_working hwork' hwork hsame
  rw [hwork] at hwork'
  exact ⟨rfl, (Activity.working.inj (Option.some.inj hwork')).2.2.symm⟩

/-- A turn of a worker that answers no session, seen from one session. -/
theorem effect_of_idle {worker : Nat} {old new : Activity} {rest : Pool σ}
    (hworker : c.pool.workers[worker]? = some old)
    (hturn : Pool.Turn g worker c.pool old new rest) (hidle : old.isWorking = false) :
    Effect g place id c { c with pool := rest.become worker new } := by
  obtain ⟨hworld, hreading⟩ := hturn.of_idle hidle
  have hfiles : (rest.become worker new).world.files = c.pool.world.files :=
    congrArg World.files hworld
  refine .elsewhere rfl (by rw [hfiles]) (by rw [hfiles]) ?_ ?_
  · rintro i stage ⟨item, lock, hat, hid⟩
    rcases Pool.getElem?_become hat with ⟨rfl, rfl⟩ | ⟨-, hother⟩
    · exact .inl (hreading item lock stage rfl)
    · exact .inr ⟨⟨item, lock, hturn.workers_eq ▸ hother, hid⟩, rfl⟩
  · rintro i stage ⟨item, lock, hat, hid⟩
    have hne : i ≠ worker := by
      rintro rfl
      obtain rfl := Option.some.inj (hworker.symm.trans hat)
      cases hidle
    refine ⟨⟨item, lock, ?_, hid⟩, rfl⟩
    rw [← hat, ← hturn.workers_eq]
    exact List.getElem?_set_ne hne.symm

/-- A turn of a worker that answers another session. -/
theorem effect_of_other {worker : Nat} {lock : Lock} {stage : Stage} {new : Activity}
    {rest : Pool σ} {other : String} (hid : IsSessionName id) (hother : IsSessionName other)
    (hne : id ≠ other)
    (hadvances : Advances g.directory place other c.pool.world stage
      (g.step (itemOf g.directory other) stage c.pool.world).1 rest.world)
    (hworker : c.pool.workers[worker]? = some (.working (itemOf g.directory other) lock stage))
    (hturn : Pool.Turn g worker c.pool (.working (itemOf g.directory other) lock stage) new rest) :
    Effect g place id c
      { c.record worker (itemOf g.directory other) stage
          (g.step (itemOf g.directory other) stage c.pool.world).1 with
        pool := rest.become worker new } := by
  obtain ⟨-, hnew, -⟩ := hturn.of_working
  have hseen {i : Nat} (hi : i ≠ worker) : (c.record worker (itemOf g.directory other) stage
      (g.step (itemOf g.directory other) stage c.pool.world).1).seen i = c.seen i :=
    seen_record_of_ne c hi
  have hsentinel : rest.world.files.get? (place ++ [sentinelName id]) =
      c.pool.world.files.get? (place ++ [sentinelName id]) :=
    hadvances.get?_sentinel_of_ne hother hne
  refine .elsewhere (log_record_of_ne c hne) (hadvances.get?_of_ne hid hne) hsentinel ?_ ?_
  · rintro i further ⟨item, known, hat, hitem⟩
    rcases Pool.getElem?_become hat with ⟨rfl, hnow⟩ | ⟨hi, hthere⟩
    · exfalso
      rcases hnew with rfl | rfl | rfl
      · obtain ⟨rfl, -⟩ := Activity.working.inj hnow
        exact hne hitem.symm
      · cases hnow
      · cases hnow
    · exact .inr ⟨⟨item, known, hturn.workers_eq ▸ hthere, hitem⟩, hseen hi⟩
  · rintro i further ⟨item, known, hat, hitem⟩
    have hi : i ≠ worker := by
      rintro rfl
      obtain ⟨rfl, -⟩ := Activity.working.inj (Option.some.inj (hworker.symm.trans hat))
      exact hne hitem.symm
    refine ⟨⟨item, known, ?_, hitem⟩, hseen hi⟩
    rw [← hat, ← hturn.workers_eq]
    exact List.getElem?_set_ne hi.symm

/-- A turn of a worker that answers the session. -/
theorem effect_of_own {worker : Nat} {lock : Lock} {stage : Stage} {new : Activity}
    {rest : Pool σ} (hguarded : c.pool.Guarded)
    (hadvances : Advances g.directory place id c.pool.world stage
      (g.step (itemOf g.directory id) stage c.pool.world).1 rest.world)
    (hworker : c.pool.workers[worker]? = some (.working (itemOf g.directory id) lock stage))
    (hturn : Pool.Turn g worker c.pool (.working (itemOf g.directory id) lock stage) new rest) :
    Effect g place id c
      { c.record worker (itemOf g.directory id) stage
          (g.step (itemOf g.directory id) stage c.pool.world).1 with
        pool := rest.become worker new } := by
  obtain ⟨-, hnew, hstays⟩ := hturn.of_working
  have hlives (hsteady : g.backend.IsSteady) (hover : stage.isOver = false) :=
    step_ne_crashed hsteady (itemOf g.directory id) hover c.pool.world
  generalize (g.step (itemOf g.directory id) stage c.pool.world).1 = next at *
  refine .advanced ⟨_, lock, hworker, rfl⟩ hadvances ?_ ?_ ?_ hlives ?_ ?_
  · cases happended : stage.appended? next with
    | none =>
        rw [log_record_of_none c happended, Option.map_none, Option.toList_none, List.append_nil]
    | some reply =>
        rw [log_record_of_some c happended, itemOf, Function.update_self]
        rfl
  · rintro content rfl
    obtain ⟨rfl, -⟩ := hadvances.of_marking
    exact Function.update_self _ _ _
  · intro hread
    rw [seen_record_of_hasRead c hread]
  · rintro j further ⟨item, known, hat, hitem⟩
    rcases Pool.getElem?_become hat with ⟨rfl, hnow⟩ | ⟨hj, hthere⟩
    · rcases hnew with rfl | rfl | rfl
      · exact ⟨rfl, (Activity.working.inj hnow).2.2⟩
      · cases hnow
      · cases hnow
    · rw [hturn.workers_eq] at hthere
      exact absurd (hguarded.eq_of_working hthere hworker hitem) hj
  · intro hover
    have hlt : worker < rest.workers.length :=
      hturn.workers_eq ▸ (List.getElem?_eq_some_iff.mp hworker).1
    refine ⟨itemOf g.directory id, lock, ?_, rfl⟩
    rw [hstays hover]
    exact List.getElem?_set_self hlt

/-- What any step comes to, seen from one session. -/
theorem Kept.effect (h : Kept g place origin c) (hsilent : g.backend.IsSilent)
    (hid : IsSessionName id) (hstep : Step g c after) : Effect g place id c after := by
  cases hstep with
  | worked worker hstep =>
      obtain ⟨old, new, rest, hworker, hturn, rfl⟩ := Pool.exists_turn hstep
      rw [hworker]
      cases old with
      | working item lock stage =>
          obtain ⟨other, hother, rfl⟩ := h.busy (List.mem_of_getElem? hworker) rfl
          have hadvances := advances_step h.holds hother hsilent stage
          rw [← hturn.of_working.1] at hadvances
          by_cases hsame : id = other
          · subst hsame
            exact effect_of_own h.guarded hadvances hworker hturn
          · exact effect_of_other hid hother hsame hadvances hworker hturn
      | _ => exact effect_of_idle hworker hturn rfl
  | @said other message options session files size hsession hsaid =>
      obtain ⟨hother, hpath⟩ := Client.Session.of_at?_eq_ok hsession
      obtain ⟨-, hgrows⟩ := Client.Session.of_appendTurn_eq_ok h.holds hother hpath hsaid
      by_cases hsame : id = other
      · subst hsame
        exact .said (Function.update_self _ _ _) hgrows rfl rfl
      · refine .elsewhere (Function.update_of_ne hsame _ _)
          (hgrows.get?_of_ne (by simpa using hsame))
          (hgrows.get?_of_ne (spot_ne_sentinel place hother id).symm) ?_ ?_
        · exact fun hat => .inr ⟨hat, rfl⟩
        · exact fun hat => ⟨hat, rfl⟩
  | notified | closed | cancelled =>
      exact .elsewhere rfl rfl rfl (fun hat => .inr ⟨hat, rfl⟩) fun hat => ⟨hat, rfl⟩

/-- A step changes one entry of the directory at most, and no slash comes into a name. -/
theorem Kept.differsAt_of_step (h : Kept g place origin c) (hsilent : g.backend.IsSilent)
    (hstep : Step g c after) :
    after.pool.world.files = c.pool.world.files ∨ ∃ name, '/' ∉ name.toList ∧
      DiffersAt (place ++ [name]) c.pool.world.files after.pool.world.files := by
  cases hstep with
  | worked worker hstep =>
      obtain ⟨old, new, rest, hworker, hturn, rfl⟩ := Pool.exists_turn hstep
      cases old with
      | working item lock stage =>
          obtain ⟨other, hother, rfl⟩ := h.busy (List.mem_of_getElem? hworker) rfl
          have hadvances := advances_step h.holds hother hsilent stage
          rw [← hturn.of_working.1] at hadvances
          rcases hadvances.differsAt with hsame | hsession | hsentinel
          · exact .inl hsame
          · exact .inr ⟨other, hother.noSlash, hsession⟩
          · exact .inr ⟨sentinelName other, (isName_sentinelName hother.noSlash).noSlash, hsentinel⟩
      | _ => exact .inl (congrArg World.files (hturn.of_idle rfl).1)
  | said hsession hsaid =>
      obtain ⟨hother, hpath⟩ := Client.Session.of_at?_eq_ok hsession
      obtain ⟨-, hgrows⟩ := Client.Session.of_appendTurn_eq_ok h.holds hother hpath hsaid
      exact .inr ⟨_, hother.noSlash, hgrows.toDiffersAt⟩
  | notified | closed | cancelled => exact .inl rfl

end Effect

section Marks

/-- Whoever has marked the session still finds its sentinel. -/
def KeepsMarks (place : Location) (id : String) (c : Chronicle σ) : Prop :=
  ∀ i stage, c.IsAt i id stage → stage.isMarked = true → c.IsMarked place id

theorem keepsMarks_start (workers : Nat) (world : World σ) :
    KeepsMarks place id (start workers world) := by
  rintro i stage ⟨item, lock, hat, -⟩
  obtain ⟨-, hactivity⟩ := List.mem_replicate.mp (List.mem_of_getElem? hat)
  cases hactivity

/-- A worker keeps its mark as long as it has one. -/
theorem KeepsMarks.of_effect (h : KeepsMarks place id c) (hid : IsSessionName id)
    (heffect : Effect g place id c after) : KeepsMarks place id after := by
  intro i stage hat hstage
  unfold IsMarked
  cases heffect with
  | elsewhere _ _ hsentinel hnew _ =>
      rw [hsentinel]
      rcases hnew hat with rfl | ⟨hbefore, -⟩
      · cases hstage
      · exact h i stage hbefore hstage
  | said _ hsession hworkers _ =>
      rw [hsession.get?_of_ne (spot_ne_sentinel place hid id).symm]
      exact h i stage ((isAt_iff_of_workers hworkers).mp hat) hstage
  | @advanced j before next hbefore hadvances _ _ _ _ hnew _ =>
      obtain ⟨rfl, rfl⟩ := hnew hat
      exact hadvances.sentinel_of_isMarked hid hstage (h _ _ hbefore)

/-- Whatever happened, it has one. -/
theorem Reached.keepsMarks {workers : Nat} {world : World σ}
    (h : Reached g (.start workers world) c) (hfs : world.files.Holds g.directory place)
    (hsilent : g.backend.IsSilent) (hid : IsSessionName id) : KeepsMarks place id c := by
  induction h with
  | start => exact keepsMarks_start workers world
  | step hbefore hstep ih =>
      exact ih.of_effect hid ((hbefore.kept hfs hsilent).effect hsilent hid hstep)

end Marks

/-- A reply stands behind what was there at some time. -/
def IsReplied (id : String) (earlier : List Posting) (c : Chronicle σ) : Prop :=
  ∃ text seen, c.log id = earlier ++ [.reply text seen]

/-- How a session stands behind whole lines when nobody says anything: there is at most one
reply, and who takes a mark away has appended it. -/
structure Behind (directory : Path) (place : Location) (origin : FileSystem) (id : String)
    (earlier : List Posting) (c : Chronicle σ) : Prop where
  nameable : nameError? directory id = none
  there : ∃ bytes executable,
    c.pool.world.files.get? (place ++ [id]) = some (.file bytes executable)
  whole : Utf8.IsWholeLines (origin.bytesAt (place ++ [id]) ++ Utf8.encode (textOf earlier))
  log : c.log id = earlier ∨ IsReplied id earlier c
  replied {i : Nat} {appended : Except StoreError Unit} {outcome : Outcome} :
    c.IsAt i id (.unmarking appended outcome) → IsReplied id earlier c

section Behind

/-- The chronicle after a client has appended a turn to a session. -/
def saying (c : Chronicle σ) (id message : String) (path : Path) (files : FileSystem) :
    Chronicle σ :=
  { c with
    pool := { c.pool with world := c.pool.world.written path files }
    log := Function.update c.log id (c.log id ++ [.turn message]) }

/-- A step that brings no turn into a session. -/
def StepAside (g : Generator σ) (id : String) (c after : Chronicle σ) : Prop :=
  Step g c after ∧ ∀ message, after.log id ≠ c.log id ++ [.turn message]

/-- A step that leaves the record of a session alone brings no turn into it. -/
theorem stepAside_of_log_eq (hstep : Step g c after) (hlog : after.log id = c.log id) :
    StepAside g id c after := by
  refine ⟨hstep, fun message hsaid => ?_⟩
  have hlength := congrArg List.length (hlog.symm.trans hsaid)
  simp at hlength

/-- A worker says nothing that a user says. -/
theorem stepAside_of_worked (worker : Nat) {pool : Pool σ}
    (hstep : c.pool.step? g worker = some pool) :
    StepAside g id c { c.observe g worker c.pool.workers[worker]? with pool } := by
  have hlog : (c.observe g worker c.pool.workers[worker]?).log id = c.log id ∨ ∃ text seen,
      (c.observe g worker c.pool.workers[worker]?).log id = c.log id ++ [.reply text seen] := by
    cases c.pool.workers[worker]? with
    | none => exact .inl rfl
    | some activity =>
        cases activity with
        | working item lock stage =>
            rw [observe]
            by_cases hsame : id = item.id
            · subst hsame
              cases happended : stage.appended? (g.step item stage c.pool.world).1 with
              | none => exact .inl (by rw [log_record_of_none c happended])
              | some reply =>
                  refine .inr ⟨reply, c.seen worker, ?_⟩
                  rw [log_record_of_some c happended, Function.update_self]
            · exact .inl (log_record_of_ne c hsame)
        | _ => exact .inl rfl
  rcases hlog with hsame | ⟨text, seen, hreply⟩
  · exact stepAside_of_log_eq (.worked worker hstep) hsame
  · refine ⟨.worked worker hstep, fun message hsaid => ?_⟩
    have hlast := congrArg List.getLast? (hreply.symm.trans hsaid)
    simp at hlast

/-- A reply stays where it is. -/
theorem IsReplied.of_log_eq (h : IsReplied id earlier c) (hlog : after.log id = c.log id) :
    IsReplied id earlier after := by
  obtain ⟨text, seen, hreplied⟩ := h
  exact ⟨text, seen, hlog.trans hreplied⟩

/-- A reply is being made, as far as the sentinel shows it, or it is there. -/
inductive IsUnderway (directory : Path) (place : Location) (id : String)
    (earlier : List Posting) (c : Chronicle σ) : Prop
  | marked (hname : nameError? directory (sentinelName id) = none) (hmarked : c.IsMarked place id)
  | replied (hreplied : IsReplied id earlier c)

/-- Who sees the sentinel knows that a reply is under way. -/
theorem Kept.isUnderway (hkept : Kept g place origin c) (hid : IsSessionName id)
    (hthere : c.pool.world.files.pathExists (sentinelPath g.directory id) = true) :
    IsUnderway g.directory place id earlier c := by
  obtain ⟨hname, hmarked⟩ :=
    (hkept.holds.pathExists_join (isName_sentinelName hid.noSlash)).mp hthere
  exact .marked hname hmarked

/-- When the sentinel of what is under way is not in sight, the reply is there. -/
theorem IsUnderway.isReplied (h : IsUnderway g.directory place id earlier c)
    (hkept : Kept g place origin c) (hid : IsSessionName id)
    (hgone : ¬ c.pool.world.files.pathExists (sentinelPath g.directory id) = true) :
    IsReplied id earlier c := by
  cases h with
  | marked hname hmarked =>
      exact absurd ((hkept.holds.pathExists_join (isName_sentinelName hid.noSlash)).mpr
        ⟨hname, hmarked⟩) hgone
  | replied hreplied => exact hreplied

namespace Behind

/-- The session can be read. -/
theorem readBytes_eq (h : Behind g.directory place origin id earlier c)
    (hkept : Kept g place origin c) (hid : IsSessionName id) :
    c.pool.world.files.readBytes (Path.join g.directory id) =
      .ok (c.pool.world.files.bytesAt (place ++ [id])) := by
  obtain ⟨bytes, executable, hfile⟩ := h.there
  rw [bytesAt_of_file hfile]
  exact (hkept.holds.readBytes_join hid.isName).mpr ⟨h.nameable, executable, hfile⟩

/-- As long as somebody has a reply to append there is none. -/
theorem log_of_hasRead (h : Behind g.directory place origin id earlier c)
    (hkept : Kept g place origin c) {i : Nat} {stage : Stage} (hat : c.IsAt i id stage)
    (hread : stage.hasRead = true) : c.log id = earlier := by
  obtain ⟨item, lock, hworker, rfl⟩ := hat
  rcases h.log with hsaid | ⟨text, seen, hreplied⟩
  · exact hsaid
  · have hawaits := hkept.awaited hworker hread
    rw [hreplied] at hawaits
    exact absurd hawaits (not_awaits_of_reply h.whole)

/-- What a worker appends is the first reply. -/
theorem log_of_appended (h : Behind g.directory place origin id earlier c)
    (hkept : Kept g place origin c) {i : Nat} {stage next : Stage} {reply : String}
    (hat : c.IsAt i id stage) (happended : stage.appended? next = some reply)
    (hlog : after.log id =
      c.log id ++ ((stage.appended? next).map fun reply => .reply reply (c.seen i)).toList) :
    after.log id = earlier ++ [.reply reply (c.seen i)] := by
  rw [hlog, happended, h.log_of_hasRead hkept hat (Stage.hasRead_of_appended? happended)]
  rfl

/-- Behind the reply nothing more is written. -/
theorem log_eq_of_effect (h : Behind g.directory place origin id earlier c)
    (hkept : Kept g place origin c) (heffect : Effect g place id c after)
    (haside : ∀ message, after.log id ≠ c.log id ++ [.turn message])
    (hreplied : IsReplied id earlier c) : after.log id = c.log id := by
  cases heffect with
  | elsewhere hlog => exact hlog
  | said hlog => exact absurd hlog (haside _)
  | @advanced i stage next hbefore hadvances hlog _ _ _ _ _ =>
      cases happended : stage.appended? next with
      | none => rwa [happended, Option.map_none, Option.toList_none, List.append_nil] at hlog
      | some reply =>
          obtain ⟨text, seen, hreplied⟩ := hreplied
          have hsaid := h.log_of_hasRead hkept hbefore (Stage.hasRead_of_appended? happended)
          simp [hreplied] at hsaid

/-- A reply that is there stays there. -/
theorem isReplied_of_effect (h : Behind g.directory place origin id earlier c)
    (hkept : Kept g place origin c) (heffect : Effect g place id c after)
    (haside : ∀ message, after.log id ≠ c.log id ++ [.turn message])
    (hreplied : IsReplied id earlier c) : IsReplied id earlier after :=
  hreplied.of_log_eq (h.log_eq_of_effect hkept heffect haside hreplied)

/-- Whatever happens next, as long as nobody says anything there. -/
theorem of_effect (h : Behind g.directory place origin id earlier c)
    (hkept : Kept g place origin c) (hid : IsSessionName id)
    (heffect : Effect g place id c after)
    (haside : ∀ message, after.log id ≠ c.log id ++ [.turn message]) :
    Behind g.directory place origin id earlier after := by
  have hstill := h.isReplied_of_effect hkept heffect haside
  cases heffect with
  | elsewhere hlog hsession _ hnew _ =>
      refine ⟨h.nameable, hsession ▸ h.there, h.whole, hlog ▸ h.log.imp_right hstill, ?_⟩
      intro i appended outcome hat
      rcases hnew hat with hreading | ⟨hbefore, -⟩
      · cases hreading
      · exact hstill (h.replied hbefore)
  | said hlog => exact absurd hlog (haside _)
  | @advanced i stage next hbefore hadvances hlog _ _ _ hnew _ =>
      refine ⟨h.nameable, hadvances.exists_file hid h.there, h.whole, ?_, ?_⟩
      · cases happended : stage.appended? next with
        | none =>
            rw [happended, Option.map_none, Option.toList_none, List.append_nil] at hlog
            exact hlog ▸ h.log.imp_right hstill
        | some reply => exact .inr ⟨_, _, h.log_of_appended hkept hbefore happended hlog⟩
      · intro j appended outcome hat
        obtain ⟨rfl, rfl⟩ := hnew hat
        obtain ⟨reply, happended⟩ :=
          hadvances.exists_appended?_of_unmarking (h.readBytes_eq hkept hid)
        exact ⟨_, _, h.log_of_appended hkept hbefore happended hlog⟩

/-- What was under way is still under way. -/
theorem isUnderway_of_effect (h : Behind g.directory place origin id earlier c)
    (hkept : Kept g place origin c) (hid : IsSessionName id)
    (heffect : Effect g place id c after)
    (haside : ∀ message, after.log id ≠ c.log id ++ [.turn message])
    (hunderway : IsUnderway g.directory place id earlier c) :
    IsUnderway g.directory place id earlier after := by
  have hstill := h.isReplied_of_effect hkept heffect haside
  cases hunderway with
  | replied hreplied => exact .replied (hstill hreplied)
  | marked hname hmarked =>
      cases heffect with
      | elsewhere _ _ hsentinel _ _ =>
          refine .marked hname ?_
          rw [IsMarked, hsentinel]
          exact hmarked
      | said hlog => exact absurd hlog (haside _)
      | @advanced i stage next hbefore hadvances _ _ _ _ _ _ =>
          by_cases hstage : ∃ appended outcome, stage = .unmarking appended outcome
          · obtain ⟨appended, outcome, rfl⟩ := hstage
            exact .replied (hstill (h.replied hbefore))
          · refine .marked hname (hadvances.sentinel_ne_none hid ?_ hmarked)
            exact fun appended outcome hsame => hstage ⟨appended, outcome, hsame⟩

/-- What the file of the session holds is what it held, and the reply if there is one. -/
theorem bytesAt_eq (h : Behind g.directory place origin id earlier c)
    (hkept : Kept g place origin c) (hid : IsSessionName id) :
    c.log id = earlier ∧
        c.pool.world.files.bytesAt (place ++ [id]) =
          origin.bytesAt (place ++ [id]) ++ Utf8.encode (textOf earlier) ∨
      ∃ text seen, c.log id = earlier ++ [.reply text seen] ∧
        c.pool.world.files.bytesAt (place ++ [id]) =
          origin.bytesAt (place ++ [id]) ++ Utf8.encode (textOf earlier) ++
            Utf8.encode (assistantLine text) := by
  refine h.log.imp (fun hsaid => ⟨hsaid, ?_⟩) ?_
  · rw [hkept.bytes hid, hsaid]
  · rintro ⟨text, seen, hreplied⟩
    refine ⟨text, seen, hreplied, ?_⟩
    rw [hkept.bytes hid, hreplied, textOf_append, textOf_singleton, Utf8.encode_append,
      List.append_assoc]
    rfl

/-- The session can be looked at. -/
theorem metadata_eq (h : Behind g.directory place origin id earlier c)
    (hkept : Kept g place origin c) (hid : IsSessionName id) :
    c.pool.world.files.metadata (Path.join g.directory id) =
      .ok ⟨true, false, (c.pool.world.files.bytesAt (place ++ [id])).length⟩ := by
  obtain ⟨bytes, executable, hfile⟩ := h.there
  rw [hkept.holds.metadata_join hid.isName h.nameable hfile, bytesAt_of_file hfile]

end Behind

/-- The length that a client knows is that of the file with the turn. -/
theorem Kept.size_eq (hkept : Kept g place origin c) {options : Client.Options}
    {session : Client.Session} {files : FileSystem} {size : Nat}
    (hsession : Client.Session.at? id g.directory options = .ok session)
    (hsaid : session.appendTurn c.pool.world.files message = .ok (files, size)) :
    size = (origin.bytesAt (place ++ [id]) ++
      Utf8.encode (textOf (c.log id ++ [.turn message]))).length := by
  obtain ⟨hid, hpath⟩ := Client.Session.of_at?_eq_ok hsession
  obtain ⟨-, hgrows⟩ := Client.Session.of_appendTurn_eq_ok hkept.holds hid hpath hsaid
  obtain ⟨-, hsize⟩ := Client.Session.length_of_appendTurn_eq_ok hkept.holds hid hpath hsaid
  rw [hsize, hgrows.bytesAt_eq, hkept.bytes hid, textOf_append, textOf_singleton,
    Utf8.encode_append, List.append_assoc]
  rfl

/-- A session stands so right behind the turn if nobody is about to take a mark away. -/
theorem behind_saying (hkept : Kept g place origin c) {options : Client.Options}
    {session : Client.Session} {files : FileSystem} {size : Nat}
    (hsession : Client.Session.at? id g.directory options = .ok session)
    (hsaid : session.appendTurn c.pool.world.files message = .ok (files, size))
    (hfree : ∀ i appended outcome, ¬ c.IsAt i id (.unmarking appended outcome)) :
    Behind g.directory place origin id (c.log id ++ [.turn message])
      (c.saying id message session.path files) := by
  obtain ⟨hid, hpath⟩ := Client.Session.of_at?_eq_ok hsession
  obtain ⟨-, hgrows⟩ := Client.Session.of_appendTurn_eq_ok hkept.holds hid hpath hsaid
  obtain ⟨herror, -⟩ := Client.Session.length_of_appendTurn_eq_ok hkept.holds hid hpath hsaid
  obtain ⟨executable, hfile⟩ := hgrows.get?_eq
  refine ⟨herror, ⟨_, executable, hfile⟩, isWholeLines_append_turn _ _ _,
    .inl (Function.update_self _ _ _), ?_⟩
  exact fun hat => absurd hat (hfree _ _ _)

end Behind

end Chronicle

end Worker

end FileChat
