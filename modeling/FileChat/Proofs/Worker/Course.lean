/-
# The course of one answer

One worker, one session and one turn in it: the worker comes to read the session, marks it and
asks about it, and later appends the reply and takes the mark away. These are the two halves of
every story in which something happens to the session while the backend is asked.
-/

import Mathlib.Logic.Relation
import FileChat.Proofs.Worker.OwnTurn
import FileChat.Proofs.Worker.Settled

namespace FileChat.Worker.Chronicle

open Conversation FileSystem Session

variable {σ : Type} {g : Generator σ} {place : Location} {id message : String}
  {c after : Chronicle σ}

/-- What others do while nobody says anything in a session. -/
abbrev Meanwhile (g : Generator σ) (id : String) : Chronicle σ → Chronicle σ → Prop :=
  Relation.ReflTransGen (StepAside g id)

/-- What others do is part of what can happen. -/
theorem Reached.meanwhile {begin : Chronicle σ} (h : Reached g begin c)
    (hmeanwhile : Meanwhile g id c after) : Reached g begin after := by
  induction hmeanwhile with
  | refl => exact h
  | tail _ haside ih => exact ih.step haside.1

/-- The only worker takes a step at its session and stays there. -/
theorem exists_advanced {item : WorkItem} {lock : Lock} {stage next : Stage} {world : World σ}
    (hworkers : c.pool.workers = [.working item lock stage])
    (hstep : g.step item stage c.pool.world = (next, world)) (hnext : next.isOver = false) :
    ∃ after, StepAside g id c after ∧ after.pool.workers = [.working item lock next] ∧
      after.pool.world = world ∧ after.seen = (c.record 0 item stage next).seen ∧
      after.log = (c.record 0 item stage next).log := by
  have hworker : c.pool.workers[0]? = some (.working item lock stage) := by rw [hworkers]; rfl
  have haside : StepAside g id c _ := stepAside_of_worked 0
    ((Pool.Turn.advanced hstep hnext).step?_eq hworker)
  rw [hworker, observe, hstep] at haside
  refine ⟨_, haside, ?_, rfl, rfl, rfl⟩
  rw [Pool.become]
  dsimp only
  rw [hworkers]
  rfl

/-- The only worker takes its last step at its session. -/
theorem exists_finished {item : WorkItem} {lock : Lock} {stage : Stage}
    {result : Except StoreError Outcome} {world : World σ}
    (hworkers : c.pool.workers = [.working item lock stage])
    (hstep : g.step item stage c.pool.world = (.finished result, world)) :
    ∃ after, StepAside g id c after ∧ after.pool.world = world ∧
      after.log = (c.record 0 item stage (.finished result)).log := by
  have hworker : c.pool.workers[0]? = some (.working item lock stage) := by rw [hworkers]; rfl
  have haside : StepAside g id c _ := stepAside_of_worked 0
    ((Pool.Turn.finished hstep).step?_eq hworker)
  rw [hworker, observe, hstep] at haside
  exact ⟨_, haside, rfl, rfl⟩

/-- A worker comes to read a session. -/
theorem exists_reading (hid : IsSessionName id) (world : World σ) (log : String → List Posting) :
    ∃ c, Meanwhile g id { start 1 world with log } c ∧
      c.pool.workers = [.working (itemOf g.directory id) 0 .reading] ∧
      c.pool.world = world ∧ c.log = log := by
  have h1 : Meanwhile g id { start 1 world with log } _ :=
    .single (stepAside_of_log_eq (.notified hid) rfl)
  have h2 := h1.tail (stepAside_of_worked 0 rfl)
  have h3 := h2.tail (stepAside_of_worked 0 rfl)
  have h4 := h3.tail (stepAside_of_worked 0 rfl)
  have h5 := h4.tail (stepAside_of_worked 0 rfl)
  exact ⟨_, h5, rfl, rfl, rfl⟩

/-- Two trees agree in a directory, but for a session and its sentinel. -/
def SameBeside (place : Location) (id : String) (fs after : FileSystem) : Prop :=
  ∀ name, name ≠ id → name ≠ sentinelName id →
    after.get? (place ++ [name]) = fs.get? (place ++ [name])

/-- The only worker has marked a session and asks the backend about it. -/
structure Generates (g : Generator σ) (place : Location) (id content text : String)
    (c : Chronicle σ) : Prop where
  workers : c.pool.workers = [.working (itemOf g.directory id) 0 (.generating content)]
  finds : Finds g.directory place id c.pool.world.files text
  markable : nameError? g.directory (sentinelName id) = none
  marked : ∃ executable,
    c.pool.world.files.get? (place ++ [sentinelName id]) = some (.file [] executable)

/-- Somebody says something else while the backend is asked. -/
theorem Generates.saying {content text : String} (h : Generates g place id content text c)
    (path : Path) {files : FileSystem}
    (hgrows : Grows (place ++ [id]) (Utf8.encode (userLine message)) c.pool.world.files files) :
    Generates g place id content (text ++ userLine message) (c.saying id message path files) := by
  refine ⟨h.workers, h.finds.of_grows hgrows, h.markable, ?_⟩
  obtain ⟨executable, hmarked⟩ := h.marked
  exact ⟨executable,
    (hgrows.get?_of_ne (spot_ne_sentinel place h.finds.session id).symm).trans hmarked⟩

/-- A worker comes to ask the backend about a session that owes a reply. -/
theorem exists_generates {text : String} (world : World σ) (log : String → List Posting)
    (hread : Finds g.directory place id world.files text) (howed : needsResponse text = true)
    (herror : nameError? g.directory (sentinelName id) = none)
    (hfree : world.files.get? (place ++ [sentinelName id]) = none) :
    ∃ c, Meanwhile g id { start 1 world with log } c ∧ Generates g place id text text c ∧
      c.seen 0 = text ∧ c.log = log ∧ SameBeside place id world.files c.pool.world.files := by
  have hslash := hread.session.noSlash
  obtain ⟨reading, hbegun, hworkers, rfl, hlog⟩ := exists_reading (g := g) hread.session world log
  have hstep := step_reading hread.read
  rw [howed, if_pos rfl] at hstep
  obtain ⟨marking, howing, hworkers', hworld', hseen', hlog'⟩ :
      ∃ marking, StepAside g id reading marking ∧ _ := exists_advanced hworkers hstep rfl
  obtain ⟨marked, hmark⟩ : ∃ marked,
      createSentinel reading.pool.world.files g.directory id = .ok marked :=
    ⟨_, (createSentinel_eq_ok hread.holds hslash).mpr ⟨herror, .inl ⟨hfree, rfl⟩⟩⟩
  have hstep' : g.step (itemOf g.directory id) (.marking text) marking.pool.world = _ :=
    step_marking (by rw [hworld']; exact hmark)
  obtain ⟨generating, hmarking, hworkers'', hworld'', hseen'', hlog''⟩ :
      ∃ generating, StepAside g id marking generating ∧ _ := exists_advanced hworkers' hstep' rfl
  have hfiles : generating.pool.world.files = marked := by rw [hworld'']; rfl
  have hdiffers := differsAt_of_createSentinel hread.holds hslash hmark
  refine ⟨generating, (hbegun.tail howing).tail hmarking, ⟨hworkers'', ?_, herror, ?_⟩, ?_, ?_, ?_⟩
  · rw [hfiles]
    exact hread.of_differsAt (hread.session.ne_sentinelName id) hdiffers
  · rw [hfiles]
    exact (get?_of_createSentinel hread.holds hslash hmark).2
  · rw [hseen'', seen_record_of_hasRead marking rfl, hseen']
    simp [record]
  · rw [hlog'', log_record_of_none marking rfl, hlog', log_record_of_none reading rfl, hlog]
  · rw [hfiles]
    exact fun name _ hname => hdiffers.get?_of_ne (by simpa using hname)

/-- Somebody says something in an empty session, and a worker comes to ask the backend about it. -/
theorem exists_generates_said {session : Client.Session} {world : World σ}
    (hfinds : Finds g.directory place id world.files "")
    (hpath : session.path = Path.join g.directory id)
    (hmessage : Client.Session.isSingleLine message = true)
    (herror : nameError? g.directory (sentinelName id) = none)
    (hfree : world.files.get? (place ++ [sentinelName id]) = none) :
    ∃ files size c, session.appendTurn world.files message = .ok (files, size) ∧
      Meanwhile g id ((start 1 world).saying id message session.path files) c ∧
      Generates g place id (userLine message) (userLine message) c ∧
      c.seen 0 = userLine message ∧ c.log id = [.turn message] := by
  obtain ⟨files, size, hsaid⟩ := Client.Session.exists_appendTurn hfinds hpath hmessage
  obtain ⟨-, hgrows⟩ :=
    Client.Session.of_appendTurn_eq_ok hfinds.holds hfinds.session hpath hsaid
  have hread := hfinds.of_grows hgrows
  rw [String.empty_append] at hread
  have hvacant := (hgrows.get?_of_ne (spot_ne_sentinel place hfinds.session id).symm).trans hfree
  obtain ⟨c, hmeanwhile, hgenerates, hseen, hlog, -⟩ := exists_generates
    (world.written session.path files) (Function.update (fun _ => []) id [.turn message]) hread
    (Client.Session.needsResponse_userLine hmessage) herror hvacant
  refine ⟨files, size, c, hsaid, hmeanwhile, hgenerates, hseen, ?_⟩
  rw [hlog]
  exact Function.update_self _ _ _

/-- A worker that asks the backend appends a reply, and then the mark is still there. -/
theorem Generates.exists_recorded {content text : String}
    (h : Generates g place id content text c) (hsilent : g.backend.IsSilent)
    (hsteady : g.backend.IsSteady) :
    ∃ after reply outcome, Meanwhile g id c after ∧
      after.pool.workers =
        [.working (itemOf g.directory id) 0 (.unmarking (.ok ()) outcome)] ∧
      Finds g.directory place id after.pool.world.files (text ++ assistantLine reply) ∧
      (∃ executable, after.pool.world.files.get? (place ++ [sentinelName id]) =
        some (.file [] executable)) ∧
      after.log id = c.log id ++ [.reply reply (c.seen 0)] ∧
      SameBeside place id c.pool.world.files after.pool.world.files := by
  obtain ⟨executable, hmarked⟩ := h.marked
  obtain ⟨reply, outcome, asked, hasked, -, hsame⟩ :=
    exists_step_generating (itemOf g.directory id) hsilent
      (hsteady (g.callFor content) c.pool.world)
  obtain ⟨recording, hanswered, hworkers, rfl, hseen, hlog⟩ :
      ∃ recording, StepAside g id c recording ∧ _ := exists_advanced h.workers hasked rfl
  have hfound : Finds g.directory place id recording.pool.world.files text := by
    rw [hsame]
    exact h.finds
  obtain ⟨told, htold, happends⟩ := exists_appendReply hfound reply
  obtain ⟨unmarking, hrecorded, hworkers', rfl, -, hlog'⟩ :
      ∃ unmarking, StepAside g id recording unmarking ∧ _ :=
    exists_advanced hworkers (step_recording htold) rfl
  refine ⟨unmarking, reply, outcome, .tail (.single hanswered) hrecorded, hworkers',
    hfound.of_grows happends, ⟨executable, ?_⟩, ?_, ?_⟩
  · rw [happends.get?_of_ne (spot_ne_sentinel place h.finds.session id).symm, hsame, hmarked]
  · rw [hlog', log_record_of_some recording rfl, itemOf, Function.update_self, hlog,
      log_record_of_none c rfl, hseen, seen_record_of_hasRead c rfl]
  · intro name hname _
    rw [happends.get?_of_ne (by simpa using hname), hsame]

/-- A worker that asks the backend appends a reply and takes the mark away. -/
theorem Generates.exists_unmarked {content text : String} (h : Generates g place id content text c)
    (hsilent : g.backend.IsSilent) (hsteady : g.backend.IsSteady) :
    ∃ after reply, Meanwhile g id c after ∧
      Finds g.directory place id after.pool.world.files (text ++ assistantLine reply) ∧
      after.pool.world.files.get? (place ++ [sentinelName id]) = none ∧
      after.log id = c.log id ++ [.reply reply (c.seen 0)] := by
  obtain ⟨unmarking, reply, outcome, hmeanwhile, hworkers, hfinds, ⟨executable, hmarked⟩, hlog,
    -⟩ := h.exists_recorded hsilent hsteady
  have hcleared := removeSentinel_of_file hfinds.holds h.finds.session.noSlash h.markable hmarked
  obtain ⟨left, hleft, hworld, hlog'⟩ : ∃ left, StepAside g id unmarking left ∧ _ :=
    exists_finished hworkers (step_unmarking hcleared)
  refine ⟨left, reply, .tail hmeanwhile hleft, ?_, ?_, ?_⟩
  · rw [hworld]
    exact hfinds.of_differsAt (h.finds.session.ne_sentinelName id) (.erase (by simp) hmarked)
  · rw [hworld]
    exact (get?_erase _ (by simp) _).trans (if_pos rfl)
  · rw [hlog', log_record_of_none unmarking rfl, hlog]

end FileChat.Worker.Chronicle
