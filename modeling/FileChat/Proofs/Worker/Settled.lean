/-
# A turn is settled

A worker that finds a session owing a reply and is left alone with it appends one turn,
whatever the backend says. Whether that settles the question is decided by the last character
that was there: behind a line feed the turn is a line of its own, and a second look finds
nothing to do; behind anything else the turn is glued to an unfinished line, and the second
look begins all over.
-/

import FileChat.Proofs.Conversation.Turn
import FileChat.Proofs.Text.Utf8
import FileChat.Proofs.Worker.Job

namespace FileChat.Worker

open Conversation FileSystem Session

variable {σ : Type}

/-- The turn that is appended for an answer, and what the session comes to with it. -/
def turnFor? : Answer → Option (String × Outcome)
  | .reply text => some (text, .replied)
  | .failure cause => some (errorReply cause.message, .errorReply)
  | .crash => none

/-- Every answer that leaves the worker alive brings a turn. -/
theorem exists_turnFor? {answer : Answer} (h : answer ≠ .crash) :
    ∃ reply outcome, turnFor? answer = some (reply, outcome) ∧ outcome ≠ .skipped := by
  cases answer with
  | reply text => exact ⟨text, .replied, rfl, by decide⟩
  | failure cause => exact ⟨_, .errorReply, rfl, by decide⟩
  | crash => exact absurd rfl h

section Steps

variable {g : Generator σ} {place : Location} {id text : String} {w : World σ}

/-- A turn is appended to a file that is there. -/
theorem appendReply_of_file {directory : Path} (hfs : w.files.Holds directory place)
    (hname : Path.IsName id) (herror : nameError? directory id = none) {bytes : Bytes}
    {executable : Bool} (hfile : w.files.get? (place ++ [id]) = some (.file bytes executable))
    (reply : String) :
    appendReply (itemOf directory id) reply w =
      .ok (w.written (Path.join directory id) (w.files.put (place ++ [id])
        (.file (bytes ++ Utf8.encode (assistantLine reply)) executable))) := by
  have happend : append w.files (Path.join directory id) (assistantLine reply) = .ok _ :=
    (append_eq_ok hfs hname).mpr ⟨herror, bytes, executable, hfile, rfl⟩
  unfold appendReply itemOf
  dsimp only
  rw [happend, Except.map]

/-- A turn can be appended to a session that is there. -/
theorem exists_appendReply {directory : Path} (h : Finds directory place id w.files text)
    (reply : String) :
    ∃ after, appendReply (itemOf directory id) reply w = .ok after ∧
      Appends (place ++ [id]) reply w.files after.files := by
  obtain ⟨herror, bytes, executable, hentry, -⟩ :=
    (h.holds.readText_join h.session.isName).mp h.read
  exact ⟨_, appendReply_of_file h.holds h.session.isName herror hentry reply,
    .put (by simp) hentry⟩

/-- A worker that is done stays as it is. -/
theorem steps_of_isOver (item : WorkItem) {stage : Stage} (hover : stage.isOver = true)
    (n : Nat) : g.steps item n (stage, w) = (stage, w) := by
  induction n with
  | zero => rfl
  | succ n ih =>
      have hstep : g.step item stage w = (stage, w) := by
        cases stage with
        | finished result => rfl
        | crashed => rfl
        | _ => cases hover
      rw [Generator.steps, hstep, ih]

theorem steps_succ (item : WorkItem) (stage : Stage) (n : Nat) :
    g.steps item (n + 1) (stage, w) = g.steps item n (g.step item stage w) := rfl

theorem steps_add (item : WorkItem) (m n : Nat) (at_ : Stage × World σ) :
    g.steps item (m + n) at_ = g.steps item n (g.steps item m at_) := by
  induction m generalizing at_ with
  | zero => rw [Nat.zero_add, Generator.steps]
  | succ m ih => rw [Nat.add_right_comm, Generator.steps, ih, Generator.steps]

/-- A worker that is done in time has answered its session. -/
theorem process_of_steps {item : WorkItem} {result : Except StoreError Outcome} {after : World σ}
    {n : Nat} (hn : n ≤ Generator.maxSteps)
    (hsteps : g.steps item n (.reading, w) = (.finished result, after)) :
    g.process item w = (some result, after) := by
  have hall : g.steps item Generator.maxSteps (.reading, w) = (.finished result, after) := by
    rw [← Nat.add_sub_cancel' hn, steps_add, hsteps, steps_of_isOver item rfl]
  unfold Generator.process
  rw [hall]

theorem step_reading (hread : w.files.readText (Path.join g.directory id) = .ok text) :
    g.step (itemOf g.directory id) .reading w =
      if needsResponse text then (.marking text, w) else (.finished (.ok .skipped), w) := by
  unfold Generator.step
  dsimp only
  rw [read_itemOf_eq_ok.mpr hread]

/-- A session that owes nothing is skipped. -/
theorem process_of_not_owed (hread : w.files.readText (Path.join g.directory id) = .ok text)
    (howed : needsResponse text = false) :
    g.process (itemOf g.directory id) w = (some (.ok .skipped), w) := by
  apply process_of_steps (n := 1) (by decide)
  rw [steps_succ, step_reading hread, howed, if_neg (by simp), Generator.steps]

theorem step_marking {files : FileSystem}
    (hmark : createSentinel w.files g.directory id = .ok files) :
    g.step (itemOf g.directory id) (.marking text) w =
      (.generating text, w.written (sentinelPath g.directory id) files) := by
  unfold Generator.step itemOf
  dsimp only
  rw [hmark]

theorem step_unmarkable {cause : StoreError}
    (hmark : createSentinel w.files g.directory id = .error cause) :
    g.step (itemOf g.directory id) (.marking text) w = (.excusing cause, w) := by
  unfold Generator.step itemOf
  dsimp only
  rw [hmark]

theorem step_excusing {item : WorkItem} {cause : StoreError} {after : World σ}
    (htold : appendReply item (excuse cause) w = .ok after) :
    g.step item (.excusing cause) w = (.finished (.ok .errorReply), after) := by
  unfold excuse at htold
  unfold Generator.step
  dsimp only
  rw [htold]

theorem step_generating (item : WorkItem) {reply : String} {outcome : Outcome}
    (hanswer : turnFor? (g.backend.ask (g.callFor text) w).1 = some (reply, outcome)) :
    g.step item (.generating text) w =
      (.recording reply outcome, (g.backend.ask (g.callFor text) w).2) := by
  unfold Generator.step
  dsimp only
  generalize g.backend.ask (g.callFor text) w = asked at hanswer
  obtain ⟨answer, after⟩ := asked
  cases answer with
  | crash => cases hanswer
  | reply said | failure cause =>
      obtain ⟨rfl, rfl⟩ := Prod.mk.inj (Option.some.inj hanswer)
      rfl

theorem step_recording {item : WorkItem} {reply : String} {outcome : Outcome} {after : World σ}
    (htold : appendReply item reply w = .ok after) :
    g.step item (.recording reply outcome) w = (.unmarking (.ok ()) outcome, after) := by
  unfold Generator.step
  dsimp only
  rw [htold]

theorem step_unmarking {appended : Except StoreError Unit} {outcome : Outcome}
    {files : FileSystem} (hclear : removeSentinel w.files g.directory id = .ok files) :
    g.step (itemOf g.directory id) (.unmarking appended outcome) w =
      (.finished (appended.map fun _ => outcome), { w with files }) := by
  unfold Generator.step itemOf
  dsimp only
  rw [hclear]

/-- An answer that leaves the worker alive becomes a reply. -/
theorem exists_step_generating (item : WorkItem) (hsilent : g.backend.IsSilent)
    (hanswer : (g.backend.ask (g.callFor text) w).1 ≠ .crash) :
    ∃ reply outcome after, g.step item (.generating text) w = (.recording reply outcome, after) ∧
      outcome ≠ .skipped ∧ after.files = w.files := by
  obtain ⟨host, hhost⟩ := hsilent (g.callFor text) w
  obtain ⟨reply, outcome, hturn, houtcome⟩ := exists_turnFor? hanswer
  exact ⟨reply, outcome, _, step_generating item hturn, houtcome, by rw [hhost]⟩

/-- A worker that could not mark its session tells the user so. -/
theorem exists_step_excusing (h : Finds g.directory place id w.files text) (cause : StoreError) :
    ∃ after, g.step (itemOf g.directory id) (.excusing cause) w =
        (.finished (.ok .errorReply), after) ∧
      Finds g.directory place id after.files (text ++ assistantLine (excuse cause)) := by
  obtain ⟨after, hdone, happends⟩ := exists_appendReply h (excuse cause)
  exact ⟨after, step_excusing hdone, h.of_grows happends⟩

/-- A worker that has marked its session appends the answer and takes the mark away. -/
theorem exists_steps_marked (h : Finds g.directory place id w.files text)
    (herror : nameError? g.directory (sentinelName id) = none) {bytes : Bytes} {executable : Bool}
    (hmark : w.files.get? (place ++ [sentinelName id]) = some (.file bytes executable))
    (hsilent : g.backend.IsSilent) {reply : String} {outcome : Outcome}
    (hturn : turnFor? (g.backend.ask (g.callFor text) w).1 = some (reply, outcome)) :
    ∃ after, Finds g.directory place id after.files (text ++ assistantLine reply) ∧
      g.steps (itemOf g.directory id) 3 (.generating text, w) =
        (.finished (.ok outcome), after) := by
  have hasked := step_generating (itemOf g.directory id) hturn
  have hsame : (g.backend.ask (g.callFor text) w).2.files = w.files := by
    obtain ⟨host, hhost⟩ := hsilent (g.callFor text) w
    rw [hhost]
  have hfound : Finds g.directory place id (g.backend.ask (g.callFor text) w).2.files text := by
    rwa [hsame]
  obtain ⟨told, htold, happends⟩ := exists_appendReply hfound reply
  have hafter := hfound.of_grows happends
  have hstill : told.files.get? (place ++ [sentinelName id]) = some (.file bytes executable) := by
    rw [happends.get?_of_ne (spot_ne_sentinel place h.session id).symm,
      hsame, hmark]
  have hcleared := removeSentinel_of_file hafter.holds h.session.noSlash herror hstill
  refine ⟨{ told with files := told.files.erase (place ++ [sentinelName id]) }, ?_, ?_⟩
  · exact hafter.of_differsAt (h.session.ne_sentinelName id) (.erase (by simp) hstill)
  · rw [steps_succ, hasked, steps_succ, step_recording htold, steps_succ,
      step_unmarking hcleared, Generator.steps, Except.map]

/-- The turns that a worker writes for a session that owes a reply, and what it comes to with
them: the session could not be marked, or it was marked and the backend gave an answer. -/
inductive Writes (g : Generator σ) (id text : String) (w : World σ) : String → Outcome → Prop
  | unmarked {cause : StoreError} (hmark : createSentinel w.files g.directory id = .error cause) :
      Writes g id text w (excuse cause) .errorReply
  | asked {marked : FileSystem} {reply : String} {outcome : Outcome}
      (hmark : createSentinel w.files g.directory id = .ok marked)
      (hturn : turnFor? (g.backend.ask (g.callFor text)
        (w.written (sentinelPath g.directory id) marked)).1 = some (reply, outcome)) :
      Writes g id text w reply outcome

/-- Either the turn reports a failure, or it is what the backend said of the session as it was
marked. -/
theorem Writes.reports_or_says {reply : String} {outcome : Outcome}
    (h : Writes g id text w reply outcome) :
    (outcome = .errorReply ∧ ∃ message, reply = errorReply message) ∨
      (outcome = .replied ∧ ∃ marked, createSentinel w.files g.directory id = .ok marked ∧
        (g.backend.ask (g.callFor text)
          (w.written (sentinelPath g.directory id) marked)).1 = .reply reply) := by
  cases h with
  | @unmarked cause hmark => exact .inl ⟨rfl, _, rfl⟩
  | @asked marked reply outcome hmark hturn =>
      cases hanswer : (g.backend.ask (g.callFor text)
          (w.written (sentinelPath g.directory id) marked)).1 with
      | reply said =>
          rw [hanswer] at hturn
          obtain ⟨rfl, rfl⟩ := Prod.mk.inj (Option.some.inj hturn)
          exact .inr ⟨rfl, marked, hmark, hanswer⟩
      | failure cause =>
          rw [hanswer] at hturn
          obtain ⟨rfl, rfl⟩ := Prod.mk.inj (Option.some.inj hturn)
          exact .inl ⟨rfl, _, rfl⟩
      | crash =>
          rw [hanswer] at hturn
          cases hturn

/-- A session that owes a reply gets one of these turns. -/
theorem exists_process_writes (h : Finds g.directory place id w.files text)
    (hsilent : g.backend.IsSilent) (hsteady : g.backend.IsSteady)
    (howed : needsResponse text = true) :
    ∃ reply outcome after, Writes g id text w reply outcome ∧
      g.process (itemOf g.directory id) w = (some (.ok outcome), after) ∧
      Finds g.directory place id after.files (text ++ assistantLine reply) := by
  have hread : g.step (itemOf g.directory id) .reading w = (.marking text, w) := by
    rw [step_reading h.read, howed, if_pos rfl]
  cases hmark : createSentinel w.files g.directory id with
  | error cause =>
      obtain ⟨after, hexcused, hafter⟩ := exists_step_excusing h cause
      refine ⟨_, _, after, .unmarked hmark, process_of_steps (n := 3) (by decide) ?_, hafter⟩
      rw [steps_succ, hread, steps_succ, step_unmarkable hmark, steps_succ, hexcused,
        Generator.steps]
  | ok files =>
      obtain ⟨herror, executable, hfile⟩ :=
        get?_of_createSentinel h.holds h.session.noSlash hmark
      have hdiff := differsAt_of_createSentinel h.holds h.session.noSlash hmark
      obtain ⟨reply, outcome, hturn, -⟩ := exists_turnFor? (hsteady (g.callFor text)
        (w.written (sentinelPath g.directory id) files))
      obtain ⟨after, hafter, hsteps⟩ :=
        exists_steps_marked (w := w.written (sentinelPath g.directory id) files)
          (h.of_differsAt (h.session.ne_sentinelName id) hdiff) herror hfile hsilent hturn
      refine ⟨reply, outcome, after, .asked hmark hturn, process_of_steps (n := 5) (by decide) ?_,
        hafter⟩
      rw [steps_succ, hread, steps_succ, step_marking hmark, hsteps]

/-- A session that owes a reply gets one, and one turn with it. -/
theorem exists_process_of_owed (h : Finds g.directory place id w.files text)
    (hsilent : g.backend.IsSilent) (hsteady : g.backend.IsSteady)
    (howed : needsResponse text = true) :
    ∃ reply outcome after, g.process (itemOf g.directory id) w = (some (.ok outcome), after) ∧
      outcome ≠ .skipped ∧
      Finds g.directory place id after.files (text ++ assistantLine reply) := by
  obtain ⟨reply, outcome, after, hwrites, hprocess, hafter⟩ :=
    exists_process_writes h hsilent hsteady howed
  refine ⟨reply, outcome, after, hprocess, ?_, hafter⟩
  rcases hwrites.reports_or_says with ⟨rfl, -⟩ | ⟨rfl, -⟩ <;> nofun

/-- A worker that finds a session owing a reply and has it to itself appends one turn. That
turn settles the question, is the last line and lets a second look pass the session over exactly
if what was there ends with a line feed. -/
theorem process_settles_iff (h : Finds g.directory place id w.files text)
    (hsilent : g.backend.IsSilent) (hsteady : g.backend.IsSteady)
    (howed : needsResponse text = true) :
    ∃ reply outcome after,
      g.process (itemOf g.directory id) w = (some (.ok outcome), after) ∧
      (outcome = .replied ∨ outcome = .errorReply) ∧
      after.files.readText (Path.join g.directory id) = .ok (text ++ assistantLine reply) ∧
      (needsResponse (text ++ assistantLine reply) = false ↔ text.toList.getLast? = some '\n') ∧
      ((Text.lines (text ++ assistantLine reply).toList).getLast? = some (replyLine reply) ↔
        text.toList.getLast? = some '\n') ∧
      (g.process (itemOf g.directory id) after = (some (.ok .skipped), after) ↔
        text.toList.getLast? = some '\n') := by
  obtain ⟨reply, outcome, after, hprocess, houtcome, hafter⟩ :=
    exists_process_of_owed h hsilent hsteady howed
  have hwhole := isWholeLines_iff_of_needsResponse howed
  have hsettled : needsResponse (text ++ assistantLine reply) = false ↔
      text.toList.getLast? = some '\n' := by
    rw [← hwhole]
    constructor
    · intro hnothing
      by_contra hopen
      rw [needsResponse_append_of_unfinished howed hopen] at hnothing
      cases hnothing
    · exact fun hlines => needsResponse_append_assistantLine hlines reply
  refine ⟨reply, outcome, after, hprocess, ?_, hafter.read, hsettled, ?_, ?_⟩
  · cases outcome with
    | skipped => exact absurd rfl houtcome
    | replied => exact .inl rfl
    | errorReply => exact .inr rfl
  · rw [getLast?_lines_append_assistantLine, hwhole]
  · rw [← hsettled]
    constructor
    · intro hagain
      by_contra hstill
      obtain ⟨_, again, _, hprocess', hagain', -⟩ :=
        exists_process_of_owed hafter hsilent hsteady (by simpa using hstill)
      rw [hprocess'] at hagain
      obtain rfl : again = .skipped := by simpa using congrArg Prod.fst hagain
      exact hagain' rfl
    · exact fun hnothing => process_of_not_owed hafter.read hnothing

theorem process_settles_greeting :
    needsResponse "User: hi\n" = true ∧ ∃ reply outcome after,
      (rehearsal (.fixed "Hello.")).process (itemOf "/s" "a")
        (.start (withFile "a" (Utf8.encode "User: hi\n")) []) = (some (.ok outcome), after) ∧
      needsResponse ("User: hi\n" ++ assistantLine reply) = false ∧
      (rehearsal (.fixed "Hello.")).process (itemOf "/s" "a") after =
        (some (.ok .skipped), after) := by
  have howed : needsResponse "User: hi\n" = true := by decide
  have hid : IsSessionName "a" := ⟨by decide, by decide⟩
  have hfinds := Finds.withFile hid (by decide) "User: hi\n"
  obtain ⟨reply, outcome, after, hprocess, -, -, hsettled, -, hagain⟩ :=
    process_settles_iff (g := rehearsal (.fixed "Hello."))
      (w := .start (withFile "a" (Utf8.encode "User: hi\n")) []) hfinds
      (DryRun.isSilent_backend _ _) (DryRun.isSteady_backend _ (by decide) _) howed
  exact ⟨howed, reply, outcome, after, hprocess, hsettled.mpr (by decide),
    hagain.mpr (by decide)⟩

end Steps

end FileChat.Worker
