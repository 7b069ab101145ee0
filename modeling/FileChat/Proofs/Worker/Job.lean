/-
# What a step of a worker can do

A worker that answers a session of an open directory goes from stage to stage in one of the
ways listed here. Each of them changes at most one entry of the directory: the session, by one
turn at its end, or the sentinel of the session. Everything that is proved about workers, one
or many, is proved by going through this list.
-/

import FileChat.Backend.Chat
import FileChat.Backend.DryRun
import FileChat.Backend.Local
import FileChat.Proofs.Session.Watch
import FileChat.Worker.Job

namespace FileChat

/-- The calls of a backend change nothing but what lies behind it. -/
def Backend.IsSilent {σ : Type} (b : Backend σ) : Prop :=
  ∀ call w, ∃ host, (b.ask call w).2 = { w with host }

/-- A backend behind a host is silent, whatever the host answers. -/
theorem Backend.isSilent_ofHost (name : String)
    (ask : Call → Http.Host → Except BackendError String × Http.Host) :
    (Backend.ofHost name ask).IsSilent := by
  intro call w
  simp only [Backend.ofHost]
  split
  · next text host _ => exact ⟨host, rfl⟩
  · next cause host _ => exact ⟨host, rfl⟩

theorem Chat.isSilent_backend (service : ChatService) : (Chat.backend service).IsSilent :=
  Backend.isSilent_ofHost _ _

theorem Local.isSilent_backend (model : LocalModel) : (Local.backend model).IsSilent :=
  Backend.isSilent_ofHost _ _

/-- A rehearsal without edits is silent. -/
theorem DryRun.isSilent_backend (directory : Path) (rule : DryRun.Rule) :
    (DryRun.backend directory rule []).IsSilent := fun _ w => ⟨w.host ++ [_], rfl⟩

/-- No call of a backend takes the worker with it. -/
def Backend.IsSteady {σ : Type} (b : Backend σ) : Prop := ∀ call w, (b.ask call w).1 ≠ .crash

/-- A rehearsal is steady unless it rehearses a crash. -/
theorem DryRun.isSteady_backend (directory : Path) {rule : DryRun.Rule} (hrule : rule ≠ .crash)
    (edits : List Edit) : (DryRun.backend directory rule edits).IsSteady := by
  intro call w
  cases rule with
  | crash => exact absurd rfl hrule
  | _ => simp [DryRun.backend, DryRun.Rule.answer]

namespace Worker

open FileSystem Session

variable {σ : Type}

/-- Workers of a rehearsal in the directory of a small tree. -/
def rehearsal (rule : DryRun.Rule) : Generator (List DryRun.Record) where
  backend := DryRun.backend "/s" rule []
  directory := "/s"
  params := ⟨64, ⟨0x3f333333⟩, ["User:"], 12288⟩

/-- What a user is told when there could be no sentinel. -/
def excuse (cause : StoreError) : String :=
  Conversation.errorReply (": ".intercalate cause.chain)

/-- The reply that was appended between two stages. -/
def Stage.appended? : Stage → Stage → Option String
  | .excusing cause, .finished (.ok _) => some (excuse cause)
  | .recording reply _, .unmarking (.ok _) _ => some reply
  | _, _ => none

/-- The second tree has one more turn of the assistant at the end of a session. -/
def Appends (spot : Location) (reply : String) (fs after : FileSystem) : Prop :=
  Grows spot (Utf8.encode (Conversation.assistantLine reply)) fs after

/-- The ways in which a worker goes on with a session. -/
inductive Advances (directory : Path) (place : Location) (id : String) (w : World σ) :
    Stage → Stage → World σ → Prop
  | ended {stage : Stage} (hover : stage.isOver = true) :
      Advances directory place id w stage stage w
  | unreadable {cause : StoreError}
      (hread : ∀ text, w.files.readText (Path.join directory id) ≠ .ok text) :
      Advances directory place id w .reading (.finished (.error cause)) w
  | skipped {text : String} (hread : w.files.readText (Path.join directory id) = .ok text)
      (howed : Conversation.needsResponse text = false) :
      Advances directory place id w .reading (.finished (.ok .skipped)) w
  | owing {text : String} (hread : w.files.readText (Path.join directory id) = .ok text)
      (howed : Conversation.needsResponse text = true) :
      Advances directory place id w .reading (.marking text) w
  | unmarkable {content : String} {cause : StoreError} :
      Advances directory place id w (.marking content) (.excusing cause) w
  | marked {content : String} {after : World σ}
      (hfiles : DiffersAt (place ++ [sentinelName id]) w.files after.files)
      (hthere : after.files.get? (place ++ [sentinelName id]) ≠ none) :
      Advances directory place id w (.marking content) (.generating content) after
  | answered {content reply : String} {outcome : Outcome} {after : World σ}
      (hfiles : after.files = w.files) :
      Advances directory place id w (.generating content) (.recording reply outcome) after
  | crashed {content : String} {after : World σ} (hfiles : after.files = w.files) :
      Advances directory place id w (.generating content) .crashed after
  | excused {cause : StoreError} {after : World σ}
      (hfiles : Appends (place ++ [id]) (excuse cause) w.files after.files) :
      Advances directory place id w (.excusing cause) (.finished (.ok .errorReply)) after
  | unexcused {cause failure : StoreError}
      (hgone : ∀ bytes, w.files.readBytes (Path.join directory id) ≠ .ok bytes) :
      Advances directory place id w (.excusing cause) (.finished (.error failure)) w
  | recorded {reply : String} {outcome : Outcome} {after : World σ}
      (hfiles : Appends (place ++ [id]) reply w.files after.files) :
      Advances directory place id w (.recording reply outcome) (.unmarking (.ok ()) outcome) after
  | unrecorded {reply : String} {outcome : Outcome} {failure : StoreError}
      (hgone : ∀ bytes, w.files.readBytes (Path.join directory id) ≠ .ok bytes) :
      Advances directory place id w (.recording reply outcome)
        (.unmarking (.error failure) outcome) w
  | unmarked {appended : Except StoreError Unit} {outcome : Outcome}
      {result : Except StoreError Outcome} {after : World σ}
      (hfiles : after.files = w.files ∨
        DiffersAt (place ++ [sentinelName id]) w.files after.files) :
      Advances directory place id w (.unmarking appended outcome) (.finished result) after

section Append

variable {w after : World σ} {directory : Path} {place : Location} {id : String}

theorem appendReply_eq_ok {item : WorkItem} {reply : String} :
    appendReply item reply w = .ok after ↔
      ∃ files, append w.files item.path (Conversation.assistantLine reply) = .ok files ∧
        after = w.written item.path files := by
  unfold appendReply
  cases append w.files item.path (Conversation.assistantLine reply) with
  | error cause => simp [Except.map]
  | ok files => simp [Except.map, eq_comm]

/-- A turn is appended to a session that is there. -/
theorem appends_of_appendReply (hfs : w.files.Holds directory place) (hid : IsSessionName id)
    {reply : String} (hdone : appendReply (itemOf directory id) reply w = .ok after) :
    Appends (place ++ [id]) reply w.files after.files := by
  obtain ⟨files, happend, rfl⟩ := appendReply_eq_ok.mp hdone
  exact hfs.grows_of_append hid.isName (during_eq_ok.mp happend)

/-- Only a session that is not there keeps a turn from being appended. -/
theorem not_readBytes_of_appendReply (hfs : w.files.Holds directory place)
    (hid : IsSessionName id) {reply : String} {cause : StoreError}
    (hdone : appendReply (itemOf directory id) reply w = .error cause) (bytes : Bytes) :
    w.files.readBytes (Path.join directory id) ≠ .ok bytes := by
  intro hread
  obtain ⟨herror, executable, hentry⟩ := (hfs.readBytes_join hid.isName).mp hread
  have happend : append w.files (Path.join directory id) (Conversation.assistantLine reply) =
      .ok _ := (append_eq_ok hfs hid.isName).mpr ⟨herror, bytes, executable, hentry, rfl⟩
  rw [appendReply, itemOf] at hdone
  dsimp only at hdone
  rw [happend] at hdone
  cases hdone

end Append

/-- A session is read exactly if its file can be. -/
theorem read_itemOf_eq_ok {fs : FileSystem} {directory : Path} {id text : String} :
    read fs (itemOf directory id).path = .ok text ↔
      fs.readText (Path.join directory id) = .ok text := by
  unfold Session.read
  exact during_eq_ok

/-- A silent backend leaves the files alone, whatever it answers. -/
theorem files_step_generating {g : Generator σ} (hsilent : g.backend.IsSilent) (item : WorkItem)
    (content : String) (w : World σ) :
    (g.step item (.generating content) w).2.files = w.files := by
  obtain ⟨host, hhost⟩ := hsilent (g.callFor content) w
  have hfiles : (g.backend.ask (g.callFor content) w).2.files = w.files := by rw [hhost]
  unfold Generator.step
  dsimp only
  generalize g.backend.ask (g.callFor content) w = asked at hfiles
  obtain ⟨answer, after⟩ := asked
  cases answer with
  | reply | failure | crash => exact hfiles

/-- Every step of a worker is one of these. -/
theorem advances_step {g : Generator σ} {place : Location} {id : String} {w : World σ}
    (hfs : w.files.Holds g.directory place) (hid : IsSessionName id)
    (hsilent : g.backend.IsSilent) (stage : Stage) :
    Advances g.directory place id w stage (g.step (itemOf g.directory id) stage w).1
      (g.step (itemOf g.directory id) stage w).2 := by
  cases stage with
  | reading =>
      unfold Generator.step
      dsimp only
      cases hread : read w.files (itemOf g.directory id).path with
      | error cause =>
          refine .unreadable fun text htext => ?_
          rw [read_itemOf_eq_ok.mpr htext] at hread
          cases hread
      | ok text =>
          have htext := read_itemOf_eq_ok.mp hread
          dsimp only
          cases howed : Conversation.needsResponse text with
          | false => exact .skipped htext howed
          | true => exact .owing htext howed
  | marking content =>
      unfold Generator.step
      dsimp only
      cases hdone : createSentinel w.files g.directory (itemOf g.directory id).id with
      | error cause => exact .unmarkable
      | ok files =>
          refine .marked (differsAt_of_createSentinel hfs hid.noSlash hdone) ?_
          obtain ⟨-, executable, hsentinel⟩ := get?_of_createSentinel hfs hid.noSlash hdone
          exact Option.ne_none_iff_exists'.mpr ⟨_, hsentinel⟩
  | excusing cause =>
      unfold Generator.step
      dsimp only
      cases hdone : appendReply (itemOf g.directory id)
          (Conversation.errorReply (": ".intercalate cause.chain)) w with
      | error failure => exact .unexcused (not_readBytes_of_appendReply hfs hid hdone)
      | ok after => exact .excused (appends_of_appendReply hfs hid hdone)
  | generating content =>
      have hfiles := files_step_generating hsilent (itemOf g.directory id) content w
      unfold Generator.step at hfiles ⊢
      dsimp only at hfiles ⊢
      generalize g.backend.ask (g.callFor content) w = asked at hfiles ⊢
      obtain ⟨answer, after⟩ := asked
      cases answer with
      | reply text => exact .answered hfiles
      | failure cause => exact .answered hfiles
      | crash => exact .crashed hfiles
  | recording reply outcome =>
      unfold Generator.step
      dsimp only
      cases hdone : appendReply (itemOf g.directory id) reply w with
      | error failure => exact .unrecorded (not_readBytes_of_appendReply hfs hid hdone)
      | ok after => exact .recorded (appends_of_appendReply hfs hid hdone)
  | unmarking appended outcome =>
      unfold Generator.step
      dsimp only
      cases hdone : removeSentinel w.files g.directory (itemOf g.directory id).id with
      | error cause => exact .unmarked (.inl rfl)
      | ok files =>
          refine .unmarked ((of_removeSentinel hfs hid.noSlash hdone).imp_right ?_)
          rintro ⟨bytes, executable, hfile, rfl⟩
          exact .erase (by simp) hfile
  | finished result => exact .ended rfl
  | crashed => exact .ended rfl

section Effect

variable {w after : World σ} {directory : Path} {place : Location} {id other : String}
  {stage next : Stage}

namespace Advances

/-- A step of a worker changes one file at most: its session or the sentinel of it. -/
theorem differsAt (h : Advances directory place id w stage next after) :
    after.files = w.files ∨ DiffersAt (place ++ [id]) w.files after.files ∨
      DiffersAt (place ++ [sentinelName id]) w.files after.files := by
  cases h with
  | ended | unreadable | skipped | owing | unmarkable | unexcused | unrecorded => exact .inl rfl
  | marked hfiles => exact .inr (.inr hfiles)
  | answered hfiles | crashed hfiles => exact .inl hfiles
  | excused hfiles | recorded hfiles => exact .inr (.inl hfiles.toDiffersAt)
  | unmarked hfiles => exact hfiles.imp_right .inr

theorem holds (h : Advances directory place id w stage next after)
    (hfs : w.files.Holds directory place) : after.files.Holds directory place := by
  rcases h.differsAt with hsame | hdiff | hdiff
  · rwa [hsame]
  · exact hdiff.holds hfs
  · exact hdiff.holds hfs

/-- The other sessions are left alone. -/
theorem get?_of_ne (h : Advances directory place id w stage next after)
    (hother : IsSessionName other) (hne : other ≠ id) :
    after.files.get? (place ++ [other]) = w.files.get? (place ++ [other]) := by
  rcases h.differsAt with hsame | hdiff | hdiff
  · rw [hsame]
  · exact hdiff.get?_of_ne (by simpa using hne)
  · exact hdiff.get?_of_ne (spot_ne_sentinel place hother id)

/-- The sentinels of the other sessions are left alone. -/
theorem get?_sentinel_of_ne (h : Advances directory place id w stage next after)
    (hid : IsSessionName id) (hne : other ≠ id) :
    after.files.get? (place ++ [sentinelName other]) =
      w.files.get? (place ++ [sentinelName other]) := by
  rcases h.differsAt with hsame | hdiff | hdiff
  · rw [hsame]
  · exact hdiff.get?_of_ne (spot_ne_sentinel place hid other).symm
  · exact hdiff.get?_of_ne (by simpa [sentinelName] using hne)

/-- A session that is there stays there. -/
theorem exists_file (h : Advances directory place id w stage next after) (hid : IsSessionName id)
    (hfile : ∃ bytes executable, w.files.get? (place ++ [id]) = some (.file bytes executable)) :
    ∃ bytes executable, after.files.get? (place ++ [id]) = some (.file bytes executable) := by
  have hsentinel {files : FileSystem}
      (hdiff : DiffersAt (place ++ [sentinelName id]) w.files files) :
      ∃ bytes executable, files.get? (place ++ [id]) = some (.file bytes executable) := by
    rwa [hdiff.get?_of_ne (spot_ne_sentinel place hid id)]
  cases h with
  | ended | unreadable | skipped | owing | unmarkable | unexcused | unrecorded => exact hfile
  | marked hfiles => exact hsentinel hfiles
  | answered hfiles | crashed hfiles => rwa [hfiles]
  | excused hfiles | recorded hfiles =>
      obtain ⟨executable, hnow⟩ := hfiles.get?_eq
      exact ⟨_, executable, hnow⟩
  | unmarked hfiles =>
      rcases hfiles with hsame | hdiff
      · rwa [hsame]
      · exact hsentinel hdiff

/-- Only a worker that takes the mark away takes a sentinel away. -/
theorem sentinel_ne_none (h : Advances directory place id w stage next after)
    (hid : IsSessionName id) (hstage : ∀ appended outcome, stage ≠ .unmarking appended outcome)
    (hthere : w.files.get? (place ++ [sentinelName id]) ≠ none) :
    after.files.get? (place ++ [sentinelName id]) ≠ none := by
  cases h with
  | ended | unreadable | skipped | owing | unmarkable | unexcused | unrecorded => exact hthere
  | marked _ hnow => exact hnow
  | answered hfiles | crashed hfiles => rwa [hfiles]
  | excused hfiles | recorded hfiles =>
      rwa [hfiles.get?_of_ne (spot_ne_sentinel place hid id).symm]
  | unmarked => exact absurd rfl (hstage _ _)

/-- The session itself gets the turn that was appended, and nothing else happens to it. -/
theorem bytesAt_eq (h : Advances directory place id w stage next after)
    (hid : IsSessionName id) :
    (stage.appended? next = none ∧
        after.files.bytesAt (place ++ [id]) = w.files.bytesAt (place ++ [id])) ∨
      ∃ reply, stage.appended? next = some reply ∧
        after.files.bytesAt (place ++ [id]) = w.files.bytesAt (place ++ [id]) ++
          Utf8.encode (Conversation.assistantLine reply) := by
  have hsentinel {files : FileSystem}
      (hdiff : DiffersAt (place ++ [sentinelName id]) w.files files) :
      files.bytesAt (place ++ [id]) = w.files.bytesAt (place ++ [id]) :=
    bytesAt_of_get?_eq (hdiff.get?_of_ne (spot_ne_sentinel place hid id))
  cases h with
  | ended hover =>
      refine .inl ⟨?_, rfl⟩
      cases stage with
      | finished result => rfl
      | crashed => rfl
      | _ => cases hover
  | unreadable | skipped | owing | unmarkable | unexcused | unrecorded => exact .inl ⟨rfl, rfl⟩
  | marked hfiles => exact .inl ⟨rfl, hsentinel hfiles⟩
  | answered hfiles | crashed hfiles => exact .inl ⟨rfl, by rw [hfiles]⟩
  | excused hfiles | recorded hfiles => exact .inr ⟨_, rfl, hfiles.bytesAt_eq⟩
  | unmarked hfiles =>
      rcases hfiles with hsame | hdiff
      · exact .inl ⟨rfl, by rw [hsame]⟩
      · exact .inl ⟨rfl, hsentinel hdiff⟩

end Advances

end Effect

end Worker

end FileChat
