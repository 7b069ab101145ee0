/-
# One daemon after the other

A daemon may go down at any time, and the next one begins with the sentinels that it finds. Here
is one session that owes a reply, and any number of daemons that go down and start again while
nobody says anything in it. The next daemon knows from the sentinel that an answer was not
brought to its end, but not how far it had got: if the daemon went down between an append and the
removal of the sentinel, the session is told of a restart although it was answered, and that is
the reply which a client then reads. Only if that never happened there is exactly one.
-/

import FileChat.Proofs.Conversation.Note
import FileChat.Proofs.Session.Recovery
import FileChat.Proofs.Worker.Course

namespace FileChat

open Conversation FileSystem Session Worker
open Worker.Chronicle (Behind Kept Meanwhile StepAside)

/-- What a daemon is at. -/
inductive Life (σ : Type)
  /-- It clears the sentinels that it found. -/
  | recovering (files : FileSystem) (recovery : Recovery)
  /-- Its workers answer sessions; it has processed the session, or not yet. -/
  | serving (chronicle : Chronicle σ) (processed : Bool)

/-- The tree that a daemon works on. -/
def Life.files {σ : Type} : Life σ → FileSystem
  | .recovering files _ => files
  | .serving c _ => c.pool.world.files

/-- Daemons that came one after the other, with what nobody remembers. -/
structure Succession (σ : Type) where
  life : Life σ
  /-- What was appended to the session until the workers of this daemon began. -/
  noted : List Note
  /-- A daemon went down when something was appended and the sentinel was still there. -/
  torn : Bool

namespace Succession

variable {σ : Type}

/-- What was appended to the session. -/
def notes (s : Succession σ) (id : String) : List Note :=
  match s.life with
  | .recovering _ _ => s.noted
  | .serving c _ => s.noted ++ Note.ofPostings (c.log id)

/-- The first daemon has listed the names in its directory. -/
def start (files : FileSystem) (found : List String) : Succession σ :=
  ⟨.recovering files (.looking found []), [], false⟩

/-- What can happen next. -/
inductive Step (g : Generator σ) (id : String) (s : Succession σ) : Succession σ → Prop
  /-- Recovery goes on. -/
  | recovered {files : FileSystem} {recovery : Recovery}
      (hlife : s.life = .recovering files recovery) :
      Step g id s { s with
        life := .recovering (recovery.step g.directory files).2
          (recovery.step g.directory files).1
        noted := if recovery.addressee? = some id then s.noted ++ [.notice] else s.noted }
  /-- The workers begin. -/
  | started {files : FileSystem} {recovered : List String} {workers : Nat} {world : World σ}
      (hlife : s.life = .recovering files (.ended (.ok recovered) []))
      (hworld : world.files = files) :
      Step g id s { s with life := .serving (.start workers world) false }
  /-- Something happens that brings no turn into the session. -/
  | served {c after : Chronicle σ} {processed : Bool} (hlife : s.life = .serving c processed)
      (haside : StepAside g id c after) :
      Step g id s { s with life := .serving after processed }
  /-- A worker finishes with the session. -/
  | processed {c : Chronicle σ} {processed : Bool} {worker : Nat} {item : WorkItem}
      {lock : Lock} {stage : Stage} {result : Except StoreError Outcome} {pool : Pool σ}
      (hlife : s.life = .serving c processed)
      (hworker : c.pool.workers[worker]? = some (.working item lock stage)) (hitem : item.id = id)
      (hstage : stage.isOver = false)
      (hfinished : (g.step item stage c.pool.world).1 = .finished result)
      (hstep : c.pool.step? g worker = some pool) :
      Step g id s { s with
        life := .serving { c.observe g worker c.pool.workers[worker]? with pool } true }
  /-- The daemon goes down, and the next one lists the names in the directory. -/
  | crashed {found : List String}
      (hfound : Session.names s.life.files g.directory = .ok found) :
      Step g id s
        ⟨.recovering s.life.files (.looking found []), s.notes id,
          s.torn || (!(s.notes id).isEmpty && found.contains (sentinelName id))⟩

/-- What can come of a beginning. -/
inductive Reached (g : Generator σ) (id : String) (begin : Succession σ) : Succession σ → Prop
  | start : Reached g id begin begin
  | step {s after : Succession σ} (h : Reached g id begin s) (hstep : Step g id s after) :
      Reached g id begin after

/-- The session holds a text with some notes behind it. -/
structure Holding (directory : Path) (place : Location) (id text : String) (notes : List Note)
    (fs : FileSystem) : Prop where
  finds : Finds directory place id fs (text ++ Note.linesOf notes)
  whole : Utf8.IsWholeLines (fs.bytesAt (place ++ [id]))
  plain : IsPlain place fs

namespace Holding

variable {directory : Path} {place : Location} {id text : String} {notes : List Note}
  {fs after : FileSystem}

/-- A note more. -/
theorem of_grows (h : Holding directory place id text notes fs) {note : Note}
    (hgrows : Grows (place ++ [id]) (Utf8.encode (assistantLine note.text)) fs after) :
    Holding directory place id text (notes ++ [note]) after := by
  refine ⟨?_, ?_, h.plain.of_differsAt h.finds.session.noSlash hgrows.toDiffersAt⟩
  · rw [Note.linesOf_append_singleton, ← String.append_assoc]
    exact h.finds.of_grows hgrows
  · rw [hgrows.bytesAt_eq]
    exact h.whole.append (Utf8.isWholeLines_encode_append_lineFeed _)

/-- Something happens elsewhere in the directory. -/
theorem of_differsAt (h : Holding directory place id text notes fs) {name : String}
    (hne : id ≠ name) (hslash : '/' ∉ name.toList) (hdiff : DiffersAt (place ++ [name]) fs after) :
    Holding directory place id text notes after := by
  refine ⟨h.finds.of_differsAt hne hdiff, ?_, h.plain.of_differsAt hslash hdiff⟩
  rw [bytesAt_of_get?_eq (hdiff.get?_of_ne (by simpa using hne))]
  exact h.whole

theorem exists_readBytes (h : Holding directory place id text notes fs) :
    ∃ bytes, fs.readBytes (Path.join directory id) = .ok bytes := by
  obtain ⟨herror, bytes, executable, hentry, -⟩ :=
    (h.finds.holds.readText_join h.finds.session.isName).mp h.finds.read
  exact ⟨bytes, (h.finds.holds.readBytes_join h.finds.session.isName).mpr
    ⟨herror, executable, hentry⟩⟩

end Holding

/-- How things stand while a daemon clears sentinels. -/
structure Recovers (directory : Path) (place : Location) (id text : String) (noted : List Note)
    (torn : Bool) (files : FileSystem) (recovery : Recovery) : Prop where
  holding : Holding directory place id text noted files
  nodup : recovery.names.Nodup
  listed : ∀ name ∈ recovery.names, files.get? (place ++ [name]) ≠ none
  clearing {other : String} {later recovered : List String} :
    recovery = .clearing other later recovered →
      '/' ∉ other.toList ∧ sentinelName other ∉ later
  notices : ∀ note ∈ noted.tail, note = .notice
  untorn : torn = false →
    noted.length ≤ 1 ∧ (sentinelName id ∈ recovery.names → noted = [])
  torn : torn = true → noted ≠ [] ∧ (sentinelName id ∈ recovery.names ∨ 2 ≤ noted.length)

section Recovers

variable {directory : Path} {place : Location} {id text : String} {noted : List Note}
  {torn : Bool} {files after : FileSystem} {recovery next : Recovery}

/-- A step that tells the session nothing and does not pass its sentinel over. -/
theorem Recovers.of_holding (h : Recovers directory place id text noted torn files recovery)
    (hholding : Holding directory place id text noted after)
    (hnames : next.names.Sublist recovery.names)
    (hthere : ∀ name ∈ next.names,
      files.get? (place ++ [name]) ≠ none → after.get? (place ++ [name]) ≠ none)
    (hclearing : ∀ {other later recovered}, next = .clearing other later recovered →
      '/' ∉ other.toList ∧ sentinelName other ∉ later)
    (hsentinel : sentinelName id ∈ recovery.names → sentinelName id ∈ next.names) :
    Recovers directory place id text noted torn after next where
  holding := hholding
  nodup := h.nodup.sublist hnames
  listed name hname := hthere name hname (h.listed name (hnames.subset hname))
  clearing := hclearing
  notices := h.notices
  untorn htorn := (h.untorn htorn).imp_right fun hnone hmem => hnone (hnames.subset hmem)
  torn htorn := (h.torn htorn).imp_right fun hmore => hmore.imp_left hsentinel

/-- What is there is still there when one of the files has grown. -/
theorem get?_ne_none_of_grows {spot other : Location} {added : Bytes}
    (hgrows : Grows spot added files after) (hthere : files.get? other ≠ none) :
    after.get? other ≠ none := by
  by_cases hsame : other = spot
  · obtain ⟨executable, hnow⟩ := hgrows.get?_eq
    rw [hsame, hnow]
    exact Option.some_ne_none _
  · rwa [hgrows.get?_of_ne hsame]

/-- A notice more. -/
theorem notices_append_notice (h : ∀ note ∈ noted.tail, note = .notice) :
    ∀ note ∈ (noted ++ [Note.notice]).tail, note = .notice := by
  cases noted with
  | nil => simp
  | cons first more =>
      intro note hnote
      rcases List.mem_append.mp hnote with hnote | hnote
      · exact h note hnote
      · exact List.mem_singleton.mp hnote

/-- Behind the sentinel of another session the own one is still to come. -/
theorem mem_later_of_ne {other : String} {later : List String} (hne : other ≠ id)
    (h : sentinelName id ∈ sentinelName other :: later) : sentinelName id ∈ later := by
  rcases List.mem_cons.mp h with hsame | hlater
  · exact absurd (by simpa [sentinelName] using hsame.symm) hne
  · exact hlater

/-- Whatever recovery does next, it still holds. -/
theorem Recovers.of_clears (h : Recovers directory place id text noted torn files recovery)
    (hclears : Clears directory place files recovery next after) :
    Recovers directory place id text
      (if recovery.addressee? = some id then noted ++ [.notice] else noted) torn after next := by
  cases hclears with
  | ended =>
      rw [if_neg (by simp [Recovery.addressee?])]
      exact h
  | done =>
      rw [if_neg (by simp [Recovery.addressee?])]
      exact h.of_holding h.holding (.refl _) (fun _ _ hthere => hthere) nofun
        fun hmem => hmem
  | @passed name later recovered hname =>
      rw [if_neg (by simp [Recovery.addressee?, hname])]
      refine h.of_holding h.holding (List.sublist_cons_self _ _) (fun _ _ hthere => hthere) nofun ?_
      intro hmem
      rcases List.mem_cons.mp hmem with rfl | hmem
      · rw [ownerOf?_sentinelName h.holding.finds.isText] at hname
        cases hname
      · exact hmem
  | @told other later recovered after hid hslash hgrows =>
      obtain ⟨hfirst, hlater⟩ := List.nodup_cons.mp h.nodup
      rw [Recovery.addressee?, ownerOf?_sentinelName hid]
      by_cases hsame : other = id
      · subst hsame
        rw [if_pos rfl]
        refine ⟨h.holding.of_grows hgrows, hlater, ?_, ?_, notices_append_notice h.notices, ?_, ?_⟩
        · exact fun name hname =>
            get?_ne_none_of_grows hgrows (h.listed name (List.mem_cons_of_mem _ hname))
        · rintro _ _ _ ⟨⟩
          exact ⟨hslash, hfirst⟩
        · intro htorn
          obtain rfl := (h.untorn htorn).2 List.mem_cons_self
          exact ⟨Nat.le_refl _, fun hmem => absurd hmem hfirst⟩
        · intro htorn
          have hsome := List.length_pos_iff.mpr (h.torn htorn).1
          exact ⟨by simp, .inr (by rw [List.length_append, List.length_singleton]; omega)⟩
      · rw [if_neg (by simpa using hsame)]
        exact h.of_holding
          (h.holding.of_differsAt (Ne.symm hsame) hslash hgrows.toDiffersAt)
          (List.sublist_cons_self _ _) (fun _ _ => get?_ne_none_of_grows hgrows)
          (by rintro _ _ _ ⟨⟩; exact ⟨hslash, hfirst⟩) (mem_later_of_ne hsame)
  | @untold other later recovered hid hslash hgone =>
      have hsame : other ≠ id := by
        rintro rfl
        obtain ⟨bytes, hread⟩ := h.holding.exists_readBytes
        exact hgone h.holding.finds.session.isName bytes hread
      obtain ⟨hfirst, -⟩ := List.nodup_cons.mp h.nodup
      rw [Recovery.addressee?, ownerOf?_sentinelName hid, if_neg (by simpa using hsame)]
      exact h.of_holding h.holding (List.sublist_cons_self _ _) (fun _ _ hthere => hthere)
        (by rintro _ _ _ ⟨⟩; exact ⟨hslash, hfirst⟩) (mem_later_of_ne hsame)
  | @cleared other later recovered after hfiles =>
      obtain ⟨hslash, hgone⟩ := h.clearing rfl
      rw [if_neg (by simp [Recovery.addressee?])]
      rcases hfiles with rfl | hdiff
      · exact h.of_holding h.holding (.refl _) (fun _ _ hthere => hthere) nofun fun hmem => hmem
      · refine h.of_holding ?_ (.refl _) ?_ nofun fun hmem => hmem
        · exact h.holding.of_differsAt (h.holding.finds.session.ne_sentinelName other)
            (isName_sentinelName hslash).noSlash hdiff
        · intro name hname hthere
          have hne : name ≠ sentinelName other := by
            rintro rfl
            exact hgone hname
          rwa [hdiff.get?_of_ne (by simpa using hne)]
  | failed =>
      rw [if_neg (by simp [Recovery.addressee?])]
      exact h.of_holding h.holding (.refl _) (fun _ _ hthere => hthere) nofun
        fun hmem => hmem

end Recovers

/-- How things stand while workers answer. -/
structure Serves (g : Generator σ) (place : Location) (origin : FileSystem) (id text : String)
    (noted : List Note) (torn processed : Bool) (c : Chronicle σ) : Prop where
  kept : Kept g place origin c
  behind : Behind g.directory place origin id [] c
  begun : Holding g.directory place id text noted origin
  plain : IsPlain place c.pool.world.files
  notices : ∀ note ∈ noted.tail, note = .notice
  untorn : torn = false → noted.length ≤ 1
  torn : torn = true → 2 ≤ noted.length
  processed : processed = true → noted ++ Note.ofPostings (c.log id) ≠ []

section Serves

variable {g : Generator σ} {place : Location} {origin : FileSystem} {id text : String}
  {noted notes : List Note} {torn processed : Bool} {c after : Chronicle σ} {files : FileSystem}

/-- The workers begin with what recovery has left. -/
theorem Recovers.serves {recovered : List String}
    (h : Recovers g.directory place id text noted torn files (.ended (.ok recovered) []))
    (workers : Nat) {world : World σ} (hworld : world.files = files) :
    Serves g place files id text noted torn false (.start workers world) := by
  subst hworld
  have hfinds := h.holding.finds
  obtain ⟨herror, bytes, executable, hentry, -⟩ :=
    (hfinds.holds.readText_join hfinds.session.isName).mp hfinds.read
  refine ⟨Chronicle.kept_start hfinds.holds workers, ⟨herror, ⟨bytes, executable, hentry⟩, ?_,
    .inl rfl, ?_⟩, h.holding, h.holding.plain, h.notices, fun htorn => (h.untorn htorn).1, ?_,
    nofun⟩
  · rw [textOf_nil, Utf8.encode_empty, List.append_nil]
    exact h.holding.whole
  · rintro i appended outcome ⟨item, lock, hworker, -⟩
    obtain ⟨-, hactivity⟩ := List.mem_replicate.mp (List.mem_of_getElem? hworker)
    cases hactivity
  · exact fun htorn => (h.torn htorn).2.resolve_left List.not_mem_nil

variable (htext : Text.IsWholeLines text.toList) (howed : needsResponse text = true)

include htext howed in
/-- Only a session in which nothing was noted has a reply made to it. -/
theorem Serves.noted_eq_nil (h : Serves g place origin id text noted torn processed c)
    {seen : String} (hawaits : Awaits (origin.bytesAt (place ++ [id])) [] seen) : noted = [] := by
  obtain ⟨earlier, late, hsplit, -, hdecode⟩ := hawaits.split
  obtain ⟨rfl, -⟩ := List.append_eq_nil_iff.mp hsplit.symm
  have hfinds := h.begun.finds
  obtain ⟨-, bytes, executable, hentry, htold⟩ :=
    (hfinds.holds.readText_join hfinds.session.isName).mp hfinds.read
  rw [bytesAt_of_file hentry, textOf_nil, Utf8.encode_empty, List.append_nil, htold] at hdecode
  have hseen := hawaits.owed
  rw [← Option.some.inj hdecode, Note.needsResponse_append_linesOf htext howed] at hseen
  exact List.isEmpty_iff.mp hseen

include htext howed in
/-- The workers of one daemon append one reply at most, and only if nothing was noted. -/
theorem Serves.log_eq (h : Serves g place origin id text noted torn processed c) :
    c.log id = [] ∨ noted = [] ∧ ∃ reply seen, c.log id = [.reply reply seen] := by
  refine h.behind.log.imp_right ?_
  rintro ⟨reply, seen, hlog⟩
  have hanswered := h.kept.answered h.begun.finds.session
  rw [hlog] at hanswered
  exact ⟨h.noted_eq_nil htext howed hanswered.awaits, reply, seen, hlog⟩

/-- The session holds what was noted and what the workers have appended. -/
theorem Serves.holding (h : Serves g place origin id text noted torn processed c) :
    Holding g.directory place id text (noted ++ Note.ofPostings (c.log id))
      c.pool.world.files := by
  have hid := h.begun.finds.session
  obtain ⟨herror, bytes, executable, hentry, hdecode⟩ :=
    (h.begun.finds.holds.readText_join hid.isName).mp h.begun.finds.read
  obtain ⟨now, executable', hnow⟩ := h.behind.there
  have hbytes := h.behind.bytesAt_eq h.kept hid
  rw [bytesAt_of_file hnow, bytesAt_of_file hentry, textOf_nil, Utf8.encode_empty,
    List.append_nil] at hbytes
  have hwhole := h.begun.whole
  rw [bytesAt_of_file hentry] at hwhole
  rcases hbytes with ⟨hlog, rfl⟩ | ⟨reply, seen, hlog, rfl⟩
  · rw [hlog]
    refine ⟨⟨h.kept.holds, hid, (h.kept.holds.readText_join hid.isName).mpr
      ⟨herror, _, executable', hnow, ?_⟩⟩, by rwa [bytesAt_of_file hnow], h.plain⟩
    rw [hdecode]
    simp
  · rw [hlog]
    refine ⟨⟨h.kept.holds, hid, (h.kept.holds.readText_join hid.isName).mpr
      ⟨herror, _, executable', hnow, ?_⟩⟩, ?_, h.plain⟩
    · rw [Utf8.decode_append_encode hwhole.current_read, hdecode, Option.map_some,
        String.append_assoc]
      rw [List.nil_append, Note.ofPostings_reply, Note.linesOf_append_singleton, Note.text]
    · rw [bytesAt_of_file hnow]
      exact hwhole.append (Utf8.isWholeLines_encode_append_lineFeed _)

/-- Whatever happens next, as long as nobody says anything in the session. -/
theorem Serves.of_aside (h : Serves g place origin id text noted torn processed c)
    (hsilent : g.backend.IsSilent) (haside : StepAside g id c after) :
    Serves g place origin id text noted torn processed after := by
  obtain ⟨hstep, hquiet⟩ := haside
  have hid := h.begun.finds.session
  have heffect := h.kept.effect hsilent hid hstep
  refine ⟨h.kept.of_step hsilent hstep, h.behind.of_effect h.kept hid heffect hquiet, h.begun, ?_,
    h.notices, h.untorn, h.torn, fun hprocessed => ?_⟩
  · rcases h.kept.differsAt_of_step hsilent hstep with hsame | ⟨name, hslash, hdiff⟩
    · rw [hsame]
      exact h.plain
    · exact h.plain.of_differsAt hslash hdiff
  · have hnotes := h.processed hprocessed
    rcases h.behind.log with hlog | hreplied
    · rw [hlog] at hnotes
      exact fun hnil => hnotes (by rw [(List.append_eq_nil_iff.mp hnil).1]; rfl)
    · rwa [h.behind.log_eq_of_effect h.kept heffect hquiet hreplied]

include htext howed in
/-- A session that a worker has finished with has a reply. -/
theorem Serves.of_finished (h : Serves g place origin id text noted torn processed c)
    (hsilent : g.backend.IsSilent) {worker : Nat} {item : WorkItem} {lock : Lock} {stage : Stage}
    {result : Except StoreError Outcome} {pool : Pool σ}
    (hworker : c.pool.workers[worker]? = some (.working item lock stage)) (hitem : item.id = id)
    (hstage : stage.isOver = false)
    (hfinished : (g.step item stage c.pool.world).1 = .finished result)
    (hstep : c.pool.step? g worker = some pool) :
    Serves g place origin id text noted torn true
      { c.observe g worker c.pool.workers[worker]? with pool } := by
  have hafter := h.of_aside hsilent (Chronicle.stepAside_of_worked worker hstep)
  refine { hafter with processed := fun _ => ?_ }
  obtain ⟨other, hother, rfl⟩ := h.kept.busy (List.mem_of_getElem? hworker) rfl
  obtain rfl : other = id := hitem
  have hadvances := advances_step h.kept.holds hother hsilent stage
  rw [hfinished] at hadvances
  rw [hworker]
  show noted ++ Note.ofPostings ((c.record worker (itemOf g.directory other) stage
    (g.step (itemOf g.directory other) stage c.pool.world).1).log other) ≠ []
  rw [hfinished]
  have hholding := h.holding
  generalize (g.step (itemOf g.directory other) stage c.pool.world).2 = world at hadvances
  cases hadvances with
  | ended hover => exact absurd hover (by rw [hstage]; simp)
  | unreadable hread => exact absurd hholding.finds.read (hread _)
  | skipped hread hnothing =>
      rw [Chronicle.log_record_of_none c rfl]
      obtain rfl := Except.ok.inj (hread.symm.trans hholding.finds.read)
      rw [Note.needsResponse_append_linesOf htext howed] at hnothing
      exact fun hnil => by simp [hnil] at hnothing
  | excused =>
      rw [Chronicle.log_record_of_some c rfl, itemOf, Function.update_self]
      simp
  | unexcused hgone =>
      obtain ⟨bytes, hread⟩ := hholding.exists_readBytes
      exact absurd hread (hgone bytes)
  | unmarked =>
      obtain ⟨reply, seen, hlog⟩ := h.behind.replied ⟨_, lock, hworker, rfl⟩
      rw [Chronicle.log_record_of_none c rfl, hlog]
      simp

end Serves

section Crash

variable {g : Generator σ} {place : Location} {origin : FileSystem} {id text : String}
  {noted notes : List Note} {torn processed : Bool} {c : Chronicle σ} {files : FileSystem}
  {recovery : Recovery} {found : List String}

/-- The next daemon finds the sentinel if it is there. -/
theorem Holding.recovers (h : Holding g.directory place id text notes files)
    (hfound : Session.names files g.directory = .ok found)
    (hnotices : ∀ note ∈ notes.tail, note = .notice)
    (huntorn : torn = false → notes.length ≤ 1)
    (htorn : torn = true →
      notes ≠ [] ∧ (files.get? (place ++ [sentinelName id]) ≠ none ∨ 2 ≤ notes.length)) :
    Recovers g.directory place id text notes
      (torn || (!notes.isEmpty && found.contains (sentinelName id))) files (.looking found []) := by
  rw [Session.names, during_eq_ok, h.finds.holds.list_eq] at hfound
  obtain rfl := Except.ok.inj hfound
  refine ⟨h, nodup_names files place, fun name => get?_of_mem_names, by rintro _ _ _ ⟨⟩,
    hnotices, ?_, ?_⟩
  · intro hwhole
    obtain ⟨htorn, hnever⟩ := Bool.or_eq_false_iff.mp hwhole
    refine ⟨huntorn htorn, fun hmem => ?_⟩
    have hlisted : (files.names place).contains (sentinelName id) = true := by
      simpa [Recovery.names] using hmem
    rw [hlisted, Bool.and_true] at hnever
    simpa using hnever
  · intro hnow
    rcases Bool.or_eq_true_iff.mp hnow with hbefore | hnew
    · obtain ⟨hsome, hmore⟩ := htorn hbefore
      refine ⟨hsome, hmore.imp_left fun hthere => ?_⟩
      obtain ⟨entry, hentry⟩ := Option.ne_none_iff_exists'.mp hthere
      exact mem_names hentry
    · obtain ⟨hsome, hlisted⟩ := Bool.and_eq_true_iff.mp hnew
      exact ⟨by simpa using hsome, .inl (by simpa [Recovery.names] using hlisted)⟩

/-- A daemon that goes down while it clears sentinels. -/
theorem Recovers.crashed (h : Recovers g.directory place id text noted torn files recovery)
    (hfound : Session.names files g.directory = .ok found) :
    Recovers g.directory place id text noted
      (torn || (!noted.isEmpty && found.contains (sentinelName id))) files (.looking found []) :=
  h.holding.recovers hfound h.notices (fun htorn => (h.untorn htorn).1) fun htorn =>
    (h.torn htorn).imp_right fun hmore => hmore.imp_left fun hmem => h.listed _ hmem

variable (htext : Text.IsWholeLines text.toList) (howed : needsResponse text = true)

include htext howed in
/-- What is behind the first note is a notice. -/
theorem Serves.notices_notes (h : Serves g place origin id text noted torn processed c) :
    ∀ note ∈ (noted ++ Note.ofPostings (c.log id)).tail, note = .notice := by
  rcases h.log_eq htext howed with hlog | ⟨rfl, reply, seen, hlog⟩
  · rw [hlog]
    simpa using h.notices
  · rw [hlog]
    simp

include htext howed in
/-- There is one note at most unless a daemon went down at the wrong time. -/
theorem Serves.length_notes (h : Serves g place origin id text noted torn processed c) :
    (torn = false → (noted ++ Note.ofPostings (c.log id)).length ≤ 1) ∧
      (torn = true → 2 ≤ (noted ++ Note.ofPostings (c.log id)).length) := by
  refine ⟨fun htorn => ?_, fun htorn => ?_⟩
  · rcases h.log_eq htext howed with hlog | ⟨rfl, reply, seen, hlog⟩
    · rw [hlog]
      simpa using h.untorn htorn
    · rw [hlog]
      simp
  · rw [List.length_append]
    exact Nat.le_add_right_of_le (h.torn htorn)

include htext howed in
/-- A daemon that goes down while its workers answer. -/
theorem Serves.crashed (h : Serves g place origin id text noted torn processed c)
    (hfound : Session.names c.pool.world.files g.directory = .ok found) :
    Recovers g.directory place id text (noted ++ Note.ofPostings (c.log id))
      (torn || (!(noted ++ Note.ofPostings (c.log id)).isEmpty &&
        found.contains (sentinelName id))) c.pool.world.files (.looking found []) := by
  obtain ⟨hone, hmore⟩ := h.length_notes htext howed
  refine h.holding.recovers hfound (h.notices_notes htext howed) hone fun htorn => ?_
  have hlength := hmore htorn
  exact ⟨List.length_pos_iff.mp (by omega), .inr hlength⟩

end Crash

/-- How things stand, whatever the daemon is at. -/
def Stands (g : Generator σ) (place : Location) (id text : String) (s : Succession σ) : Prop :=
  match s.life with
  | .recovering files recovery => Recovers g.directory place id text s.noted s.torn files recovery
  | .serving c processed =>
    ∃ origin, Serves g place origin id text s.noted s.torn processed c

variable {g : Generator σ} {place : Location} {id text : String} {s after : Succession σ}
  {files : FileSystem} {found : List String}

/-- Whatever happens next, it still holds. -/
theorem Stands.of_step (h : Stands g place id text s) (htext : Text.IsWholeLines text.toList)
    (howed : needsResponse text = true) (hsilent : g.backend.IsSilent)
    (hstep : Step g id s after) : Stands g place id text after := by
  cases hstep with
  | recovered hlife =>
      rw [Stands, hlife] at h
      have hslash := fun name hname => h.holding.plain name (h.listed name hname)
      exact h.of_clears
        (clears_step h.holding.finds.holds hslash fun heq => (h.clearing heq).1)
  | started hlife hworld =>
      rw [Stands, hlife] at h
      exact ⟨_, h.serves _ hworld⟩
  | served hlife haside =>
      rw [Stands, hlife] at h
      obtain ⟨origin, hserves⟩ := h
      exact ⟨origin, hserves.of_aside hsilent haside⟩
  | processed hlife hworker hitem hstage hfinished hstep =>
      rw [Stands, hlife] at h
      obtain ⟨origin, hserves⟩ := h
      exact ⟨origin, hserves.of_finished htext howed hsilent hworker hitem hstage hfinished hstep⟩
  | crashed hfound =>
      obtain ⟨life, noted, torn⟩ := s
      cases life with
      | recovering files recovery =>
          have hrecovers : Recovers g.directory place id text noted torn files recovery := h
          exact hrecovers.crashed hfound
      | serving c processed =>
          obtain ⟨origin, hserves⟩ :
              ∃ origin, Serves g place origin id text noted torn processed c := h
          exact hserves.crashed htext howed hfound

/-- The text of whole lines is whole lines. -/
theorem Holding.isWholeLines {directory : Path} {notes : List Note} {fs : FileSystem}
    (h : Holding directory place id text notes fs) :
    Text.IsWholeLines (text ++ Note.linesOf notes).toList := by
  obtain ⟨-, bytes, executable, hentry, hdecode⟩ :=
    (h.finds.holds.readText_join h.finds.session.isName).mp h.finds.read
  have hwhole := h.whole
  rw [bytesAt_of_file hentry] at hwhole
  exact hwhole.toList hdecode

/-- Whatever happened, it holds. -/
theorem Reached.stands (h : Reached g id (.start files found) s)
    (hholding : Holding g.directory place id text [] files)
    (htext : Text.IsWholeLines text.toList) (howed : needsResponse text = true)
    (hsilent : g.backend.IsSilent) (hfound : Session.names files g.directory = .ok found) :
    Stands g place id text s := by
  induction h with
  | start =>
      have hrecovers : Recovers g.directory place id text []
          (false || (!([] : List Note).isEmpty && found.contains (sentinelName id))) files
          (.looking found []) :=
        hholding.recovers hfound nofun (fun _ => Nat.zero_le 1) nofun
      exact hrecovers
  | step _ hstep ih => exact ih.of_step htext howed hsilent hstep

section Run

/-- A session's own name is no sentinel's. -/
theorem ownerOf?_of_isSessionName (hid : IsSessionName id) : ownerOf? id = none := by
  cases hother : ownerOf? id with
  | none => rfl
  | some other => exact absurd (ownerOf?_eq_some_iff.mp hother).1 (hid.ne_sentinelName other)

/-- Others go on for a while. -/
theorem Reached.meanwhile {begin : Succession σ} {c next : Chronicle σ} {noted : List Note}
    {torn processed : Bool} (h : Reached g id begin ⟨.serving c processed, noted, torn⟩)
    (hmeanwhile : Meanwhile g id c next) :
    Reached g id begin ⟨.serving next processed, noted, torn⟩ := by
  induction hmeanwhile with
  | refl => exact h
  | tail _ haside ih => exact ih.step (.served rfl haside)

/-- Recovery goes on. -/
theorem Reached.recovered {begin : Succession σ} {recovery next : Recovery} {after : FileSystem}
    {noted : List Note} {torn : Bool}
    (h : Reached g id begin ⟨.recovering files recovery, noted, torn⟩)
    (hstep : recovery.step g.directory files = (next, after)) :
    Reached g id begin ⟨.recovering after next,
      if recovery.addressee? = some id then noted ++ [.notice] else noted, torn⟩ := by
  have hnext : Reached g id begin _ := h.step (.recovered rfl)
  rw [hstep] at hnext
  exact hnext

/-- Recovery looks at the name of the session and goes on. -/
theorem Reached.passed {begin : Succession σ} {names recovered : List String} {noted : List Note}
    {torn : Bool} (hid : IsSessionName id)
    (h : Reached g id begin ⟨.recovering files (.looking (id :: names) recovered), noted, torn⟩) :
    Reached g id begin ⟨.recovering files (.looking names recovered), noted, torn⟩ := by
  have hnone := ownerOf?_of_isSessionName hid
  have hnext := h.recovered (Recovery.step_passed recovered hnone)
  rwa [Recovery.addressee?, hnone, if_neg (by simp)] at hnext

/-- Recovery finds the sentinel of the session, tells the session, and clears the sentinel. -/
theorem Reached.told {begin : Succession σ} {names recovered : List String} {noted : List Note}
    {torn : Bool}
    (h : Reached g id begin
      ⟨.recovering files (.looking (sentinelName id :: names) recovered), noted, torn⟩)
    (hfinds : Finds g.directory place id files text)
    (herror : nameError? g.directory (sentinelName id) = none)
    (hmarked : ∃ executable, files.get? (place ++ [sentinelName id]) = some (.file [] executable)) :
    ∃ after, Reached g id begin
        ⟨.recovering after (.looking names (id :: recovered)), noted ++ [.notice], torn⟩ ∧
      Finds g.directory place id after (text ++ assistantLine restartError) := by
  have hslash := hfinds.session.noSlash
  obtain ⟨executable, hmarked⟩ := hmarked
  obtain ⟨told, htold, hgrows⟩ : ∃ told, reportRestart files g.directory id = .ok told ∧
      Grows (place ++ [id]) (Utf8.encode (assistantLine restartError)) files told := by
    obtain ⟨told, htold, ⟨-, hgone⟩ | hgrows⟩ := exists_reportRestart hfinds.holds hslash
    · obtain ⟨herror, bytes, executable, hentry, -⟩ :=
        (hfinds.holds.readText_join hfinds.session.isName).mp hfinds.read
      exact absurd ((hfinds.holds.readBytes_join hfinds.session.isName).mpr
        ⟨herror, executable, hentry⟩) (hgone hfinds.session.isName bytes)
    · exact ⟨told, htold, hgrows⟩
  have hfound := hfinds.of_grows hgrows
  have hstill : told.get? (place ++ [sentinelName id]) = some (.file [] executable) := by
    rw [hgrows.get?_of_ne (spot_ne_sentinel place hfinds.session id).symm, hmarked]
  have hcleared := removeSentinel_of_file hfound.holds hslash herror hstill
  have htelling := h.recovered (Recovery.step_told recovered hfinds.isText htold)
  rw [Recovery.addressee?, ownerOf?_sentinelName hfinds.isText, if_pos rfl] at htelling
  have hclearing := htelling.recovered (Recovery.step_cleared recovered hcleared)
  rw [if_neg (by simp [Recovery.addressee?])] at hclearing
  exact ⟨_, hclearing, hfound.of_differsAt (hfinds.session.ne_sentinelName id)
    (.erase (by simp) hstill)⟩

/-- Recovery comes to its end if there is nothing but the session and its sentinel. -/
theorem Reached.exists_recovered {begin : Succession σ} {names recovered : List String}
    {noted : List Note} {torn : Bool}
    (h : Reached g id begin ⟨.recovering files (.looking names recovered), noted, torn⟩)
    (hfinds : Finds g.directory place id files text)
    (herror : nameError? g.directory (sentinelName id) = none)
    (hlone : ∀ name ∈ names, name = id ∨ name = sentinelName id) (hnodup : names.Nodup)
    (hmarked : sentinelName id ∈ names →
      ∃ executable, files.get? (place ++ [sentinelName id]) = some (.file [] executable)) :
    ∃ after all, Reached g id begin ⟨.recovering after (.ended (.ok all) []),
        if sentinelName id ∈ names then noted ++ [.notice] else noted, torn⟩ ∧
      Finds g.directory place id after
        (if sentinelName id ∈ names then text ++ assistantLine restartError else text) := by
  induction names generalizing files recovered noted text with
  | nil => exact ⟨files, recovered, h.recovered rfl, hfinds⟩
  | cons name later ih =>
      obtain ⟨hfirst, hlater⟩ := List.nodup_cons.mp hnodup
      have hrest := fun other hother => hlone other (List.mem_cons_of_mem _ hother)
      rcases hlone name List.mem_cons_self with rfl | rfl
      · obtain ⟨after, all, hreached, hfound⟩ := ih (h.passed hfinds.session) hfinds hrest hlater
          fun hmem => hmarked (List.mem_cons_of_mem _ hmem)
        have hiff : sentinelName name ∈ name :: later ↔ sentinelName name ∈ later := by
          simp [(hfinds.session.ne_sentinelName name).symm]
        simp only [hiff]
        exact ⟨after, all, hreached, hfound⟩
      · obtain ⟨after, hreached, hfound⟩ := h.told hfinds herror (hmarked List.mem_cons_self)
        obtain ⟨last, all, hend, hfound'⟩ := ih hreached hfound hrest hlater
          fun hmem => absurd hmem hfirst
        rw [if_neg hfirst] at hend hfound'
        rw [if_pos List.mem_cons_self, if_pos List.mem_cons_self]
        exact ⟨last, all, hend, hfound'⟩

/-- A worker looks at a session that owes nothing and is done with it. -/
theorem Reached.exists_skipped {begin : Succession σ} {world : World σ} {noted : List Note}
    {torn : Bool}
    (h : Reached g id begin ⟨.serving (.start 1 world) false, noted, torn⟩)
    (hid : IsSessionName id)
    (hread : world.files.readText (Path.join g.directory id) = .ok text)
    (hnothing : needsResponse text = false) :
    ∃ c, Reached g id begin ⟨.serving c true, noted, torn⟩ ∧ c.log id = [] := by
  obtain ⟨reading, hmeanwhile, hworkers, hworld, hlog⟩ :=
    Chronicle.exists_reading (g := g) hid world fun _ => []
  have hworker : reading.pool.workers[0]? =
      some (.working (itemOf g.directory id) 0 .reading) := by
    rw [hworkers]
    rfl
  rw [← hworld] at hread
  have hskipped := step_reading (g := g) hread
  rw [hnothing, if_neg (by simp)] at hskipped
  have hprocessed := (h.meanwhile hmeanwhile).step (.processed rfl hworker rfl rfl
    (by rw [hskipped]) ((Pool.Turn.finished hskipped).step?_eq hworker))
  refine ⟨_, hprocessed, ?_⟩
  show (reading.observe g 0 reading.pool.workers[0]?).log id = []
  rw [hworker, Chronicle.observe, hskipped, Chronicle.log_record_of_none _ rfl, hlog]

/-- Whatever the session and whatever the backend answers: the daemon may go down when the reply
is appended and the sentinel is still there. Then the next one finds the sentinel and tells the
session of a restart as well, and its worker finds nothing owed. -/
theorem exists_torn {world : World σ} (hfinds : Finds g.directory place id world.files text)
    (htext : Text.IsWholeLines text.toList) (howed : needsResponse text = true)
    (hsilent : g.backend.IsSilent) (hsteady : g.backend.IsSteady)
    (herror : nameError? g.directory (sentinelName id) = none)
    (hlone : world.files.names place = [id]) (host : σ) :
    ∃ s c reply, Reached g id (.start world.files [id]) s ∧ s.life = .serving c true ∧
      s.notes id = [.answer reply, .notice] := by
  have hid := hfinds.session
  have hvacant {name : String} (hname : name ≠ id) :
      world.files.get? (place ++ [name]) = none := by
    by_contra hthere
    obtain ⟨entry, hentry⟩ := Option.ne_none_iff_exists'.mp hthere
    have hmem := mem_names hentry
    rw [hlone] at hmem
    exact hname (List.mem_singleton.mp hmem)
  have hpassed : Reached g id (.start world.files [id])
      ⟨.recovering world.files (.looking [] []), [], false⟩ := Reached.start.passed hid
  have hended := hpassed.recovered rfl
  have hstarted : Reached g id (.start world.files [id])
      ⟨.serving (.start 1 world) false, [], false⟩ := hended.step (.started rfl rfl)
  obtain ⟨c, hmeanwhile, hgenerates, -, hlog, hsame⟩ := Chronicle.exists_generates world
    (fun _ => []) hfinds howed herror (hvacant (hid.ne_sentinelName id).symm)
  obtain ⟨d, reply, outcome, hmeanwhile', -, hfound, hmarked, hlog', hsame'⟩ :=
    hgenerates.exists_recorded hsilent hsteady
  have hrecorded := (hstarted.meanwhile hmeanwhile).meanwhile hmeanwhile'
  have hnames : Session.names d.pool.world.files g.directory =
      .ok (d.pool.world.files.names place) := by
    rw [Session.names, during_eq_ok, hfound.holds.list_eq]
  have hcrashed := hrecorded.step (.crashed hnames)
  have hthere : sentinelName id ∈ d.pool.world.files.names place := by
    obtain ⟨executable, hentry⟩ := hmarked
    exact mem_names hentry
  obtain ⟨after, all, hrecovered, hfound'⟩ := hcrashed.exists_recovered hfound herror
    (fun name hname => by
      by_contra hother
      obtain ⟨hne, hmark⟩ := not_or.mp hother
      refine get?_of_mem_names hname ?_
      rw [hsame' name hne hmark, hsame name hne hmark, hvacant hne])
    (nodup_names _ _) fun _ => hmarked
  rw [if_pos hthere] at hrecovered hfound'
  have hwhole : Text.IsWholeLines (text ++ assistantLine reply).toList := by
    rw [String.toList_append]
    exact htext.append (isWholeLines_assistantLine reply)
  have hserving : Reached g id (.start world.files [id])
      ⟨.serving (.start 1 (.start after host)) false, _, _⟩ :=
    hrecovered.step (.started rfl rfl)
  obtain ⟨last, hprocessed, hnothing⟩ := hserving.exists_skipped hid hfound'.read
    (needsResponse_append_assistantLine hwhole restartError)
  refine ⟨_, last, reply, hprocessed, rfl, ?_⟩
  simp only [notes]
  rw [hnothing, hlog', hlog]
  rfl

end Run

/-- However often daemons go down and start again: a session that owed a reply and was processed
has one, and there are more exactly if a daemon went down between an append and the removal of
the sentinel. What was appended first counts only if there is nothing more, for all the rest are
notices of a restart. -/
theorem Reached.one_reply_iff (h : Reached g id (.start files found) s)
    (hfinds : Finds g.directory place id files text)
    (hwhole : Utf8.IsWholeLines (files.bytesAt (place ++ [id]))) (hplain : IsPlain place files)
    (howed : needsResponse text = true) (hsilent : g.backend.IsSilent)
    (hfound : Session.names files g.directory = .ok found) {c : Chronicle σ}
    (hlife : s.life = .serving c true) :
    ∃ first more content, s.notes id = first :: more ∧ (∀ note ∈ more, note = .notice) ∧
      content = text ++ Note.linesOf (first :: more) ∧
      c.pool.world.files.readText (Path.join g.directory id) = .ok content ∧
      repliesToLast content = more.length + 1 ∧
      (repliesToLast content = 1 ↔ s.torn = false) ∧
      (Response.mk id content).content =
        if more = [] then singleLine first.text else restartError := by
  have hholding : Holding g.directory place id text [] files :=
    ⟨by simpa [Note.linesOf] using hfinds, hwhole, hplain⟩
  have htext : Text.IsWholeLines text.toList := by
    simpa [Note.linesOf] using hholding.isWholeLines
  have hstands := h.stands hholding htext howed hsilent hfound
  rw [Stands, hlife] at hstands
  obtain ⟨origin, hserves⟩ := hstands
  have hnotes : s.notes id = s.noted ++ Note.ofPostings (c.log id) := by rw [notes, hlife]
  have hread := hserves.holding.finds.read
  have hnotices := hserves.notices_notes htext howed
  obtain ⟨hone, hmore⟩ := hserves.length_notes htext howed
  obtain ⟨first, more, hcons⟩ := List.exists_cons_of_ne_nil (hserves.processed rfl)
  rw [hcons] at hnotes hread hnotices hone hmore
  have hreplies := Note.repliesToLast_append_linesOf htext howed (first :: more)
  refine ⟨first, more, _, hnotes, hnotices, rfl, hread, hreplies, ?_, ?_⟩
  · rw [hreplies]
    cases htorn : s.torn with
    | false => simpa using hone htorn
    | true => simpa using Nat.ne_of_gt (hmore htorn)
  · rcases List.eq_nil_or_concat more with rfl | ⟨between, last, rfl⟩
    · exact Note.content_append_linesOf_singleton htext [] first id
    · obtain rfl : last = .notice := hnotices last (by simp)
      rw [if_neg (by simp), List.concat_eq_append, ← List.cons_append,
        Note.content_append_linesOf_singleton htext]
      decide

theorem one_reply_iff_hello : ∃ s c reply content,
    Reached (Worker.rehearsal .echo) "a"
        (.start (withFile "a" (Utf8.encode "User: Hello\n")) ["a"]) s ∧
      s.life = .serving c true ∧ s.notes "a" = [.answer reply, .notice] ∧ s.torn = true ∧
      c.pool.world.files.readText (Path.join "/s" "a") = .ok content ∧
      repliesToLast content = 2 ∧ (Response.mk "a" content).content = restartError := by
  have hid : IsSessionName "a" := ⟨by decide, by decide⟩
  have hfinds : Finds "/s" ["s"] "a" (World.start (withFile "a" (Utf8.encode "User: Hello\n"))
      ([] : List DryRun.Record)).files "User: Hello\n" := Finds.withFile hid (by decide) _
  have hsilent : (Worker.rehearsal .echo).backend.IsSilent := DryRun.isSilent_backend _ _
  have howed : needsResponse "User: Hello\n" = true := by decide
  obtain ⟨s, c, reply, hreached, hlife, hnotes⟩ :=
    exists_torn hfinds (.inr (by decide)) howed hsilent
      (DryRun.isSteady_backend _ (by decide) _) (by decide) (names_withFile "a" _) []
  have hwhole : Utf8.IsWholeLines ((withFile "a" (Utf8.encode "User: Hello\n")).bytesAt
      (["s"] ++ ["a"])) := by
    rw [bytesAt_withFile, if_pos rfl]
    exact .inr (by decide)
  have hplain : IsPlain ["s"] (withFile "a" (Utf8.encode "User: Hello\n")) := by
    intro name hthere
    rw [get?_withFile] at hthere
    obtain rfl : name = "a" := by simpa using hthere
    exact hid.noSlash
  have hfound : Session.names (withFile "a" (Utf8.encode "User: Hello\n")) "/s" = .ok ["a"] := by
    rw [Session.names, during_eq_ok, (holds_withFile "a" _).list_eq, names_withFile]
  obtain ⟨first, more, content, hnotes', -, -, hread, hreplies, hone, hcontent⟩ :=
    hreached.one_reply_iff hfinds hwhole hplain howed hsilent hfound hlife
  obtain ⟨rfl, rfl⟩ : first = .answer reply ∧ more = [.notice] := by
    simpa using hnotes'.symm.trans hnotes
  rw [if_neg (by simp)] at hcontent
  refine ⟨s, c, reply, content, hreached, hlife, hnotes, ?_, hread, hreplies, hcontent⟩
  rw [hreplies] at hone
  cases htorn : s.torn with
  | true => rfl
  | false => exact absurd (hone.mpr htorn) (by simp)

end Succession

end FileChat
