/-
# Whose reply a client gets

A client writes a turn, waits, and takes the last reply in the file for the reply to it. That
there is a reply it tells from two observations, which others may come between: the sentinel was
in sight and is not any more, or the file has grown. The reply that it finds does stand behind
its turn. But it is the reply of the worker that had the session in its hands when the turn was
written, if there was one, and that worker has not seen the turn.
-/

import FileChat.Client.Wait
import FileChat.Proofs.Conversation.Response
import FileChat.Proofs.Worker.Course

namespace FileChat

open Conversation FileSystem

variable {σ : Type}

namespace Worker

/-- Who has yet to append is not done. -/
theorem Stage.isOver_of_hasRead {stage : Stage} (h : stage.hasRead = true) :
    stage.isOver = false := by
  cases stage with
  | finished _ | crashed => cases h
  | _ => rfl

/-- A worker that has read its session goes on until it has appended something to it. -/
theorem Advances.hasRead {directory : Path} {place : Location} {id : String}
    {w after : World σ} {stage next : Stage}
    (h : Advances directory place id w stage next after) (hread : stage.hasRead = true)
    (hnone : stage.appended? next = none) (hlives : next ≠ .crashed) {bytes : Bytes}
    (hthere : w.files.readBytes (Path.join directory id) = .ok bytes) : next.hasRead = true := by
  cases h with
  | ended hover =>
      cases stage with
      | finished _ | crashed => cases hread
      | _ => cases hover
  | unmarkable | marked | answered => rfl
  | crashed => exact absurd rfl hlives
  | excused | recorded => cases hnone
  | unexcused hgone | unrecorded hgone => exact absurd hthere (hgone bytes)
  | unreadable | skipped | owing | unmarked => cases hread

namespace Chronicle

open Session

variable {g : Generator σ} {place : Location} {origin : FileSystem} {id message content : String}
  {held : Prop} {earlier : List Posting} {begun c after : Chronicle σ}

/-- The reply behind what was there at some time is made about one content. If somebody had the
session in hand then, somebody has it in hand until that reply is appended. -/
structure MadeAbout (id : String) (earlier : List Posting) (content : String) (held : Prop)
    (c : Chronicle σ) : Prop where
  reader {i : Nat} : c.log id = earlier → c.Reads i id → c.seen i = content
  holder : held → c.log id = earlier → ∃ i, c.Reads i id
  reply {text seen : String} : c.log id = earlier ++ [.reply text seen] → seen = content

namespace MadeAbout

/-- Right behind the turn only those have read who had read before. -/
theorem saying {i : Nat} (hkept : Kept g place origin begun) (hread : begun.Reads i id)
    (path : Path) (files : FileSystem) :
    MadeAbout id (begun.log id ++ [.turn message]) (begun.seen i) True
      (begun.saying id message path files) := by
  refine ⟨?_, fun _ _ => ⟨i, hread⟩, ?_⟩
  · rintro j - ⟨further, hother, -⟩
    obtain ⟨stage, hat, -⟩ := hread
    obtain ⟨rfl, -⟩ := IsAt.unique hkept.guarded hat hother
    rfl
  · intro text seen hlog
    have hsaid : (begun.saying id message path files).log id =
        begun.log id ++ [.turn message] := Function.update_self _ _ _
    simp [hsaid] at hlog

/-- If nobody has read yet, whoever will has seen the turn. -/
theorem saying_of_fresh (hfresh : ∀ i, ¬ begun.Reads i id) (path : Path) (files : FileSystem) :
    MadeAbout id (begun.log id ++ [.turn message]) content False
      (begun.saying id message path files) := by
  refine ⟨fun _ hread => absurd hread (hfresh _), fun hheld => hheld.elim, ?_⟩
  intro text seen hlog
  have hsaid : (begun.saying id message path files).log id =
      begun.log id ++ [.turn message] := Function.update_self _ _ _
  simp [hsaid] at hlog

/-- What is read behind the turn is the turn with what was in front of it. -/
theorem eq_of_readText (hkept : Kept g place origin c) (hid : IsSessionName id)
    (hempty : origin.bytesAt (place ++ [id]) = []) {text : String}
    (hread : c.pool.world.files.readText (Path.join g.directory id) = .ok text) :
    text = textOf (c.log id) := by
  obtain ⟨-, bytes, executable, hfile, hdecode⟩ := (hkept.holds.readText_join hid.isName).mp hread
  rw [← bytesAt_of_file hfile, hkept.bytes hid, hempty, List.nil_append,
    Utf8.decode_encode] at hdecode
  exact (Option.some.inj hdecode).symm

/-- Whatever happens next, as long as nobody says anything there. -/
theorem of_effect (h : MadeAbout id earlier content held c)
    (hbehind : Behind g.directory place origin id earlier c) (hkept : Kept g place origin c)
    (hid : IsSessionName id) (hempty : origin.bytesAt (place ++ [id]) = [])
    (hsteady : g.backend.IsSteady)
    (hcontent : ¬ held → content = textOf earlier)
    (heffect : Effect g place id c after)
    (haside : ∀ message, after.log id ≠ c.log id ++ [.turn message]) :
    MadeAbout id earlier content held after := by
  cases heffect with
  | elsewhere hlog _ _ hnew hold =>
      refine ⟨?_, ?_, fun hreplied => h.reply (hlog ▸ hreplied)⟩
      · rintro i hsaid ⟨stage, hat, hread⟩
        rcases hnew hat with rfl | ⟨hbefore, hseen⟩
        · cases hread
        · rw [hseen]
          exact h.reader (hlog ▸ hsaid) ⟨stage, hbefore, hread⟩
      · intro hheld hsaid
        obtain ⟨i, stage, hat, hread⟩ := h.holder hheld (hlog ▸ hsaid)
        exact ⟨i, stage, (hold hat).1, hread⟩
  | said hlog => exact absurd hlog (haside _)
  | @advanced i stage next hbefore hadvances hlog hseen hsame hlives hnew hnow =>
      cases happended : stage.appended? next with
      | some reply =>
          have hread := Stage.hasRead_of_appended? happended
          have hreplied := hbehind.log_of_appended hkept hbefore happended hlog
          refine ⟨fun hsaid => ?_, fun _ hsaid => ?_, fun hagain => ?_⟩
          · simp [hreplied] at hsaid
          · simp [hreplied] at hsaid
          · obtain ⟨-, rfl⟩ : reply = _ ∧ c.seen i = _ := by simpa [hreplied] using hagain
            exact h.reader (hbehind.log_of_hasRead hkept hbefore hread) ⟨stage, hbefore, hread⟩
      | none =>
          rw [happended, Option.map_none, Option.toList_none, List.append_nil] at hlog
          refine ⟨?_, ?_, fun hreplied => h.reply (hlog ▸ hreplied)⟩
          · rintro j hsaid ⟨further, hat, hread⟩
            obtain ⟨rfl, rfl⟩ := hnew hat
            rcases hadvances.of_hasRead hread with ⟨text, rfl, rfl, htext, -⟩ | ⟨hhad, -⟩
            · -- Nobody can begin to read while somebody has the session in hand.
              have hfree : ¬ held := by
                intro hheld
                obtain ⟨k, _, hother, hhas⟩ := h.holder hheld (hlog ▸ hsaid)
                obtain ⟨-, rfl⟩ := IsAt.unique hkept.guarded hbefore hother
                cases hhas
              rw [hseen text rfl, hcontent hfree, eq_of_readText hkept hid hempty htext, ← hlog,
                hsaid]
            · rw [hsame hhad]
              exact h.reader (hlog ▸ hsaid) ⟨stage, hbefore, hhad⟩
          · intro hheld hsaid
            obtain ⟨k, _, hother, hhas⟩ := h.holder hheld (hlog ▸ hsaid)
            obtain ⟨-, rfl⟩ := IsAt.unique hkept.guarded hbefore hother
            have hstill := hadvances.hasRead hhas happended
              (hlives hsteady (Stage.isOver_of_hasRead hhas)) (hbehind.readBytes_eq hkept hid)
            exact ⟨i, next, hnow (Stage.isOver_of_hasRead hstill), hstill⟩

end MadeAbout

end Chronicle

end Worker

namespace Client

open FileChat.Session (Finds IsSessionName isName_sentinelName sentinelName sentinelPath
  spot_ne_sentinel)
open Worker (Generator Stage)
open Worker.Chronicle (Behind IsReplied IsUnderway Kept MadeAbout Meanwhile StepAside)

/-- A turn that a client waits to have answered. -/
structure Asking (σ : Type) where
  message : String
  /-- The length of the file with the turn. -/
  sizeBefore : Nat
  /-- What there was when the turn was written. -/
  begun : Worker.Chronicle σ

/-- What is there of a session when the turn was written. -/
def Asking.earlier (asking : Asking σ) (id : String) : List Posting :=
  asking.begun.log id ++ [.turn asking.message]

/-- What a client is doing. -/
inductive Phase (σ : Type)
  | idle
  | waiting (asking : Asking σ) (progress : Waiting)

/-- One client of a session, who writes one turn after the other, and the workers that answer. -/
structure Dialogue (σ : Type) where
  chronicle : Worker.Chronicle σ
  phase : Phase σ

/-- The client observes what it may conclude from. -/
def Waiting.IsSound (directory : Path) (place : Location) (id : String) (asking : Asking σ)
    (c : Worker.Chronicle σ) : Waiting → Prop
  | .watching sentinelSeen =>
      sentinelSeen = true → IsUnderway directory place id (asking.earlier id) c
  | .measuring => True
  | .settled => IsReplied id (asking.earlier id) c

/-- How things stand behind a turn that nobody was about to take a mark away from. -/
structure Asking.Stands (g : Generator σ) (place : Location) (origin : FileSystem) (id : String)
    (asking : Asking σ) (progress : Waiting) (c : Worker.Chronicle σ) : Prop where
  begun : Kept g place origin asking.begun
  behind : Behind g.directory place origin id (asking.earlier id) c
  size : asking.sizeBefore = (origin.bytesAt (place ++ [id]) ++
    Utf8.encode (textOf (asking.earlier id))).length
  sound : progress.IsSound g.directory place id asking c
  fresh : (∀ i, ¬ asking.begun.Reads i id) →
    MadeAbout id (asking.earlier id) (textOf (asking.earlier id)) False c
  held {i : Nat} : asking.begun.Reads i id →
    MadeAbout id (asking.earlier id) (asking.begun.seen i) True c

variable {g : Generator σ} {place : Location} {origin : FileSystem} {session : Session}
  {options : Options} {asking : Asking σ} {progress : Waiting} {c : Worker.Chronicle σ}

section Observation

/-- One observation of a client that waits. -/
theorem Asking.Stands.looked (h : asking.Stands g place origin session.id progress c)
    (hkept : Kept g place origin c) (hid : IsSessionName session.id)
    (hpath : session.path = Path.join g.directory session.id)
    (hsentinel : session.sentinel = sentinelPath g.directory session.id) :
    asking.Stands g place origin session.id
      (progress.step session asking.sizeBefore c.pool.world.files) c := by
  refine ⟨h.begun, h.behind, h.size, ?_, h.fresh, h.held⟩
  have hsound := h.sound
  cases progress with
  | watching sentinelSeen =>
      rw [Waiting.step, hsentinel]
      split
      · next hthere => exact fun _ => hkept.isUnderway hid hthere
      · next hgone =>
          split
          · next hseen => exact (hsound hseen).isReplied hkept hid hgone
          · trivial
  | measuring =>
      rw [Waiting.step, hpath, h.behind.metadata_eq hkept hid]
      dsimp only
      split
      · next hgrown =>
          rcases h.behind.bytesAt_eq hkept hid with ⟨-, hbytes⟩ | ⟨text, seen, hreplied, -⟩
          · rw [hbytes, ← h.size] at hgrown
            exact absurd hgrown (Nat.lt_irrefl _)
          · exact ⟨text, seen, hreplied⟩
      · intro hseen
        cases hseen
  | settled => exact hsound

/-- A step of somebody else. -/
theorem Asking.Stands.aside (h : asking.Stands g place origin session.id progress c)
    (hkept : Kept g place origin c) (hid : IsSessionName session.id)
    (hempty : origin.bytesAt (place ++ [session.id]) = []) (hsilent : g.backend.IsSilent)
    (hsteady : g.backend.IsSteady) {next : Worker.Chronicle σ}
    (haside : StepAside g session.id c next) :
    asking.Stands g place origin session.id progress next := by
  obtain ⟨hstep, hquiet⟩ := haside
  have heffect := hkept.effect hsilent hid hstep
  refine ⟨h.begun, h.behind.of_effect hkept hid heffect hquiet, h.size, ?_, ?_, ?_⟩
  · have hsound := h.sound
    cases progress with
    | watching sentinelSeen =>
        exact fun hseen => h.behind.isUnderway_of_effect hkept hid heffect hquiet (hsound hseen)
    | measuring => trivial
    | settled => exact h.behind.isReplied_of_effect hkept heffect hquiet hsound
  · intro hfresh
    exact (h.fresh hfresh).of_effect h.behind hkept hid hempty hsteady (fun _ => rfl) heffect
      hquiet
  · intro i hread
    exact (h.held hread).of_effect h.behind hkept hid hempty hsteady
      (fun hnot => absurd trivial hnot) heffect hquiet

/-- A client that has just written its turn. -/
theorem Asking.Stands.asked (hkept : Kept g place origin c)
    (hsession : Session.at? session.id g.directory options = .ok session) {message : String}
    {files : FileSystem} {size : Nat}
    (hsaid : session.appendTurn c.pool.world.files message = .ok (files, size))
    (hfree : ∀ i appended outcome, ¬ c.IsAt i session.id (.unmarking appended outcome)) :
    Asking.Stands g place origin session.id ⟨message, size, c⟩ (.watching false)
      (c.saying session.id message session.path files) := by
  refine ⟨hkept, Worker.Chronicle.behind_saying hkept hsession hsaid hfree,
    hkept.size_eq hsession hsaid, ?_, ?_, ?_⟩
  · intro hseen
    cases hseen
  · exact fun hfresh => .saying_of_fresh hfresh session.path files
  · exact fun hread => .saying hkept hread session.path files

end Observation

namespace Dialogue

/-- A client begins with nothing to wait for. -/
def start (workers : Nat) (world : World σ) : Dialogue σ := ⟨.start workers world, .idle⟩

/-- What can happen next. Everything but the client's own turns and observations is up to
others. -/
inductive Step (g : Generator σ) (session : Session) (d : Dialogue σ) : Dialogue σ → Prop
  | aside {after : Worker.Chronicle σ} (haside : StepAside g session.id d.chronicle after) :
      Step g session d { d with chronicle := after }
  /-- The client writes a turn and begins to wait. -/
  | asked {message : String} {files : FileSystem} {size : Nat} (hidle : d.phase = .idle)
      (hsaid : session.appendTurn d.chronicle.pool.world.files message = .ok (files, size)) :
      Step g session d ⟨d.chronicle.saying session.id message session.path files,
        .waiting ⟨message, size, d.chronicle⟩ (.watching false)⟩
  /-- The client makes one observation. -/
  | looked {asking : Asking σ} {progress : Waiting} (hphase : d.phase = .waiting asking progress) :
      Step g session d { d with
        phase := .waiting asking (progress.step session asking.sizeBefore
          d.chronicle.pool.world.files) }
  /-- The client has read the reply, or its time is over. -/
  | ended {asking : Asking σ} {progress : Waiting} (hphase : d.phase = .waiting asking progress) :
      Step g session d { d with phase := .idle }

/-- What can come of a beginning. -/
inductive Reached (g : Generator σ) (session : Session) (begin : Dialogue σ) : Dialogue σ → Prop
  | start : Reached g session begin begin
  | step {d after : Dialogue σ} (h : Reached g session begin d)
      (hstep : Step g session d after) : Reached g session begin after

/-- What holds of a dialogue. -/
structure Stands (g : Generator σ) (place : Location) (origin : FileSystem) (id : String)
    (d : Dialogue σ) : Prop where
  kept : Kept g place origin d.chronicle
  waiting {asking : Asking σ} {progress : Waiting} : d.phase = .waiting asking progress →
    (∀ i appended outcome, ¬ asking.begun.IsAt i id (.unmarking appended outcome)) →
      asking.Stands g place origin id progress d.chronicle

variable {d after : Dialogue σ}

/-- Whatever happens next, it still holds. -/
theorem Stands.of_step (h : Stands g place origin session.id d)
    (hsession : Session.at? session.id g.directory options = .ok session)
    (hempty : origin.bytesAt (place ++ [session.id]) = []) (hsilent : g.backend.IsSilent)
    (hsteady : g.backend.IsSteady) (hstep : Step g session d after) :
    Stands g place origin session.id after := by
  obtain ⟨hid, hpath⟩ := Session.of_at?_eq_ok hsession
  cases hstep with
  | aside haside =>
      refine ⟨h.kept.of_step hsilent haside.1, fun hphase hfree => ?_⟩
      exact (h.waiting hphase hfree).aside h.kept hid hempty hsilent hsteady haside
  | asked hidle hsaid =>
      refine ⟨h.kept.said hsession hsaid, fun hphase hfree => ?_⟩
      obtain ⟨rfl, rfl⟩ := Phase.waiting.inj hphase
      exact .asked h.kept hsession hsaid hfree
  | looked hbefore =>
      refine ⟨h.kept, fun hphase hfree => ?_⟩
      obtain ⟨rfl, rfl⟩ := Phase.waiting.inj hphase
      exact (h.waiting hbefore hfree).looked h.kept hid hpath
        (Session.names_of_at?_eq_ok hsession).2
  | ended => exact ⟨h.kept, fun hphase _ => by cases hphase⟩

/-- Whatever happened, it holds. -/
theorem Reached.stands {workers : Nat} {world : World σ}
    (h : Reached g session (.start workers world) d)
    (hsession : Session.at? session.id g.directory options = .ok session)
    (hfs : world.files.Holds g.directory place)
    (hempty : world.files.bytesAt (place ++ [session.id]) = []) (hsilent : g.backend.IsSilent)
    (hsteady : g.backend.IsSteady) : Stands g place world.files session.id d := by
  induction h with
  | start => exact ⟨Worker.Chronicle.kept_start hfs workers, fun hphase _ => by cases hphase⟩
  | step _ hstep ih => exact ih.of_step hsession hempty hsilent hsteady hstep

/-- A client whose wait is over reads the one reply that stands behind its turn, unless somebody
was about to take a mark away when it wrote the turn. That reply is about the turn with all that
was in front of it if nobody had read the session yet, and else about what was read then. -/
theorem Reached.reply_of_settled {workers : Nat} {world : World σ}
    (h : Reached g session (.start workers world) d)
    (hsession : Session.at? session.id g.directory options = .ok session)
    (hfs : world.files.Holds g.directory place) {executable : Bool}
    (hempty : world.files.get? (place ++ [session.id]) = some (.file [] executable))
    (hsilent : g.backend.IsSilent) (hsteady : g.backend.IsSteady)
    (hphase : d.phase = .waiting asking .settled)
    (hfree : ∀ i appended outcome,
      ¬ asking.begun.IsAt i session.id (.unmarking appended outcome)) :
    ∃ text seen response,
      d.chronicle.log session.id =
        asking.begun.log session.id ++ [.turn asking.message, .reply text seen] ∧
      session.readResponse d.chronicle.pool.world.files = .ok response ∧
      response.content = singleLine text ∧
      ((∀ i, ¬ asking.begun.Reads i session.id) →
        seen = textOf (asking.begun.log session.id ++ [.turn asking.message])) ∧
      ∀ i, asking.begun.Reads i session.id → seen = asking.begun.seen i ∧
        ∃ earlier, earlier <+: asking.begun.log session.id ∧ seen = textOf earlier := by
  have hbytes := bytesAt_of_file hempty
  obtain ⟨hid, hpath⟩ := Session.of_at?_eq_ok hsession
  have hstands := h.stands hsession hfs hbytes hsilent hsteady
  have hwaiting := hstands.waiting hphase hfree
  obtain ⟨text, seen, hlog⟩ : IsReplied session.id (asking.earlier session.id) d.chronicle :=
    hwaiting.sound
  have hread : d.chronicle.pool.world.files.readText (Path.join g.directory session.id) =
      .ok (textOf (d.chronicle.log session.id)) := by
    obtain ⟨bytes, executable, hfile⟩ := hwaiting.behind.there
    refine (hstands.kept.holds.readText_join hid.isName).mpr
      ⟨hwaiting.behind.nameable, bytes, executable, hfile, ?_⟩
    rw [← bytesAt_of_file hfile, hstands.kept.bytes hid, hbytes, List.nil_append,
      Utf8.decode_encode]
  refine ⟨text, seen, ⟨session.id, textOf (d.chronicle.log session.id)⟩, ?_, ?_, ?_, ?_, ?_⟩
  · rw [hlog, Asking.earlier, List.append_assoc]
    rfl
  · rw [Session.readResponse, Session.read, hpath, hread]
    rfl
  · rw [hlog, textOf_append, textOf_singleton, Posting.line]
    exact content_append_assistantLine (isWholeLines_textOf _) _ _
  · exact fun hfresh => (hwaiting.fresh hfresh).reply hlog
  · intro i hread
    have hseen := (hwaiting.held hread).reply hlog
    refine ⟨hseen, ?_⟩
    obtain ⟨stage, ⟨item, lock, hworker, hitem⟩, hhas⟩ := hread
    have hawaits := hwaiting.begun.awaited hworker hhas
    rw [hitem] at hawaits
    obtain ⟨earlier, late, hsplit, -, hdecode⟩ := hawaits.split
    rw [hbytes, List.nil_append, Utf8.decode_encode] at hdecode
    exact ⟨earlier, ⟨late, hsplit.symm⟩, hseen.trans (Option.some.inj hdecode).symm⟩

/-- Others go on for a while. -/
theorem Reached.meanwhile {begin : Dialogue σ} {after : Worker.Chronicle σ}
    (h : Reached g session begin d) (hmeanwhile : Meanwhile g session.id d.chronicle after) :
    Reached g session begin { d with chronicle := after } := by
  induction hmeanwhile with
  | refl => exact h
  | tail _ haside ih => exact ih.step (.aside haside)

/-- Whatever a client says without waiting for the reply to what it said before, and whatever the
backend answers: the client may get the reply to what it said before. It gives up its first wait
when a worker has marked the session, says something else and sees the sentinel. Then the reply is
appended, the sentinel goes, and the client takes the reply for its own. -/
theorem exists_settled_late {world : World σ}
    (hfinds : Finds g.directory place session.id world.files "")
    (hsession : Session.at? session.id g.directory options = .ok session)
    (hsilent : g.backend.IsSilent) (hsteady : g.backend.IsSteady)
    (herror : nameError? g.directory (sentinelName session.id) = none)
    (hfree : world.files.get? (place ++ [sentinelName session.id]) = none) {first second : String}
    (hfirst : Session.isSingleLine first = true) (hsecond : Session.isSingleLine second = true) :
    ∃ d asking reply, Reached g session (.start 1 world) d ∧
      d.phase = .waiting asking .settled ∧ asking.message = second ∧
      asking.begun.log session.id = [.turn first] ∧
      (∀ i appended outcome, ¬ asking.begun.IsAt i session.id (.unmarking appended outcome)) ∧
      asking.begun.Reads 0 session.id ∧
      Finds g.directory place session.id d.chronicle.pool.world.files
        (userLine first ++ userLine second ++ assistantLine reply) ∧
      d.chronicle.log session.id =
        [.turn first, .turn second, .reply reply (userLine first)] := by
  obtain ⟨-, hpath⟩ := Session.of_at?_eq_ok hsession
  obtain ⟨-, hsentinel⟩ := Session.names_of_at?_eq_ok hsession
  have hname := isName_sentinelName hfinds.session.noSlash
  obtain ⟨files, size, c, hsaid, hmeanwhile, hgenerates, hseen, hlog⟩ :=
    Worker.Chronicle.exists_generates_said hfinds hpath hfirst herror hfree
  have hasked : Reached g session (.start 1 world) _ := .step .start (.asked rfl hsaid)
  have hgaveUp := (hasked.meanwhile hmeanwhile).step (.ended rfl)
  obtain ⟨more, size', hmore⟩ := Session.exists_appendTurn hgenerates.finds hpath hsecond
  obtain ⟨-, hgrows'⟩ :=
    Session.of_appendTurn_eq_ok hgenerates.finds.holds hfinds.session hpath hmore
  have hgenerates' := hgenerates.saying session.path hgrows'
  have hsees : (Waiting.watching false).step session size'
      (c.saying session.id second session.path more).pool.world.files = .watching true := by
    obtain ⟨executable, hmarked⟩ := hgenerates'.marked
    have hexists := (hgenerates'.finds.holds.pathExists_join hname).mpr
      ⟨herror, by rw [hmarked]; exact Option.some_ne_none _⟩
    rw [Waiting.step, hsentinel, sentinelPath, hexists, if_pos rfl]
  have hlooked := (hgaveUp.step (.asked rfl hmore)).step (.looked rfl)
  rw [hsees] at hlooked
  obtain ⟨after, reply, hmeanwhile', hfound, hgone, hlog'⟩ :=
    hgenerates'.exists_unmarked hsilent hsteady
  have hsettled : (Waiting.watching true).step session size' after.pool.world.files =
      .settled := by
    have hexists : ¬ after.pool.world.files.pathExists session.sentinel = true := by
      rw [hsentinel, sentinelPath, hfound.holds.pathExists_join hname]
      exact fun hthere => hthere.2 hgone
    rw [Waiting.step, if_neg hexists, if_pos rfl]
  have hend := (hlooked.meanwhile hmeanwhile').step (.looked rfl)
  rw [hsettled] at hend
  refine ⟨_, _, reply, hend, rfl, rfl, hlog, ?_, ?_, hfound, ?_⟩
  · rintro i appended outcome ⟨item, lock, hworker, -⟩
    rw [hgenerates.workers] at hworker
    cases List.mem_singleton.mp (List.mem_of_getElem? hworker)
  · refine ⟨.generating (userLine first),
      ⟨FileChat.Session.itemOf g.directory session.id, 0, ?_, rfl⟩, rfl⟩
    rw [hgenerates.workers]
    rfl
  · have hsaid' : (c.saying session.id second session.path more).log session.id =
        c.log session.id ++ [.turn second] := Function.update_self _ _ _
    have hseen' : (c.saying session.id second session.path more).seen 0 = userLine first := hseen
    rw [hlog', hsaid', hlog, hseen']
    rfl

/-- The same in a rehearsal. -/
theorem exists_settled_late_rehearsal : ∃ d asking reply,
    Reached (Worker.rehearsal .echo) caller (.start 1 (.start (withFile "a" []) [])) d ∧
      d.phase = .waiting asking .settled ∧ asking.message = "Wait" ∧
      asking.begun.log "a" = [.turn "Hello"] ∧
      (∀ i appended outcome, ¬ asking.begun.IsAt i "a" (.unmarking appended outcome)) ∧
      asking.begun.Reads 0 "a" ∧
      Finds "/s" ["s"] "a" d.chronicle.pool.world.files
        ("User: Hello\n" ++ "User: Wait\n" ++ assistantLine reply) ∧
      d.chronicle.log "a" = [.turn "Hello", .turn "Wait", .reply reply "User: Hello\n"] := by
  have hid : IsSessionName "a" := ⟨by decide, by decide⟩
  have hfinds := Finds.withFile hid (by decide) ""
  rw [Utf8.encode_empty] at hfinds
  have hfree : (withFile "a" []).get? (["s"] ++ [sentinelName "a"]) = none := by
    rw [get?_withFile, if_neg (by decide)]
  have hsession : Session.at? caller.id (Worker.rehearsal .echo).directory .standard =
      .ok caller := at?_caller
  exact exists_settled_late hfinds hsession (DryRun.isSilent_backend _ _)
    (DryRun.isSteady_backend _ (by decide) _) (by decide) hfree (by decide) (by decide)

theorem reply_of_settled_hello : ∃ d asking text response,
    Reached (Worker.rehearsal .echo) caller (.start 1 (.start (withFile "a" []) [])) d ∧
      d.phase = .waiting asking .settled ∧ asking.message = "Wait" ∧
      caller.readResponse d.chronicle.pool.world.files = .ok response ∧
      response.content = singleLine text ∧
      d.chronicle.log "a" = [.turn "Hello", .turn "Wait", .reply text (asking.begun.seen 0)] := by
  obtain ⟨d, asking, reply, hreached, hphase, hmessage, hbegun, hfree, hreads, -, hlog⟩ :=
    exists_settled_late_rehearsal
  have hempty : (withFile "a" []).get? (["s"] ++ ["a"]) = some (.file [] false) :=
    get?_withFile "a" [] "a"
  obtain ⟨text, seen, response, hlog', hresponse, hcontent, -, hheld⟩ :=
    hreached.reply_of_settled at?_caller (holds_withFile "a" []) hempty
      (DryRun.isSilent_backend _ _) (DryRun.isSteady_backend _ (by decide) _) hphase hfree
  refine ⟨d, asking, text, response, hreached, hphase, hmessage, hresponse, hcontent, ?_⟩
  rw [(hheld 0 hreads).1] at hlog'
  rw [hmessage] at hlog'
  exact hlog'.trans (congrArg (· ++ _) hbegun)

/-- A client may take a reply for its own that was made without its turn. -/
theorem not_forall_reply_about_turn : ¬ ∀ (d : Dialogue (List DryRun.Record))
    (asking : Asking (List DryRun.Record)) (response : Response),
    Reached (Worker.rehearsal .echo) caller (.start 1 (.start (withFile "a" []) [])) d →
      d.phase = .waiting asking .settled →
        caller.readResponse d.chronicle.pool.world.files = .ok response →
          ∃ text seen, d.chronicle.log "a" =
              asking.begun.log "a" ++ [.turn asking.message, .reply text seen] ∧
            response.content = singleLine text ∧
            (textOf (asking.begun.log "a" ++ [.turn asking.message])).toList <+:
              seen.toList := by
  intro hall
  obtain ⟨d, asking, reply, hreached, hphase, hmessage, hbegun, -, -, hfinds, hlog⟩ :=
    exists_settled_late_rehearsal
  have hresponse : caller.readResponse d.chronicle.pool.world.files =
      .ok ⟨"a", "User: Hello\n" ++ "User: Wait\n" ++ assistantLine reply⟩ := by
    rw [Session.readResponse, Session.read, caller, hfinds.read]
    rfl
  obtain ⟨text, seen, hlog', -, hprefix⟩ := hall d asking _ hreached hphase hresponse
  rw [hlog, hbegun, hmessage] at hlog'
  obtain ⟨-, rfl⟩ : reply = text ∧ "User: Hello\n" = seen := by simpa using hlog'
  rw [hbegun, hmessage] at hprefix
  exact absurd hprefix.length_le (by decide)

end Dialogue

end Client

end FileChat
