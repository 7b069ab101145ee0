/-
# What replies answer

Two consequences of the record that a chronicle keeps. Replies never come two for one turn,
however often a session is queued. But a reply that leaves nothing owed need not have seen
every turn: a turn that a client writes between the reading and the appending stands in front
of the reply, and being in front is all that counts.
-/

import FileChat.Proofs.Conversation.Seen
import FileChat.Proofs.Worker.Course

namespace FileChat.Worker

open Conversation FileSystem Session

variable {σ : Type} {g : Generator σ} {place : Location} {world : World σ} {workers : Nat}
  {id : String}

namespace Chronicle

variable {c : Chronicle σ}

/-- Whatever two clients say and whatever the backend answers: a turn that is written while the
backend is asked stands in front of a reply that was made without it. The first turn is there when a
worker reads the session and marks it, and the second one comes between that and the reply. -/
theorem exists_unseen (hfinds : Finds g.directory place id world.files "")
    (hsilent : g.backend.IsSilent) (hsteady : g.backend.IsSteady) (hvalid : isValidId id = true)
    (herror : nameError? g.directory (sentinelName id) = none)
    (hfree : world.files.get? (place ++ [sentinelName id]) = none) {first second : String}
    (hfirst : Client.Session.isSingleLine first = true)
    (hsecond : Client.Session.isSingleLine second = true) :
    ∃ c reply, Reached g (.start 1 world) c ∧
      c.pool.world.files.readText (Path.join g.directory id) =
        .ok (userLine first ++ userLine second ++ assistantLine reply) ∧
      c.log id = [.turn first, .turn second, .reply reply (userLine first)] := by
  obtain ⟨session, hsession⟩ : ∃ session,
      Client.Session.at? id g.directory .standard = .ok session := by
    rw [Client.Session.at?, hvalid, if_pos rfl]
    exact ⟨_, rfl⟩
  obtain ⟨-, hpath⟩ := Client.Session.of_at?_eq_ok hsession
  obtain ⟨files, size, c, hsaid, hmeanwhile, hgenerates, hseen, hlog⟩ :=
    exists_generates_said hfinds hpath hfirst herror hfree
  have hfirstSaid : Reached g (.start 1 world)
      ((start 1 world).saying id first session.path files) := .step .start (.said hsession hsaid)
  have hbegun : Reached g (.start 1 world) c := hfirstSaid.meanwhile hmeanwhile
  obtain ⟨more, size', hmore⟩ := Client.Session.exists_appendTurn hgenerates.finds hpath hsecond
  obtain ⟨-, hgrows'⟩ :=
    Client.Session.of_appendTurn_eq_ok hgenerates.finds.holds hfinds.session hpath hmore
  have hsecondSaid : Reached g (.start 1 world) (c.saying id second session.path more) :=
    hbegun.step (.said hsession hmore)
  obtain ⟨after, reply, hmeanwhile', hfound, -, hlog'⟩ :=
    (hgenerates.saying session.path hgrows').exists_unmarked hsilent hsteady
  refine ⟨after, reply, hsecondSaid.meanwhile hmeanwhile', hfound.read, ?_⟩
  have hlast : (c.saying id second session.path more).log id = c.log id ++ [.turn second] :=
    Function.update_self _ _ _
  have hseen' : (c.saying id second session.path more).seen 0 = userLine first := hseen
  rw [hlog', hlast, hlog, hseen']
  rfl

/-- The same in a rehearsal. -/
theorem exists_unseen_rehearsal : ∃ c reply,
    Reached (rehearsal .echo) (.start 1 (.start (withFile "a" []) [])) c ∧
      c.pool.world.files.readText (Path.join "/s" "a") =
        .ok ("User: Hello\n" ++ "User: Wait\n" ++ assistantLine reply) ∧
      c.log "a" = [.turn "Hello", .turn "Wait", .reply reply "User: Hello\n"] := by
  have hid : IsSessionName "a" := ⟨by decide, by decide⟩
  have hfinds := Finds.withFile hid (by decide) ""
  rw [Utf8.encode_empty] at hfinds
  have hfree : (withFile "a" []).get? (["s"] ++ [sentinelName "a"]) = none := by
    rw [get?_withFile, if_neg (by decide)]
  obtain ⟨c, reply, hreached, hread, hlog⟩ : ∃ c reply,
      Reached (rehearsal .echo) (.start 1 (.start (withFile "a" []) [])) c ∧
        c.pool.world.files.readText (Path.join "/s" "a") =
          .ok (userLine "Hello" ++ userLine "Wait" ++ assistantLine reply) ∧
        c.log "a" = [.turn "Hello", .turn "Wait", .reply reply (userLine "Hello")] :=
    exists_unseen hfinds (DryRun.isSilent_backend _ _)
      (DryRun.isSteady_backend _ (by decide) _) (by decide) (by decide) hfree (by decide)
      (by decide)
  exact ⟨c, reply, hreached, hread, hlog⟩

/-- However sessions are queued and workers and clients take turns: a session grows by what was
appended to it, there is a turn between any two replies, and there are no more replies than
users' lines. -/
theorem Reached.one_reply_per_turn (h : Reached g (.start workers world) c)
    (hfs : world.files.Holds g.directory place) (hsilent : g.backend.IsSilent)
    (hid : IsSessionName id) (hwhole : Utf8.IsWholeLines (world.files.bytesAt (place ++ [id]))) :
    c.pool.world.files.bytesAt (place ++ [id]) =
        world.files.bytesAt (place ++ [id]) ++ Utf8.encode (textOf (c.log id)) ∧
      (∀ first between rest text seen later about,
        c.log id = first ++ [.reply text seen] ++ between ++ [.reply later about] ++ rest →
          ∃ message, Posting.turn message ∈ between) ∧
      (c.log id).countP Posting.isReply ≤
        userLines (c.pool.world.files.bytesAt (place ++ [id])) := by
  have hkept := h.kept hfs hsilent
  have hanswered := hkept.answered hid
  refine ⟨hkept.bytes hid, ?_, ?_⟩
  · intro first between rest text seen later about hlog
    rw [hlog] at hanswered
    exact hanswered.exists_turn_between hwhole
  · rw [hkept.bytes hid]
    exact hanswered.countP_isReply_le_userLines hwhole

theorem one_reply_for_two_turns : ∃ c reply,
    Reached (rehearsal .echo) (.start 1 (.start (withFile "a" []) [])) c ∧
      c.log "a" = [.turn "Hello", .turn "Wait", .reply reply "User: Hello\n"] ∧
      1 ≤ userLines (c.pool.world.files.bytesAt ["s", "a"]) := by
  obtain ⟨c, reply, hreached, -, hlog⟩ := exists_unseen_rehearsal
  have hwhole : Utf8.IsWholeLines ((withFile "a" []).bytesAt (["s"] ++ ["a"])) := by
    rw [bytesAt_withFile, ite_self]
    exact .inl rfl
  have hid : IsSessionName "a" := ⟨by decide, by decide⟩
  obtain ⟨-, -, hcount⟩ := hreached.one_reply_per_turn (holds_withFile "a" [])
    (DryRun.isSilent_backend _ _) hid hwhole
  rw [hlog] at hcount
  exact ⟨c, reply, hreached, hlog, hcount⟩

/-- In a session that began empty and owes nothing, a turn was seen by a later reply exactly if
it was there when the content for the last reply was read. -/
theorem Reached.isSeen_iff (h : Reached g (.start workers world) c)
    (hfs : world.files.Holds g.directory place) (hsilent : g.backend.IsSilent)
    (hid : IsSessionName id) {executable : Bool}
    (hempty : world.files.get? (place ++ [id]) = some (.file [] executable)) {text : String}
    (hread : c.pool.world.files.readText (Path.join g.directory id) = .ok text)
    (hnothing : needsResponse text = false) :
    text = textOf (c.log id) ∧ Text.lines text.toList = (c.log id).map Posting.words ∧
      (c.log id = [] ∨ ∃ earlier late, SeenLast (c.log id) earlier late ∧
        ∀ i, IsSeen (c.log id) i ↔ i < earlier.length) := by
  have hkept := h.kept hfs hsilent
  have hanswered := hkept.answered hid
  have hbytes := hkept.bytes hid
  rw [bytesAt_of_file hempty] at hanswered hbytes
  obtain ⟨-, bytes, _, hfile, hdecode⟩ := (hkept.holds.readText_join hid.isName).mp hread
  rw [← bytesAt_of_file hfile, hbytes, List.nil_append, Utf8.decode_encode] at hdecode
  obtain rfl := Option.some.inj hdecode
  refine ⟨rfl, lines_textOf hanswered.isSingle, ?_⟩
  rcases hanswered.exists_seenLast hnothing with hnil | ⟨earlier, late, hlast⟩
  · exact .inl hnil
  · refine .inr ⟨earlier, late, hlast, fun i => ⟨fun hseen => ?_, hlast.isSeen⟩⟩
    by_contra hlate
    exact hlast.not_isSeen (Nat.le_of_not_lt hlate) hseen

theorem isSeen_greeting : ∃ c reply,
    Reached (rehearsal .echo) (.start 1 (.start (withFile "a" []) [])) c ∧
      c.log "a" = [.turn "Hello", .turn "Wait", .reply reply "User: Hello\n"] ∧
      ∃ earlier late, SeenLast (c.log "a") earlier late ∧
        ∀ i, IsSeen (c.log "a") i ↔ i < earlier.length := by
  obtain ⟨c, reply, hreached, hread, hlog⟩ := exists_unseen_rehearsal
  have hid : IsSessionName "a" := ⟨by decide, by decide⟩
  have hempty : (withFile "a" []).get? (["s"] ++ ["a"]) = some (.file [] false) :=
    get?_withFile "a" [] "a"
  obtain ⟨-, -, hnil | hseen⟩ := hreached.isSeen_iff (holds_withFile "a" [])
    (DryRun.isSilent_backend _ _) hid hempty hread
    (needsResponse_append_assistantLine (by decide) reply)
  · rw [hlog] at hnil
    cases hnil
  · exact ⟨c, reply, hreached, hlog, hseen⟩

/-- A session may owe nothing although no reply was made with the last turn in sight. -/
theorem not_forall_isSeen : ¬ ∀ c : Chronicle (List DryRun.Record),
    Reached (rehearsal .echo) (.start 1 (.start (withFile "a" []) [])) c →
      ∀ text, c.pool.world.files.readText (Path.join "/s" "a") = .ok text →
        needsResponse text = false →
          ∀ i message, (c.log "a")[i]? = some (.turn message) → IsSeen (c.log "a") i := by
  intro hall
  obtain ⟨c, reply, hreached, hread, hlog⟩ := exists_unseen_rehearsal
  have hseen := hall c hreached _ hread
    (needsResponse_append_assistantLine (by decide) reply) 1 "Wait" (by rw [hlog]; rfl)
  have hlast : SeenLast (c.log "a") [.turn "Hello"] [.turn "Wait"] :=
    ⟨⟨reply, by rw [hlog]; rfl⟩, by simp [Posting.isTurn]⟩
  exact hlast.not_isSeen (by decide) hseen

end Chronicle

end FileChat.Worker
