/-
# What a client appends

A turn of a client goes to the end of one session, whose file is made if it is missing.
-/

import FileChat.Client.Session
import FileChat.Proofs.Conversation.Record
import FileChat.Proofs.Session.Store

namespace FileChat.Client

namespace Session

open Conversation FileSystem
open FileChat.Session (Finds IsSessionName isSessionName_of_isValidId)

variable {fs after : FileSystem} {directory : Path} {place : Location} {id message : String}
  {options : Options} {session : Session} {size : Nat}

/-- What a client can refer to is a session of the directory. -/
theorem of_at?_eq_ok (h : at? id directory options = .ok session) :
    IsSessionName id ∧ session.path = Path.join directory id := by
  unfold at? at h
  split at h
  · next hvalid =>
      obtain rfl := Except.ok.inj h
      exact ⟨isSessionName_of_isValidId hvalid, rfl⟩
  · cases h

/-- A client knows the session by its id and looks for its sentinel. -/
theorem names_of_at?_eq_ok (h : at? id directory options = .ok session) :
    session.id = id ∧ session.sentinel = FileChat.Session.sentinelPath directory id := by
  unfold at? at h
  split at h
  · obtain rfl := Except.ok.inj h
    exact ⟨rfl, rfl⟩
  · cases h

/-- A message that is on one line brings no line feed into a turn. -/
theorem isSingle_of_isSingleLine (h : isSingleLine message = true) :
    (Posting.turn message).IsSingle := by
  have hnone : ∀ c ∈ message.toList, ¬ (c = '\n' ∨ c = '\r') := by
    simpa [isSingleLine] using h
  exact ⟨fun hfeed => hnone _ hfeed (.inl rfl), fun hreturn => hnone _ hreturn (.inr rfl)⟩

/-- A turn in a new session is owed a reply. -/
theorem needsResponse_userLine (h : isSingleLine message = true) :
    needsResponse (userLine message) = true := by
  obtain ⟨hfeed, hreturn⟩ := isSingle_of_isSingleLine h
  have howed : needsResponse ("" ++ userLine message) = true :=
    needsResponse_append_userLine Text.isWholeLines_nil hfeed hreturn
  rwa [String.empty_append] at howed

theorem onFiles_eq_ok {α : Type} {result : Except FileError α} {value : α} :
    onFiles result = .ok value ↔ result = .ok value := mapError_eq_ok

/-- A turn is written exactly if it is on one line and its file can be written and looked at. -/
theorem appendTurn_eq_ok : session.appendTurn fs message = .ok (after, size) ↔
    isSingleLine message = true ∧
      fs.appendOrCreate session.path (Utf8.encode (userLine message)) = .ok after ∧
        ∃ seen, after.metadata session.path = .ok seen ∧ seen.size = size := by
  unfold appendTurn
  cases hsingle : isSingleLine message with
  | false => simp [bind_eq_ok]
  | true =>
      simp only [Bool.not_true, Bool.false_eq_true, if_false, bind_eq_ok, onFiles_eq_ok,
        pure_eq_ok, Prod.mk.injEq, true_and]
      constructor
      · rintro ⟨written, hdone, seen, hseen, rfl, rfl⟩
        exact ⟨hdone, seen, hseen, rfl⟩
      · rintro ⟨hdone, seen, hseen, rfl⟩
        exact ⟨after, hdone, seen, hseen, rfl, rfl⟩

/-- A turn that could be written is on one line, and it was added to the session. -/
theorem of_appendTurn_eq_ok (hfs : fs.Holds directory place) (hid : IsSessionName id)
    (hpath : session.path = Path.join directory id)
    (h : session.appendTurn fs message = .ok (after, size)) :
    (Posting.turn message).IsSingle ∧
      Grows (place ++ [id]) (Utf8.encode (userLine message)) fs after := by
  obtain ⟨hsingle, hdone, -⟩ := appendTurn_eq_ok.mp h
  rw [hpath] at hdone
  exact ⟨isSingle_of_isSingleLine hsingle, hfs.grows_of_appendOrCreate hid.isName hdone⟩

/-- A turn that could be written is in a file that is there, and the length is that of the file
with it. -/
theorem length_of_appendTurn_eq_ok (hfs : fs.Holds directory place) (hid : IsSessionName id)
    (hpath : session.path = Path.join directory id)
    (h : session.appendTurn fs message = .ok (after, size)) :
    nameError? directory id = none ∧ size = (after.bytesAt (place ++ [id])).length := by
  obtain ⟨-, hdone, seen, hseen, rfl⟩ := appendTurn_eq_ok.mp h
  rw [hpath] at hdone hseen
  obtain ⟨herror, -⟩ := (hfs.openOrCreate_join hid.isName).mp hdone
  have hgrows := hfs.grows_of_appendOrCreate hid.isName hdone
  obtain ⟨executable, hentry⟩ := hgrows.get?_eq
  rw [(hgrows.holds hfs).metadata_join hid.isName herror hentry] at hseen
  obtain rfl := Except.ok.inj hseen
  rw [bytesAt_of_file hentry]
  exact ⟨herror, rfl⟩

/-- A turn can be written to a session that is there. -/
theorem exists_appendTurn {text : String} (h : Finds directory place id fs text)
    (hpath : session.path = Path.join directory id) (hmessage : isSingleLine message = true) :
    ∃ after size, session.appendTurn fs message = .ok (after, size) := by
  have hname := h.session.isName
  obtain ⟨herror, bytes, executable, hentry, -⟩ := (h.holds.readText_join hname).mp h.read
  obtain ⟨after, hdone⟩ : ∃ after,
      fs.appendOrCreate (Path.join directory id) (Utf8.encode (userLine message)) = .ok after :=
    ⟨_, (h.holds.openOrCreate_join hname).mpr
      ⟨herror, .inr ⟨bytes, executable, hentry, rfl⟩⟩⟩
  have hgrows := h.holds.grows_of_appendOrCreate hname hdone
  obtain ⟨executable', hnow⟩ := hgrows.get?_eq
  have hmeta := (hgrows.holds h.holds).metadata_join hname herror hnow
  rw [← hpath] at hdone hmeta
  exact ⟨after, _, appendTurn_eq_ok.mpr ⟨hmessage, hdone, _, hmeta, rfl⟩⟩

/-- What a client reads of a session is its text. -/
theorem readResponse_eq {text : String} (h : Finds directory place id fs text)
    (hpath : session.path = Path.join directory id) :
    session.readResponse fs = .ok ⟨session.id, text⟩ := by
  rw [readResponse, read, hpath, h.read]
  rfl

end Session

/-- A client of the one session of a small tree. -/
def caller : Session :=
  ⟨"a", Path.join "/s" "a", FileChat.Session.sentinelPath "/s" "a", .standard⟩

theorem at?_caller : Session.at? caller.id "/s" .standard = .ok caller := by
  have hvalid : FileChat.Session.isValidId "a" = true := by decide
  unfold Session.at?
  exact if_pos hvalid

end FileChat.Client
