/-
# Sessions and sentinels in a directory

A session and its sentinel are two entries of the sessions directory that never coincide: one
name is visible and the other is not. Each store step is told here as a change of one of the
two.
-/

import FileChat.Proofs.Files.Operations
import FileChat.Proofs.Text.Utf8
import FileChat.Session.Store

namespace FileChat.Session

open FileSystem

/-- A name that the daemon takes for a session's. -/
structure IsSessionName (id : String) : Prop where
  visible : isHiddenName id = false
  noSlash : '/' ∉ id.toList

variable {id other : String}

/-- What a client accepts as an id is a session's name. -/
theorem isSessionName_of_isValidId (h : isValidId id = true) : IsSessionName id := by
  obtain ⟨hvisible, hplain⟩ := Bool.and_eq_true_iff.mp h
  refine ⟨by simpa using hvisible, fun hslash => ?_⟩
  have hany : id.toList.any (fun c => c = '/' || c = '\\') = false := by simpa using hplain
  have hnone := List.any_eq_false.mp hany '/' hslash
  simp at hnone

theorem IsSessionName.head?_ne (h : IsSessionName id) : id.toList.head? ≠ some '.' := fun hdot => by
  have := h.visible
  simp [isHiddenName, hdot] at this

theorem IsSessionName.isName (h : IsSessionName id) : Path.IsName id where
  ne_empty hempty := by simpa [isHiddenName, hempty] using h.visible
  ne_dot hdot := h.head?_ne (by simp [hdot])
  ne_dots hdots := h.head?_ne (by simp [hdots])
  noSlash := h.noSlash

/-- The name of a sentinel is one that an entry can have. -/
theorem isName_sentinelName (hslash : '/' ∉ id.toList) : Path.IsName (sentinelName id) where
  ne_empty h := by simpa [sentinelName, sentinelMark] using congrArg String.toList h
  ne_dot h := by simpa [sentinelName, sentinelMark] using congrArg String.toList h
  ne_dots h := by simpa [sentinelName, sentinelMark] using congrArg String.toList h
  noSlash := by simpa [sentinelName, sentinelMark] using hslash

/-- An id has no slash that the name of its sentinel has not. -/
theorem noSlash_of_sentinelName (hslash : '/' ∉ (sentinelName id).toList) : '/' ∉ id.toList := by
  rw [sentinelName, String.toList_append] at hslash
  exact fun hmem => hslash (List.mem_append_right _ hmem)

/-- No name is that of its own sentinel. -/
theorem ne_sentinelName (id : String) : id ≠ sentinelName id := fun h => by
  have hlength := congrArg (fun name => name.toList.length) h
  have hmark : (sentinelName id).toList.length = sentinelMark.toList.length + id.toList.length := by
    rw [sentinelName, String.toList_append, List.length_append]
  have hpos : 0 < sentinelMark.toList.length := by decide
  omega

/-- No session has the name of a sentinel. -/
theorem IsSessionName.ne_sentinelName (h : IsSessionName id) (other : String) :
    id ≠ sentinelName other := by
  rintro rfl
  simpa [isHiddenName_sentinelName] using h.visible

theorem spot_ne_sentinel (place : Location) (h : IsSessionName id) (other : String) :
    place ++ [id] ≠ place ++ [sentinelName other] := fun heq =>
  h.ne_sentinelName other (by simpa using heq)

theorem during_eq_ok {α : Type} {step : Step} {path : Path} {result : Except FileError α}
    {value : α} : during step path result = .ok value ↔ result = .ok value := mapError_eq_ok

section Directory

variable {fs after : FileSystem} {directory : Path} {place : Location}

/-- A turn is appended exactly if the session is there. -/
theorem append_eq_ok (h : fs.Holds directory place) (hid : Path.IsName id) {text : String} :
    append fs (Path.join directory id) text = .ok after ↔
      nameError? directory id = none ∧
        ∃ bytes executable, fs.get? (place ++ [id]) = some (.file bytes executable) ∧
          after = fs.put (place ++ [id]) (.file (bytes ++ Utf8.encode text) executable) := by
  rw [append, during_eq_ok]
  exact h.append_join hid

/-- A session of an open directory holds a text. -/
structure Finds (directory : Path) (place : Location) (id : String) (fs : FileSystem)
    (text : String) : Prop where
  holds : fs.Holds directory place
  session : IsSessionName id
  read : fs.readText (Path.join directory id) = .ok text

namespace Finds

variable {text : String}

/-- The text stays what it is while something happens elsewhere in the directory. -/
theorem of_differsAt (h : Finds directory place id fs text) {name : String} (hne : id ≠ name)
    (hdiff : DiffersAt (place ++ [name]) fs after) : Finds directory place id after text := by
  have hholds := hdiff.holds h.holds
  obtain ⟨herror, bytes, executable, hentry, hdecode⟩ :=
    (h.holds.readText_join h.session.isName).mp h.read
  refine ⟨hholds, h.session, (hholds.readText_join h.session.isName).mpr ?_⟩
  rw [← hdiff.get?_of_ne (by simpa using hne)] at hentry
  exact ⟨herror, bytes, executable, hentry, hdecode⟩

/-- What was added to the text is read behind it. -/
theorem of_grows (h : Finds directory place id fs text) {line : String}
    (hgrows : Grows (place ++ [id]) (Utf8.encode line) fs after) :
    Finds directory place id after (text ++ line) := by
  have hholds := hgrows.holds h.holds
  obtain ⟨herror, bytes, executable, hentry, hdecode⟩ :=
    (h.holds.readText_join h.session.isName).mp h.read
  obtain ⟨executable', hafter⟩ := hgrows.get?_eq
  rw [bytesAt_of_file hentry] at hafter
  refine ⟨hholds, h.session, (hholds.readText_join h.session.isName).mpr
    ⟨herror, _, executable', hafter, ?_⟩⟩
  have hcomplete : (Utf8.Reader.read bytes).current = none := by
    rw [Utf8.decode_eq_some_iff.mp hdecode]
  rw [Utf8.decode_append_encode hcomplete, hdecode, Option.map_some]

/-- A session that is there can be opened for appending, which changes nothing in it. -/
theorem exists_opened (h : Finds directory place id fs text) :
    ∃ after, fs.appendOrCreate (Path.join directory id) [] = .ok after ∧
      Finds directory place id after text := by
  have hname := h.session.isName
  obtain ⟨herror, bytes, executable, hentry, -⟩ := (h.holds.readText_join hname).mp h.read
  obtain ⟨after, hopen⟩ : ∃ after,
      fs.appendOrCreate (Path.join directory id) (Utf8.encode "") = .ok after :=
    ⟨_, (h.holds.openOrCreate_join hname).mpr ⟨herror, .inr ⟨bytes, executable, hentry, rfl⟩⟩⟩
  have hafter := h.of_grows (h.holds.grows_of_appendOrCreate hname hopen)
  rw [String.append_empty] at hafter
  exact ⟨after, hopen, hafter⟩

/-- What is appended to a session that is there is read behind its text. -/
theorem exists_appended (h : Finds directory place id fs text) (line : String) :
    ∃ after, fs.append (Path.join directory id) (Utf8.encode line) = .ok after ∧
      Finds directory place id after (text ++ line) := by
  have hname := h.session.isName
  obtain ⟨herror, bytes, executable, hentry, -⟩ := (h.holds.readText_join hname).mp h.read
  obtain ⟨after, hdone⟩ : ∃ after,
      fs.append (Path.join directory id) (Utf8.encode line) = .ok after :=
    ⟨_, (h.holds.append_join hname).mpr ⟨herror, bytes, executable, hentry, rfl⟩⟩
  exact ⟨after, hdone, h.of_grows (h.holds.grows_of_append hname hdone)⟩

/-- A session that can be read has a text for its name. -/
theorem isText (h : Finds directory place id fs text) : Path.IsText id :=
  isText_of_nameError? ((h.holds.readText_join h.session.isName).mp h.read).1

/-- The one session of a small tree. -/
theorem withFile (hid : IsSessionName id) (herror : nameError? "/s" id = none) (text : String) :
    Finds "/s" ["s"] id (withFile id (Utf8.encode text)) text := by
  have hholds := holds_withFile id (Utf8.encode text)
  refine ⟨hholds, hid, (hholds.readText_join hid.isName).mpr ?_⟩
  refine ⟨herror, Utf8.encode text, false, ?_, Utf8.decode_encode text⟩
  rw [get?_withFile, if_pos rfl]

end Finds

/-- A sentinel that was created is an empty file. -/
theorem createSentinel_eq_ok (h : fs.Holds directory place) (hslash : '/' ∉ id.toList) :
    createSentinel fs directory id = .ok after ↔
      nameError? directory (sentinelName id) = none ∧
        ((fs.get? (place ++ [sentinelName id]) = none ∧
            after = fs.put (place ++ [sentinelName id]) (.file [] false)) ∨
          ∃ bytes executable,
            fs.get? (place ++ [sentinelName id]) = some (.file bytes executable) ∧
              after = fs.put (place ++ [sentinelName id]) (.file [] executable)) := by
  rw [createSentinel, during_eq_ok, write, sentinelPath]
  exact h.openOrCreate_join (isName_sentinelName hslash)

/-- Creating a sentinel touches nothing else. -/
theorem differsAt_of_createSentinel (h : fs.Holds directory place) (hslash : '/' ∉ id.toList)
    (hdone : createSentinel fs directory id = .ok after) :
    DiffersAt (place ++ [sentinelName id]) fs after := by
  obtain ⟨-, ⟨hfree, rfl⟩ | ⟨bytes, executable, hfile, rfl⟩⟩ :=
    (createSentinel_eq_ok h hslash).mp hdone
  · exact .put (by simp) (fun entry hentry => by simp [hfree] at hentry) _ _
  · refine .put (by simp) (fun entry hentry => ?_) _ _
    exact ⟨bytes, executable, Option.some.inj (hentry.symm.trans hfile)⟩

/-- A sentinel that was created is there. -/
theorem get?_of_createSentinel (h : fs.Holds directory place) (hslash : '/' ∉ id.toList)
    (hdone : createSentinel fs directory id = .ok after) :
    nameError? directory (sentinelName id) = none ∧
      ∃ executable, after.get? (place ++ [sentinelName id]) = some (.file [] executable) := by
  obtain ⟨herror, ⟨-, rfl⟩ | ⟨bytes, executable, -, rfl⟩⟩ :=
    (createSentinel_eq_ok h hslash).mp hdone
  · exact ⟨herror, false, get?_put_self fs (by simp) _⟩
  · exact ⟨herror, executable, get?_put_self fs (by simp) _⟩

/-- A sentinel was removed, or there was nothing to remove. -/
theorem removeSentinel_eq_ok : removeSentinel fs directory id = .ok after ↔
    fs.remove (sentinelPath directory id) = .ok after ∨
      fs.remove (sentinelPath directory id) = .error .notFound ∧ after = fs := by
  unfold removeSentinel
  dsimp only
  cases hremove : fs.remove (sentinelPath directory id) with
  | error cause =>
      cases cause with
      | notFound => simp [eq_comm]
      | _ => simp [during, Except.mapError]
  | ok cleared => simp [during_eq_ok]

/-- Removing a sentinel takes its file away, or there was none. -/
theorem of_removeSentinel (h : fs.Holds directory place) (hslash : '/' ∉ id.toList)
    (hdone : removeSentinel fs directory id = .ok after) :
    after = fs ∨ ∃ bytes executable,
      fs.get? (place ++ [sentinelName id]) = some (.file bytes executable) ∧
        after = fs.erase (place ++ [sentinelName id]) := by
  rcases removeSentinel_eq_ok.mp hdone with hremove | ⟨-, rfl⟩
  · exact .inr ((h.remove_join (isName_sentinelName hslash)).mp hremove).2
  · exact .inl rfl

/-- A sentinel that is there can be removed. -/
theorem removeSentinel_of_file (h : fs.Holds directory place) (hslash : '/' ∉ id.toList)
    (herror : nameError? directory (sentinelName id) = none) {bytes : Bytes} {executable : Bool}
    (hfile : fs.get? (place ++ [sentinelName id]) = some (.file bytes executable)) :
    removeSentinel fs directory id = .ok (fs.erase (place ++ [sentinelName id])) := by
  exact removeSentinel_eq_ok.mpr (.inl ((h.remove_join (isName_sentinelName hslash)).mpr
    ⟨herror, bytes, executable, hfile, rfl⟩))

end Directory

end FileChat.Session
