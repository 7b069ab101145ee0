/-
# The sentinels of a directory

The sentinels of a directory can be told from the tree whatever else others do there, as long as
they leave the directory where it is and do not use names of this kind. Only an id without a slash
ever has one: with a slash in it the name would lead through the sentinel of another session,
which is no directory.
-/

import FileChat.Proofs.Session.Store

namespace FileChat.Session

open FileSystem

variable {fs after : FileSystem} {directory : Path} {place : Location} {id : String}

/-- The path of a sentinel has the mark in it, and is otherwise that of the session. -/
theorem exists_sentinelPath_eq (hstep : Path.IsStep id) (directory : Path) :
    ∃ before, Path.join directory id = before ++ id ∧
      sentinelPath directory id = before ++ sentinelName id := by
  have hsentinel := (isName_sentinelName hstep.noSlash).isAbsolute
  rw [sentinelPath, Path.join, Path.join, hstep.isAbsolute, hsentinel]
  by_cases hslash : (directory.isEmpty || Path.hasFinalSlash directory) = true
  · exact ⟨directory, by simp [hslash], by simp [hslash]⟩
  · exact ⟨directory ++ "/", by simp [hslash], by simp [hslash]⟩

theorem utf8ByteSize_sentinelName (id : String) :
    (sentinelName id).utf8ByteSize = sentinelMark.utf8ByteSize + id.utf8ByteSize := by
  rw [sentinelName, String.utf8ByteSize_append]

/-- There is room for a sentinel beside a session: neither its name nor its path is too long. -/
def HasRoom (directory : Path) (id : String) : Prop :=
  sentinelMark.utf8ByteSize + id.utf8ByteSize ≤ maxNameBytes ∧
    (sentinelPath directory id).utf8ByteSize ≤ maxPathBytes

instance (directory : Path) (id : String) : Decidable (HasRoom directory id) :=
  inferInstanceAs (Decidable (_ ∧ _))

/-- The path of a session can be followed if that of its sentinel can, for it is shorter. -/
theorem nameError?_of_sentinelName (hstep : Path.IsStep id)
    (h : nameError? directory (sentinelName id) = none) : nameError? directory id = none := by
  obtain ⟨before, hid, hsentinel⟩ := exists_sentinelPath_eq hstep directory
  rw [nameError?_eq_none_iff, ← sentinelPath, hsentinel, utf8ByteSize_sentinelName,
    String.utf8ByteSize_append, utf8ByteSize_sentinelName] at h
  rw [nameError?_eq_none_iff, hid, String.utf8ByteSize_append]
  obtain ⟨hnul, hpath, hname⟩ := h
  exact ⟨by simpa [sentinelName, sentinelMark] using hnul, by omega, by omega⟩

/-- If the path of a session can be followed, that of its sentinel can be if it is not too long. -/
theorem nameError?_sentinelName (hstep : Path.IsStep id) (h : nameError? directory id = none) :
    nameError? directory (sentinelName id) =
      if HasRoom directory id then none else some .nameTooLong := by
  obtain ⟨before, hid, hsentinel⟩ := exists_sentinelPath_eq hstep directory
  obtain ⟨hnul, -, -⟩ := nameError?_eq_none_iff.mp h
  have hplain : (sentinelPath directory id).toList.contains '\x00' = false := by
    rw [hid] at hnul
    rw [hsentinel]
    simpa [sentinelName, sentinelMark] using hnul
  have hlong : Path.join directory (sentinelName id) = sentinelPath directory id := rfl
  rw [nameError?, hlong, hplain, if_neg Bool.false_ne_true, utf8ByteSize_sentinelName]
  split
  · next hpath => rw [if_neg fun hroom => Nat.not_lt.mpr hroom.2 hpath]
  · next hpath =>
      split
      · next hname => rw [if_neg fun hroom => Nat.not_lt.mpr hroom.1 hname]
      · next hname => rw [if_pos ⟨Nat.le_of_not_lt hname, Nat.le_of_not_lt hpath⟩]

/-- Whether the sentinel of a session that has none can be made is decided by its length. -/
theorem createSentinel_eq (h : fs.Holds directory place) (hstep : Path.IsStep id)
    (herror : nameError? directory id = none)
    (hfree : fs.get? (place ++ [sentinelName id]) = none) :
    createSentinel fs directory id =
      if HasRoom directory id then .ok (fs.put (place ++ [sentinelName id]) (.file [] false))
      else .error ⟨.createSentinel, sentinelPath directory id, .nameTooLong⟩ := by
  have hfollow := h.opens.follow_create_join (isName_sentinelName hstep.noSlash) (h.noLink _)
  rw [child, nameError?_sentinelName hstep herror, hfree, ← sentinelPath] at hfollow
  rw [createSentinel, write, openOrCreate]
  split
  · next hroom =>
      rw [if_pos hroom] at hfollow
      rw [hfollow]
      rfl
  · next hroom =>
      rw [if_neg hroom] at hfollow
      rw [hfollow]
      rfl

/-- What a path leads to is the directory at a location, and only files have the names of
sentinels there. -/
structure HoldsSentinels (directory : Path) (place : Location) (fs : FileSystem) : Prop where
  opens : fs.Opens directory place
  isFile {id : String} {entry : Entry} : fs.get? (place ++ [sentinelName id]) = some entry →
    ∃ bytes executable, entry = .file bytes executable

/-- The directory stays where it is, and nothing is done to the names of sentinels in it. -/
structure SparesSentinels (directory : Path) (place : Location) (fs after : FileSystem) : Prop where
  opens : fs.Opens directory place → after.Opens directory place
  get?_eq (id : String) :
    after.get? (place ++ [sentinelName id]) = fs.get? (place ++ [sentinelName id])

theorem SparesSentinels.refl (fs : FileSystem) : SparesSentinels directory place fs fs :=
  ⟨fun h => h, fun _ => rfl⟩

namespace HoldsSentinels

theorem noLink (h : HoldsSentinels directory place fs) (id : String) (target : Path) :
    fs.get? (place ++ [sentinelName id]) ≠ some (.link target) := by
  intro hlink
  obtain ⟨bytes, executable, hfile⟩ := h.isFile hlink
  cases hfile

theorem of_spares (h : HoldsSentinels directory place fs)
    (hspares : SparesSentinels directory place fs after) :
    HoldsSentinels directory place after where
  opens := hspares.opens h.opens
  isFile hentry := h.isFile (hspares.get?_eq _ ▸ hentry)

/-- A change of one file leaves only files behind. -/
theorem of_differsAt (h : HoldsSentinels directory place fs) {spot : Location}
    (hdiff : DiffersAt spot fs after) : HoldsSentinels directory place after where
  opens := h.opens.of_keeps hdiff.keeps
  isFile {id entry} hentry := by
    by_cases hspot : place ++ [sentinelName id] = spot
    · exact hdiff.isFile (hspot ▸ hentry)
    · rw [hdiff.get?_of_ne hspot] at hentry
      exact h.isFile hentry

/-- With a slash in the id the name of the sentinel leads nowhere. -/
theorem exists_error_of_slash (h : HoldsSentinels directory place fs) (hslash : '/' ∈ id.toList)
    (aim : Aim) :
    ∃ cause, fs.follow aim (sentinelPath directory id)
      (Path.steps (sentinelPath directory id)) = .error cause := by
  obtain ⟨first, rest, hid, hfirst⟩ := List.eq_append_cons_of_mem hslash
  have hname : sentinelName id =
      sentinelName (String.ofList first) ++ "/" ++ String.ofList rest := by
    rw [← String.toList_inj]
    simp [sentinelName, hid]
  rw [sentinelPath, hname]
  exact h.opens.exists_error_of_slash (isName_sentinelName (by simpa using hfirst))
    (fun _ hentry => h.isFile hentry) aim _

/-- A sentinel is there exactly if its name can be had and is taken. -/
theorem pathExists_sentinelPath (h : HoldsSentinels directory place fs) (id : String) :
    fs.pathExists (sentinelPath directory id) = true ↔
      '/' ∉ id.toList ∧ nameError? directory (sentinelName id) = none ∧
        fs.get? (place ++ [sentinelName id]) ≠ none := by
  by_cases hslash : '/' ∈ id.toList
  · obtain ⟨cause, hcause⟩ := h.exists_error_of_slash hslash .reach
    have hresolve : fs.resolve (sentinelPath directory id) = .error cause := hcause
    simp [pathExists, metadata, hresolve, hslash, bind, Except.bind, Except.isOk, Except.toBool]
  · rw [sentinelPath, h.opens.pathExists_join (isName_sentinelName hslash) (h.noLink id)]
    simp [hslash]

/-- A sentinel that could be created is a file under a name that can be had. -/
theorem of_createSentinel (h : HoldsSentinels directory place fs)
    (hdone : createSentinel fs directory id = .ok after) :
    '/' ∉ id.toList ∧ nameError? directory (sentinelName id) = none ∧
      DiffersAt (place ++ [sentinelName id]) fs after ∧
      after.get? (place ++ [sentinelName id]) ≠ none := by
  rw [createSentinel, during_eq_ok, write] at hdone
  by_cases hslash : '/' ∈ id.toList
  · obtain ⟨cause, hcause⟩ := h.exists_error_of_slash hslash .create
    rw [openOrCreate, hcause] at hdone
    cases hdone
  · rw [sentinelPath, h.opens.openOrCreate_join (isName_sentinelName hslash) (h.noLink id)]
      at hdone
    obtain ⟨herror, ⟨hfree, rfl⟩ | ⟨bytes, executable, hfile, rfl⟩⟩ := hdone
    · refine ⟨hslash, herror, .put (by simp) (fun _ hentry => h.isFile hentry) _ _, ?_⟩
      simp [get?_put_self fs]
    · refine ⟨hslash, herror, .put (by simp) (fun _ hentry => h.isFile hentry) _ _, ?_⟩
      simp [get?_put_self fs]

/-- A sentinel that is there can be removed. -/
theorem removeSentinel_eq (h : HoldsSentinels directory place fs)
    (hthere : fs.pathExists (sentinelPath directory id) = true) :
    ∃ after, removeSentinel fs directory id = .ok after ∧
      DiffersAt (place ++ [sentinelName id]) fs after ∧
      after.get? (place ++ [sentinelName id]) = none := by
  obtain ⟨hslash, herror, hentry⟩ := (h.pathExists_sentinelPath id).mp hthere
  obtain ⟨entry, hentry⟩ := Option.ne_none_iff_exists'.mp hentry
  obtain ⟨bytes, executable, rfl⟩ := h.isFile hentry
  have hremove := (h.opens.remove_join (isName_sentinelName hslash) (h.noLink id)).mpr
    ⟨herror, bytes, executable, hentry, rfl⟩
  exact ⟨_, removeSentinel_eq_ok.mpr (.inl hremove), .erase (by simp) hentry,
    by simp [get?_erase fs]⟩

/-- Appending to a file, whatever it is called, neither makes a sentinel nor takes one away. -/
theorem of_append (h : HoldsSentinels directory place fs) {path : Path} {text : String}
    (hdone : append fs path text = .ok after) :
    HoldsSentinels directory place after ∧ ∀ id,
      after.get? (place ++ [sentinelName id]) = none ↔
        fs.get? (place ++ [sentinelName id]) = none := by
  obtain ⟨spot, bytes, executable, -, hfile, hgrows⟩ :=
    exists_grows_of_append (during_eq_ok.mp hdone)
  refine ⟨h.of_differsAt hgrows.toDiffersAt, fun id => ?_⟩
  by_cases hspot : place ++ [sentinelName id] = spot
  · obtain ⟨executable', hnow⟩ := hgrows.get?_eq
    rw [hspot, hnow, hfile]
    simp
  · rw [hgrows.get?_of_ne hspot]

end HoldsSentinels

end FileChat.Session
