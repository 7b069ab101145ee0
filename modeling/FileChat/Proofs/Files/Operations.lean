/-
# Operations on the entries of a directory

What an operation does to an entry of an open directory, and when it can be done. Nothing else
in the tree is touched by any of them, and none makes a link, so a directory without links
stays open and stays without links.
-/

import FileChat.Proofs.Files.Directory
import FileChat.Proofs.Steps

namespace FileChat

namespace FileSystem

/-- The directory that a path leads to has no links in it: each name there stands for an entry
of its own. -/
structure Holds (fs : FileSystem) (directory : Path) (place : Location) : Prop where
  opens : fs.Opens directory place
  noLink (name : String) (target : Path) : fs.get? (place ++ [name]) ≠ some (.link target)

/-- The two trees differ at most in the file, or the free name, at one location. -/
structure DiffersAt (spot : Location) (fs after : FileSystem) : Prop where
  workingDirectory_eq : after.workingDirectory = fs.workingDirectory
  get?_of_ne {other : Location} : other ≠ spot → after.get? other = fs.get? other
  wasFile {entry : Entry} :
    fs.get? spot = some entry → ∃ bytes executable, entry = .file bytes executable
  isFile {entry : Entry} :
    after.get? spot = some entry → ∃ bytes executable, entry = .file bytes executable

namespace DiffersAt

variable {fs after : FileSystem} {spot place : Location} {directory : Path}

/-- A file is written over a file or under a free name. -/
theorem put (hroot : spot ≠ [])
    (hold : ∀ entry, fs.get? spot = some entry → ∃ bytes executable, entry = .file bytes executable)
    (bytes : Bytes) (executable : Bool) :
    DiffersAt spot fs (fs.put spot (.file bytes executable)) where
  workingDirectory_eq := workingDirectory_put _ _ _
  get?_of_ne hne := get?_put_of_ne fs hroot _ hne
  wasFile := hold _
  isFile h := by
    rw [get?_put_self fs hroot] at h
    exact ⟨bytes, executable, (Option.some.inj h).symm⟩

/-- A file is taken away. -/
theorem erase (hroot : spot ≠ []) {bytes : Bytes} {executable : Bool}
    (hold : fs.get? spot = some (.file bytes executable)) : DiffersAt spot fs (fs.erase spot) where
  workingDirectory_eq := rfl
  get?_of_ne hne := by rw [get?_erase fs hroot, if_neg hne]
  wasFile h := ⟨bytes, executable, Option.some.inj (h.symm.trans hold)⟩
  isFile h := by simp [get?_erase fs hroot] at h

theorem keeps (h : DiffersAt spot fs after) : Keeps fs after where
  workingDirectory_eq := h.workingDirectory_eq
  directory {other} hentry := by
    have hne : other ≠ spot := by
      rintro rfl
      obtain ⟨bytes, executable, hfile⟩ := h.wasFile hentry
      cases hfile
    rwa [h.get?_of_ne hne]
  link {other target} hentry := by
    have hne : other ≠ spot := by
      rintro rfl
      obtain ⟨bytes, executable, hfile⟩ := h.wasFile hentry
      cases hfile
    rwa [h.get?_of_ne hne]

/-- A directory without links stays one. -/
theorem holds (h : DiffersAt spot fs after) (hholds : fs.Holds directory place) :
    after.Holds directory place where
  opens := hholds.opens.of_keeps h.keeps
  noLink name target hentry := by
    by_cases hspot : place ++ [name] = spot
    · obtain ⟨bytes, executable, hfile⟩ := h.isFile (hspot ▸ hentry)
      cases hfile
    · rw [h.get?_of_ne hspot] at hentry
      exact hholds.noLink name target hentry

end DiffersAt

/-- The two trees differ in what was added to the file at one location. -/
structure Grows (spot : Location) (added : Bytes) (fs after : FileSystem) : Prop
    extends DiffersAt spot fs after where
  get?_eq : ∃ executable, after.get? spot = some (.file (fs.bytesAt spot ++ added) executable)

namespace Grows

variable {fs after : FileSystem} {spot : Location} {added : Bytes}

/-- A file grows where it is. -/
theorem put (hroot : spot ≠ []) {bytes : Bytes} {executable : Bool}
    (hfile : fs.get? spot = some (.file bytes executable)) :
    Grows spot added fs (fs.put spot (.file (bytes ++ added) executable)) where
  toDiffersAt := .put hroot
    (fun _ hentry => ⟨bytes, executable, Option.some.inj (hentry.symm.trans hfile)⟩) _ _
  get?_eq := by
    rw [bytesAt_of_file hfile]
    exact ⟨executable, get?_put_self fs hroot _⟩

/-- A new file grows from nothing. -/
theorem put_new (hroot : spot ≠ []) (hfree : fs.get? spot = none) (executable : Bool) :
    Grows spot added fs (fs.put spot (.file added executable)) where
  toDiffersAt := .put hroot (fun _ hentry => by simp [hfree] at hentry) _ _
  get?_eq := by
    rw [bytesAt, hfree]
    exact ⟨executable, get?_put_self fs hroot _⟩

theorem bytesAt_eq (h : Grows spot added fs after) :
    after.bytesAt spot = fs.bytesAt spot ++ added := by
  obtain ⟨executable, hfile⟩ := h.get?_eq
  exact bytesAt_of_file hfile

end Grows

section Child

variable {fs : FileSystem} {directory : Path} {place : Location} {name : String}

theorem child_eq_found_iff {found : Location} {entry : Entry} :
    fs.child directory place name = .ok (.found found entry) ↔
      nameError? directory name = none ∧ found = place ++ [name] ∧
        fs.get? (place ++ [name]) = some entry := by
  rw [child]
  split
  · next h => simp [h]
  · next h =>
      split
      · next hentry => simp [h, hentry]
      · next known hentry =>
          simp only [h, hentry, Except.ok.injEq, Place.found.injEq, true_and, Option.some.injEq]
          exact and_congr_left' eq_comm

theorem child_eq_vacant_iff {found : Location} {free : String} :
    fs.child directory place name = .ok (.vacant found free) ↔
      nameError? directory name = none ∧ found = place ∧ free = name ∧
        fs.get? (place ++ [name]) = none := by
  rw [child]
  split
  · next h => simp [h]
  · next h =>
      split
      · next hentry =>
          simp only [h, hentry, Except.ok.injEq, Place.vacant.injEq, true_and, and_true]
          exact and_congr eq_comm eq_comm
      · next known hentry => simp [h, hentry]

end Child

/-- A path leads to a regular file exactly if that file can be read. -/
theorem isRegularFile_iff {fs : FileSystem} {path : Path} :
    fs.isRegularFile path = true ↔ ∃ bytes, fs.readBytes path = .ok bytes := by
  rw [isRegularFile, metadata, readBytes]
  cases fs.resolve path with
  | error cause => simp [bind, Except.bind]
  | ok reached =>
      cases reached with
      | vacant found free => simp [bind, Except.bind, throw, throwThe, MonadExceptOf.throw]
      | found found entry =>
          cases entry <;>
            simp [bind, Except.bind, pure, Except.pure, throw, throwThe, MonadExceptOf.throw]

section Anywhere

/-! A file may be known by any path, also through links. -/

/-- What a walk reaches is at its location. A directory can be where the walk began. -/
theorem get?_of_walk {fs : FileSystem} {aim : Aim} {links : Nat} {here spot : Location}
    {steps : List String} {entry : Entry}
    (h : fs.walk aim links here steps = .ok (.found spot entry)) (hentry : entry ≠ .directory) :
    spot ≠ [] ∧ fs.get? spot = some entry := by
  fun_induction walk fs aim links here steps
  case case1 => exact absurd (Place.found.inj (Except.ok.inj h)).2.symm hentry
  case case2 ih => exact ih h
  case case3 ih => exact ih h
  case case8 ih => exact ih h
  case case9 place _ _ hthere _ | case11 place _ hthere _ =>
    obtain ⟨rfl, rfl⟩ := Place.found.inj (Except.ok.inj h)
    exact ⟨by simp [place], hthere⟩
  case case13 ih => exact ih h
  all_goals simp at h

/-- The location of an entry, or the one that a free name would have. -/
def Place.spot : Place → Location
  | .found place _ => place
  | .vacant directory name => directory ++ [name]

/-- A free name that a walk reaches is free. -/
theorem get?_of_walk_vacant {fs : FileSystem} {aim : Aim} {links : Nat} {here place : Location}
    {steps : List String} {name : String}
    (h : fs.walk aim links here steps = .ok (.vacant place name)) :
    fs.get? (place ++ [name]) = none := by
  fun_induction walk fs aim links here steps
  case case2 ih => exact ih h
  case case3 ih => exact ih h
  case case6 hentry _ =>
    obtain ⟨rfl, rfl⟩ := Place.vacant.inj (Except.ok.inj h)
    exact hentry
  case case8 ih => exact ih h
  case case13 ih => exact ih h
  all_goals simp at h

/-- A walk that ended at a file or at a free name comes to the file that is there now. -/
theorem DiffersAt.walk_eq {fs after : FileSystem} {reached : Place}
    (hdiff : DiffersAt reached.spot fs after) {changed : Bytes} {executable : Bool}
    (hnow : after.get? reached.spot = some (.file changed executable))
    (hdirectory : ∀ place, reached ≠ .found place .directory) {aim : Aim} {links : Nat}
    {here : Location} {steps : List String}
    (h : fs.walk aim links here steps = .ok reached) :
    after.walk aim links here steps = .ok (.found reached.spot (.file changed executable)) := by
  fun_induction walk fs aim links here steps
  case case1 links here => exact absurd (Except.ok.inj h).symm (hdirectory here)
  case case2 links here step later hstep ih =>
    rw [walk, if_pos hstep]
    exact ih h
  case case3 links here later hstep ih =>
    rw [walk, if_neg hstep, if_pos rfl]
    exact ih h
  case case6 links here step later hstep hdots hcreate hsize place hentry hlast =>
    obtain rfl := Except.ok.inj h
    rw [walk, if_neg hstep, if_neg hdots, if_neg hcreate, if_neg hsize]
    simp only [Place.spot] at hnow ⊢
    simp only [hnow]
    exact if_pos hlast
  case case8 links here step later hstep hdots hcreate hsize place hentry ih =>
    have hkept : after.get? place = some .directory := hdiff.keeps.directory hentry
    rw [walk, if_neg hstep, if_neg hdots, if_neg hcreate, if_neg hsize]
    simp only [place] at hkept
    simp only [hkept]
    exact ih h
  case case9 links here step later hstep hdots hcreate hsize place known runs hentry hlast =>
    obtain rfl := Except.ok.inj h
    rw [walk, if_neg hstep, if_neg hdots, if_neg hcreate, if_neg hsize]
    simp only [Place.spot, place] at hnow ⊢
    simp only [hnow]
    exact if_pos hlast
  case case11 links here step later hstep hdots hcreate hsize place target hentry hhold =>
    obtain rfl := Except.ok.inj h
    obtain ⟨bytes, runs, hfile⟩ := hdiff.wasFile hentry
    cases hfile
  case case13 here step later hstep hdots hcreate hsize place target hentry hhold left ih =>
    have hkept : after.get? place = some (.link target) := hdiff.keeps.link hentry
    rw [walk, if_neg hstep, if_neg hdots, if_neg hcreate, if_neg hsize]
    simp only [place] at hkept
    simp only [hkept]
    exact (if_neg hhold).trans (ih h)
  all_goals simp at h

/-- A path is followed by a walk unless something is wrong with the path itself. -/
theorem follow_eq_ok {fs : FileSystem} {aim : Aim} {path : Path} {steps : List String}
    {reached : Place} :
    fs.follow aim path steps = .ok reached ↔
      path.toList.contains '\x00' = false ∧ path.isEmpty = false ∧
        path.utf8ByteSize ≤ maxPathBytes ∧
        fs.walk aim maxLinks (if Path.isAbsolute path then [] else fs.workingDirectory) steps =
          .ok reached := by
  rw [follow]
  split
  · next hnul => exact ⟨fun h => (by cases h), fun h => (by rw [hnul] at h; cases h.1)⟩
  · next hnul =>
      rw [Bool.not_eq_true] at hnul
      split
      · next hempty => simp [hempty]
      · next hempty =>
          split
          · next hsize => simp [Nat.not_le_of_lt hsize]
          · next hsize => simp only [hnul, hempty, Nat.le_of_not_lt hsize, true_and]

/-- What is behind a directory in a path to a file is a text. -/
theorem isText_of_isRegularFile_join {fs : FileSystem} {directory : Path} {name : String}
    (hfile : fs.isRegularFile (Path.join directory name) = true) : Path.IsText name := by
  obtain ⟨bytes, hread⟩ := isRegularFile_iff.mp hfile
  rw [readBytes, bind_eq_ok] at hread
  obtain ⟨reached, hreached, -⟩ := hread
  exact Path.isText_of_join (by simpa using (follow_eq_ok.mp hreached).1)

/-- What is appended goes to the file that the path leads to. -/
theorem exists_grows_of_append {fs after : FileSystem} {path : Path} {added : Bytes}
    (h : fs.append path added = .ok after) :
    ∃ spot bytes executable, fs.resolve path = .ok (.found spot (.file bytes executable)) ∧
      fs.get? spot = some (.file bytes executable) ∧ Grows spot added fs after := by
  rw [append, bind_eq_ok] at h
  obtain ⟨reached, hreached, hdone⟩ := h
  split at hdone
  · next spot bytes executable =>
      obtain rfl := pure_eq_ok.mp hdone
      obtain ⟨hroot, hfile⟩ := get?_of_walk (follow_eq_ok.mp hreached).2.2.2 (by simp)
      exact ⟨spot, bytes, executable, hreached, hfile, .put hroot hfile⟩
  · simp at hdone
  · simp at hdone

/-- What was appended is read behind what was there. -/
theorem readBytes_of_append {fs after : FileSystem} {path : Path} {added : Bytes}
    (h : fs.append path added = .ok after) :
    ∃ bytes, fs.readBytes path = .ok bytes ∧ after.readBytes path = .ok (bytes ++ added) := by
  obtain ⟨spot, bytes, executable, hreached, hfile, hgrows⟩ := exists_grows_of_append h
  obtain ⟨executable', hnow⟩ := hgrows.get?_eq
  rw [bytesAt_of_file hfile] at hnow
  have hstill : after.resolve path = .ok (.found spot (.file (bytes ++ added) executable')) := by
    obtain ⟨hnul, hempty, hsize, hwalk⟩ := follow_eq_ok.mp hreached
    rw [resolve, follow_eq_ok, hgrows.workingDirectory_eq]
    have hdiff : DiffersAt (Place.found spot (.file bytes executable)).spot fs after :=
      hgrows.toDiffersAt
    exact ⟨hnul, hempty, hsize, hdiff.walk_eq hnow (by simp) hwalk⟩
  refine ⟨bytes, ?_, ?_⟩
  · rw [readBytes, hreached]
    rfl
  · rw [readBytes, hstill]
    rfl

/-- A file that can be read can be appended to. -/
theorem exists_append_of_readBytes {fs : FileSystem} {path : Path} {bytes : Bytes}
    (h : fs.readBytes path = .ok bytes) (added : Bytes) :
    ∃ after, fs.append path added = .ok after := by
  rw [readBytes, bind_eq_ok] at h
  obtain ⟨reached, hreached, hread⟩ := h
  rw [append, hreached]
  cases reached with
  | vacant found free => cases hread
  | found found entry =>
      cases entry with
      | file known executable => exact ⟨_, rfl⟩
      | directory | link target => cases hread

end Anywhere

namespace Opens

variable {fs after : FileSystem} {directory : Path} {place : Location} {name : String}

theorem list_eq (h : fs.Opens directory place) : fs.list directory = .ok (fs.names place) := by
  have hopens : fs.resolve directory = .ok (.found place .directory) := h
  rw [list, hopens]
  rfl

theorem isDirectory_eq (h : fs.Opens directory place) : fs.isDirectory directory = true := by
  have hopens : fs.resolve directory = .ok (.found place .directory) := h
  rw [isDirectory, metadata, hopens]
  rfl

theorem follow_create_join (h : fs.Opens directory place) (hname : Path.IsName name)
    (hlink : ∀ target, fs.get? (place ++ [name]) ≠ some (.link target)) :
    fs.follow .create (Path.join directory name) (Path.steps (Path.join directory name)) =
      fs.child directory place name := by
  rw [Path.steps_join hname.toIsStep h.ne_empty]
  exact h.follow_join hname .create (.inr hlink)

/-- Something is there under a name exactly if the name can be followed and has an entry. -/
theorem pathExists_join (h : fs.Opens directory place) (hname : Path.IsName name)
    (hlink : ∀ target, fs.get? (place ++ [name]) ≠ some (.link target)) :
    fs.pathExists (Path.join directory name) = true ↔
      nameError? directory name = none ∧ fs.get? (place ++ [name]) ≠ none := by
  rw [pathExists, metadata, h.resolve_join hname hlink, child]
  cases nameError? directory name with
  | some cause => simp [bind, Except.bind, Except.isOk, Except.toBool]
  | none =>
      cases fs.get? (place ++ [name]) with
      | none => simp [bind, Except.bind, Except.isOk, Except.toBool, throw, throwThe,
          MonadExceptOf.throw]
      | some entry =>
          cases entry <;> simp [bind, Except.bind, Except.isOk, Except.toBool, pure, Except.pure]

/-- Only a name that an entry can have leads to a file, for dots lead to directories. -/
theorem isName_of_isRegularFile (h : fs.Opens directory place) (hstep : Path.IsStep name)
    (hfile : fs.isRegularFile (Path.join directory name) = true) : Path.IsName name := by
  obtain ⟨bytes, hread⟩ := isRegularFile_iff.mp hfile
  rw [readBytes, bind_eq_ok] at hread
  obtain ⟨reached, hreached, hread⟩ := hread
  have hplain : ¬ (name = "." ∨ name = "..") := by
    intro hdots
    cases reached with
    | vacant found free => cases hread
    | found found entry =>
        rw [h.eq_directory_of_dots hdots hreached] at hread
        cases hread
  exact ⟨hstep, fun hdot => hplain (.inl hdot), fun hdots => hplain (.inr hdots)⟩

theorem openOrCreate_join (h : fs.Opens directory place) (hname : Path.IsName name)
    (hlink : ∀ target, fs.get? (place ++ [name]) ≠ some (.link target))
    {change : Bytes → Bytes} :
    fs.openOrCreate (Path.join directory name) change = .ok after ↔
      nameError? directory name = none ∧
        ((fs.get? (place ++ [name]) = none ∧
            after = fs.put (place ++ [name]) (.file (change []) false)) ∨
          ∃ bytes executable, fs.get? (place ++ [name]) = some (.file bytes executable) ∧
            after = fs.put (place ++ [name]) (.file (change bytes) executable)) := by
  rw [openOrCreate, bind_eq_ok, h.follow_create_join hname hlink]
  constructor
  · rintro ⟨reached, hreached, hdone⟩
    split at hdone
    · next found bytes executable =>
        obtain ⟨herror, rfl, hentry⟩ := child_eq_found_iff.mp hreached
        exact ⟨herror, .inr ⟨bytes, executable, hentry, (pure_eq_ok.mp hdone).symm⟩⟩
    · simp at hdone
    · next found free =>
        obtain ⟨herror, rfl, rfl, hentry⟩ := child_eq_vacant_iff.mp hreached
        exact ⟨herror, .inl ⟨hentry, (pure_eq_ok.mp hdone).symm⟩⟩
  · rintro ⟨herror, ⟨hentry, rfl⟩ | ⟨bytes, executable, hentry, rfl⟩⟩
    · exact ⟨_, child_eq_vacant_iff.mpr ⟨herror, rfl, rfl, hentry⟩, rfl⟩
    · exact ⟨_, child_eq_found_iff.mpr ⟨herror, rfl, hentry⟩, rfl⟩

theorem remove_join (h : fs.Opens directory place) (hname : Path.IsName name)
    (hlink : ∀ target, fs.get? (place ++ [name]) ≠ some (.link target)) :
    fs.remove (Path.join directory name) = .ok after ↔
      nameError? directory name = none ∧
        ∃ bytes executable, fs.get? (place ++ [name]) = some (.file bytes executable) ∧
          after = fs.erase (place ++ [name]) := by
  rw [remove, bind_eq_ok, h.resolveLast_join hname, Path.hasFinalSlash_join hname.toIsStep]
  constructor
  · rintro ⟨reached, hreached, hdone⟩
    split at hdone
    · simp at hdone
    · next found entry hnot =>
        obtain ⟨herror, rfl, hentry⟩ := child_eq_found_iff.mp hreached
        cases entry with
        | directory => exact absurd rfl hnot
        | link target => exact absurd hentry (hlink target)
        | file bytes executable =>
            exact ⟨herror, bytes, executable, hentry, (Except.ok.inj hdone).symm⟩
    · simp at hdone
  · rintro ⟨herror, bytes, executable, hentry, rfl⟩
    exact ⟨_, child_eq_found_iff.mpr ⟨herror, rfl, hentry⟩, rfl⟩

end Opens

namespace Holds

variable {fs after : FileSystem} {directory : Path} {place : Location} {name : String}

theorem list_eq (h : fs.Holds directory place) : fs.list directory = .ok (fs.names place) :=
  h.opens.list_eq

theorem locate?_eq (h : fs.Holds directory place) : fs.locate? directory = some place := by
  have hopens : fs.resolve directory = .ok (.found place .directory) := h.opens
  rw [locate?, hopens]

theorem resolve_join (h : fs.Holds directory place) (hname : Path.IsName name) :
    fs.resolve (Path.join directory name) = fs.child directory place name :=
  h.opens.resolve_join hname (h.noLink name)

/-- A file is read exactly if it is there under a name that can be followed. -/
theorem readBytes_join (h : fs.Holds directory place) (hname : Path.IsName name) {bytes : Bytes} :
    fs.readBytes (Path.join directory name) = .ok bytes ↔
      nameError? directory name = none ∧
        ∃ executable, fs.get? (place ++ [name]) = some (.file bytes executable) := by
  rw [readBytes, bind_eq_ok, h.resolve_join hname]
  constructor
  · rintro ⟨reached, hreached, hread⟩
    split at hread
    · next executable =>
        obtain ⟨herror, -, hentry⟩ := child_eq_found_iff.mp hreached
        obtain rfl := pure_eq_ok.mp hread
        exact ⟨herror, executable, hentry⟩
    · simp at hread
    · simp at hread
  · rintro ⟨herror, executable, hentry⟩
    exact ⟨_, child_eq_found_iff.mpr ⟨herror, rfl, hentry⟩, rfl⟩

/-- The text of a session is read exactly if its file is there and holds a text. -/
theorem readText_join (h : fs.Holds directory place) (hname : Path.IsName name) {text : String} :
    fs.readText (Path.join directory name) = .ok text ↔
      nameError? directory name = none ∧
        ∃ bytes executable, fs.get? (place ++ [name]) = some (.file bytes executable) ∧
          Utf8.decode bytes = some text := by
  rw [readText, bind_eq_ok]
  constructor
  · rintro ⟨bytes, hbytes, hread⟩
    obtain ⟨herror, executable, hentry⟩ := (h.readBytes_join hname).mp hbytes
    split at hread
    · next decoded hdecode =>
        obtain rfl := pure_eq_ok.mp hread
        exact ⟨herror, bytes, executable, hentry, hdecode⟩
    · simp at hread
  · rintro ⟨herror, bytes, executable, hentry, hdecode⟩
    refine ⟨bytes, (h.readBytes_join hname).mpr ⟨herror, executable, hentry⟩, ?_⟩
    rw [hdecode]
    rfl

/-- A file can be looked at under a name that can be followed. -/
theorem metadata_join (h : fs.Holds directory place) (hname : Path.IsName name)
    (herror : nameError? directory name = none) {bytes : Bytes} {executable : Bool}
    (hentry : fs.get? (place ++ [name]) = some (.file bytes executable)) :
    fs.metadata (Path.join directory name) = .ok ⟨true, false, bytes.length⟩ := by
  rw [metadata, h.resolve_join hname, child_eq_found_iff.mpr ⟨herror, rfl, hentry⟩]
  rfl

/-- Something is there under a name exactly if the name can be followed and has an entry. -/
theorem pathExists_join (h : fs.Holds directory place) (hname : Path.IsName name) :
    fs.pathExists (Path.join directory name) = true ↔
      nameError? directory name = none ∧ fs.get? (place ++ [name]) ≠ none :=
  h.opens.pathExists_join hname (h.noLink name)

theorem append_join (h : fs.Holds directory place) (hname : Path.IsName name) {added : Bytes} :
    fs.append (Path.join directory name) added = .ok after ↔
      nameError? directory name = none ∧
        ∃ bytes executable, fs.get? (place ++ [name]) = some (.file bytes executable) ∧
          after = fs.put (place ++ [name]) (.file (bytes ++ added) executable) := by
  rw [append, bind_eq_ok, h.resolve_join hname]
  constructor
  · rintro ⟨reached, hreached, hdone⟩
    split at hdone
    · next found bytes executable =>
        obtain ⟨herror, rfl, hentry⟩ := child_eq_found_iff.mp hreached
        exact ⟨herror, bytes, executable, hentry, (pure_eq_ok.mp hdone).symm⟩
    · simp at hdone
    · simp at hdone
  · rintro ⟨herror, bytes, executable, hentry, rfl⟩
    exact ⟨_, child_eq_found_iff.mpr ⟨herror, rfl, hentry⟩, rfl⟩

theorem openOrCreate_join (h : fs.Holds directory place) (hname : Path.IsName name)
    {change : Bytes → Bytes} :
    fs.openOrCreate (Path.join directory name) change = .ok after ↔
      nameError? directory name = none ∧
        ((fs.get? (place ++ [name]) = none ∧
            after = fs.put (place ++ [name]) (.file (change []) false)) ∨
          ∃ bytes executable, fs.get? (place ++ [name]) = some (.file bytes executable) ∧
            after = fs.put (place ++ [name]) (.file (change bytes) executable)) :=
  h.opens.openOrCreate_join hname (h.noLink name)

/-- What is appended to a file is added to it. -/
theorem grows_of_append (h : fs.Holds directory place) (hname : Path.IsName name) {added : Bytes}
    (hdone : fs.append (Path.join directory name) added = .ok after) :
    Grows (place ++ [name]) added fs after := by
  obtain ⟨-, bytes, executable, hfile, rfl⟩ := (h.append_join hname).mp hdone
  exact .put (by simp) hfile

/-- What is appended to a file that may be missing is added to it, or makes it. -/
theorem grows_of_appendOrCreate (h : fs.Holds directory place) (hname : Path.IsName name)
    {added : Bytes} (hdone : fs.appendOrCreate (Path.join directory name) added = .ok after) :
    Grows (place ++ [name]) added fs after := by
  obtain ⟨-, ⟨hfree, rfl⟩ | ⟨bytes, executable, hfile, rfl⟩⟩ := (h.openOrCreate_join hname).mp hdone
  · exact .put_new (by simp) hfree false
  · exact .put (by simp) hfile

theorem remove_join (h : fs.Holds directory place) (hname : Path.IsName name) :
    fs.remove (Path.join directory name) = .ok after ↔
      nameError? directory name = none ∧
        ∃ bytes executable, fs.get? (place ++ [name]) = some (.file bytes executable) ∧
          after = fs.erase (place ++ [name]) :=
  h.opens.remove_join hname (h.noLink name)

end Holds

/-- A tree with one directory, and one file in it. -/
def withFile (name : String) (bytes : Bytes) : FileSystem :=
  (FileSystem.empty.put ["s"] .directory).put ["s", name] (.file bytes false)

theorem get?_withFile (name : String) (bytes : Bytes) (other : String) :
    (withFile name bytes).get? (["s"] ++ [other]) =
      if other = name then some (.file bytes false) else none := by
  rw [withFile, get?_put _ (by simp), get?_put _ (by simp)]
  simp [get?, empty]

theorem bytesAt_withFile (name : String) (bytes : Bytes) (other : String) :
    (withFile name bytes).bytesAt (["s"] ++ [other]) = if other = name then bytes else [] := by
  rw [bytesAt, get?_withFile]
  by_cases hother : other = name
  · rw [if_pos hother, if_pos hother]
  · rw [if_neg hother, if_neg hother]

theorem names_withFile (name : String) (bytes : Bytes) :
    (withFile name bytes).names ["s"] = [name] := by
  simp [withFile, names, put, empty]

theorem holds_withFile (name : String) (bytes : Bytes) :
    (withFile name bytes).Holds "/s" ["s"] where
  opens := by
    have hentry : (withFile name bytes).get? ([] ++ ["s"]) = some .directory := by
      rw [withFile, get?_put _ (by simp), if_neg (by simp), List.nil_append,
        get?_put_self _ (by simp)]
    have hleads : Leads (withFile name bytes) maxLinks [] ["s"] ["s"] :=
      .down (by decide) (by decide) (by decide) (by decide) hentry .here
    have hsteps : Path.steps "/s" = ["s"] := by decide
    rw [Opens, resolve, hsteps, follow, if_neg (by decide), if_neg (by decide),
      if_neg (by decide), if_pos (by decide)]
    exact hleads.walk_eq
  noLink other target := by
    rw [get?_withFile]
    split <;> simp

end FileSystem

end FileChat
