/-
# What is at a path

What a path leads to is told here for any path, whatever links it goes through. A path that leads
anywhere leads through the directory that is named before its last name. A file that was written to
a path is at the path, and what was removed from a path is not, although the walk for removing does
not follow a link at the end and the walk for looking does.
-/

import FileChat.Proofs.Files.Operations

namespace FileChat.FileSystem

variable {fs after : FileSystem} {aim : Aim} {links : Nat} {here place spot : Location}
variable {before later steps : List String} {name : String} {reached : Place}

/-- What is in front of a name leads to a directory, if the name leads anywhere. At each step of the
walk either nothing is in front of the name any more, or the walk goes on. -/
theorem exists_leads_of_walk (h : fs.walk aim links here (before ++ name :: later) = .ok reached) :
    ∃ place, Leads fs links here before place := by
  generalize hsteps : before ++ name :: later = steps at h
  fun_induction walk fs aim links here steps generalizing before
  case case1 => exact absurd hsteps (by simp)
  case case2 links here step rest hstep ih =>
    cases before with
    | nil => exact ⟨_, .here⟩
    | cons first more =>
        obtain ⟨rfl, hmore⟩ := List.cons.inj hsteps
        obtain ⟨place, hplace⟩ := ih hmore h
        exact ⟨place, .stay (by simpa using hstep) hplace⟩
  case case3 links here rest hstep ih =>
    cases before with
    | nil => exact ⟨_, .here⟩
    | cons first more =>
        obtain ⟨rfl, hmore⟩ := List.cons.inj hsteps
        obtain ⟨place, hplace⟩ := ih hmore h
        exact ⟨place, .up hplace⟩
  case case8 links here step rest hstep hdots hcreate hsize spot hentry ih =>
    cases before with
    | nil => exact ⟨_, .here⟩
    | cons first more =>
        obtain ⟨rfl, hmore⟩ := List.cons.inj hsteps
        obtain ⟨place, hplace⟩ := ih hmore h
        simp only [Bool.or_eq_true, decide_eq_true_eq, not_or] at hstep
        exact ⟨place, .down hstep.1 hstep.2 hdots (Nat.le_of_not_lt hsize) hentry hplace⟩
  case case13 here step rest hstep hdots hcreate hsize spot target hentry hhold left ih =>
    cases before with
    | nil => exact ⟨_, .here⟩
    | cons first more =>
        obtain ⟨rfl, hmore⟩ := List.cons.inj hsteps
        obtain ⟨place, hplace⟩ := @ih (Path.steps target ++ more)
          (by rw [List.append_assoc]; exact congrArg _ hmore) h
        simp only [Bool.or_eq_true, decide_eq_true_eq, not_or] at hstep
        exact ⟨place, .through hstep.1 hstep.2 hdots (Nat.le_of_not_lt hsize) hentry hplace⟩
  case case6 | case9 | case11 =>
    cases before with
    | nil => exact ⟨_, .here⟩
    | cons first more =>
        obtain ⟨rfl, rfl⟩ := List.cons.inj hsteps
        simp_all
  all_goals cases h

theorem Leads.append_slash (h : Leads fs links here steps place) :
    Leads fs links here (steps ++ [""]) place := by
  induction h with
  | here => exact .stay (.inl rfl) .here
  | stay hstep _ ih => exact .stay hstep ih
  | up _ ih => exact .up ih
  | down hempty hdot hdots hsize hentry _ ih => exact .down hempty hdot hdots hsize hentry ih
  | through hempty hdot hdots hsize hentry _ ih =>
      rw [List.append_assoc] at ih
      exact .through hempty hdot hdots hsize hentry ih

/-- One slash more leads to the same directory. -/
theorem Opens.slash {directory : Path} (h : fs.Opens directory place)
    (hsize : directory.utf8ByteSize < maxPathBytes) : fs.Opens (directory ++ "/") place := by
  obtain ⟨hnul, hempty, -, hleads⟩ := h.of_resolve
  have hslash : Leads fs maxLinks (if Path.isAbsolute directory then [] else fs.workingDirectory)
      (Path.steps (directory ++ "/")) place := by
    rw [Path.steps, Path.hasFinalSlash_slash, if_pos rfl, Path.parts_slash]
    obtain ⟨slash, hsteps, rfl | rfl⟩ := Path.exists_steps_eq directory
    · rw [hsteps, List.append_nil] at hleads
      exact hleads.append_slash
    · rwa [hsteps] at hleads
  refine follow_eq_ok.mpr ⟨?_, by simp, ?_, ?_⟩
  · simpa using hnul
  · rw [String.utf8ByteSize_append]
    exact hsize
  · rw [Path.isAbsolute_slash hempty]
    exact hslash.walk_eq

/-- A path leads through a directory if it leads anywhere. -/
theorem exists_opens_of_follow_join {directory : Path} (hname : Path.IsStep name)
    (hdirectory : directory ≠ "")
    (h : fs.follow aim (Path.join directory name) (Path.parts directory ++ [name]) = .ok reached) :
    ∃ place, fs.Opens directory place := by
  obtain ⟨hnul, -, hsize, hwalk⟩ := follow_eq_ok.mp h
  obtain ⟨rest, hjoin⟩ := Path.exists_join_eq hname.isAbsolute directory
  rw [hjoin] at hnul hsize
  rw [Path.isAbsolute_join hname.isAbsolute hdirectory] at hwalk
  obtain ⟨place, hleads⟩ := exists_leads_of_walk hwalk
  have hsteps : Leads fs maxLinks (if Path.isAbsolute directory then [] else fs.workingDirectory)
      (Path.steps directory) place := by
    obtain ⟨slash, hsteps, rfl | rfl⟩ := Path.exists_steps_eq directory
    · rwa [hsteps, List.append_nil]
    · exact hsteps ▸ hleads.append_slash
  refine ⟨place, follow_eq_ok.mpr ⟨?_, by simpa using hdirectory, ?_, hsteps.walk_eq⟩⟩
  · simpa using fun hmem => by simp [hmem] at hnul
  · rw [String.utf8ByteSize_append] at hsize
    exact Nat.le_of_add_right_le hsize

/-- A path leads to a location, whatever it is followed for. -/
def LeadsTo (fs : FileSystem) (path : Path) (spot : Location) : Prop :=
  ∃ aim reached, fs.follow aim path (Path.steps path) = .ok reached ∧ reached.spot = spot

/-- A name in a directory leads away from its own place only if a link has the name. -/
theorem Opens.exists_link_of_leadsTo {directory : Path} (h : fs.Opens directory place)
    (hname : Path.IsName name) (hleads : fs.LeadsTo (Path.join directory name) spot)
    (haway : spot ≠ place ++ [name]) :
    ∃ target, fs.get? (place ++ [name]) = some (.link target) := by
  by_contra hlink
  obtain ⟨aim, reached, hreached, rfl⟩ := hleads
  rw [Path.steps_join hname.toIsStep h.ne_empty,
    h.follow_join hname aim (.inr (not_exists.mp hlink))] at hreached
  cases reached with
  | found found entry => exact haway (child_eq_found_iff.mp hreached).2.1
  | vacant found free =>
      obtain ⟨-, rfl, rfl, -⟩ := child_eq_vacant_iff.mp hreached
      exact haway rfl

/-- A regular file below a directory is one of the entries that the directory lists. -/
theorem exists_mem_names_of_isRegularFile {directory : Path} (hname : Path.IsName name)
    (hdirectory : directory ≠ "") (h : fs.isRegularFile (Path.join directory name) = true) :
    ∃ place, fs.Opens directory place ∧ name ∈ fs.names place := by
  obtain ⟨bytes, hread⟩ := isRegularFile_iff.mp h
  rw [readBytes, bind_eq_ok] at hread
  obtain ⟨reached, hreached, hread⟩ := hread
  rw [resolve, Path.steps_join hname.toIsStep hdirectory] at hreached
  obtain ⟨place, hopens⟩ := exists_opens_of_follow_join hname.toIsStep hdirectory hreached
  refine ⟨place, hopens, ?_⟩
  obtain ⟨-, -, -, hwalk⟩ := follow_eq_ok.mp hreached
  obtain ⟨left, hleft⟩ := hopens.exists_walk_append
  rw [Path.isAbsolute_join hname.isAbsolute hdirectory, hleft .reach name [] hname.ne_empty]
    at hwalk
  cases hentry : fs.get? (place ++ [name]) with
  | some entry => exact mem_names hentry
  | none =>
      obtain rfl : reached = .vacant place name := by
        rw [walk, if_neg (by simp [hname.ne_empty, hname.ne_dot]), if_neg hname.ne_dots,
          if_neg (by simp)] at hwalk
        split at hwalk
        · cases hwalk
        · simpa [hentry] using hwalk.symm
      cases hread

/-- A walk does not depend on what it is for, unless it ends at a link that it holds or is turned
away because it cannot create a directory. -/
theorem walk_reach_eq {result : Except FileError Place}
    (h : fs.walk aim links here steps = result)
    (hcreates : aim = .create → ∃ reached, result = .ok reached)
    (hlink : ∀ place target, result ≠ .ok (.found place (.link target))) :
    fs.walk .reach links here steps = result := by
  fun_induction walk fs aim links here steps
  case case1 => rw [walk, h]
  case case2 links here step later hstep ih =>
    rw [walk, if_pos hstep]
    exact ih h
  case case3 links here later hstep ih =>
    rw [walk, if_neg hstep, if_pos rfl]
    exact ih h
  case case4 hcreate =>
    simp only [Bool.and_eq_true, decide_eq_true_eq] at hcreate
    obtain ⟨reached, rfl⟩ := hcreates hcreate.1
    cases h
  case case5 links here step later hstep hdots hcreate hsize =>
    rw [walk, if_neg hstep, if_neg hdots, if_neg (by simp), if_pos hsize, h]
  case case11 => exact absurd h.symm (hlink _ _)
  case case8 links here step later hstep hdots hcreate hsize place hentry ih =>
    rw [walk, if_neg hstep, if_neg hdots, if_neg (by simp), if_neg hsize]
    simp only [place] at hentry
    simp only [hentry]
    exact ih h
  case case12 here step later hstep hdots hcreate hsize place target hentry hhold =>
    rw [walk, if_neg hstep, if_neg hdots, if_neg (by simp), if_neg hsize]
    simp only [place] at hentry
    simp only [hentry]
    exact (if_neg (by simp)).trans h
  case case13 here step later hstep hdots hcreate hsize place target hentry hhold left ih =>
    rw [walk, if_neg hstep, if_neg hdots, if_neg (by simp), if_neg hsize]
    simp only [place] at hentry
    simp only [hentry]
    exact (if_neg (by simp)).trans (ih h)
  case case6 hstep hdots _ hsize place hentry hlast | case7 hstep hdots _ hsize place hentry hlast |
      case9 hstep hdots _ hsize place _ _ hentry hlast |
      case10 hstep hdots _ hsize place _ _ hentry hlast =>
    rw [walk, if_neg hstep, if_neg hdots, if_neg (by simp), if_neg hsize]
    simp only [place] at hentry
    simp only [hentry, hlast]
    exact h

/-- What is written goes to the file that the path leads to, or makes one under a free name. -/
theorem exists_differsAt_of_openOrCreate {path : Path} {change : Bytes → Bytes}
    (h : fs.openOrCreate path change = .ok after) :
    ∃ reached executable, fs.follow .create path (Path.steps path) = .ok reached ∧
      (∀ place, reached ≠ .found place .directory) ∧ DiffersAt reached.spot fs after ∧
      after.get? reached.spot = some (.file (change (fs.bytesAt reached.spot)) executable) := by
  rw [openOrCreate, bind_eq_ok] at h
  obtain ⟨reached, hreached, hdone⟩ := h
  have hwalk := (follow_eq_ok.mp hreached).2.2.2
  split at hdone
  · next spot bytes executable =>
      obtain rfl := pure_eq_ok.mp hdone
      obtain ⟨hroot, hfile⟩ := get?_of_walk hwalk (by simp)
      refine ⟨_, executable, hreached, by simp, ?_, ?_⟩
      · exact .put hroot
          (fun _ hentry => ⟨bytes, executable, Option.some.inj (hentry.symm.trans hfile)⟩) _ _
      · rw [Place.spot, bytesAt_of_file hfile]
        exact get?_put_self fs hroot _
  · simp at hdone
  · next directory name =>
      obtain rfl := pure_eq_ok.mp hdone
      have hfree := get?_of_walk_vacant hwalk
      have hroot : directory ++ [name] ≠ [] := by simp
      refine ⟨_, false, hreached, by simp, ?_, ?_⟩
      · exact .put hroot (fun _ hentry => by simp [hfree] at hentry) _ _
      · rw [Place.spot, bytesAt, hfree]
        exact get?_put_self fs hroot _

/-- A file that was written is at the path that it was written to. -/
theorem pathExists_of_openOrCreate {path : Path} {change : Bytes → Bytes}
    (h : fs.openOrCreate path change = .ok after) : after.pathExists path = true := by
  obtain ⟨reached, executable, hreached, hdirectory, hdiff, hnow⟩ :=
    exists_differsAt_of_openOrCreate h
  obtain ⟨hnul, hempty, hsize, hwalk⟩ := follow_eq_ok.mp hreached
  have hfound : after.resolve path =
      .ok (.found reached.spot (.file (change (fs.bytesAt reached.spot)) executable)) := by
    rw [resolve, follow_eq_ok, hdiff.workingDirectory_eq]
    exact ⟨hnul, hempty, hsize, walk_reach_eq (hdiff.walk_eq hnow hdirectory hwalk)
      (fun _ => ⟨_, rfl⟩) (by simp)⟩
  rw [pathExists, metadata, hfound]
  rfl

/-- What could be removed from a directory was removed under its own name, also a link. -/
theorem Opens.exists_erase_of_remove_join {directory : Path} (h : fs.Opens directory place)
    (hname : Path.IsName name) (hdone : fs.remove (Path.join directory name) = .ok after) :
    ∃ entry, fs.get? (place ++ [name]) = some entry ∧ entry ≠ .directory ∧
      after = fs.erase (place ++ [name]) := by
  rw [remove, bind_eq_ok, h.resolveLast_join hname, Path.hasFinalSlash_join hname.toIsStep] at hdone
  obtain ⟨reached, hreached, hdone⟩ := hdone
  split at hdone
  · cases hdone
  · next found entry hentry =>
      obtain ⟨-, rfl, hthere⟩ := child_eq_found_iff.mp hreached
      exact ⟨entry, hthere, hentry, (Except.ok.inj hdone).symm⟩
  · cases hdone

/-- What was at the end of a walk is not found when it was taken away: a walk that comes by the place
ends there, and any other goes on as before. -/
theorem walk_erase_ne_found {entry : Entry}
    (h : fs.walk .hold links here steps = .ok (.found spot entry)) (hentry : entry ≠ .directory)
    (found : Location) (known : Entry) :
    (fs.erase spot).walk .reach links here steps ≠ .ok (.found found known) := by
  obtain ⟨hroot, -⟩ := get?_of_walk h hentry
  have hkept {other : Location} (hne : other ≠ spot) :
      (fs.erase spot).get? other = fs.get? other := by
    rw [get?_erase fs hroot, if_neg hne]
  have hgone {other : Location} (hsame : other = spot) : (fs.erase spot).get? other = none := by
    rw [get?_erase fs hroot, if_pos hsame]
  fun_induction walk fs .hold links here steps
  case case1 => exact absurd (Place.found.inj (Except.ok.inj h)).2.symm hentry
  case case2 links here step later hstep ih =>
    rw [walk, if_pos hstep]
    exact ih h
  case case3 links here later hstep ih =>
    rw [walk, if_neg hstep, if_pos rfl]
    exact ih h
  case case8 links here step later hstep hdots hcreate hsize place hthere ih =>
    rw [walk, if_neg hstep, if_neg hdots, if_neg (by simp), if_neg hsize]
    by_cases hspot : here ++ [step] = spot
    · simp only [hgone hspot]
      split <;> simp
    · simp only [hkept hspot]
      simp only [place] at hthere
      simp only [hthere]
      exact ih h
  case case13 here step later hstep hdots hcreate hsize place target hthere hhold left ih =>
    rw [walk, if_neg hstep, if_neg hdots, if_neg (by simp), if_neg hsize]
    by_cases hspot : here ++ [step] = spot
    · simp only [hgone hspot]
      split <;> simp
    · simp only [hkept hspot]
      simp only [place] at hthere
      simp only [hthere]
      rw [if_neg (by simp)]
      exact ih h
  case case9 hstep hdots _ hsize place _ _ _ _ | case11 hstep hdots _ hsize place _ _ _ =>
    have hspot : place = spot := (Place.found.inj (Except.ok.inj h)).1
    simp only [place] at hspot
    rw [walk, if_neg hstep, if_neg hdots, if_neg (by simp), if_neg hsize]
    simp only [hgone hspot]
    split <;> simp
  all_goals simp at h

/-- Where a path leads is not there exactly if nothing is found. -/
theorem pathExists_eq_false {path : Path}
    (h : ∀ found entry, fs.resolve path ≠ .ok (.found found entry)) :
    fs.pathExists path = false := by
  rw [pathExists, metadata]
  cases hreached : fs.resolve path with
  | error cause => rfl
  | ok reached =>
      cases reached with
      | found found entry => exact absurd hreached (h found entry)
      | vacant directory name => rfl

/-- What could be removed is at the path no more. -/
theorem pathExists_of_remove {path : Path} (h : fs.remove path = .ok after) :
    after.pathExists path = false := by
  rw [remove, bind_eq_ok] at h
  obtain ⟨reached, hreached, hdone⟩ := h
  split at hdone
  · cases hdone
  · next found entry hentry =>
      have hopen : Path.hasFinalSlash path = false := by
        by_contra hslash
        rw [Bool.not_eq_false] at hslash
        rw [hslash] at hdone
        cases hdone
      rw [hopen] at hdone
      obtain rfl := Except.ok.inj hdone
      have hsteps : Path.steps path = Path.parts path := by rw [Path.steps, hopen, if_neg (by simp)]
      refine pathExists_eq_false fun place known hfound => ?_
      rw [resolve, hsteps] at hfound
      exact walk_erase_ne_found (follow_eq_ok.mp hreached).2.2.2 hentry place known
        (follow_eq_ok.mp hfound).2.2.2
  · cases hdone

/-- What cannot be removed since it is not there is not there. -/
theorem pathExists_of_remove_eq_notFound {path : Path} (hopen : Path.hasFinalSlash path = false)
    (h : fs.remove path = .error .notFound) : fs.pathExists path = false := by
  have hsteps : Path.steps path = Path.parts path := by rw [Path.steps, hopen, if_neg (by simp)]
  refine pathExists_eq_false fun place known hfound => ?_
  rw [resolve, hsteps] at hfound
  obtain ⟨hnul, hempty, hsize, hwalk⟩ := follow_eq_ok.mp hfound
  have hheld : fs.resolveLast path = fs.walk .hold maxLinks
      (if Path.isAbsolute path then [] else fs.workingDirectory) (Path.parts path) := by
    rw [resolveLast, follow, hnul, hempty, if_neg Bool.false_ne_true, if_neg Bool.false_ne_true,
      if_neg (Nat.not_lt.mpr hsize)]
  rw [remove, bind_eq_error, hheld] at h
  obtain hnone | ⟨reached, hreached, hdone⟩ := h
  · rw [walk_reach_eq hnone (by simp) (by simp)] at hwalk
    cases hwalk
  · split at hdone
    · cases hdone
    · rw [hopen] at hdone
      cases hdone
    · rw [walk_reach_eq hreached (by simp) (by simp)] at hwalk
      cases hwalk

/-- The last name of a path to a directory is not free, whether a link there is followed or not. -/
theorem Opens.resolveLast_ne_vacant {directory : Path} (h : fs.Opens directory place)
    (found : Location) (free : String) :
    fs.resolveLast directory ≠ .ok (.vacant found free) := by
  intro hfree
  obtain ⟨-, -, -, hwalk⟩ := follow_eq_ok.mp h
  have hfollowed := walk_reach_eq (follow_eq_ok.mp hfree).2.2.2 (by simp) (by simp)
  obtain ⟨slash, hsteps, rfl | rfl⟩ := Path.exists_steps_eq directory
  · rw [hsteps, List.append_nil, hfollowed] at hwalk
    cases hwalk
  · -- What is in front of the last slash leads to a directory as well.
    rw [hsteps] at hwalk
    obtain ⟨before, hleads⟩ := exists_leads_of_walk hwalk
    rw [hleads.walk_eq] at hfollowed
    cases hfollowed

/-- Where a directory is there is nothing to create. -/
theorem Opens.createDirectories_eq {directory : Path} (h : fs.Opens directory place) :
    fs.createDirectories directory = (fs, .ok ()) := by
  have hmake : ∃ cause, fs.makeDirectory directory = .error cause := by
    rw [makeDirectory]
    cases hlast : fs.resolveLast directory with
    | error cause => exact ⟨cause, rfl⟩
    | ok reached =>
        cases reached with
        | found found entry => exact ⟨.exists, rfl⟩
        | vacant found free => exact absurd hlast (h.resolveLast_ne_vacant found free)
  obtain ⟨cause, hmake⟩ := hmake
  have hensure : fs.ensureDirectory directory = .ok fs := by
    rw [ensureDirectory, hmake]
    exact if_pos h.isDirectory_eq
  rw [createDirectories, ensureDirectories,
    if_neg (by simpa [String.isEmpty_iff] using h.ne_empty), hensure]

end FileChat.FileSystem
