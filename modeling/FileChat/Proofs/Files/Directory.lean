/-
# Inside a directory

A path that leads to a directory may take any way there, through links, dots and empty steps.
What matters below is only where it ends: one more name leads to the entry that has the name
there, and the way stays the same as long as nobody touches the directories and links of the
tree. So each operation on a path below a directory is one on a location.
-/

import FileChat.Proofs.Files.Path
import FileChat.Proofs.Files.System

namespace FileChat.FileSystem

/-- The ways on which a walk reaches a directory. -/
inductive Leads (fs : FileSystem) : Nat → Location → List String → Location → Prop
  | here {links : Nat} {place : Location} : Leads fs links place [] place
  | stay {links : Nat} {here place : Location} {step : String} {later : List String}
      (hstep : step = "" ∨ step = ".") (hlater : Leads fs links here later place) :
      Leads fs links here (step :: later) place
  | up {links : Nat} {here place : Location} {later : List String}
      (hlater : Leads fs links here.dropLast later place) :
      Leads fs links here (".." :: later) place
  | down {links : Nat} {here place : Location} {step : String} {later : List String}
      (hempty : step ≠ "") (hdot : step ≠ ".") (hdots : step ≠ "..")
      (hsize : step.utf8ByteSize ≤ maxNameBytes)
      (hentry : fs.get? (here ++ [step]) = some .directory)
      (hlater : Leads fs links (here ++ [step]) later place) :
      Leads fs links here (step :: later) place
  | through {left : Nat} {here place : Location} {step : String} {later : List String}
      {target : Path} (hempty : step ≠ "") (hdot : step ≠ ".") (hdots : step ≠ "..")
      (hsize : step.utf8ByteSize ≤ maxNameBytes)
      (hentry : fs.get? (here ++ [step]) = some (.link target))
      (hlater : Leads fs left (if Path.isAbsolute target then [] else here)
        (Path.steps target ++ later) place) :
      Leads fs (left + 1) here (step :: later) place

/-- A walk that reaches a directory goes one of these ways. -/
theorem leads_of_walk {fs : FileSystem} {links : Nat} {here place : Location}
    {steps : List String}
    (h : fs.walk .reach links here steps = .ok (.found place .directory)) :
    Leads fs links here steps place := by
  fun_induction walk fs .reach links here steps
  case case1 =>
    obtain ⟨rfl⟩ : _ = place := by simpa using h
    exact .here
  case case2 step later hstep ih => exact .stay (by simpa using hstep) (ih h)
  case case3 ih => exact .up (ih h)
  case case8 hstep hdots _ hsize _ hentry ih =>
    simp only [Bool.or_eq_true, decide_eq_true_eq, not_or] at hstep
    exact .down hstep.1 hstep.2 hdots (Nat.le_of_not_lt hsize) hentry (ih h)
  case case13 hstep hdots _ hsize _ _ hentry _ _ ih =>
    simp only [Bool.or_eq_true, decide_eq_true_eq, not_or] at hstep
    exact .through hstep.1 hstep.2 hdots (Nat.le_of_not_lt hsize) hentry (ih h)
  all_goals simp at h

section Walk

variable (fs : FileSystem) (aim : Aim) (links : Nat) (here : Location) {step : String}
  (later : List String)

theorem walk_stay (h : step = "" ∨ step = ".") :
    fs.walk aim links here (step :: later) = fs.walk aim links here later := by
  rw [walk, if_pos (by simpa using h)]

theorem walk_up :
    fs.walk aim links here (".." :: later) = fs.walk aim links here.dropLast later := by
  rw [walk, if_neg (by simp), if_pos rfl]

variable {later}

/-- A step that is no dot, with more to follow, looks at the entry it leads to. -/
theorem walk_step (hempty : step ≠ "") (hdot : step ≠ ".") (hdots : step ≠ "..")
    (hsize : step.utf8ByteSize ≤ maxNameBytes) (hcreate : later ≠ [""]) :
    fs.walk aim links here (step :: later) =
      match fs.get? (here ++ [step]) with
      | none => if later.isEmpty then .ok (.vacant here step) else .error .notFound
      | some .directory => fs.walk aim links (here ++ [step]) later
      | some (.file bytes executable) =>
        if later.isEmpty then .ok (.found (here ++ [step]) (.file bytes executable))
        else .error .notADirectory
      | some (.link target) =>
        if later.isEmpty && aim = .hold then .ok (.found (here ++ [step]) (.link target))
        else
          match links with
          | 0 => .error .tooManyLinks
          | left + 1 =>
            fs.walk aim left (if Path.isAbsolute target then [] else here)
              (Path.steps target ++ later) := by
  have hmoves : ¬ (decide (step = "") || decide (step = ".")) = true := by simp [hempty, hdot]
  have hcreates : ¬ (decide (aim = .create) && decide (later = [""])) = true := by simp [hcreate]
  have hlong : ¬ maxNameBytes < step.utf8ByteSize := Nat.not_lt.mpr hsize
  rw [walk.eq_def]
  exact (if_neg hmoves).trans ((if_neg hdots).trans ((if_neg hcreates).trans (if_neg hlong)))

end Walk

/-- Where a name follows, there is not the slash alone. -/
theorem append_name_ne {name : String} (hname : name ≠ "") (before after : List String) :
    before ++ name :: after ≠ [""] := by
  intro heq
  have hmem : name ∈ [""] := heq ▸ List.mem_append_right before List.mem_cons_self
  exact hname (List.mem_singleton.mp hmem)

/-- On such a way a name that comes next is looked up in the directory, whatever the walk is
for. A slash at the end of the way makes no difference. -/
theorem Leads.exists_walk_append {fs : FileSystem} {links : Nat} {here place : Location}
    {steps before slash : List String} (h : Leads fs links here steps place)
    (hsteps : steps = before ++ slash) (hslash : slash = [] ∨ slash = [""]) :
    ∃ left, ∀ aim name after, name ≠ "" →
      fs.walk aim links here (before ++ name :: after) =
        fs.walk aim left place (name :: after) := by
  induction h generalizing before with
  | here =>
      obtain ⟨rfl, -⟩ := List.append_eq_nil_iff.mp hsteps.symm
      exact ⟨_, fun aim name after _ => rfl⟩
  | @stay links here place step later hstep hlater ih =>
      cases before with
      | nil =>
          obtain rfl : slash = [""] := hslash.resolve_left (by rintro rfl; simp at hsteps)
          obtain ⟨rfl, rfl⟩ := List.cons.inj hsteps
          cases hlater
          exact ⟨_, fun aim name after _ => rfl⟩
      | cons first before =>
          obtain ⟨rfl, rfl⟩ := List.cons.inj hsteps
          obtain ⟨left, hleft⟩ := ih rfl
          exact ⟨left, fun aim name after hname => by
            rw [List.cons_append, walk_stay _ _ _ _ _ hstep, hleft aim name after hname]⟩
  | @up links here place later hlater ih =>
      cases before with
      | nil => rcases hslash with rfl | rfl <;> simp at hsteps
      | cons first before =>
          obtain ⟨rfl, rfl⟩ := List.cons.inj hsteps
          obtain ⟨left, hleft⟩ := ih rfl
          exact ⟨left, fun aim name after hname => by
            rw [List.cons_append, walk_up, hleft aim name after hname]⟩
  | @down links here place step later hempty hdot hdots hsize hentry hlater ih =>
      cases before with
      | nil => rcases hslash with rfl | rfl <;> simp_all
      | cons first before =>
          obtain ⟨rfl, rfl⟩ := List.cons.inj hsteps
          obtain ⟨left, hleft⟩ := ih rfl
          refine ⟨left, fun aim name after hname => ?_⟩
          have hcreate := append_name_ne hname before after
          rw [List.cons_append, walk_step _ _ _ _ hempty hdot hdots hsize hcreate, hentry]
          exact hleft aim name after hname
  | @through left here place step later target hempty hdot hdots hsize hentry hlater ih =>
      cases before with
      | nil => rcases hslash with rfl | rfl <;> simp_all
      | cons first before =>
          obtain ⟨rfl, rfl⟩ := List.cons.inj hsteps
          obtain ⟨left, hleft⟩ := @ih (Path.steps target ++ before) (by simp)
          refine ⟨left, fun aim name after hname => ?_⟩
          have hcreate := append_name_ne hname before after
          rw [List.cons_append, walk_step _ _ _ _ hempty hdot hdots hsize hcreate, hentry]
          simpa using hleft aim name after hname

/-- Each of these ways is gone by a walk. -/
theorem Leads.walk_eq {fs : FileSystem} {links : Nat} {here place : Location}
    {steps : List String} (h : Leads fs links here steps place) :
    fs.walk .reach links here steps = .ok (.found place .directory) := by
  induction h with
  | here => rw [walk]
  | stay hstep hlater ih => rw [walk_stay _ _ _ _ _ hstep, ih]
  | up hlater ih => rw [walk_up, ih]
  | @down links here place step later hempty hdot hdots hsize hentry hlater ih =>
      rw [walk, if_neg (by simp [hempty, hdot]), if_neg hdots, if_neg (by simp),
        if_neg (Nat.not_lt.mpr hsize)]
      simp only [hentry, ih]
  | @through left here place step later target hempty hdot hdots hsize hentry hlater ih =>
      rw [walk, if_neg (by simp [hempty, hdot]), if_neg hdots, if_neg (by simp),
        if_neg (Nat.not_lt.mpr hsize)]
      simp only [hentry]
      rw [if_neg (by simp)]
      simpa using ih

/-- The directories and links of one tree are in another one, where relative paths begin at
the same place. -/
structure Keeps (fs after : FileSystem) : Prop where
  workingDirectory_eq : after.workingDirectory = fs.workingDirectory
  directory {place : Location} :
    fs.get? place = some .directory → after.get? place = some .directory
  link {place : Location} {target : Path} :
    fs.get? place = some (.link target) → after.get? place = some (.link target)

/-- A way stays open as long as directories and links do. -/
theorem Leads.of_keeps {fs after : FileSystem} (hkeeps : Keeps fs after) {links : Nat}
    {here place : Location} {steps : List String} (h : Leads fs links here steps place) :
    Leads after links here steps place := by
  induction h with
  | here => exact .here
  | stay hstep _ ih => exact .stay hstep ih
  | up _ ih => exact .up ih
  | down hempty hdot hdots hsize hentry _ ih =>
      exact .down hempty hdot hdots hsize (hkeeps.directory hentry) ih
  | through hempty hdot hdots hsize hentry _ ih =>
      exact .through hempty hdot hdots hsize (hkeeps.link hentry) ih

/-- What a path leads to from here is the directory at a location. -/
def Opens (fs : FileSystem) (directory : Path) (place : Location) : Prop :=
  fs.resolve directory = .ok (.found place .directory)

namespace Opens

variable {fs after : FileSystem} {directory : Path} {place : Location}

/-- Only a path that can be followed leads anywhere. -/
theorem of_resolve (h : fs.Opens directory place) :
    directory.toList.contains '\x00' = false ∧ directory ≠ "" ∧
      directory.utf8ByteSize ≤ maxPathBytes ∧
      Leads fs maxLinks (if Path.isAbsolute directory then [] else fs.workingDirectory)
        (Path.steps directory) place := by
  rw [Opens, resolve, follow] at h
  split at h
  · simp at h
  split at h
  · simp at h
  split at h
  · simp at h
  next hnul hempty hsize =>
    exact ⟨by simpa using hnul, by simpa [String.isEmpty_iff] using hempty,
      Nat.le_of_not_lt hsize, leads_of_walk h⟩

theorem ne_empty (h : fs.Opens directory place) : directory ≠ "" := h.of_resolve.2.1

/-- A directory stays open as long as directories and links do. -/
theorem of_keeps (h : fs.Opens directory place) (hkeeps : Keeps fs after) :
    after.Opens directory place := by
  obtain ⟨hnul, hempty, hsize, hleads⟩ := h.of_resolve
  rw [Opens, resolve, follow, hnul, if_neg (by simp), if_neg (by simpa [String.isEmpty_iff]),
    if_neg (Nat.not_lt.mpr hsize), hkeeps.workingDirectory_eq]
  exact (hleads.of_keeps hkeeps).walk_eq

end Opens

/-- Why a name in a directory cannot be followed, whatever is there. -/
def nameError? (directory : Path) (name : String) : Option FileError :=
  let path := Path.join directory name
  if path.toList.contains '\x00' then some .nulInPath
  else if maxPathBytes < path.utf8ByteSize then some .nameTooLong
  else if maxNameBytes < name.utf8ByteSize then some .nameTooLong
  else none

/-- What a directory has under a name. -/
def child (fs : FileSystem) (directory : Path) (place : Location) (name : String) :
    Except FileError Place :=
  match nameError? directory name with
  | some cause => .error cause
  | none =>
    match fs.get? (place ++ [name]) with
    | none => .ok (.vacant place name)
    | some entry => .ok (.found (place ++ [name]) entry)

section Child

variable {fs : FileSystem} {directory : Path} {place : Location} {name : String}

theorem nameError?_eq_none_iff :
    nameError? directory name = none ↔
      '\x00' ∉ (Path.join directory name).toList ∧
        (Path.join directory name).utf8ByteSize ≤ maxPathBytes ∧
          name.utf8ByteSize ≤ maxNameBytes := by
  rw [nameError?]
  split
  · next hnul => exact iff_of_false nofun fun h => h.1 (by simpa using hnul)
  · next hnul =>
      split
      · next hpath => exact iff_of_false nofun fun h => Nat.not_lt.mpr h.2.1 hpath
      · next hpath =>
          split
          · next hname => exact iff_of_false nofun fun h => Nat.not_lt.mpr h.2.2 hname
          · next hname =>
              exact iff_of_true rfl
                ⟨by simpa using hnul, Nat.le_of_not_lt hpath, Nat.le_of_not_lt hname⟩

/-- A name that can be followed is a text. -/
theorem isText_of_nameError? (herror : nameError? directory name = none) : Path.IsText name :=
  Path.isText_of_join (nameError?_eq_none_iff.mp herror).1

/-- The last step of a walk. A link there has to be followed unless the walk holds it. -/
theorem walk_name (aim : Aim) (links : Nat) (hname : Path.IsName name)
    (hsize : name.utf8ByteSize ≤ maxNameBytes)
    (hlink : aim = .hold ∨ ∀ target, fs.get? (place ++ [name]) ≠ some (.link target)) :
    fs.walk aim links place [name] =
      match fs.get? (place ++ [name]) with
      | none => .ok (.vacant place name)
      | some entry => .ok (.found (place ++ [name]) entry) := by
  rw [walk_step _ _ _ _ hname.ne_empty hname.ne_dot hname.ne_dots hsize (by simp)]
  cases hentry : fs.get? (place ++ [name]) with
  | none => rfl
  | some entry =>
      cases entry with
      | directory => simp only [walk]
      | file bytes executable => rfl
      | link target =>
          have hhold : aim = .hold := hlink.resolve_right fun h => h target hentry
          simp [hhold]

/-- One more step on a path to a directory is a step from that directory. -/
theorem Opens.exists_walk_append (h : fs.Opens directory place) :
    ∃ left, ∀ aim name after, name ≠ "" →
      fs.walk aim maxLinks (if Path.isAbsolute directory then [] else fs.workingDirectory)
        (Path.parts directory ++ name :: after) = fs.walk aim left place (name :: after) := by
  obtain ⟨-, -, -, hleads⟩ := h.of_resolve
  obtain ⟨slash, hsteps, hslash⟩ := Path.exists_steps_eq directory
  exact hleads.exists_walk_append hsteps hslash

/-- Dots lead to directories. -/
theorem Opens.eq_directory_of_dots (h : fs.Opens directory place)
    (hname : name = "." ∨ name = "..") {found : Location} {entry : Entry}
    (hreached : fs.resolve (Path.join directory name) = .ok (.found found entry)) :
    entry = .directory := by
  have hstep : Path.IsStep name := by
    rcases hname with rfl | rfl
    · exact ⟨by decide, by decide⟩
    · exact ⟨by decide, by decide⟩
  obtain ⟨left, hleft⟩ := h.exists_walk_append
  rw [resolve, Path.steps_join hstep h.ne_empty, follow] at hreached
  split at hreached
  · cases hreached
  split at hreached
  · cases hreached
  split at hreached
  · cases hreached
  rw [Path.isAbsolute_join hstep.isAbsolute h.ne_empty,
    hleft .reach name [] hstep.ne_empty] at hreached
  rcases hname with rfl | rfl
  · rw [walk_stay _ _ _ _ _ (.inr rfl), walk] at hreached
    exact (Place.found.inj (Except.ok.inj hreached)).2.symm
  · rw [walk_up, walk] at hreached
    exact (Place.found.inj (Except.ok.inj hreached)).2.symm

/-- A path into a directory is followed to what the directory has under the name. -/
theorem Opens.follow_join (h : fs.Opens directory place) (hname : Path.IsName name) (aim : Aim)
    (hlink : aim = .hold ∨ ∀ target, fs.get? (place ++ [name]) ≠ some (.link target)) :
    fs.follow aim (Path.join directory name) (Path.parts directory ++ [name]) =
      fs.child directory place name := by
  obtain ⟨left, hleft⟩ := h.exists_walk_append
  have hempty := h.ne_empty
  rw [follow, child, nameError?]
  split
  · rfl
  rw [if_neg (by simpa [String.isEmpty_iff] using Path.join_ne_empty hname.isAbsolute hempty)]
  split
  · rfl
  rw [Path.isAbsolute_join hname.isAbsolute hempty, hleft aim name [] hname.ne_empty]
  by_cases hlong : maxNameBytes < name.utf8ByteSize
  · rw [walk, if_neg (by simp [hname.ne_empty, hname.ne_dot]), if_neg hname.ne_dots,
      if_neg (by simp), if_pos hlong, if_pos hlong]
  · rw [if_neg hlong]
    exact walk_name aim left hname (Nat.le_of_not_lt hlong) hlink

theorem Opens.resolve_join (h : fs.Opens directory place) (hname : Path.IsName name)
    (hlink : ∀ target, fs.get? (place ++ [name]) ≠ some (.link target)) :
    fs.resolve (Path.join directory name) = fs.child directory place name := by
  rw [resolve, Path.steps_join hname.toIsStep h.ne_empty]
  exact h.follow_join hname .reach (.inr hlink)

theorem Opens.resolveLast_join (h : fs.Opens directory place) (hname : Path.IsName name) :
    fs.resolveLast (Path.join directory name) = fs.child directory place name := by
  rw [resolveLast, Path.parts_join hname.toIsStep h.ne_empty]
  exact h.follow_join hname .hold (.inl rfl)

/-- Nothing is reached through a name that no directory has. -/
theorem Opens.exists_error_of_slash (h : fs.Opens directory place) (hname : Path.IsName name)
    (hfile : ∀ entry, fs.get? (place ++ [name]) = some entry →
      ∃ bytes executable, entry = .file bytes executable)
    (aim : Aim) (rest : String) :
    ∃ cause, fs.follow aim (Path.join directory (name ++ "/" ++ rest))
      (Path.steps (Path.join directory (name ++ "/" ++ rest))) = .error cause := by
  obtain ⟨later, hlater, hsteps⟩ :=
    Path.exists_steps_join_slash hname.toIsStep h.ne_empty rest
  obtain ⟨left, hleft⟩ := h.exists_walk_append
  have hmore : later.isEmpty = false := by simpa using hlater
  rw [hsteps, follow]
  split
  · exact ⟨_, rfl⟩
  split
  · exact ⟨_, rfl⟩
  split
  · exact ⟨_, rfl⟩
  rw [Path.isAbsolute_join (hname.isAbsolute_slash rest) h.ne_empty,
    hleft aim name later hname.ne_empty, walk, if_neg (by simp [hname.ne_empty, hname.ne_dot]),
    if_neg hname.ne_dots]
  split
  · exact ⟨_, rfl⟩
  split
  · exact ⟨_, rfl⟩
  dsimp only
  cases hentry : fs.get? (place ++ [name]) with
  | none => exact ⟨.notFound, by simp [hmore]⟩
  | some entry =>
      obtain ⟨bytes, executable, rfl⟩ := hfile entry hentry
      exact ⟨.notADirectory, by simp [hmore]⟩

end Child

end FileChat.FileSystem
