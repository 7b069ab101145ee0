/-
# Recovery step by step

A daemon that starts clears the sentinels it finds, and for each of them it touches two files,
one after the other: the session, which is told, and the sentinel, which goes. The daemon may go
down in between. So here recovery is a machine that touches one file in a step, and run to its
end it does what `recoverEach` does.
-/

import FileChat.Proofs.Session.Store

namespace FileChat

namespace Session

open FileSystem

/-- Only the sentinel of a session has a name that gives the session. -/
theorem eq_sentinelName_of_idOfSentinel? {name id : String} (h : idOfSentinel? name = some id) :
    name = sentinelName id := by
  obtain ⟨rest, hrest, rfl⟩ := Option.map_eq_some_iff.mp h
  rw [← String.toList_inj, Text.eq_append_of_afterMark hrest, sentinelName, String.toList_append,
    String.toList_ofList]

/-- The mark of a sentinel is a text. -/
theorem isText_sentinelName {id : String} : Path.IsText (sentinelName id) ↔ Path.IsText id := by
  rw [Path.isText_iff, Path.isText_iff, sentinelName, String.toList_append, List.mem_append,
    or_iff_right (by decide)]

theorem ownerOf?_eq_some_iff {name id : String} :
    ownerOf? name = some id ↔ name = sentinelName id ∧ Path.IsText id := by
  rw [ownerOf?, Option.bind_eq_some_iff]
  constructor
  · rintro ⟨text, htext, hid⟩
    obtain ⟨hname, rfl⟩ := Path.text?_eq_some_iff.mp htext
    obtain rfl := eq_sentinelName_of_idOfSentinel? hid
    exact ⟨rfl, isText_sentinelName.mp hname⟩
  · rintro ⟨rfl, hid⟩
    exact ⟨_, (isText_sentinelName.mpr hid).text?_eq, idOfSentinel?_sentinelName id⟩

theorem ownerOf?_sentinelName {id : String} (hid : Path.IsText id) :
    ownerOf? (sentinelName id) = some id :=
  ownerOf?_eq_some_iff.mpr ⟨rfl, hid⟩

section RecoverEach

variable (directory : Path) (fs : FileSystem) (recovered : List String)

theorem recoverEach_nil : recoverEach directory fs recovered [] = (fs, .ok recovered) := rfl

theorem recoverEach_cons (name : String) (later : List String) :
    recoverEach directory fs recovered (name :: later) =
      match ownerOf? name with
      | none => recoverEach directory fs recovered later
      | some id =>
        match reportRestart fs directory id with
        | .error e => (fs, .error e)
        | .ok told =>
          match removeSentinel told directory id with
          | .error e => (told, .error e)
          | .ok cleared => recoverEach directory cleared (id :: recovered) later := by
  rfl

end RecoverEach

/-- How far recovery has got. -/
inductive Recovery
  /-- These names are to be looked at, and the sentinels of these sessions are gone. -/
  | looking (names recovered : List String)
  /-- The session was told if it could be; its sentinel has to go. -/
  | clearing (id : String) (names recovered : List String)
  /-- It is over, and these names were not looked at. -/
  | ended (result : Except StoreError (List String)) (names : List String)

namespace Recovery

/-- The names that were not looked at yet. -/
def names : Recovery → List String
  | .looking names _ => names
  | .clearing _ names _ => names
  | .ended _ names => names

/-- The session that the next step has to tell. -/
def addressee? : Recovery → Option String
  | .looking (name :: _) _ => ownerOf? name
  | _ => none

/-- One step, which touches one file at most. -/
def step (directory : Path) (fs : FileSystem) : Recovery → Recovery × FileSystem
  | .looking [] recovered => (.ended (.ok recovered) [], fs)
  | .looking (name :: later) recovered =>
    match ownerOf? name with
    | none => (.looking later recovered, fs)
    | some id =>
      match reportRestart fs directory id with
      | .error e => (.ended (.error e) later, fs)
      | .ok told => (.clearing id later recovered, told)
  | .clearing id later recovered =>
    match removeSentinel fs directory id with
    | .error e => (.ended (.error e) later, fs)
    | .ok cleared => (.looking later (id :: recovered), cleared)
  | .ended result names => (.ended result names, fs)

/-- Several steps without anything in between. -/
def steps (directory : Path) : Nat → Recovery × FileSystem → Recovery × FileSystem
  | 0, at_ => at_
  | n + 1, at_ => steps directory n (step directory at_.2 at_.1)

variable {directory : Path} {fs : FileSystem}

section Step

variable {name id : String} {later : List String} (recovered : List String) {after : FileSystem}

theorem step_passed (hname : ownerOf? name = none) :
    step directory fs (.looking (name :: later) recovered) = (.looking later recovered, fs) := by
  unfold step
  dsimp only
  rw [hname]

theorem step_told (hid : Path.IsText id) (htold : reportRestart fs directory id = .ok after) :
    step directory fs (.looking (sentinelName id :: later) recovered) =
      (.clearing id later recovered, after) := by
  unfold step
  dsimp only
  rw [ownerOf?_sentinelName hid]
  dsimp only
  rw [htold]

theorem step_cleared (hcleared : removeSentinel fs directory id = .ok after) :
    step directory fs (.clearing id later recovered) =
      (.looking later (id :: recovered), after) := by
  unfold step
  dsimp only
  rw [hcleared]

end Step

theorem steps_ended (n : Nat) (result : Except StoreError (List String)) (names : List String) :
    steps directory n (.ended result names, fs) = (.ended result names, fs) := by
  induction n with
  | zero => rfl
  | succ n ih => exact ih

/-- Run to its end the machine is the recovery of the names. -/
theorem steps_looking (names recovered : List String) {n : Nat}
    (hn : 2 * names.length + 1 ≤ n) :
    ∃ left, steps directory n (.looking names recovered, fs) =
      (.ended (recoverEach directory fs recovered names).2 left,
        (recoverEach directory fs recovered names).1) := by
  induction names generalizing fs recovered n with
  | nil =>
      obtain ⟨n, rfl⟩ : ∃ k, n = k + 1 := ⟨n - 1, by rw [List.length_nil] at hn; omega⟩
      rw [recoverEach_nil, steps]
      exact ⟨[], steps_ended n _ _⟩
  | cons name later ih =>
      rw [List.length_cons] at hn
      obtain ⟨n, rfl⟩ : ∃ k, n = k + 2 := ⟨n - 2, by omega⟩
      rw [recoverEach_cons, steps]
      dsimp only [step]
      cases ownerOf? name with
      | none => exact ih recovered (by omega)
      | some id =>
          dsimp only
          cases reportRestart fs directory id with
          | error cause => exact ⟨later, steps_ended _ _ _⟩
          | ok told =>
              dsimp only [steps, step]
              cases removeSentinel told directory id with
              | error cause => exact ⟨later, steps_ended _ _ _⟩
              | ok cleared => exact ih (id :: recovered) (by omega)

/-- What a daemon does before it starts is to list the names and run the machine on them. -/
theorem steps_eq_recoverStale {found : List String}
    (hfound : Session.names fs directory = .ok found) :
    ∃ result left, steps directory (2 * found.length + 1) (.looking found [], fs) =
        (.ended result left, (recoverStale fs directory).1) ∧
      (recoverStale fs directory).2 = result.map sorted := by
  obtain ⟨left, hsteps⟩ : ∃ left, steps directory _ (.looking found [], fs) = _ :=
    steps_looking found [] (Nat.le_refl _)
  refine ⟨(recoverEach directory fs [] found).2, left, ?_, ?_⟩
  · rw [hsteps, recoverStale, hfound]
  · rw [recoverStale, hfound]

end Recovery

section Report

variable {fs : FileSystem} {directory : Path} {place : Location} {id : String}

/-- A session that can be read is told, and nothing else is. -/
theorem exists_reportRestart (hfs : fs.Holds directory place) (hslash : '/' ∉ id.toList) :
    ∃ told, reportRestart fs directory id = .ok told ∧
      (told = fs ∧
          (Path.IsName id → ∀ bytes, fs.readBytes (Path.join directory id) ≠ .ok bytes) ∨
        Grows (place ++ [id])
          (Utf8.encode (Conversation.assistantLine Conversation.restartError)) fs told) := by
  unfold reportRestart
  dsimp only
  by_cases hthere : fs.isRegularFile (Path.join directory id) = true
  · by_cases hname : Path.IsName id
    · obtain ⟨bytes, hread⟩ := isRegularFile_iff.mp hthere
      obtain ⟨herror, executable, hentry⟩ := (hfs.readBytes_join hname).mp hread
      have hsome : id.isEmpty = false := by simpa using hname.ne_empty
      rw [hthere, hsome, if_pos (by simp)]
      exact ⟨_, (append_eq_ok hfs hname).mpr ⟨herror, bytes, executable, hentry, rfl⟩,
        .inr (.put (by simp) hentry)⟩
    · have hempty : id.isEmpty = true := by
        by_contra hsome
        exact hname
          (hfs.opens.isName_of_isRegularFile ⟨by simpa using hsome, hslash⟩ hthere)
      rw [hempty, if_neg (by simp)]
      exact ⟨fs, rfl, .inl ⟨rfl, fun h => absurd h hname⟩⟩
  · rw [if_neg (by simp [hthere])]
    exact ⟨fs, rfl, .inl ⟨rfl, fun _ bytes hread => hthere (isRegularFile_iff.mpr ⟨bytes, hread⟩)⟩⟩

end Report

/-- No name in a directory holds a slash. -/
def IsPlain (place : Location) (fs : FileSystem) : Prop :=
  ∀ name, fs.get? (place ++ [name]) ≠ none → '/' ∉ name.toList

/-- A change under a name without a slash brings none. -/
theorem IsPlain.of_differsAt {place : Location} {fs after : FileSystem} {name : String}
    (h : IsPlain place fs) (hslash : '/' ∉ name.toList)
    (hdiff : DiffersAt (place ++ [name]) fs after) : IsPlain place after := by
  intro other hother
  by_cases hsame : other = name
  · rwa [hsame]
  · rw [hdiff.get?_of_ne (by simpa using hsame)] at hother
    exact h other hother

/-- The ways in which recovery goes on. -/
inductive Clears (directory : Path) (place : Location) (fs : FileSystem) :
    Recovery → Recovery → FileSystem → Prop
  | ended {result : Except StoreError (List String)} {names : List String} :
      Clears directory place fs (.ended result names) (.ended result names) fs
  | done {recovered : List String} :
      Clears directory place fs (.looking [] recovered) (.ended (.ok recovered) []) fs
  | passed {name : String} {later recovered : List String} (hname : ownerOf? name = none) :
      Clears directory place fs (.looking (name :: later) recovered) (.looking later recovered) fs
  | told {id : String} {later recovered : List String} {after : FileSystem}
      (htext : Path.IsText id) (hslash : '/' ∉ id.toList)
      (hfiles : Grows (place ++ [id])
        (Utf8.encode (Conversation.assistantLine Conversation.restartError)) fs after) :
      Clears directory place fs (.looking (sentinelName id :: later) recovered)
        (.clearing id later recovered) after
  | untold {id : String} {later recovered : List String} (htext : Path.IsText id)
      (hslash : '/' ∉ id.toList)
      (hgone : Path.IsName id → ∀ bytes, fs.readBytes (Path.join directory id) ≠ .ok bytes) :
      Clears directory place fs (.looking (sentinelName id :: later) recovered)
        (.clearing id later recovered) fs
  | cleared {id : String} {later recovered : List String} {after : FileSystem}
      (hfiles : after = fs ∨ DiffersAt (place ++ [sentinelName id]) fs after) :
      Clears directory place fs (.clearing id later recovered) (.looking later (id :: recovered))
        after
  | failed {id : String} {later recovered : List String} {cause : StoreError} :
      Clears directory place fs (.clearing id later recovered) (.ended (.error cause) later) fs

/-- Every step of recovery is one of these, as long as no name that it meets holds a slash. -/
theorem clears_step {fs : FileSystem} {directory : Path} {place : Location} {recovery : Recovery}
    (hfs : fs.Holds directory place) (hnames : ∀ name ∈ recovery.names, '/' ∉ name.toList)
    (hclearing : ∀ {id later recovered}, recovery = .clearing id later recovered →
      '/' ∉ id.toList) :
    Clears directory place fs recovery (recovery.step directory fs).1
      (recovery.step directory fs).2 := by
  cases recovery with
  | ended result names => exact .ended
  | looking names recovered =>
      cases names with
      | nil => exact .done
      | cons name later =>
          unfold Recovery.step
          dsimp only
          cases howner : ownerOf? name with
          | none => exact .passed howner
          | some id =>
              obtain ⟨rfl, htext⟩ := ownerOf?_eq_some_iff.mp howner
              have hslash := noSlash_of_sentinelName (hnames (sentinelName id) List.mem_cons_self)
              obtain ⟨told, htold, hsame | hgrows⟩ := exists_reportRestart hfs hslash
              · dsimp only
                rw [htold]
                obtain ⟨rfl, hgone⟩ := hsame
                exact .untold htext hslash hgone
              · dsimp only
                rw [htold]
                exact .told htext hslash hgrows
  | clearing id later recovered =>
      unfold Recovery.step
      dsimp only
      cases hdone : removeSentinel fs directory id with
      | error cause => exact .failed
      | ok cleared =>
          refine .cleared ((of_removeSentinel hfs (hclearing rfl) hdone).imp_right ?_)
          rintro ⟨bytes, executable, hfile, rfl⟩
          exact .erase (by simp) hfile

end Session

end FileChat
