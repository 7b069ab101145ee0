/-
# What a worker does with a sentinel

A worker creates the sentinel of its session, asks the backend, attempts to append the turn and
removes the sentinel, whatever the session is called and wherever its file is. Each step is told
here with the act that others could notice, so that what the steps do to the sentinels and what
the worker has done by then are read off one list.
-/

import FileChat.Proofs.Session.Sentinel
import FileChat.Proofs.Worker.OwnTurn
import FileChat.Proofs.Worker.Settled

namespace FileChat.Worker

open Conversation FileSystem Session

variable {σ : Type}

/-- What a worker does with a session that others could notice. -/
inductive Act
  /-- It created the sentinel. -/
  | created
  /-- It asked the backend and got this answer. -/
  | asked (answer : Answer)
  /-- It attempted to append a turn, and these are the trees before and after. -/
  | tried (reply : String) (before after : FileSystem)
  /-- It removed the sentinel. -/
  | removed

/-- What a worker does in a step. -/
def Generator.act? (g : Generator σ) (item : WorkItem) (stage : Stage) (w : World σ) :
    Option Act :=
  match stage with
  | .marking _ => (createSentinel w.files g.directory item.id).toOption.map fun _ => .created
  | .excusing cause => some (.tried (excuse cause) w.files (g.step item stage w).2.files)
  | .generating content => some (.asked (g.backend.ask (g.callFor content) w).1)
  | .recording reply _ => some (.tried reply w.files (g.step item stage w).2.files)
  | .unmarking _ _ => some .removed
  | _ => none

/-- An attempt to append: it succeeds, or nothing is done. -/
def Tries (path : Path) (reply : String) (before after : FileSystem) : Prop :=
  append before path (assistantLine reply) = .ok after ∨
    after = before ∧ ∃ cause, append before path (assistantLine reply) = .error cause

/-- The steps of a worker, each with what it does. -/
inductive Does (g : Generator σ) (item : WorkItem) (w : World σ) :
    Stage → Option Act → Stage → World σ → Prop
  | ended {stage : Stage} (hover : stage.isOver = true) : Does g item w stage none stage w
  | looked {next : Stage} (hnext : next.isMarked = false) : Does g item w .reading none next w
  | unmarkable {content : String} {cause : StoreError} :
      Does g item w (.marking content) none (.excusing cause) w
  | created {content : String} {after : World σ}
      (hdone : createSentinel w.files g.directory item.id = .ok after.files) :
      Does g item w (.marking content) (some .created) (.generating content) after
  | excused {cause : StoreError} {result : Except StoreError Outcome} {after : World σ}
      (htries : Tries item.path (excuse cause) w.files after.files) :
      Does g item w (.excusing cause) (some (.tried (excuse cause) w.files after.files))
        (.finished result) after
  | asked {content reply : String} {outcome : Outcome} {answer : Answer} {after : World σ}
      (hturn : turnFor? answer = some (reply, outcome)) :
      Does g item w (.generating content) (some (.asked answer)) (.recording reply outcome) after
  | crashed {content : String} {act : Option Act} {after : World σ} :
      Does g item w (.generating content) act .crashed after
  | recorded {reply : String} {outcome : Outcome} {appended : Except StoreError Unit}
      {after : World σ} (htries : Tries item.path reply w.files after.files) :
      Does g item w (.recording reply outcome) (some (.tried reply w.files after.files))
        (.unmarking appended outcome) after
  | removed {appended : Except StoreError Unit} {outcome : Outcome}
      {result : Except StoreError Outcome} {after : World σ}
      (hdone : ∀ files, removeSentinel w.files g.directory item.id = .ok files →
        after.files = files) :
      Does g item w (.unmarking appended outcome) (some .removed) (.finished result) after

section Step

variable {g : Generator σ} {place : Location} {item : WorkItem} {stage next : Stage}
  {w after : World σ} {act : Option Act} {id : String}

/-- An attempt to append to the file of a session. -/
theorem tries_appendReply (item : WorkItem) (reply : String) (w : World σ) :
    (∃ after, appendReply item reply w = .ok after ∧
        Tries item.path reply w.files after.files) ∨
      ∃ cause, appendReply item reply w = .error cause ∧
        Tries item.path reply w.files w.files := by
  unfold appendReply Tries
  cases happend : append w.files item.path (assistantLine reply) with
  | error cause => exact .inr ⟨cause, rfl, .inr ⟨rfl, cause, rfl⟩⟩
  | ok files => exact .inl ⟨w.written item.path files, rfl, .inl rfl⟩

/-- Every step of a worker is one of these. -/
theorem does_step (g : Generator σ) (item : WorkItem) (stage : Stage) (w : World σ) :
    Does g item w stage (g.act? item stage w) (g.step item stage w).1
      (g.step item stage w).2 := by
  cases stage with
  | reading =>
      unfold Generator.act? Generator.step
      dsimp only
      cases read w.files item.path with
      | error cause => exact .looked rfl
      | ok content =>
          dsimp only
          split
          · exact .looked rfl
          · exact .looked rfl
  | marking content =>
      unfold Generator.act? Generator.step
      dsimp only
      cases hdone : createSentinel w.files g.directory item.id with
      | error cause => exact .unmarkable
      | ok files => exact .created hdone
  | excusing cause =>
      unfold Generator.act? Generator.step
      dsimp only
      rcases tries_appendReply item (excuse cause) w with ⟨after, hdone, htries⟩ |
        ⟨failure, hdone, htries⟩
      · unfold excuse at hdone
        rw [hdone]
        exact .excused htries
      · unfold excuse at hdone
        rw [hdone]
        exact .excused htries
  | generating content =>
      unfold Generator.act? Generator.step
      dsimp only
      cases g.backend.ask (g.callFor content) w with
      | mk answer after =>
          cases answer with
          | reply text => exact .asked rfl
          | failure cause => exact .asked rfl
          | crash => exact .crashed
  | recording reply outcome =>
      unfold Generator.act? Generator.step
      dsimp only
      rcases tries_appendReply item reply w with ⟨after, hdone, htries⟩ | ⟨failure, hdone, htries⟩
      · rw [hdone]
        exact .recorded htries
      · rw [hdone]
        exact .recorded htries
  | unmarking appended outcome =>
      unfold Generator.act? Generator.step
      dsimp only
      cases hdone : removeSentinel w.files g.directory item.id with
      | error cause => exact .removed fun files hfiles => by rw [hdone] at hfiles; cases hfiles
      | ok files =>
          refine .removed fun other hfiles => ?_
          rw [hdone] at hfiles
          exact Except.ok.inj hfiles
  | finished result => exact .ended rfl
  | crashed => exact .ended rfl

/-- An attempt to append succeeds if the file is there. -/
def IsAttempt (path : Path) (reply : String) (before after : FileSystem) : Prop :=
  ∀ bytes, before.readBytes path = .ok bytes →
    after.readBytes path = .ok (bytes ++ Utf8.encode (assistantLine reply))

/-- What is appended is read behind what was there. -/
theorem Tries.isAttempt {path : Path} {reply : String} {fs left : FileSystem}
    (h : Tries path reply fs left) : IsAttempt path reply fs left := by
  intro bytes hread
  obtain ⟨files, happend⟩ :=
    exists_append_of_readBytes hread (Utf8.encode (assistantLine reply))
  have hdone : append fs path (assistantLine reply) = .ok files := during_eq_ok.mpr happend
  rcases h with hleft | ⟨-, cause, hfailed⟩
  · obtain rfl := Except.ok.inj (hdone.symm.trans hleft)
    obtain ⟨known, hknown, hafter⟩ := readBytes_of_append happend
    obtain rfl := Except.ok.inj (hread.symm.trans hknown)
    exact hafter
  · rw [hdone] at hfailed
    cases hfailed

/-- What a worker has done since it created the sentinel. -/
inductive Carries (item : WorkItem) : Stage → List Act → Prop
  | created (content : String) : Carries item (.generating content) [.created]
  | asked {answer : Answer} {reply : String} {outcome : Outcome}
      (hturn : turnFor? answer = some (reply, outcome)) :
      Carries item (.recording reply outcome) [.created, .asked answer]
  | tried {answer : Answer} {reply : String} {outcome : Outcome} {before after : FileSystem}
      (appended : Except StoreError Unit) (hturn : turnFor? answer = some (reply, outcome))
      (hattempt : IsAttempt item.path reply before after) :
      Carries item (.unmarking appended outcome)
        [.created, .asked answer, .tried reply before after]

theorem Stage.isOver_of_isMarked (h : stage.isMarked = true) : stage.isOver = false := by
  cases stage with
  | generating _ | recording _ _ | unmarking _ _ => rfl
  | _ => cases h

/-- A sentinel is there if it was there, unless its name was used or given up. -/
theorem pathExists_congr {directory : Path} {fs left : FileSystem}
    (hfs : HoldsSentinels directory place fs) (hleft : HoldsSentinels directory place left)
    (hsame : left.get? (place ++ [sentinelName id]) = none ↔
      fs.get? (place ++ [sentinelName id]) = none) :
    left.pathExists (sentinelPath directory id) = true ↔
      fs.pathExists (sentinelPath directory id) = true := by
  rw [hfs.pathExists_sentinelPath, hleft.pathExists_sentinelPath, Ne, Ne, hsame]

/-- What a step of a worker does to the sentinels: it keeps the others, and its own is there
exactly if the worker is between creating it and removing it. -/
structure KeepsSentinels (directory : Path) (place : Location) (id : String) (next : Stage)
    (fs left : FileSystem) : Prop where
  holds : HoldsSentinels directory place left
  own : left.pathExists (sentinelPath directory id) = true ↔ next.isMarked = true
  others {other : String} : other ≠ id →
    (left.pathExists (sentinelPath directory other) = true ↔
      fs.pathExists (sentinelPath directory other) = true)

/-- No sentinel was made or taken away. -/
theorem keepsSentinels_of_get? {directory : Path} {fs left : FileSystem}
    (hfs : HoldsSentinels directory place fs) (hleft : HoldsSentinels directory place left)
    (hsame : ∀ id, left.get? (place ++ [sentinelName id]) = none ↔
      fs.get? (place ++ [sentinelName id]) = none)
    (hown : fs.pathExists (sentinelPath directory id) = true ↔ next.isMarked = true) :
    KeepsSentinels directory place id next fs left where
  holds := hleft
  own := (pathExists_congr hfs hleft (hsame id)).trans hown
  others _ := pathExists_congr hfs hleft (hsame _)

/-- One sentinel was made or taken away. -/
theorem keepsSentinels_of_differsAt {directory : Path} {fs left : FileSystem}
    (hfs : HoldsSentinels directory place fs)
    (hdiff : DiffersAt (place ++ [sentinelName id]) fs left)
    (hown : left.pathExists (sentinelPath directory id) = true ↔ next.isMarked = true) :
    KeepsSentinels directory place id next fs left where
  holds := hfs.of_differsAt hdiff
  own := hown
  others hne := pathExists_congr hfs (hfs.of_differsAt hdiff)
    (by rw [hdiff.get?_of_ne (by simpa [sentinelName] using hne)])

/-- An attempt to append neither makes a sentinel nor takes one away. -/
theorem Tries.keepsSentinels {directory path : Path} {reply : String} {fs left : FileSystem}
    (h : Tries path reply fs left) (hfs : HoldsSentinels directory place fs)
    (hown : fs.pathExists (sentinelPath directory id) = true ↔ next.isMarked = true) :
    KeepsSentinels directory place id next fs left := by
  rcases h with hdone | ⟨rfl, -⟩
  · obtain ⟨hleft, hsame⟩ := hfs.of_append hdone
    exact keepsSentinels_of_get? hfs hleft hsame hown
  · exact keepsSentinels_of_get? hfs hfs (fun _ => Iff.rfl) hown

namespace Does

/-- A step of a worker keeps the sentinels, whatever session it is at. -/
theorem keepsSentinels (h : Does g item w stage act next after)
    (hfs : HoldsSentinels g.directory place w.files)
    (hown : w.files.pathExists (sentinelPath g.directory item.id) = true ↔ stage.isMarked = true)
    (hspares : ∀ content, stage = .generating content →
      SparesSentinels g.directory place w.files after.files)
    (hlives : next ≠ .crashed) :
    KeepsSentinels g.directory place item.id next w.files after.files := by
  cases h with
  | ended => exact keepsSentinels_of_get? hfs hfs (fun _ => Iff.rfl) hown
  | looked hnext =>
      apply keepsSentinels_of_get? hfs hfs (fun _ => Iff.rfl)
      rw [hown, hnext]
      rfl
  | unmarkable => exact keepsSentinels_of_get? hfs hfs (fun _ => Iff.rfl) hown
  | created hdone =>
      obtain ⟨hslash, herror, hdiff, hthere⟩ := hfs.of_createSentinel hdone
      apply keepsSentinels_of_differsAt hfs hdiff
      apply iff_of_true _ rfl
      exact ((hfs.of_differsAt hdiff).pathExists_sentinelPath _).mpr ⟨hslash, herror, hthere⟩
  | excused htries => exact htries.keepsSentinels hfs hown
  | asked =>
      have hasked := hspares _ rfl
      refine keepsSentinels_of_get? hfs (hfs.of_spares hasked) (fun id => ?_) hown
      rw [hasked.get?_eq]
  | crashed => exact absurd rfl hlives
  | recorded htries => exact htries.keepsSentinels hfs hown
  | removed hdone =>
      obtain ⟨files, hfiles, hdiff, hgone⟩ := hfs.removeSentinel_eq (hown.mpr rfl)
      rw [hdone files hfiles]
      apply keepsSentinels_of_differsAt hfs hdiff
      apply iff_of_false _ (by simp [Stage.isMarked])
      exact fun hexists =>
        (((hfs.of_differsAt hdiff).pathExists_sentinelPath _).mp hexists).2.2 hgone

/-- What a worker that is between creating and removing has done grows with each step. -/
theorem carries (h : Does g item w stage act next after) {acts : List Act}
    (hacts : stage.isMarked = true → Carries item stage acts)
    (hnone : stage.isMarked = false → acts = []) (hnext : next.isMarked = true) :
    Carries item next (acts ++ act.toList) := by
  cases h with
  | ended =>
      rw [Option.toList_none, List.append_nil]
      exact hacts hnext
  | looked hidle =>
      rw [hidle] at hnext
      cases hnext
  | unmarkable | excused | crashed | removed => cases hnext
  | created =>
      obtain rfl := hnone rfl
      exact .created _
  | asked hturn =>
      cases hacts rfl
      exact .asked hturn
  | recorded htries =>
      cases hacts rfl with
      | asked hturn => exact .tried _ hturn htries.isAttempt

/-- A worker that is still alive gives its mark up by removing the sentinel. -/
theorem eq_removed (h : Does g item w stage act next after) (hmarked : stage.isMarked = true)
    (hlives : next ≠ .crashed) (hnext : next.isMarked = false) : act = some .removed := by
  cases h with
  | ended =>
      rw [hmarked] at hnext
      cases hnext
  | looked | unmarkable | created | excused => cases hmarked
  | asked | recorded => cases hnext
  | crashed => exact absurd rfl hlives
  | removed => rfl

/-- Only who is about to remove the sentinel does so. -/
theorem exists_eq_unmarking (h : Does g item w stage (some .removed) next after)
    (hlives : next ≠ .crashed) : ∃ appended outcome, stage = .unmarking appended outcome := by
  cases h with
  | crashed => exact absurd rfl hlives
  | removed => exact ⟨_, _, rfl⟩

end Does

end Step

end FileChat.Worker
