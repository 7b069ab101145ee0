/-
# Hidden entries in the run of a daemon

Recovery, the survey, the watch and the workers all make files to append to out of names. Over a
whole run, in which others do what they like to the tree and any notices come in, the sessions that
the survey and the watch find have visible names, and so have those that wait in the queue or are
being answered. So a hidden entry is spared by every step of the daemon, unless a link in the
directory leads to it. Only recovery asks no more of the name behind the mark of a sentinel than
that there is one: it tells a hidden entry of a restart when it finds the sentinel for it.
-/

import FileChat.Proofs.Daemon.WakeUp
import FileChat.Proofs.Session.Hidden

namespace FileChat

open Conversation FileSystem Session Worker
open Served (smallConfig)

variable {σ : Type} {place : Location} {name : String}

namespace Worker

/-- Whatever a worker does next about a session, the hidden entries are spared: a reply goes to the
session, which is visible, unless its name is a link. -/
theorem spares_step {g : Generator σ} {w : World σ} {id : String}
    (hopens : w.files.Opens g.directory place) (hid : IsSessionName id)
    (hhidden : isHiddenName name = true) (hsilent : g.backend.IsSilent) (stage : Stage) :
    Spares place name w.files (g.step (itemOf g.directory id) stage w).2.files ∨
      IsLinked g.directory place name w.files := by
  have hne : name ≠ id := by
    rintro rfl
    rw [hid.visible] at hhidden
    cases hhidden
  have happend {reply : String} {after : World σ}
      (hdone : appendReply (itemOf g.directory id) reply w = .ok after) :
      Spares place name w.files after.files ∨ IsLinked g.directory place name w.files := by
    obtain ⟨files, hfiles, rfl⟩ := appendReply_eq_ok.mp hdone
    exact (spares_of_append hopens hid.isName hfiles).imp_right fun hother =>
      hother.resolve_left fun hsame => hne hsame.1
  cases stage with
  | reading =>
      unfold Generator.step
      dsimp only
      split
      · exact .inl (.refl _)
      · split
        · exact .inl (.refl _)
        · exact .inl (.refl _)
  | marking content =>
      unfold Generator.step
      dsimp only
      split
      · exact .inl (.refl _)
      · next files hdone => exact spares_of_createSentinel hopens hid.noSlash hdone
  | excusing cause | recording reply outcome =>
      unfold Generator.step
      dsimp only
      split
      · exact .inl (.refl _)
      · next after hdone => exact happend hdone
  | generating content =>
      rw [files_step_generating hsilent]
      exact .inl (.refl _)
  | unmarking appended outcome =>
      unfold Generator.step
      dsimp only
      split
      · exact .inl (.refl _)
      · next files hdone => exact .inl (spares_of_removeSentinel hopens hid.noSlash hdone)
  | finished result => exact .inl (.refl _)
  | crashed => exact .inl (.refl _)

end Worker

namespace Daemon

/-- All that a daemon works on are sessions of its directory. -/
structure KeepsToSessions (directory : Path) (d : Daemon σ) : Prop where
  directory_eq : d.directory = directory
  surveyed : ∀ item ∈ d.survey.items, IsItemOf directory item
  held : ∀ item ∈ d.inHand, IsItemOf directory item
  queued : ∀ item ∈ d.pool.queue, IsItemOf directory item
  busy : ∀ activity ∈ d.pool.workers, ∀ item, activity.item? = some item →
    IsItemOf directory item

namespace KeepsToSessions

variable {g : Generator σ} {d after : Daemon σ}

theorem subscribed (config : Config) (world : World σ) :
    KeepsToSessions config.directory (subscribed config world) where
  directory_eq := rfl
  surveyed _ hitem := by cases hitem
  held _ hitem := by cases hitem
  queued _ hitem := by cases hitem
  busy activity hactivity item hitem := by
    rw [(List.mem_replicate.mp hactivity).2] at hitem
    cases hitem

theorem enqueue {directory : Path} {item : WorkItem} {p : Pool σ}
    (hqueued : ∀ other ∈ p.queue, IsItemOf directory other) (hitem : IsItemOf directory item) :
    ∀ other ∈ (p.enqueue item).queue, IsItemOf directory other := by
  intro other hother
  rcases List.mem_append.mp hother with hbefore | hnew
  · exact hqueued other hbefore
  · exact List.mem_singleton.mp hnew ▸ hitem

/-- A worker's turn brings nothing in that was not queued. -/
theorem worked (h : KeepsToSessions g.directory d) {worker : Nat} {pool : Pool σ}
    (hstep : d.pool.step? g worker = some pool) :
    KeepsToSessions g.directory { d with pool } := by
  obtain ⟨old, new, rest, hworker, hturn, rfl⟩ := Pool.exists_turn hstep
  exact
    { h with
      queued := fun item hitem => h.queued item (hturn.mem_queue hitem)
      busy := by
        intro activity hactivity item hitem
        obtain ⟨i, hat⟩ := List.getElem?_of_mem hactivity
        rcases hturn.exists_item? hworker hat hitem with ⟨before, hbefore, hsame⟩ | hqueued
        · exact h.busy before hbefore item hsame
        · exact h.queued item hqueued }

/-- Every move of a daemon keeps it at sessions. -/
theorem of_move (h : KeepsToSessions g.directory d) {label : Label}
    (hmove : Move g d label after) : KeepsToSessions g.directory after := by
  cases hmove with
  | listed hsurvey hlist => exact { h with surveyed := fun _ hitem => by cases hitem }
  | looked hsurvey =>
      refine { h with surveyed := fun item hitem => ?_ }
      rcases List.mem_append.mp hitem with hbefore | hnew
      · exact h.surveyed item (hsurvey ▸ hbefore)
      · exact h.directory_eq ▸ isItemOf_of_workItem? (Option.mem_toList.mp hnew)
  | arranged hsurvey =>
      refine { h with surveyed := fun item hitem => h.surveyed item ?_ }
      rw [hsurvey]
      exact mem_inIdOrder.mp hitem
  | rearranged hsurvey =>
      refine { h with surveyed := fun _ hitem => (by cases hitem), held := fun item hitem => ?_ }
      rcases List.mem_append.mp hitem with hbefore | hnew
      · exact h.held item hbefore
      · exact h.surveyed item (hsurvey ▸ mem_inIdOrder.mp hnew)
  | queuedFound hsurvey =>
      have hfound := h.surveyed
      rw [hsurvey] at hfound
      exact
        { h with
          surveyed := fun item hitem => hfound item (List.mem_cons_of_mem _ hitem)
          queued := enqueue h.queued (hfound _ List.mem_cons_self) }
  | gaveUp => exact { h with surveyed := fun _ hitem => by cases hitem }
  | queuedInHand hhand =>
      have hheld := h.held
      rw [hhand] at hheld
      exact
        { h with
          held := fun item hitem => hheld item (List.mem_cons_of_mem _ hitem)
          queued := enqueue h.queued (hheld _ List.mem_cons_self) }
  | forsaken | stopped => exact { h with held := fun _ hitem => by cases hitem }
  | @heard notice later items _ _ _ _ _ hitems =>
      refine { h with held := fun item hitem => ?_ }
      have hnew : item ∈ items := hitem
      rw [hitems] at hnew
      split at hnew
      · exact h.directory_eq ▸ mem_workItems hnew
      · cases hnew
  | relisted => exact { h with surveyed := fun _ hitem => by cases hitem }
  | worked hstep => exact h.worked hstep
  | notRelisted | cancelled | edited => exact { h with }

/-- Whatever a daemon does next by itself, the hidden entries are spared. -/
theorem spares_of_move (h : KeepsToSessions g.directory d)
    (hopens : d.pool.world.files.Opens g.directory place) (hhidden : isHiddenName name = true)
    (hsilent : g.backend.IsSilent) {label : Label} (hmove : Move g d label after)
    (hown : ∀ e, label ≠ .edit e) :
    Spares place name d.pool.world.files after.pool.world.files ∨
      IsLinked g.directory place name d.pool.world.files := by
  cases hmove with
  | worked hstep =>
      obtain ⟨old, new, rest, hworker, hturn, rfl⟩ := Pool.exists_turn hstep
      show Spares place name d.pool.world.files rest.world.files ∨ _
      cases hworking : old.isWorking with
      | false =>
          rw [(hturn.of_idle hworking).1]
          exact .inl (.refl _)
      | true =>
          cases old with
          | working item lock stage =>
              obtain ⟨id, hid, rfl⟩ := h.busy _ (List.mem_of_getElem? hworker) item rfl
              rw [hturn.of_working.1]
              exact spares_step hopens hid hhidden hsilent stage
          | _ => cases hworking
  | edited => exact absurd rfl (hown _)
  | _ => exact .inl (.refl _)

end KeepsToSessions

/-- Where the run of a daemon is: it clears the sentinels that it found, or it serves. -/
inductive Phase (σ : Type)
  | recovering (files : FileSystem) (recovery : Recovery)
  | serving (daemon : Daemon σ)

namespace Phase

/-- The tree that the daemon works on. -/
def files : Phase σ → FileSystem
  | .recovering files _ => files
  | .serving d => d.pool.world.files

/-- What the daemon does next by itself. -/
inductive Step (config : Config) (backend : Backend σ) : Phase σ → Phase σ → Prop
  /-- Recovery goes on. -/
  | recovered {files : FileSystem} {recovery : Recovery} :
      Step config backend (.recovering files recovery)
        (.recovering (recovery.step config.directory files).2
          (recovery.step config.directory files).1)
  /-- All sentinels are cleared, and the daemon subscribes to the directory. -/
  | subscribed {recovered names : List String} {world : World σ} :
      Step config backend (.recovering world.files (.ended (.ok recovered) names))
        (.serving (subscribed config world))
  /-- The survey, the watch or a worker goes on, or the daemon is told to end. -/
  | served {d after : Daemon σ} {label : Label} (hown : ∀ e, label ≠ .edit e)
      (hstep : d.step? (generatorOf config backend) label = some after) :
      Step config backend (.serving d) (.serving after)

/-- What can come of a run, while others do anything to the tree and any notices come in. -/
inductive Reached (config : Config) (backend : Backend σ) : Phase σ → Prop
  /-- The directory was listed, in any order. No name that a directory has holds a slash. -/
  | listed {files : FileSystem} {found : List String} (hfound : ∀ name ∈ found, '/' ∉ name.toList) :
      Reached config backend (.recovering files (.looking found []))
  | step {s after : Phase σ} (h : Reached config backend s) (hstep : Step config backend s after) :
      Reached config backend after
  | changed {before files : FileSystem} {recovery : Recovery}
      (h : Reached config backend (.recovering before recovery)) :
      Reached config backend (.recovering files recovery)
  | noticed {d : Daemon σ} {world : World σ} (h : Reached config backend (.serving d)) :
      Reached config backend (.serving (d.inWorld world))

/-- Recovery has only names to deal with that a directory can list, and then the daemon keeps to
sessions. -/
def IsTidy (directory : Path) : Phase σ → Prop
  | .recovering _ recovery => recovery.IsPlain
  | .serving d => d.KeepsToSessions directory

variable {config : Config} {backend : Backend σ} {s after : Phase σ}

theorem IsTidy.step (h : s.IsTidy config.directory) (hstep : Step config backend s after) :
    after.IsTidy config.directory := by
  cases hstep with
  | recovered => exact Recovery.IsPlain.step h _ _
  | subscribed => exact .subscribed config _
  | served hown hstep =>
      exact KeepsToSessions.of_move (g := generatorOf config backend) h (move_of_step? hstep)

theorem Reached.isTidy (h : Reached config backend s) : s.IsTidy config.directory := by
  induction h with
  | listed hfound => exact hfound
  | step _ hstep ih => exact ih.step hstep
  | changed _ ih => exact ih
  | noticed _ ih => exact { (ih : KeepsToSessions config.directory _) with }

/-- The next step of the daemon is to tell an entry of the directory of a restart. -/
def Tells (directory : Path) (place : Location) (name : String) : Phase σ → Prop
  | .recovering files recovery => recovery.Tells directory place name files
  | .serving _ => False

/-- Whatever the directory holds, whatever others do to it and whatever notices come in: in every
moment of a run the next step of the daemon spares each hidden entry of the directory, unless
recovery tells that entry or a link in the directory leads to it; and what recovery tells gets the
line that tells of a restart. -/
theorem Reached.spares_or_tells (h : Reached config backend s) (hsilent : backend.IsSilent)
    (hstep : Step config backend s after) (hopens : s.files.Opens config.directory place)
    (hhidden : name.toList.head? = some '.') :
    (Spares place name s.files after.files ∨ s.Tells config.directory place name ∨
        IsLinked config.directory place name s.files) ∧
      (s.Tells config.directory place name →
        ¬ Spares place name s.files after.files ∧
          Grows (place ++ [name]) (Utf8.encode (assistantLine restartError)) s.files
            after.files) := by
  have htidy := h.isTidy
  cases hstep with
  | recovered =>
      refine ⟨Recovery.spares_step hopens htidy, fun htells => ?_⟩
      have hsome : name ≠ "" := by
        rintro rfl
        cases hhidden
      have hgrows := Recovery.Tells.grows htells hopens htidy hsome
      exact ⟨not_spares_of_grows hgrows (Utf8.encode_ne_nil (assistantLine_ne_empty _)), hgrows⟩
  | subscribed =>
      refine ⟨.inl (.refl _), fun htells => ?_⟩
      have haddressed := Recovery.Tells.addressed htells
      cases haddressed
  | served hown hstep =>
      have hname : isHiddenName name = true := by simp [isHiddenName, hhidden]
      have hspares := KeepsToSessions.spares_of_move (g := generatorOf config backend) htidy
        hopens hname hsilent (move_of_step? hstep) hown
      exact ⟨hspares.imp_right .inr, fun htells => False.elim htells⟩

/-- A small tree with a hidden file, and what would be its sentinel. -/
def withHidden : FileSystem :=
  (withFile ".hidden" (Utf8.encode "note\n")).put ["s", sentinelName ".hidden"] (.file [] false)

theorem holds_withHidden : withHidden.Holds "/s" ["s"] := by
  have hfree : (withFile ".hidden" (Utf8.encode "note\n")).get?
      (["s"] ++ [sentinelName ".hidden"]) = none := by
    rw [get?_withFile, if_neg (by decide)]
  have hdiff : DiffersAt (["s"] ++ [sentinelName ".hidden"]) _ withHidden :=
    .put (by simp) (fun entry hentry => by rw [hfree] at hentry; cases hentry) _ _
  exact hdiff.holds (holds_withFile _ _)

/-- The names in the directory, in the order in which they are listed. -/
def hiddenNames : List String := [sentinelName ".hidden", ".hidden"]

/-- A run that begins there. -/
def besideHidden : Phase (List DryRun.Record) :=
  .recovering withHidden (.looking hiddenNames [])

theorem reached_besideHidden (config : Config) (backend : Backend (List DryRun.Record)) :
    Reached config backend besideHidden :=
  .listed (by decide)

theorem tells_besideHidden : besideHidden.Tells "/s" ["s"] ".hidden" where
  addressed := ownerOf?_sentinelName (by decide)
  isRegularFile := by
    have hname : Path.IsName ".hidden" := ⟨⟨by decide, by decide⟩, by decide, by decide⟩
    have hentry : withHidden.get? (["s"] ++ [".hidden"]) =
        some (.file (Utf8.encode "note\n") false) := by
      rw [withHidden, get?_put_of_ne _ (by simp) _ (by decide), get?_withFile, if_pos rfl]
    exact isRegularFile_iff.mpr
      ⟨_, (holds_withHidden.readBytes_join hname).mpr ⟨by decide, false, hentry⟩⟩
  noLink := holds_withHidden.noLink ".hidden"

/-- Recovery tells the hidden file and spares all other hidden names. -/
theorem spares_or_tells_hidden : ∃ after : Phase (List DryRun.Record),
    Session.names besideHidden.files "/s" = .ok hiddenNames ∧
      Step smallConfig (DryRun.backend "/s" .echo []) besideHidden after ∧
      Grows ["s", ".hidden"] (Utf8.encode (assistantLine restartError)) besideHidden.files
        after.files ∧
      ∀ name, name.toList.head? = some '.' → name ≠ ".hidden" →
        Spares ["s"] name besideHidden.files after.files := by
  have hdirectory : smallConfig.directory = "/s" := by decide
  have hholds : besideHidden.files.Holds smallConfig.directory ["s"] :=
    hdirectory ▸ holds_withHidden
  have hnames : Session.names withHidden "/s" = .ok hiddenNames := by
    rw [Session.names, during_eq_ok, holds_withHidden.list_eq]
    decide
  have hrun (name : String) (hhidden : name.toList.head? = some '.') :=
    (reached_besideHidden smallConfig _).spares_or_tells (DryRun.isSilent_backend "/s" .echo)
      .recovered hholds.opens hhidden
  refine ⟨_, hnames, .recovered, ?_, fun name hhidden hne => ?_⟩
  · exact ((hrun ".hidden" (by decide)).2 (hdirectory ▸ tells_besideHidden)).2
  · refine (hrun name hhidden).1.resolve_right ?_
    rintro (htells | hlinked)
    · have haddressed : ownerOf? (sentinelName ".hidden") = some name := htells.addressed
      rw [ownerOf?_sentinelName (by decide)] at haddressed
      exact hne (Option.some.inj haddressed).symm
    · exact not_isLinked hholds hlinked

/-- Not every hidden entry of a directory without links is spared. -/
theorem not_forall_spares : ¬ ∀ (config : Config) (backend : Backend (List DryRun.Record))
    (s after : Phase (List DryRun.Record)) (place : Location) (name : String),
    Reached config backend s → backend.IsSilent → Step config backend s after →
      s.files.Holds config.directory place → name.toList.head? = some '.' →
        Spares place name s.files after.files := by
  intro hall
  have hdirectory : smallConfig.directory = "/s" := by decide
  have hholds : besideHidden.files.Holds smallConfig.directory ["s"] :=
    hdirectory ▸ holds_withHidden
  have hspares := hall smallConfig _ _ _ ["s"] ".hidden"
    (reached_besideHidden smallConfig (DryRun.backend "/s" .echo []))
    (DryRun.isSilent_backend "/s" .echo) .recovered hholds (by decide)
  have htells : besideHidden.Tells smallConfig.directory ["s"] ".hidden" :=
    hdirectory ▸ tells_besideHidden
  have hplain : Recovery.IsPlain (.looking hiddenNames []) :=
    (reached_besideHidden smallConfig (DryRun.backend "/s" .echo [])).isTidy
  exact not_spares_of_grows (Recovery.Tells.grows htells hholds.opens hplain (by decide))
    (Utf8.encode_ne_nil (assistantLine_ne_empty _)) hspares

end Phase

end Daemon

end FileChat
