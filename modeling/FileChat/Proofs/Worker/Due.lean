/-
# Who still has a session to answer

A session that owes a reply is minded as long as it is in the queue or a worker is on its way
to it or to its reply. Every turn of a worker keeps it minded, unless the reply was just
appended or the session was looked at and owed nothing.
-/

import FileChat.Proofs.Conversation.Turn
import FileChat.Proofs.Worker.Job
import FileChat.Proofs.Worker.Pool

namespace FileChat.Worker

open Conversation FileSystem Session

variable {σ : Type}

/-- A session of an open directory owes a reply. -/
def Owes (directory : Path) (place : Location) (id : String) (fs : FileSystem) : Prop :=
  ∃ text, Finds directory place id fs text ∧ needsResponse text = true

/-- The session was not appended to yet. -/
def Stage.isDue : Stage → Bool
  | .reading => true
  | .marking _ => true
  | .excusing _ => true
  | .generating _ => true
  | .recording _ _ => true
  | _ => false

/-- The worker will read the session or append to it. -/
def Activity.IsFor (item : WorkItem) : Activity → Prop
  | .opening known => known = item
  | .entering known _ => known = item
  | .working known _ stage => known = item ∧ stage.isDue = true
  | _ => False

/-- The worker is neither gone nor about to go. -/
def Activity.IsServing : Activity → Prop
  | .draining => False
  | .working _ _ stage => stage.isOver = false
  | .stopped => False
  | .crashed => False
  | _ => True

/-- Who still has to append is not done. -/
theorem isOver_of_isDue {stage : Stage} (h : stage.isDue = true) : stage.isOver = false := by
  cases stage with
  | finished | crashed => cases h
  | _ => rfl

section Owes

variable {directory : Path} {place : Location} {id : String} {fs after : FileSystem}

/-- What is owed in a tree was owed in another one that has the same file. -/
theorem Owes.of_get?_eq (h : Owes directory place id after) (hfs : fs.Holds directory place)
    (hsame : after.get? (place ++ [id]) = fs.get? (place ++ [id])) :
    Owes directory place id fs := by
  obtain ⟨text, hfinds, howed⟩ := h
  have hname := hfinds.session.isName
  refine ⟨text, ⟨hfs, hfinds.session, (hfs.readText_join hname).mpr ?_⟩, howed⟩
  rw [← hsame]
  exact (hfinds.holds.readText_join hname).mp hfinds.read

/-- Behind whole lines a reply leaves nothing owed. -/
theorem not_owes_of_appends {reply : String}
    (hwhole : Utf8.IsWholeLines (fs.bytesAt (place ++ [id])))
    (h : Appends (place ++ [id]) reply fs after) : ¬ Owes directory place id after := by
  rintro ⟨text, hfinds, howed⟩
  obtain ⟨-, bytes, _, hentry, hdecode⟩ :=
    (hfinds.holds.readText_join hfinds.session.isName).mp hfinds.read
  rw [← bytesAt_of_file hentry, h.bytesAt_eq,
    Utf8.decode_append_encode hwhole.current_read] at hdecode
  obtain ⟨content, hcontent, rfl⟩ := Option.map_eq_some_iff.mp hdecode
  rw [needsResponse_append_assistantLine (hwhole.toList hcontent)] at howed
  cases howed

/-- A file that is not there owes nothing. -/
theorem not_owes_of_readBytes
    (h : ∀ bytes, fs.readBytes (Path.join directory id) ≠ .ok bytes) :
    ¬ Owes directory place id fs := by
  rintro ⟨text, hfinds, -⟩
  have hname := hfinds.session.isName
  obtain ⟨herror, bytes, executable, hentry, -⟩ := (hfinds.holds.readText_join hname).mp hfinds.read
  exact h bytes ((hfinds.holds.readBytes_join hname).mpr ⟨herror, executable, hentry⟩)

end Owes

/-- A worker that lives goes on to the reply as long as it is owed. -/
theorem Advances.isDue {directory : Path} {place : Location} {id : String} {w after : World σ}
    {stage next : Stage} (h : Advances directory place id w stage next after)
    (hwhole : Utf8.IsWholeLines (w.files.bytesAt (place ++ [id])))
    (howes : Owes directory place id after.files) (hdue : stage.isDue = true)
    (hlives : next ≠ .crashed) : next.isDue = true := by
  cases h with
  | ended hover =>
      cases stage with
      | finished _ | crashed => cases hdue
      | _ => cases hover
  | unreadable hread =>
      obtain ⟨text, hfinds, -⟩ := howes
      exact absurd hfinds.read (hread text)
  | skipped hread hnothing =>
      obtain ⟨text, hfinds, howed⟩ := howes
      obtain rfl := Except.ok.inj (hread.symm.trans hfinds.read)
      rw [hnothing] at howed
      cases howed
  | owing | unmarkable | marked | answered => rfl
  | crashed => exact absurd rfl hlives
  | excused hfiles | recorded hfiles => exact absurd howes (not_owes_of_appends hwhole hfiles)
  | unexcused hgone | unrecorded hgone => exact absurd howes (not_owes_of_readBytes hgone)
  | unmarked => cases hdue

/-- Nobody owes a reply because of what a worker did. -/
theorem Advances.owes {directory : Path} {place : Location} {id other : String}
    {w after : World σ} {stage next : Stage}
    (h : Advances directory place id w stage next after) (hfs : w.files.Holds directory place)
    (hwhole : Utf8.IsWholeLines (w.files.bytesAt (place ++ [id])))
    (howes : Owes directory place other after.files) : Owes directory place other w.files := by
  by_cases hother : other = id
  · subst hother
    have hsession : IsSessionName other := by
      obtain ⟨text, hfinds, -⟩ := howes
      exact hfinds.session
    have hsentinel {fs : FileSystem} (hdiff : DiffersAt (place ++ [sentinelName other]) w.files fs)
        (hthere : Owes directory place other fs) : Owes directory place other w.files :=
      hthere.of_get?_eq hfs (hdiff.get?_of_ne (spot_ne_sentinel place hsession other))
    cases h with
    | ended | unreadable | skipped | owing | unmarkable | unexcused | unrecorded => exact howes
    | marked hfiles => exact hsentinel hfiles howes
    | answered hfiles | crashed hfiles => rwa [hfiles] at howes
    | excused hfiles | recorded hfiles => exact absurd howes (not_owes_of_appends hwhole hfiles)
    | unmarked hfiles =>
        rcases hfiles with hsame | hdiff
        · rwa [hsame] at howes
        · exact hsentinel hdiff howes
  · obtain ⟨text, hfinds, howed⟩ := howes
    exact Owes.of_get?_eq ⟨text, hfinds, howed⟩ hfs (h.get?_of_ne hfinds.session hother)

/-- A worker leaves whole lines behind. -/
theorem Advances.isWholeLines_bytesAt {directory : Path} {place : Location} {id name : String}
    {w after : World σ} {stage next : Stage}
    (h : Advances directory place id w stage next after) (hid : IsSessionName id)
    (hname : IsSessionName name) (hown : Utf8.IsWholeLines (w.files.bytesAt (place ++ [id])))
    (hbefore : Utf8.IsWholeLines (w.files.bytesAt (place ++ [name]))) :
    Utf8.IsWholeLines (after.files.bytesAt (place ++ [name])) := by
  by_cases hother : name = id
  · subst hother
    rcases h.bytesAt_eq hname with ⟨-, hsame⟩ | ⟨reply, -, hreply⟩
    · exact hsame ▸ hown
    · rw [hreply]
      exact hown.append (Utf8.isWholeLines_encode_append_lineFeed _)
  · rw [bytesAt_of_get?_eq (h.get?_of_ne hname hother)]
    exact hbefore

/-- What is heard of a directory only grows. -/
structure Follows (w after : World σ) : Prop where
  watched_eq : after.watched = w.watched
  notices : w.notices <+: after.notices

theorem follows_written (w : World σ) (path : Path) (files : FileSystem) :
    Follows w (w.written path files) :=
  ⟨rfl, List.prefix_append _ _⟩

theorem follows_of_appendReply {item : WorkItem} {reply : String} {w after : World σ}
    (hdone : appendReply item reply w = .ok after) : Follows w after := by
  obtain ⟨files, -, rfl⟩ := appendReply_eq_ok.mp hdone
  exact follows_written w item.path files

/-- A worker takes no notice away. -/
theorem follows_step {g : Generator σ} (hsilent : g.backend.IsSilent) (item : WorkItem)
    (stage : Stage) (w : World σ) : Follows w (g.step item stage w).2 := by
  have hsame : Follows w w := ⟨rfl, List.prefix_refl _⟩
  unfold Generator.step
  cases stage with
  | reading =>
      dsimp only
      cases Session.read w.files item.path with
      | error cause => exact hsame
      | ok text =>
          dsimp only
          split
          · exact hsame
          · exact hsame
  | marking content =>
      dsimp only
      cases createSentinel w.files g.directory item.id with
      | error cause => exact hsame
      | ok files => exact follows_written w _ files
  | excusing cause =>
      dsimp only
      cases hdone : appendReply item (errorReply (": ".intercalate cause.chain)) w with
      | error failure => exact hsame
      | ok after => exact follows_of_appendReply hdone
  | generating content =>
      obtain ⟨host, hhost⟩ := hsilent (g.callFor content) w
      have hasked : Follows w (g.backend.ask (g.callFor content) w).2 := by
        rw [hhost]
        exact ⟨rfl, List.prefix_refl _⟩
      dsimp only
      generalize g.backend.ask (g.callFor content) w = asked at hasked
      obtain ⟨answer, after⟩ := asked
      cases answer <;> exact hasked
  | recording reply outcome =>
      dsimp only
      cases hdone : appendReply item reply w with
      | error failure => exact hsame
      | ok after => exact follows_of_appendReply hdone
  | unmarking appended outcome =>
      dsimp only
      cases removeSentinel w.files g.directory item.id with
      | error cause => exact hsame
      | ok files => exact ⟨rfl, List.prefix_refl _⟩
  | finished result => exact hsame
  | crashed => exact hsame

/-- A worker whose backend is steady does not go down. -/
theorem step_ne_crashed {g : Generator σ} (hsteady : g.backend.IsSteady) (item : WorkItem)
    {stage : Stage} (hstage : stage.isOver = false) (w : World σ) :
    (g.step item stage w).1 ≠ .crashed := by
  unfold Generator.step
  cases stage with
  | generating content =>
      have hanswer := hsteady (g.callFor content) w
      dsimp only
      generalize g.backend.ask (g.callFor content) w = asked at hanswer
      obtain ⟨answer, after⟩ := asked
      cases answer with
      | crash => exact absurd rfl hanswer
      | _ => simp
  | reading =>
      dsimp only
      split
      · simp
      · split <;> simp
  | finished _ | crashed => cases hstage
  | _ =>
      dsimp only
      split <;> simp

namespace Pool

variable {g : Generator σ} {worker : Nat} {p rest : Pool σ} {old new : Activity}
  {item : WorkItem}

/-- A session is in the queue, or a worker is on its way to it or to its reply. -/
def Minds (p : Pool σ) (item : WorkItem) : Prop :=
  item ∈ p.queue ∨ ∃ activity ∈ p.workers, activity.IsFor item

/-- A turn keeps a session minded if the worker that answers it, if that is the one, goes on to
the reply. -/
theorem Minds.of_turn (h : p.Minds item) (hworker : p.workers[worker]? = some old)
    (hturn : Turn g worker p old new rest)
    (hdue : old.isWorking = true → old.IsFor item → new.IsFor item) :
    (rest.become worker new).Minds item := by
  have hlt : worker < rest.workers.length :=
    hturn.workers_eq ▸ (List.getElem?_eq_some_iff.mp hworker).1
  have hnow (hfor : new.IsFor item) : (rest.become worker new).Minds item :=
    .inr ⟨new, List.mem_of_getElem? (i := worker) (List.getElem?_set_self hlt), hfor⟩
  rcases h with hqueued | ⟨activity, hactivity, hfor⟩
  · by_cases hsame : rest.queue = p.queue
    · exact .inl (hsame ▸ hqueued)
    · cases hturn with
      | took hold hqueue =>
          rw [hqueue] at hqueued
          rcases List.mem_cons.mp hqueued with rfl | hlater
          · exact hnow rfl
          · exact .inl hlater
      | _ => exact absurd rfl hsame
  · obtain ⟨i, hi⟩ := List.getElem?_of_mem hactivity
    by_cases hother : i = worker
    · subst hother
      obtain rfl : activity = old := Option.some.inj (hi.symm.trans hworker)
      apply hnow
      cases hturn with
      | opened => exact hfor
      | entered => exact ⟨hfor, rfl⟩
      | advanced | finished | crashed => exact hdue rfl hfor
      | took hold => rcases hold with rfl | rfl <;> cases hfor
      | stopped hold => rcases hold with ⟨rfl, -⟩ | rfl <;> cases hfor
      | _ => cases hfor
    · refine .inr ⟨activity, List.mem_of_getElem? (i := i) ?_, hfor⟩
      rw [become, List.getElem?_set_ne (Ne.symm hother), hturn.workers_eq, hi]

theorem Minds.enqueue (h : p.Minds item) (other : WorkItem) : (p.enqueue other).Minds item :=
  h.imp_left (List.mem_append_left _)

theorem minds_enqueue_self (p : Pool σ) (item : WorkItem) : (p.enqueue item).Minds item :=
  .inl (List.mem_append_right _ (List.mem_singleton_self _))

/-- Where somebody serves, somebody is left to take from the queue. -/
theorem isAlive_of_isServing (hstaffed : p.workers ≠ [])
    (hserving : ∀ activity ∈ p.workers, activity.IsServing) : p.isAlive = true := by
  obtain ⟨activity, hactivity⟩ := List.exists_mem_of_ne_nil _ hstaffed
  refine List.any_eq_true.mpr ⟨activity, hactivity, ?_⟩
  have hserves := hserving activity hactivity
  cases activity with
  | stopped | crashed => cases hserves
  | _ => rfl

/-- Nobody stops serving as long as nobody is told to. -/
theorem isServing_of_turn (hserving : ∀ activity ∈ p.workers, activity.IsServing)
    (hopen : p.closed = false) (hgoing : p.cancelled = false) (hsteady : g.backend.IsSteady)
    (hworker : p.workers[worker]? = some old) (hturn : Turn g worker p old new rest) :
    ∀ activity ∈ (rest.become worker new).workers, activity.IsServing := by
  have hold : old.IsServing := hserving old (List.mem_of_getElem? hworker)
  intro activity hactivity
  obtain ⟨i, hi⟩ := List.getElem?_of_mem hactivity
  rcases getElem?_become hi with ⟨rfl, rfl⟩ | ⟨-, hother⟩
  · cases hturn with
    | sought =>
        rw [hgoing]
        trivial
    | took | opened | finished | left => trivial
    | entered => rfl
    | advanced hstep hnext => exact hnext
    | stopped hstop =>
        rcases hstop with ⟨rfl, hclosed⟩ | rfl
        · rw [hopen] at hclosed
          cases hclosed
        · cases hold
    | warned _ _ hcancelled =>
        rw [hgoing] at hcancelled
        cases hcancelled
    | crashed hstep =>
        exact absurd (congrArg Prod.fst hstep) (step_ne_crashed hsteady _ hold p.world)
  · rw [hturn.workers_eq] at hother
    exact hserving activity (List.mem_of_getElem? hother)

end Pool

end FileChat.Worker
