/-
# No session is forgotten

The daemon never watches a session all the time: it listed some once, it hears of others when
they are closed, and it looks at them later. What keeps a session from being forgotten is that
at every moment one of these stands for it, from the list of names down to the worker that is
about to append. Where a notice was lost, the notice of that stands for all sessions, since the
daemon lists them again. The invariant says so, and is kept by each step of the daemon, of its
workers and of the clients, up to the moment at which the daemon is told to end.
-/

import FileChat.Proofs.Daemon.Rest

namespace FileChat

open Conversation FileSystem Session Worker

variable {σ : Type}

namespace Survey

/-- The sessions that were found and are not queued yet. -/
def items : Survey → List WorkItem
  | .unlisted => []
  | .looking _ _ items => items
  | .queueing items => items

/-- The session is still to be looked at or to be queued. -/
def Covers (directory : Path) (name : String) : Survey → Prop
  | .unlisted => True
  | .looking _ listed items => name ∈ listed ∨ itemOf directory name ∈ items
  | .queueing items => itemOf directory name ∈ items

end Survey

namespace Served

/-- What stands for a session: where it will be looked at from, or whose reply to it is coming. -/
inductive IsPending (directory : Path) (place : Location) (s : Served σ) (name : String) : Prop
  | surveyed (h : s.daemon.survey.Covers directory name)
  | written (h : ⟨name, true⟩ ∈ s.handles)
  | noticed (h : .closed (place ++ [name]) ∈ s.world.notices)
  | missed (h : .lost ∈ s.world.notices)
  | inHand (h : itemOf directory name ∈ s.daemon.inHand)
  | minded (h : s.daemon.pool.Minds (itemOf directory name))

/-- What holds of a daemon that was not told to end: everybody serves, there are only whole
lines, and something stands for each session that owes a reply. -/
structure IsAwake (g : Generator σ) (place : Location) (s : Served σ) : Prop where
  directory_eq : s.daemon.directory = g.directory
  holds : s.world.files.Holds g.directory place
  whole {name : String} :
    IsSessionName name → Utf8.IsWholeLines (s.world.files.bytesAt (place ++ [name]))
  watched : s.world.watched = some place
  watching : s.daemon.watching = true
  notClosed : s.daemon.pool.closed = false
  staffed : s.daemon.pool.workers ≠ []
  serving : ∀ activity ∈ s.daemon.pool.workers, activity.IsServing
  surveyed : ∀ item ∈ s.daemon.survey.items, IsItemOf g.directory item
  held : ∀ item ∈ s.daemon.inHand, IsItemOf g.directory item
  queued : ∀ item ∈ s.daemon.pool.queue, IsItemOf g.directory item
  busy : ∀ activity ∈ s.daemon.pool.workers, ∀ item, activity.item? = some item →
    IsItemOf g.directory item
  pending {name : String} :
    Owes g.directory place name s.world.files → IsPending g.directory place s name

variable {g : Generator σ} {place : Location} {s : Served σ}

/-- What stands for a session still does when others than the daemon did something. -/
theorem IsPending.inWorld {directory : Path} {name : String}
    (h : IsPending directory place s name) {world : World σ} {handles : List Handle}
    (hnotices : ∀ notice ∈ s.world.notices, notice ∈ world.notices)
    (hhandles : ⟨name, true⟩ ∈ s.handles →
      ⟨name, true⟩ ∈ handles ∨ .closed (place ++ [name]) ∈ world.notices) :
    IsPending directory place (s.inWorld world handles) name := by
  cases h with
  | surveyed h => exact .surveyed h
  | written h =>
      rcases hhandles h with hopen | hclosed
      · exact .written hopen
      · exact .noticed hclosed
  | noticed h => exact .noticed (hnotices _ h)
  | missed h => exact .missed (hnotices _ h)
  | inHand h => exact .inHand h
  | minded h => exact .minded h

namespace IsAwake

section Clients

/-- A client did something to the file of one session. -/
theorem of_differsAt (h : IsAwake g place s) {name : String} {files : FileSystem}
    {handles : List Handle} (hdiff : DiffersAt (place ++ [name]) s.world.files files)
    (hwhole : Utf8.IsWholeLines (files.bytesAt (place ++ [name])))
    (hown : Owes g.directory place name files → ⟨name, true⟩ ∈ handles)
    (hothers : ∀ other, other ≠ name → ⟨other, true⟩ ∈ s.handles → ⟨other, true⟩ ∈ handles) :
    IsAwake g place (s.inWorld { s.world with files } handles) :=
  { h with
    holds := hdiff.holds h.holds
    whole := by
      intro other hother
      by_cases hsame : other = name
      · exact hsame ▸ hwhole
      · have hbytes : files.bytesAt (place ++ [other]) = s.world.files.bytesAt (place ++ [other]) :=
          bytesAt_of_get?_eq (hdiff.get?_of_ne (by simpa using hsame))
        exact hbytes ▸ h.whole hother
    pending := by
      intro other howes
      by_cases hsame : other = name
      · subst hsame
        exact .written (hown howes)
      · have hbefore := howes.of_get?_eq h.holds (hdiff.get?_of_ne (by simpa using hsame))
        exact (h.pending hbefore).inWorld (fun _ => id)
          fun hopen => .inl (hothers other hsame hopen) }

theorem opened (h : IsAwake g place s) {name : String} {files : FileSystem}
    (hname : IsSessionName name)
    (hopen : s.world.files.appendOrCreate (Path.join g.directory name) [] = .ok files) :
    IsAwake g place (s.inWorld { s.world with files } (⟨name, true⟩ :: s.handles)) := by
  have hgrows := h.holds.grows_of_appendOrCreate hname.isName hopen
  apply h.of_differsAt hgrows.toDiffersAt
  · rw [hgrows.bytesAt_eq, List.append_nil]
    exact h.whole hname
  · exact fun _ => List.mem_cons_self
  · exact fun _ _ hother => List.mem_cons_of_mem _ hother

theorem wrote (h : IsAwake g place s) {name : String} {lines : Bytes} {files : FileSystem}
    (hname : IsSessionName name) (hhandle : ⟨name, true⟩ ∈ s.handles)
    (hlines : Utf8.IsWholeLines lines)
    (hwrite : s.world.files.append (Path.join g.directory name) lines = .ok files) :
    IsAwake g place (s.inWorld { s.world with files } s.handles) := by
  have hgrows := h.holds.grows_of_append hname.isName hwrite
  apply h.of_differsAt hgrows.toDiffersAt
  · rw [hgrows.bytesAt_eq]
    exact (h.whole hname).append hlines
  · exact fun _ => hhandle
  · exact fun _ _ hother => hother

/-- A session that is gone owes nothing. -/
theorem deleted (h : IsAwake g place s) {name : String} {files : FileSystem}
    (hname : IsSessionName name)
    (hdelete : s.world.files.remove (Path.join g.directory name) = .ok files) :
    IsAwake g place
      (s.inWorld { s.world with files } (s.handles.map (Handle.afterDelete name))) := by
  obtain ⟨-, bytes, executable, hfile, rfl⟩ := (h.holds.remove_join hname.isName).mp hdelete
  have hgone : (s.world.files.erase (place ++ [name])).get? (place ++ [name]) = none := by
    rw [get?_erase _ (by simp), if_pos rfl]
  apply h.of_differsAt (.erase (by simp) hfile)
  · rw [bytesAt, hgone]
    exact .inl rfl
  · rintro ⟨text, hfinds, -⟩
    obtain ⟨-, bytes, _, hthere, -⟩ := (hfinds.holds.readText_join hname.isName).mp hfinds.read
    rw [hgone] at hthere
    cases hthere
  · intro other hne hopen
    refine List.mem_map.mpr ⟨⟨other, true⟩, hopen, ?_⟩
    rw [Handle.afterDelete, if_neg hne]

/-- Who closes a session hands it over to the notice. -/
theorem closed (h : IsAwake g place s) (handle : Handle) :
    IsAwake g place
      (s.inWorld (s.world.noticing [.closed (place ++ [handle.name])])
        (s.handles.erase handle)) :=
  { h with
    pending := by
      intro name howes
      apply (h.pending howes).inWorld
      · exact fun notice hnotice => List.mem_append_left _ hnotice
      · intro hopen
        by_cases hsame : handle = ⟨name, true⟩
        · subst hsame
          have hwatched : s.world.isWatched (.closed (place ++ [name])) = true := by
            simp [World.isWatched, Notice.place?, h.watched]
          exact .inr (List.mem_append_right _
            (List.mem_filter.mpr ⟨List.mem_singleton_self _, hwatched⟩))
        · exact .inl ((List.mem_erase_of_ne (Ne.symm hsame)).mpr hopen) }

/-- A session whose notice was lost is not forgotten. -/
theorem overflowed (h : IsAwake g place s) {left : List Notice} (hlost : .lost ∈ left) :
    IsAwake g place (s.inWorld { s.world with notices := left } s.handles) :=
  { h with
    pending := by
      intro name howes
      cases h.pending howes with
      | surveyed hcovered => exact .surveyed hcovered
      | written hopen => exact .written hopen
      | noticed | missed => exact .missed hlost
      | inHand hitem => exact .inHand hitem
      | minded hminds => exact .minded hminds }

end Clients

section Survey

/-- The survey goes on. -/
theorem of_survey (h : IsAwake g place s) {survey : Survey}
    (hitems : ∀ item ∈ survey.items, IsItemOf g.directory item)
    (hcovers : ∀ name, Owes g.directory place name s.world.files →
      s.daemon.survey.Covers g.directory name → survey.Covers g.directory name) :
    IsAwake g place ⟨{ s.daemon with survey }, s.handles⟩ :=
  { h with
    surveyed := hitems
    pending := by
      intro name howes
      cases h.pending howes with
      | surveyed hcovered => exact .surveyed (hcovers name howes hcovered)
      | written hopen => exact .written hopen
      | noticed hnotice => exact .noticed hnotice
      | missed hlost => exact .missed hlost
      | inHand hitem => exact .inHand hitem
      | minded hminds => exact .minded hminds }

theorem listed (h : IsAwake g place s) {found : List String}
    (hlist : Session.names s.world.files s.daemon.directory = .ok found) :
    IsAwake g place ⟨{ s.daemon with survey := .looking false found [] }, s.handles⟩ := by
  rw [h.directory_eq] at hlist
  apply h.of_survey
  · simp [Survey.items]
  · rintro name ⟨text, hfinds, -⟩ -
    exact .inl (hfinds.mem_names hlist)

/-- A session that owes a reply is found when it is looked at. -/
theorem looked (h : IsAwake g place s) {again : Bool} {name : String} {later : List String}
    {items : List WorkItem} (hsurvey : s.daemon.survey = .looking again (name :: later) items) :
    IsAwake g place
      ⟨{ s.daemon with
          survey := .looking again later (items ++ (workItem? s.world.files s.daemon.directory
            (Path.join s.daemon.directory name)).toList) }, s.handles⟩ := by
  have hfound := h.surveyed
  rw [hsurvey] at hfound
  rw [h.directory_eq]
  apply h.of_survey
  · intro item hitem
    rcases List.mem_append.mp hitem with hbefore | hnew
    · exact hfound item hbefore
    · exact isItemOf_of_workItem? (Option.mem_toList.mp hnew)
  · rintro other ⟨text, hfinds, -⟩ hcovered
    rw [hsurvey] at hcovered
    rcases hcovered with hlisted | hbefore
    · rcases List.mem_cons.mp hlisted with rfl | hlater
      · rw [hfinds.workItem?_join]
        exact .inr (List.mem_append_right _ (List.mem_singleton_self _))
      · exact .inl hlater
    · exact .inr (List.mem_append_left _ hbefore)

theorem arranged (h : IsAwake g place s) {items : List WorkItem}
    (hsurvey : s.daemon.survey = .looking false [] items) :
    IsAwake g place ⟨{ s.daemon with survey := .queueing (inIdOrder items) }, s.handles⟩ := by
  have hfound := h.surveyed
  rw [hsurvey] at hfound
  apply h.of_survey
  · exact fun item hitem => hfound item (mem_inIdOrder.mp hitem)
  · intro name _ hcovered
    rw [hsurvey] at hcovered
    rcases hcovered with hnone | hitem
    · cases hnone
    · exact mem_inIdOrder.mpr hitem

/-- What was looked for again is in hand. -/
theorem rearranged (h : IsAwake g place s) {items : List WorkItem}
    (hsurvey : s.daemon.survey = .looking true [] items) :
    IsAwake g place
      ⟨{ s.daemon with survey := .queueing [], inHand := s.daemon.inHand ++ inIdOrder items },
        s.handles⟩ := by
  have hfound := h.surveyed
  rw [hsurvey] at hfound
  exact
    { h with
      surveyed := fun _ hitem => by cases hitem
      held := by
        intro item hitem
        rcases List.mem_append.mp hitem with hbefore | hnew
        · exact h.held item hbefore
        · exact hfound item (mem_inIdOrder.mp hnew)
      pending := by
        intro name howes
        cases h.pending howes with
        | surveyed hcovered =>
            rw [hsurvey] at hcovered
            rcases hcovered with hnone | hitem
            · cases hnone
            · exact .inHand (List.mem_append_right _ (mem_inIdOrder.mpr hitem))
        | written hopen => exact .written hopen
        | noticed hnotice => exact .noticed hnotice
        | missed hlost => exact .missed hlost
        | inHand hitem => exact .inHand (List.mem_append_left _ hitem)
        | minded hminds => exact .minded hminds }

end Survey

section Queue

theorem isAlive (h : IsAwake g place s) : s.daemon.pool.isAlive = true :=
  Pool.isAlive_of_isServing h.staffed h.serving

theorem queuedFound (h : IsAwake g place s) {item : WorkItem} {later : List WorkItem}
    (hsurvey : s.daemon.survey = .queueing (item :: later)) :
    IsAwake g place
      ⟨{ s.daemon with survey := .queueing later, pool := s.daemon.pool.enqueue item },
        s.handles⟩ := by
  have hfound : ∀ found ∈ item :: later, IsItemOf g.directory found := by
    have hitems := h.surveyed
    rwa [hsurvey] at hitems
  exact
    { h with
      surveyed := fun other hother => hfound other (List.mem_cons_of_mem _ hother)
      queued := by
        intro other hother
        rcases List.mem_append.mp hother with hbefore | hnew
        · exact h.queued other hbefore
        · exact hfound other (List.mem_singleton.mp hnew ▸ List.mem_cons_self)
      pending := by
        intro name howes
        cases h.pending howes with
        | surveyed hcovered =>
            rw [hsurvey] at hcovered
            rcases List.mem_cons.mp hcovered with rfl | hlater
            · exact .minded (Pool.minds_enqueue_self _ _)
            · exact .surveyed hlater
        | written hopen => exact .written hopen
        | noticed hnotice => exact .noticed hnotice
        | missed hlost => exact .missed hlost
        | inHand hitem => exact .inHand hitem
        | minded hminds => exact .minded (hminds.enqueue item) }

theorem queuedInHand (h : IsAwake g place s) {item : WorkItem} {later : List WorkItem}
    (hhand : s.daemon.inHand = item :: later) :
    IsAwake g place
      ⟨{ s.daemon with inHand := later, pool := s.daemon.pool.enqueue item }, s.handles⟩ := by
  have hheld : ∀ held ∈ item :: later, IsItemOf g.directory held := hhand ▸ h.held
  exact
    { h with
      held := fun other hother => hheld other (List.mem_cons_of_mem _ hother)
      queued := by
        intro other hother
        rcases List.mem_append.mp hother with hbefore | hnew
        · exact h.queued other hbefore
        · exact hheld other (List.mem_singleton.mp hnew ▸ List.mem_cons_self)
      pending := by
        intro name howes
        cases h.pending howes with
        | surveyed hcovered => exact .surveyed hcovered
        | written hopen => exact .written hopen
        | noticed hnotice => exact .noticed hnotice
        | missed hlost => exact .missed hlost
        | inHand hitem =>
            rw [hhand] at hitem
            rcases List.mem_cons.mp hitem with rfl | hlater
            · exact .minded (Pool.minds_enqueue_self _ _)
            · exact .inHand hlater
        | minded hminds => exact .minded (hminds.enqueue item) }

/-- A notice is heard when nothing is in hand, so that nothing is dropped for it. -/
theorem heard (h : IsAwake g place s) {notice : Notice} {later : List Notice}
    {items : List WorkItem} (hhand : s.daemon.inHand = [])
    (hnotices : s.world.notices = notice :: later) (hnotice : notice ≠ .lost)
    (hitems : items = match Event.ofNotice? s.daemon.directory notice with
      | some event => workItems s.world.files s.daemon.directory event
      | none => []) :
    IsAwake g place
      ⟨{ s.daemon.inWorld { s.world with notices := later } with inHand := items },
        s.handles⟩ := by
  rw [h.directory_eq] at hitems
  exact
    { h with
      held := by
        intro item hitem
        rw [hitems] at hitem
        cases hevent : Event.ofNotice? g.directory notice with
        | none =>
            rw [hevent] at hitem
            cases hitem
        | some event =>
            rw [hevent] at hitem
            exact mem_workItems hitem
      pending := by
        intro name howes
        cases h.pending howes with
        | surveyed hcovered => exact .surveyed hcovered
        | written hopen => exact .written hopen
        | missed hlost =>
            rw [hnotices] at hlost
            exact .missed ((List.mem_cons.mp hlost).resolve_left hnotice.symm)
        | noticed hclosed =>
            rw [hnotices] at hclosed
            rcases List.mem_cons.mp hclosed with rfl | hlater
            · obtain ⟨text, hfinds, -⟩ := howes
              obtain ⟨event, hevent, hitem⟩ := hfinds.exists_event
              rw [hevent] at hitems
              exact .inHand (hitems ▸ hitem)
            · exact .noticed hlater
        | inHand hitem =>
            rw [hhand] at hitem
            cases hitem
        | minded hminds => exact .minded hminds }

/-- The notice that notices were lost stands for all sessions, and so do their names. -/
theorem relisted (h : IsAwake g place s) {later : List Notice} {found : List String}
    (hlist : Session.names s.world.files s.daemon.directory = .ok found) :
    IsAwake g place
      ⟨{ s.daemon.inWorld { s.world with notices := later } with survey := .looking true found [] },
        s.handles⟩ := by
  rw [h.directory_eq] at hlist
  exact
    { h with
      surveyed := fun _ hitem => by cases hitem
      pending := by
        rintro name ⟨text, hfinds, -⟩
        exact .surveyed (.inl (hfinds.mem_names hlist)) }

/-- The directory can be listed at any time. -/
theorem names_ne_error (h : IsAwake g place s) {cause : StoreError} :
    Session.names s.world.files s.daemon.directory ≠ .error cause := by
  rw [h.directory_eq, Session.names, h.holds.opens.list_eq]
  intro hfailed
  cases hfailed

end Queue

section Workers

variable {worker : Nat} {old new : Activity} {rest : Pool σ}

/-- A worker took a turn, in which nobody came to owe a reply and the session that it answers,
if it owes one, was kept in mind. -/
theorem of_turn (h : IsAwake g place s) (hgoing : s.daemon.pool.cancelled = false)
    (hsteady : g.backend.IsSteady) (hworker : s.daemon.pool.workers[worker]? = some old)
    (hturn : Pool.Turn g worker s.daemon.pool old new rest)
    (hholds : rest.world.files.Holds g.directory place)
    (hwhole : ∀ name, IsSessionName name →
      Utf8.IsWholeLines (rest.world.files.bytesAt (place ++ [name])))
    (hfollows : Follows s.world rest.world)
    (howes : ∀ name, Owes g.directory place name rest.world.files →
      Owes g.directory place name s.world.files ∧
        (old.isWorking = true → old.IsFor (itemOf g.directory name) →
          new.IsFor (itemOf g.directory name))) :
    IsAwake g place ⟨{ s.daemon with pool := rest.become worker new }, s.handles⟩ :=
  { h with
    holds := hholds
    whole := fun {name} => hwhole name
    watched := hfollows.watched_eq.trans h.watched
    notClosed := hturn.closed_eq.trans h.notClosed
    staffed := by
      have hsame : rest.workers ≠ [] := hturn.workers_eq ▸ h.staffed
      simpa [Pool.become] using hsame
    serving := Pool.isServing_of_turn h.serving h.notClosed hgoing hsteady hworker hturn
    queued := fun item hitem => h.queued item (hturn.mem_queue hitem)
    busy := by
      intro activity hactivity item hitem
      obtain ⟨i, hi⟩ := List.getElem?_of_mem hactivity
      rcases hturn.exists_item? hworker hi hitem with ⟨before, hbefore, hthere⟩ | hqueued
      · exact h.busy before hbefore item hthere
      · exact h.queued item hqueued
    pending := by
      intro name hthere
      obtain ⟨hbefore, hdue⟩ := howes name hthere
      cases h.pending hbefore with
      | surveyed hcovered => exact .surveyed hcovered
      | written hopen => exact .written hopen
      | noticed hnotice => exact .noticed (hfollows.notices.subset hnotice)
      | missed hlost => exact .missed (hfollows.notices.subset hlost)
      | inHand hitem => exact .inHand hitem
      | minded hminds => exact .minded (hminds.of_turn hworker hturn hdue) }

/-- A worker that answers no session leaves everything else as it is. -/
theorem of_turn_idle (h : IsAwake g place s) (hgoing : s.daemon.pool.cancelled = false)
    (hsteady : g.backend.IsSteady) (hworker : s.daemon.pool.workers[worker]? = some old)
    (hturn : Pool.Turn g worker s.daemon.pool old new rest) (hidle : old.isWorking = false) :
    IsAwake g place ⟨{ s.daemon with pool := rest.become worker new }, s.handles⟩ := by
  obtain ⟨hworld, -⟩ := hturn.of_idle hidle
  apply h.of_turn hgoing hsteady hworker hturn
  · exact hworld ▸ h.holds
  · exact fun name hname => hworld ▸ h.whole hname
  · exact ⟨congrArg World.watched hworld, by rw [hworld]; exact List.prefix_refl _⟩
  · intro name howes
    rw [hworld] at howes
    refine ⟨howes, fun hworking => ?_⟩
    rw [hidle] at hworking
    cases hworking

/-- A worker that answers a session goes on to the reply as long as it is owed. -/
theorem of_turn_working (h : IsAwake g place s) (hgoing : s.daemon.pool.cancelled = false)
    (hsilent : g.backend.IsSilent) (hsteady : g.backend.IsSteady) {item : WorkItem}
    {lock : Lock} {stage : Stage}
    (hworker : s.daemon.pool.workers[worker]? = some (.working item lock stage))
    (hturn : Pool.Turn g worker s.daemon.pool (.working item lock stage) new rest) :
    IsAwake g place ⟨{ s.daemon with pool := rest.become worker new }, s.handles⟩ := by
  have hactivity := List.mem_of_getElem? hworker
  obtain ⟨id, hid, rfl⟩ := h.busy _ hactivity item rfl
  obtain ⟨hworld, -, hstays⟩ := hturn.of_working
  have hadvances : Advances g.directory place id s.world stage _ _ :=
    advances_step h.holds hid hsilent stage
  have hlives : (g.step (itemOf g.directory id) stage s.world).1 ≠ .crashed :=
    step_ne_crashed hsteady _ (h.serving _ hactivity) _
  apply h.of_turn hgoing hsteady hworker hturn
  · exact hworld ▸ hadvances.holds h.holds
  · intro name hname
    rw [hworld]
    exact hadvances.isWholeLines_bytesAt hid hname (h.whole hid) (h.whole hname)
  · exact hworld ▸ follows_step hsilent _ stage _
  · intro name howes
    rw [hworld] at howes
    refine ⟨hadvances.owes h.holds (h.whole hid) howes, ?_⟩
    rintro - ⟨hsame, hdue⟩
    obtain rfl : id = name := congrArg WorkItem.id hsame
    have hnext := hadvances.isDue (h.whole hid) howes hdue hlives
    rw [hstays (isOver_of_isDue hnext)]
    exact ⟨rfl, hnext⟩

theorem worked (h : IsAwake g place s) (hgoing : s.daemon.pool.cancelled = false)
    (hsilent : g.backend.IsSilent) (hsteady : g.backend.IsSteady) {pool : Pool σ}
    (hstep : s.daemon.pool.step? g worker = some pool) :
    IsAwake g place ⟨{ s.daemon with pool }, s.handles⟩ := by
  obtain ⟨old, new, rest, hworker, hturn, rfl⟩ := Pool.exists_turn hstep
  cases old with
  | working item lock stage => exact h.of_turn_working hgoing hsilent hsteady hworker hturn
  | _ => exact h.of_turn_idle hgoing hsteady hworker hturn rfl

end Workers

end IsAwake

/-- As long as the daemon is not told to end, every step keeps it awake. -/
theorem IsAwake.of_step (h : IsAwake g place s) (hgoing : s.daemon.pool.cancelled = false)
    (hsilent : g.backend.IsSilent) (hsteady : g.backend.IsSteady) {after : Served σ}
    (hstep : Step g place s after) (hafter : after.daemon.pool.cancelled = false) :
    IsAwake g place after := by
  cases hstep with
  | own hown hmove =>
      cases Daemon.move_of_step? hmove with
      | listed hsurvey hlist => exact h.listed hlist
      | looked hsurvey => exact h.looked hsurvey
      | arranged hsurvey => exact h.arranged hsurvey
      | rearranged hsurvey => exact h.rearranged hsurvey
      | queuedFound hsurvey => exact h.queuedFound hsurvey
      | queuedInHand hhand => exact h.queuedInHand hhand
      | gaveUp _ hdead | forsaken _ hdead =>
          rw [h.isAlive] at hdead
          cases hdead
      | heard _ _ hhand hnotices hnotice hitems => exact h.heard hhand hnotices hnotice hitems
      | relisted _ _ _ _ hlist => exact h.relisted hlist
      | notRelisted _ _ _ _ hlist => exact absurd hlist h.names_ne_error
      | worked hstep => exact h.worked hgoing hsilent hsteady hstep
      | cancelled => cases hafter
      | stopped hcancelled =>
          rw [hgoing] at hcancelled
          cases hcancelled
      | edited => exact absurd rfl (hown _)
  | opened hname hopen => exact h.opened hname hopen
  | wrote hname hhandle hlines hwrite => exact h.wrote hname hhandle hlines hwrite
  | closed => exact h.closed _
  | overflowed hlost => exact h.overflowed hlost
  | deleted hname hdelete => exact h.deleted hname hdelete

/-- Nobody takes back that the daemon was told to end. -/
theorem Step.cancelled {after : Served σ} (h : Step g place s after)
    (hcancelled : s.daemon.pool.cancelled = true) : after.daemon.pool.cancelled = true := by
  cases h with
  | own hown hmove =>
      cases Daemon.move_of_step? hmove with
      | cancelled => rfl
      | worked hstep =>
          obtain ⟨old, new, rest, -, hturn, rfl⟩ := Pool.exists_turn hstep
          exact hturn.cancelled_eq.trans hcancelled
      | edited => exact absurd rfl (hown _)
      | _ => exact hcancelled
  | _ => exact hcancelled

/-- A daemon that is not told to end stays awake. -/
theorem Reached.isAwake {begin : Served σ} (h : Reached g place begin s)
    (hbegin : IsAwake g place begin) (hsilent : g.backend.IsSilent)
    (hsteady : g.backend.IsSteady) (hgoing : s.daemon.pool.cancelled = false) :
    IsAwake g place s := by
  induction h with
  | start => exact hbegin
  | @step s after h hstep ih =>
      have hbefore : s.daemon.pool.cancelled = false := by
        cases hcancelled : s.daemon.pool.cancelled with
        | false => rfl
        | true =>
            rw [hstep.cancelled hcancelled] at hgoing
            cases hgoing
      exact (ih hbefore).of_step hbefore hsilent hsteady hstep hgoing

/-- In a quiet moment nothing can stand for a session any more. -/
theorem IsQuiet.not_isPending (h : IsQuiet s) {directory : Path} {name : String} :
    ¬ IsPending directory place s name := by
  rintro (hcovered | hopen | hnotice | hlost | hitem | hqueued | ⟨activity, hactivity, hfor⟩)
  · have hsurvey : s.daemon.survey = .queueing [] := by simpa [Daemon.isCaughtUp] using h.caughtUp
    rw [hsurvey] at hcovered
    cases hcovered
  · rw [h.handles] at hopen
    cases hopen
  · rw [h.notices] at hnotice
    cases hnotice
  · rw [h.notices] at hlost
    cases hlost
  · rw [h.inHand] at hitem
    cases hitem
  · rw [h.queue] at hqueued
    cases hqueued
  · have hidle := h.idle activity hactivity
    cases activity with
    | opening | entering | working => cases hidle
    | _ => cases hfor

section Subscription

variable {config : Config} {backend : Backend σ} {start : World σ}

/-- A daemon that has just subscribed is awake, whatever the clients have open: every session is
still to be listed. -/
theorem isAwake_subscribed (hholds : start.files.Holds config.directory place)
    (hwhole : ∀ name, IsSessionName name →
      Utf8.IsWholeLines (start.files.bytesAt (place ++ [name])))
    (hworkers : 0 < config.workers) (handles : List Handle) :
    IsAwake (Daemon.generatorOf config backend) place
      ⟨Daemon.subscribed config start, handles⟩ where
  directory_eq := rfl
  holds := hholds
  whole := fun {name} => hwhole name
  watched := hholds.locate?_eq
  watching := rfl
  notClosed := rfl
  staffed := by
    have hsome : List.replicate config.workers Activity.seeking ≠ [] := by simp; omega
    exact hsome
  serving activity hactivity := by
    rw [(List.mem_replicate.mp hactivity).2]
    trivial
  surveyed _ hitem := by cases hitem
  held _ hitem := by cases hitem
  queued _ hitem := by cases hitem
  busy activity hactivity item hitem := by
    rw [(List.mem_replicate.mp hactivity).2] at hitem
    cases hitem
  pending _ := .surveyed trivial

/-- In every quiet moment of a daemon and its clients no session owes a reply, whatever happened
before and in whatever order. -/
theorem Reached.needsResponse_eq_false {handles : List Handle}
    (h : Reached (Daemon.generatorOf config backend) place
      ⟨Daemon.subscribed config start, handles⟩ s)
    (hholds : start.files.Holds config.directory place)
    (hwhole : ∀ name, IsSessionName name →
      Utf8.IsWholeLines (start.files.bytesAt (place ++ [name])))
    (hworkers : 0 < config.workers) (hsilent : backend.IsSilent) (hsteady : backend.IsSteady)
    (hquiet : IsQuiet s) {name text : String} (hname : IsSessionName name)
    (hread : s.world.files.readText (Path.join config.directory name) = .ok text) :
    needsResponse text = false := by
  have hawake := h.isAwake (isAwake_subscribed hholds hwhole hworkers handles) hsilent hsteady
    hquiet.going
  cases howed : needsResponse text with
  | false => rfl
  | true =>
      have howes : Owes config.directory place name s.world.files :=
        ⟨text, ⟨hawake.holds, hname, hread⟩, howed⟩
      exact absurd (hawake.pending howes) hquiet.not_isPending

/-- A client says something in a session of a daemon at rest. That is noticed, and when the daemon
rests again no reply is owed. -/
theorem needsResponse_at_rest : ∃ (written rest : Served (List DryRun.Record)) (reply : String),
    Reached (Daemon.generatorOf smallConfig (DryRun.backend "/s" .echo [])) ["s"]
        (beginning "a" "User: Hello\nAssistant: Hello.\n" []) written ∧
      written.world.files.readText (Path.join smallConfig.directory "a") =
        .ok ("User: Hello\nAssistant: Hello.\n" ++ userLine "Wait") ∧
      needsResponse ("User: Hello\nAssistant: Hello.\n" ++ userLine "Wait") = true ∧
      .closed ["s", "a"] ∈ written.world.notices ∧
      Reached (Daemon.generatorOf smallConfig (DryRun.backend "/s" .echo [])) ["s"] written rest ∧
      IsQuiet rest ∧
      rest.world.files.readText (Path.join smallConfig.directory "a") =
        .ok ("User: Hello\nAssistant: Hello.\n" ++ userLine "Wait" ++ assistantLine reply) ∧
      needsResponse ("User: Hello\nAssistant: Hello.\n" ++ userLine "Wait" ++
        assistantLine reply) = false := by
  have hid : IsSessionName "a" := ⟨by decide, by decide⟩
  have hdirectory : smallConfig.directory = "/s" := by decide
  have hfinds := Finds.withFile hid (by decide) "User: Hello\nAssistant: Hello.\n"
  have hwhole (name : String) : Utf8.IsWholeLines ((withFile "a"
      (Utf8.encode "User: Hello\nAssistant: Hello.\n")).bytesAt (["s"] ++ [name])) := by
    rw [bytesAt_withFile]
    split
    · exact .inr (by decide)
    · exact .inl rfl
  have hsilent := DryRun.isSilent_backend "/s" .echo
  have hsteady : (DryRun.backend "/s" .echo []).IsSteady := DryRun.isSteady_backend _ (by decide) _
  obtain ⟨s, hreached, hrests, hhandles, hworld⟩ :=
    exists_rests (DryRun.backend "/s" .echo []) [] hfinds (by decide)
  rw [← hdirectory] at hfinds
  have hfound : Finds smallConfig.directory ["s"] "a" s.world.files
      "User: Hello\nAssistant: Hello.\n" := by
    rw [hworld]
    exact hfinds
  have hwatched : s.world.watched = some ["s"] := by
    rw [hworld]
    exact hfinds.holds.locate?_eq
  obtain ⟨written, rest, reply, hwritten, hnoticed, hsaid, hrest, hquiet, hreplied⟩ :=
    hrests.exists_round hreached hhandles (by rw [hworld]; rfl) hwatched hfound (.inr (by decide))
      "Wait" (by decide) (by decide) hsilent hsteady
  exact ⟨written, rest, reply, hwritten, hsaid.read, by decide, hnoticed, hrest, hquiet,
    hreplied.read, (hwritten.trans hrest).needsResponse_eq_false hfinds.holds
      (fun name _ => hwhole name) (by decide) hsilent hsteady hquiet hid hreplied.read⟩

end Subscription

end Served

end FileChat
