/-
# A daemon at rest

A daemon at rest waits for a notice, and its only worker for a session. A client that says
something in a session gives notice of it by closing the file. The daemon hears of it, the worker
answers, and what is noticed of the answer leads to nothing more: the daemon rests again. Each leg
of this round is one theorem, and the round is put together from them.
-/

import FileChat.Proofs.Daemon.Moves
import FileChat.Proofs.Daemon.Served
import FileChat.Proofs.Worker.Exclusion
import FileChat.Proofs.Worker.Settled

namespace FileChat

open Conversation FileSystem Session Worker

variable {σ : Type}

/-- Who closes an entry of a directory gives notice of it and of nothing else. -/
theorem FileSystem.Holds.mem_closing_join {fs : FileSystem} {directory : Path} {place : Location}
    {name : String} {notice : Notice} (h : fs.Holds directory place) (hname : Path.IsName name)
    (hnotice : notice ∈ fs.closing (Path.join directory name)) :
    notice = .closed (place ++ [name]) := by
  rw [closing, locate?, h.resolve_join hname] at hnotice
  cases hfound : fs.child directory place name with
  | error cause =>
      rw [hfound] at hnotice
      cases hnotice
  | ok reached =>
      rw [hfound] at hnotice
      cases reached with
      | vacant => cases hnotice
      | found spot entry =>
          obtain ⟨-, rfl, -⟩ := child_eq_found_iff.mp hfound
          exact List.mem_singleton.mp hnotice

/-- The directory of a session is watched, and all that was noticed there and not heard yet is
that the session or its sentinel was closed. -/
structure World.Announces (place : Location) (id : String) (w : World σ) : Prop where
  watched_eq : w.watched = some place
  isAbout : ∀ notice ∈ w.notices,
    notice = .closed (place ++ [id]) ∨ notice = .closed (place ++ [sentinelName id])

namespace World.Announces

variable {g : Generator σ} {place : Location} {id : String} {w : World σ}

theorem withFiles (h : w.Announces place id) (files : FileSystem) :
    World.Announces place id { w with files } :=
  ⟨h.watched_eq, h.isAbout⟩

theorem withHost (h : w.Announces place id) (host : σ) :
    World.Announces place id { w with host } :=
  ⟨h.watched_eq, h.isAbout⟩

theorem tail (h : w.Announces place id) {notice : Notice} {later : List Notice}
    (hnotices : w.notices = notice :: later) :
    World.Announces place id { w with notices := later } :=
  ⟨h.watched_eq, fun other hother => h.isAbout other (hnotices ▸ List.mem_cons_of_mem _ hother)⟩

/-- Writing the session or its sentinel announces just that. -/
theorem written (h : w.Announces place id) {directory : Path} {files : FileSystem} {name : String}
    (hfs : files.Holds directory place) (hname : Path.IsName name)
    (hof : name = id ∨ name = sentinelName id) :
    (w.written (Path.join directory name) files).Announces place id where
  watched_eq := h.watched_eq
  isAbout notice hnotice := by
    rcases List.mem_append.mp hnotice with hbefore | hnew
    · exact h.isAbout notice hbefore
    · obtain rfl := hfs.mem_closing_join hname (List.mem_filter.mp hnew).1
      rcases hof with rfl | rfl
      · exact .inl rfl
      · exact .inr rfl

theorem appendReply (h : w.Announces place id) {directory : Path} {reply : String}
    {after : World σ} (hfs : w.files.Holds directory place) (hid : IsSessionName id)
    (hdone : Worker.appendReply (itemOf directory id) reply w = .ok after) :
    after.Announces place id := by
  have hholds := (appends_of_appendReply hfs hid hdone).holds hfs
  obtain ⟨files, -, rfl⟩ := appendReply_eq_ok.mp hdone
  exact h.written hholds hid.isName (.inl rfl)

/-- What a worker does to a session announces nothing else. -/
theorem step (h : w.Announces place id) (hfs : w.files.Holds g.directory place)
    (hid : IsSessionName id) (hsilent : g.backend.IsSilent) (stage : Stage) :
    (g.step (itemOf g.directory id) stage w).2.Announces place id := by
  unfold Generator.step
  cases stage with
  | reading =>
      dsimp only
      split
      · exact h
      · split <;> exact h
  | marking content =>
      dsimp only
      split
      · exact h
      · next files hmark =>
          have hholds := (differsAt_of_createSentinel hfs hid.noSlash hmark).holds hfs
          exact h.written hholds (isName_sentinelName hid.noSlash) (.inr rfl)
  | excusing cause | recording reply outcome =>
      dsimp only
      split
      · exact h
      · next after hdone => exact h.appendReply hfs hid hdone
  | generating content =>
      obtain ⟨host, hhost⟩ := hsilent (g.callFor content) w
      have hasked : (g.backend.ask (g.callFor content) w).2.Announces place id :=
        hhost ▸ h.withHost host
      dsimp only
      generalize g.backend.ask (g.callFor content) w = asked at hasked
      obtain ⟨answer, after⟩ := asked
      cases answer <;> exact hasked
  | unmarking appended outcome =>
      dsimp only
      split
      · exact h
      · exact h.withFiles _
  | finished result => exact h
  | crashed => exact h

theorem steps (n : Nat) (h : w.Announces place id) (hfs : w.files.Holds g.directory place)
    (hid : IsSessionName id) (hsilent : g.backend.IsSilent) (stage : Stage) :
    (g.steps (itemOf g.directory id) n (stage, w)).2.Announces place id := by
  induction n generalizing stage w with
  | zero => exact h
  | succ n ih =>
      rw [steps_succ]
      exact ih (h.step hfs hid hsilent stage) ((advances_step hfs hid hsilent stage).holds hfs) _

end World.Announces

namespace Worker

variable {g : Generator σ} {item : WorkItem} {w after : World σ}
  {result : Except StoreError Outcome}

/-- A session that is answered is at the end of its steps. -/
theorem steps_of_process (h : g.process item w = (some result, after)) :
    g.steps item Generator.maxSteps (.reading, w) = (.finished result, after) := by
  unfold Generator.process at h
  generalize g.steps item Generator.maxSteps (.reading, w) = reached at h
  obtain ⟨stage, world⟩ := reached
  cases stage with
  | finished told =>
      obtain ⟨htold, rfl⟩ := Prod.mk.inj h
      rw [Option.some.inj htold]
  | _ => cases h

/-- The only worker of a pool waits for the receiving end of the queue. Nobody holds that, and
nobody holds a lock. -/
structure Pool.IsFree (p : Pool σ) : Prop where
  workers : p.workers = [.seeking]
  receiver : p.receiver = none
  held : p.locks.held = []
  going : p.cancelled = false

end Worker

namespace Served

/-- The daemon waits for a notice, and its only worker for a session. -/
structure Rests (g : Generator σ) (s : Served σ) : Prop where
  directory_eq : s.daemon.directory = g.directory
  watching : s.daemon.watching = true
  room : 0 < s.daemon.capacity
  survey : s.daemon.survey = .queueing []
  inHand : s.daemon.inHand = []
  queue : s.daemon.pool.queue = []
  free : s.daemon.pool.IsFree

variable {g : Generator σ} {place : Location} {begin s after : Served σ}

/-- What comes of something that came of a beginning came of that. -/
theorem Reached.trans (h : Reached g place begin s) (hafter : Reached g place s after) :
    Reached g place begin after := by
  induction hafter with
  | start => exact h
  | step _ hstep ih => exact ih.step hstep

/-- A move of the daemon itself. -/
theorem Reached.own (h : Reached g place begin s) {label : Daemon.Label} {daemon : Daemon σ}
    (hmove : Daemon.Move g s.daemon label daemon) (hown : ∀ e, label ≠ .edit e) :
    Reached g place begin ⟨daemon, s.handles⟩ :=
  h.step (.own hown hmove.step?_eq)

/-- A turn of a worker. -/
theorem Reached.turn (h : Reached g place begin s) (worker : Nat) {old new : Activity}
    {rest : Pool σ} (hworker : s.daemon.pool.workers[worker]? = some old)
    (hturn : Pool.Turn g worker s.daemon.pool old new rest) :
    Reached g place begin ⟨{ s.daemon with pool := rest.become worker new }, s.handles⟩ :=
  h.own (.worked (hturn.step?_eq hworker)) (by simp)

section Worker

variable {item : WorkItem} {result : Except StoreError Outcome} {world : World σ}

/-- The only worker takes the steps that are left at its session. -/
theorem Reached.finished (n : Nat) {lock : Lock} {stage : Stage} (h : Reached g place begin s)
    (hworkers : s.daemon.pool.workers = [.working item lock stage]) (hstage : stage.isOver = false)
    (hsteps : g.steps item n (stage, s.world) = (.finished result, world)) :
    Reached g place begin ⟨{ s.daemon with
      pool := { s.daemon.pool with
        world
        locks := s.daemon.pool.locks.leave lock
        workers := [.leaving item lock] } }, s.handles⟩ := by
  induction n generalizing s stage with
  | zero =>
      obtain ⟨rfl, -⟩ := Prod.mk.inj hsteps
      cases hstage
  | succ n ih =>
      have hworker : s.daemon.pool.workers[0]? = some (.working item lock stage) := by
        rw [hworkers]
        rfl
      have hset (new : Activity) : s.daemon.pool.workers.set 0 new = [new] := by
        rw [hworkers]
        rfl
      obtain ⟨next, between, hstep⟩ : ∃ next between,
          g.step item stage s.daemon.pool.world = (next, between) := ⟨_, _, rfl⟩
      rw [steps_succ, Served.world, hstep] at hsteps
      cases hnext : next.isOver with
      | true =>
          rw [steps_of_isOver item hnext] at hsteps
          obtain ⟨rfl, rfl⟩ := Prod.mk.inj hsteps
          have hlast := h.turn 0 hworker (.finished hstep)
          rwa [Pool.become, hset] at hlast
      | false =>
          have hmore := h.turn 0 hworker (.advanced hstep hnext)
          rw [Pool.become, hset] at hmore
          have hdone := ih hmore rfl hnext hsteps
          exact hdone

/-- The only worker takes a session from the queue, answers it, and is free again. -/
theorem Reached.exists_served (h : Reached g place begin s) (hfree : s.daemon.pool.IsFree)
    {later : List WorkItem} (hqueue : s.daemon.pool.queue = item :: later)
    (hprocess : g.process item s.world = (some result, world)) :
    ∃ pool, Reached g place begin ⟨{ s.daemon with pool }, s.handles⟩ ∧ pool.IsFree ∧
      pool.queue = later ∧ pool.world = world := by
  obtain ⟨⟨⟨files, queue, closed, cancelled, receiver, locks, workers⟩, directory, capacity,
    survey, inHand, watching⟩, handles⟩ := s
  obtain ⟨rfl, rfl, hheld, rfl⟩ := hfree
  obtain rfl := hqueue
  have henter : (locks.take item.id).2.enter? (locks.take item.id).1 =
      some { (locks.take item.id).2 with held := [(locks.take item.id).1] } := by
    rw [Locks.enter?, Locks.held_take, hheld, if_neg (by simp)]
  have hsought := h.turn 0 rfl (.sought rfl)
  have htook := hsought.turn 0 rfl (.took (.inl rfl) rfl)
  have hopened := htook.turn 0 rfl .opened
  have hentered := hopened.turn 0 rfl (.entered henter)
  have hfinished := hentered.finished Generator.maxSteps rfl rfl (steps_of_process hprocess)
  have hleft := hfinished.turn 0 rfl .left
  refine ⟨_, hleft, ⟨rfl, rfl, ?_, rfl⟩, rfl, rfl⟩
  exact (Locks.held_release _ _ _).trans (List.erase_cons_head _ _)

end Worker

namespace Rests

theorem isQuiet (h : Rests g s) (hhandles : s.handles = []) (hnotices : s.world.notices = []) :
    IsQuiet s where
  going := h.free.going
  caughtUp := by simpa [Daemon.isCaughtUp] using h.survey
  handles := hhandles
  notices := hnotices
  inHand := h.inHand
  queue := h.queue
  idle activity hactivity := by
    rw [h.free.workers] at hactivity
    obtain rfl := List.mem_singleton.mp hactivity
    rfl

/-- The daemon does not notice what is done to its world before it listens. -/
theorem inWorld (h : Rests g s) (world : World σ) (handles : List Handle) :
    Rests g (s.inWorld world handles) :=
  ⟨h.directory_eq, h.watching, h.room, h.survey, h.inHand, h.queue, h.free.workers,
    h.free.receiver, h.free.held, h.free.going⟩

section Hearing

variable {name : String} {later : List Notice}

/-- The daemon hears that a file of its directory was closed. -/
theorem heard (h : Rests g s) (hreached : Reached g place begin s)
    (hnotices : s.world.notices = .closed (place ++ [name]) :: later) :
    Reached g place begin
      ⟨{ s.daemon.inWorld { s.world with notices := later } with
        inHand := (workItem? s.world.files g.directory (Path.join g.directory name)).toList },
      s.handles⟩ := by
  refine hreached.own (.heard h.watching ?_ h.inHand hnotices (by simp) ?_) (by simp)
  · simpa [Daemon.isCaughtUp] using h.survey
  · rw [h.directory_eq, ofNotice?_closed]
    exact workItems_closed.symm

/-- A file that is no session is nothing to the daemon. -/
theorem ignored (h : Rests g s) (hreached : Reached g place begin s)
    (hnotices : s.world.notices = .closed (place ++ [name]) :: later)
    (hnone : workItem? s.world.files g.directory (Path.join g.directory name) = none) :
    Reached g place begin (s.inWorld { s.world with notices := later } s.handles) := by
  have hheard := h.heard hreached hnotices
  rw [hnone] at hheard
  rwa [Option.toList_none, Daemon.inWorld_of_inHand h.inHand] at hheard

/-- A session is answered. -/
theorem exists_answered (h : Rests g s) (hreached : Reached g place begin s)
    (hnotices : s.world.notices = .closed (place ++ [name]) :: later)
    {item : WorkItem} {result : Except StoreError Outcome} {world : World σ}
    (hitem : workItem? s.world.files g.directory (Path.join g.directory name) = some item)
    (hprocess : g.process item { s.world with notices := later } = (some result, world)) :
    ∃ after, Reached g place begin after ∧ Rests g after ∧ after.world = world ∧
      after.handles = s.handles := by
  have hheard := h.heard hreached hnotices
  rw [hitem] at hheard
  have halive : s.daemon.pool.isAlive = true := by
    rw [Pool.isAlive, h.free.workers]
    rfl
  have hroom : s.daemon.hasRoom = true := by
    rw [Daemon.hasRoom, h.queue]
    simpa using h.room
  have hqueued := hheard.own (.queuedInHand rfl halive hroom) (by simp)
  have hqueue : s.daemon.pool.queue ++ [item] = [item] := by rw [h.queue, List.nil_append]
  obtain ⟨pool, hserved, hfree, hempty, rfl⟩ := hqueued.exists_served
    ⟨h.free.workers, h.free.receiver, h.free.held, h.free.going⟩ hqueue hprocess
  exact ⟨_, hserved, ⟨h.directory_eq, h.watching, h.room, h.survey, rfl, hempty, hfree⟩, rfl, rfl⟩

end Hearing

section Round

variable {id text : String}

/-- What is still to be heard about a session that owes nothing leads to nothing. -/
theorem exists_settled (h : Rests g s) (hreached : Reached g place begin s)
    (hannounces : s.world.Announces place id)
    (hfinds : Finds g.directory place id s.world.files text)
    (hnothing : needsResponse text = false) :
    ∃ after, Reached g place begin after ∧ Rests g after ∧ after.handles = s.handles ∧
      after.world = { s.world with notices := [] } := by
  induction hnotices : s.world.notices generalizing s with
  | nil => exact ⟨s, hreached, h, rfl, by rw [← hnotices]⟩
  | cons notice later ih =>
      have hlater := hannounces.tail hnotices
      rcases hannounces.isAbout notice (hnotices ▸ List.mem_cons_self) with rfl | rfl
      · have hskipped : g.process (itemOf g.directory id) { s.world with notices := later } =
            (some (.ok .skipped), { s.world with notices := later }) :=
          process_of_not_owed hfinds.read hnothing
        obtain ⟨next, hnext, hrests, hworld, hhandles⟩ :=
          h.exists_answered hreached hnotices hfinds.workItem?_join hskipped
        obtain ⟨after, hafter, hrests', hhandles', hworld'⟩ := ih hrests hnext
          (by rwa [hworld]) (by rwa [hworld]) (by rw [hworld])
        exact ⟨after, hafter, hrests', hhandles'.trans hhandles, by rw [hworld', hworld]⟩
      · have hhidden : workItem? s.world.files g.directory
            (Path.join g.directory (sentinelName id)) = none :=
          workItem?_eq_none (Path.fileName?_join (isName_sentinelName hfinds.session.noSlash))
            (isHiddenName_sentinelName id)
        have hignored := ih (h.inWorld _ _) (h.ignored hreached hnotices hhidden) hlater hfinds rfl
        exact hignored

/-- A client says something in a session that is there, and closes it. -/
theorem exists_said (h : Rests g s) (hreached : Reached g place begin s)
    (hwatched : s.world.watched = some place)
    (hfinds : Finds g.directory place id s.world.files text) (message : String) :
    ∃ after, Reached g place begin after ∧ Rests g after ∧ after.handles = s.handles ∧
      after.world.watched = some place ∧
      after.world.notices = s.world.notices ++ [.closed (place ++ [id])] ∧
      Finds g.directory place id after.world.files (text ++ userLine message) := by
  obtain ⟨opened, hopen, hsame⟩ := hfinds.exists_opened
  obtain ⟨said, hsay, hsaid⟩ := hsame.exists_appended (userLine message)
  have hopened := hreached.step (.opened hfinds.session hopen)
  have hwrote := hopened.step (.wrote hfinds.session List.mem_cons_self
    (Utf8.isWholeLines_encode_append_lineFeed _) hsay)
  have hclosed := hwrote.step (.closed List.mem_cons_self)
  refine ⟨_, hclosed, h.inWorld _ _, List.erase_cons_head _ _, hwatched, ?_, hsaid⟩
  have hheard : s.world.isWatched (.closed (place ++ [id])) = true := by
    simp [World.isWatched, Notice.place?, hwatched]
  show s.world.notices ++ List.filter s.world.isWatched _ = _
  rw [List.filter_cons_of_pos hheard, List.filter_nil]

/-- A client says something in a session of a daemon at rest. The daemon notices it, answers, and
rests again. -/
theorem exists_round (h : Rests g s) (hreached : Reached g place begin s)
    (hhandles : s.handles = []) (hnotices : s.world.notices = [])
    (hwatched : s.world.watched = some place)
    (hfinds : Finds g.directory place id s.world.files text)
    (hlines : Text.IsWholeLines text.toList) (message : String) (hfeed : '\n' ∉ message.toList)
    (hreturn : '\r' ∉ message.toList) (hsilent : g.backend.IsSilent)
    (hsteady : g.backend.IsSteady) :
    ∃ written rest reply, Reached g place begin written ∧
      .closed (place ++ [id]) ∈ written.world.notices ∧
      Finds g.directory place id written.world.files (text ++ userLine message) ∧
      Reached g place written rest ∧ IsQuiet rest ∧
      Finds g.directory place id rest.world.files
        (text ++ userLine message ++ assistantLine reply) := by
  obtain ⟨written, hwritten, htold, hheld, hwatching, hnoticed, hsaid⟩ :=
    h.exists_said hreached hwatched hfinds message
  rw [hnotices, List.nil_append] at hnoticed
  have howed := needsResponse_append_userLine hlines hfeed hreturn
  obtain ⟨reply, outcome, world, hprocess, -, hreplied⟩ :=
    exists_process_of_owed (w := { written.world with notices := [] }) hsaid hsilent hsteady howed
  have hannounces : world.Announces place id := by
    have hsteps := steps_of_process hprocess
    have hbefore : World.Announces place id { written.world with notices := [] } :=
      ⟨hwatching, nofun⟩
    have hafter := hbefore.steps Generator.maxSteps hsaid.holds hsaid.session hsilent .reading
    rwa [hsteps] at hafter
  obtain ⟨answered, hanswered, hwaits, rfl, hwaited⟩ :=
    htold.exists_answered .start hnoticed hsaid.workItem?_join hprocess
  have hwhole : Text.IsWholeLines (text ++ userLine message).toList := by
    rw [String.toList_append, toList_userLine, ← List.append_assoc]
    exact Text.isWholeLines_append_lineFeed _
  obtain ⟨rest, hrest, hrests, hkept, hworld⟩ := hwaits.exists_settled hanswered
    hannounces hreplied (needsResponse_append_assistantLine hwhole reply)
  refine ⟨written, rest, reply, hwritten, ?_, hsaid, hrest, hrests.isQuiet ?_ ?_, ?_⟩
  · rw [hnoticed]
    exact List.mem_singleton_self _
  · rw [hkept, hwaited, hheld, hhandles]
  · rw [hworld]
  · rwa [hworld]

end Round

end Rests

/-- What a daemon in the directory of a small tree is told. -/
def smallConfig : Config := { Config.standard with mount := "/", subdirectory := "s" }

/-- A daemon in that directory, in which there is one session. -/
def beginning (id text : String) (host : σ) : Served σ :=
  ⟨Daemon.subscribed smallConfig (.start (withFile id (Utf8.encode text)) host), []⟩

/-- A daemon with one session, which is answered, looks at it and comes to rest. -/
theorem exists_rests (backend : Backend σ) (host : σ) {id text : String}
    (hfinds : Finds "/s" ["s"] id (withFile id (Utf8.encode text)) text)
    (hnothing : needsResponse text = false) :
    ∃ s, Reached (Daemon.generatorOf smallConfig backend) ["s"] (beginning id text host) s ∧
      Rests (Daemon.generatorOf smallConfig backend) s ∧ s.handles = [] ∧
      s.world = (beginning id text host).world := by
  have hdirectory : (beginning id text host).daemon.directory = "/s" := by
    change smallConfig.directory = "/s"
    decide
  have hroom : 0 < (beginning id text host).daemon.capacity := by
    change 0 < smallConfig.queueCapacity
    decide
  have hfiles : (beginning id text host).world.files = withFile id (Utf8.encode text) := rfl
  rw [← hdirectory, ← hfiles] at hfinds
  have hlist : Session.names (beginning id text host).world.files
      (beginning id text host).daemon.directory = .ok [id] := by
    rw [Session.names, during_eq_ok, hfinds.holds.list_eq, hfiles, names_withFile]
  have hfound : inIdOrder ([] ++ (workItem? (beginning id text host).world.files
      (beginning id text host).daemon.directory
      (Path.join (beginning id text host).daemon.directory id)).toList) =
        [itemOf (beginning id text host).daemon.directory id] := by
    rw [hfinds.workItem?_join]
    exact List.mergeSort_singleton _
  have hstart : Reached (Daemon.generatorOf smallConfig backend) ["s"]
      (beginning id text host) _ := .start
  have hlisted := hstart.own (.listed rfl hlist) (by simp)
  have hlooked := hlisted.own (.looked rfl) (by simp)
  have harranged := hlooked.own (.arranged rfl) (by simp)
  have hqueued := harranged.own (.queuedFound (congrArg Survey.queueing hfound) rfl rfl) (by simp)
  have hskipped := process_of_not_owed (g := Daemon.generatorOf smallConfig backend)
    (w := (beginning id text host).world) hfinds.read hnothing
  obtain ⟨pool, hserved, hfree, hempty, hworld⟩ :=
    hqueued.exists_served ⟨rfl, rfl, rfl, rfl⟩ rfl hskipped
  exact ⟨_, hserved, ⟨rfl, rfl, hroom, rfl, rfl, hempty, hfree⟩, rfl, hworld⟩

end Served

end FileChat
