/-
# A pool does what one worker would do

However many workers there are, in whatever order sessions are queued, however often, and however
the steps of the workers interleave: what is left when all are processed is what is left when each
session is processed once, one after the other, and the backend was asked once about each session
that owed a reply. Sessions do not meet, and each stands somewhere on its own path, which only the
worker that has it to itself takes it along.
-/

import FileChat.Proofs.Worker.Workload
import Mathlib.Logic.Relation

namespace FileChat.Worker

open Conversation FileSystem Session

variable {σ : Type}

namespace Workload

/-- How things stand with all sessions, and which of them the backend was asked about. -/
structure Conducted (g : Generator σ) (answer : String → Answer) (calls : σ → List Call)
    (place : Location) (world : World σ) (texts : String → String) (ids : List String)
    (l : Workload σ) (asked : List String) : Prop where
  holds : l.files.Holds g.directory place
  guarded : l.pool.Guarded
  others {location : Location} : (∀ id ∈ ids, ¬ IsOf place id location) →
    l.files.get? location = world.files.get? location
  queued {item : WorkItem} : item ∈ l.unsent ∨ item ∈ l.pool.queue →
    ∃ id ∈ ids, item = itemOf g.directory id
  busy {activity : Activity} {item : WorkItem} : activity ∈ l.pool.workers →
    activity.item? = some item → ∃ id ∈ ids, item = itemOf g.directory id
  standing : ∀ id ∈ ids, Standing g answer place world.files id (texts id) l asked
  once : asked.Nodup
  listed : ∀ id ∈ asked, id ∈ ids ∧ needsResponse (texts id) = true
  calls_eq : calls l.pool.world.host =
    calls world.host ++ asked.map fun id => g.callFor (texts id)

variable {g : Generator σ} {answer : String → Answer} {calls : σ → List Call}
  {place : Location} {world : World σ} {texts : String → String} {ids asked : List String}
  {l after : Workload σ}

namespace Conducted

/-- In the beginning nobody has touched anything. -/
theorem start (hholds : world.files.Holds g.directory place) (workers : Nat)
    {items : List WorkItem}
    (hitems : ∀ item, item ∈ items ↔ ∃ id ∈ ids, item = itemOf g.directory id) :
    Conducted g answer calls place world texts ids (start workers items world) [] where
  holds := hholds
  guarded := Pool.guarded_start workers world
  others _ := rfl
  queued hitem := by
    rcases hitem with hunsent | hqueued
    · exact (hitems _).mp hunsent
    · cases hqueued
  busy hactivity hitem := by
    obtain ⟨-, rfl⟩ := List.mem_replicate.mp hactivity
    cases hitem
  standing id hid := by
    refine .untouched (fun _ _ => rfl) List.not_mem_nil (fun hat => ?_) fun _ => .inl ?_
    · obtain ⟨item, lock, hworker, -⟩ := hat
      cases (List.mem_replicate.mp (List.mem_of_getElem? hworker)).2
    · exact (hitems _).mpr ⟨id, hid, rfl⟩
  once := List.nodup_nil
  listed id hid := by cases hid
  calls_eq := (List.append_nil _).symm

/-- What touches neither the world nor the workers only has to keep the sessions minded. -/
theorem of_queue (h : Conducted g answer calls place world texts ids l asked)
    (hworld : after.pool.world = l.pool.world) (hworkers : after.pool.workers = l.pool.workers)
    (hlocks : after.pool.locks = l.pool.locks)
    (hqueued : ∀ item, item ∈ after.unsent ∨ item ∈ after.pool.queue →
      item ∈ l.unsent ∨ item ∈ l.pool.queue)
    (hminds : ∀ item, l.Minds item → after.Minds item) :
    Conducted g answer calls place world texts ids after asked := by
  have hfiles : after.files = l.files := congrArg World.files hworld
  refine ⟨hfiles ▸ h.holds, h.guarded.of_eq hworkers hlocks, fun hapart => hfiles ▸ h.others hapart,
    fun hitem => h.queued (hqueued _ hitem), fun hactivity => h.busy (hworkers ▸ hactivity),
    fun id hid => ?_, h.once, h.listed, hworld ▸ h.calls_eq⟩
  refine (h.standing id hid).of_same (fun _ _ => by rw [hfiles]) Iff.rfl (fun hat => .inr ?_)
    (fun hat => ?_) (hminds _)
  · rwa [IsAt, ← hworkers]
  · rwa [IsAt, hworkers]

section Turn

variable {worker : Nat} {old new : Activity} {rest : Pool σ}

/-- After a turn too, only sessions that are listed are queued or answered. -/
theorem listed_of_turn (h : Conducted g answer calls place world texts ids l asked)
    (hworker : l.pool.workers[worker]? = some old)
    (hturn : Pool.Turn g worker l.pool old new rest) :
    (∀ {item}, item ∈ l.unsent ∨ item ∈ rest.queue → ∃ id ∈ ids, item = itemOf g.directory id) ∧
    ∀ {activity item}, activity ∈ (rest.become worker new).workers →
      activity.item? = some item → ∃ id ∈ ids, item = itemOf g.directory id := by
  refine ⟨fun hitem => h.queued (hitem.imp_right hturn.mem_queue), fun hactivity hitem => ?_⟩
  obtain ⟨i, hi⟩ := List.getElem?_of_mem hactivity
  rcases hturn.exists_item? hworker hi hitem with ⟨before, hbefore, hthere⟩ | hqueued
  · exact h.busy hbefore hthere
  · exact h.queued (.inr hqueued)

/-- A turn keeps a session minded if the worker that answers it, if that is the one, goes on to
the reply. -/
theorem minds_turned {item : WorkItem} (h : l.Minds item)
    (hworker : l.pool.workers[worker]? = some old)
    (hturn : Pool.Turn g worker l.pool old new rest)
    (hdue : old.isWorking = true → old.IsFor item → new.IsFor item) :
    (l.turned rest worker new).Minds item :=
  h.imp_right fun hminded => hminded.of_turn hworker hturn hdue

/-- A turn of a worker that answers no session. -/
theorem of_idle (h : Conducted g answer calls place world texts ids l asked)
    (hworker : l.pool.workers[worker]? = some old)
    (hturn : Pool.Turn g worker l.pool old new rest)
    (hguarded : (rest.become worker new).Guarded) (hidle : old.isWorking = false) :
    Conducted g answer calls place world texts ids (l.turned rest worker new) asked := by
  obtain ⟨hqueued, hbusy⟩ := h.listed_of_turn hworker hturn
  have hworld := (hturn.of_idle hidle).1
  have hfiles : (l.turned rest worker new).files = l.files := congrArg World.files hworld
  refine ⟨hfiles ▸ h.holds, hguarded, fun hapart => hfiles ▸ h.others hapart, hqueued, hbusy,
    fun id hid => ?_, h.once, h.listed, ?_⟩
  · refine (h.standing id hid).of_same (fun _ _ => by rw [hfiles]) Iff.rfl
      (isAt_of_idle hworker hturn hidle).1 (isAt_of_idle hworker hturn hidle).2 fun hminds => ?_
    refine minds_turned hminds hworker hturn fun hworking => ?_
    rw [hidle] at hworking
    cases hworking
  · rw [← h.calls_eq, ← hworld]
    rfl

/-- A turn of a worker that answers a session. -/
theorem exists_of_working (h : Conducted g answer calls place world texts ids l asked)
    (hready : ∀ id ∈ ids, Ready g.directory place world.files id (texts id))
    (hanswers : g.backend.Answers answer calls) {item : WorkItem} {lock : Lock} {stage : Stage}
    (hworker : l.pool.workers[worker]? = some (.working item lock stage))
    (hturn : Pool.Turn g worker l.pool (.working item lock stage) new rest)
    (hguarded : (rest.become worker new).Guarded) :
    ∃ again, Conducted g answer calls place world texts ids (l.turned rest worker new) again := by
  obtain ⟨hqueued, hbusy⟩ := h.listed_of_turn hworker hturn
  obtain ⟨own, hown, rfl⟩ := h.busy (List.mem_of_getElem? hworker) rfl
  have hsession (id : String) (hid : id ∈ ids) : IsSessionName id := (hready id hid).finds.session
  have hadvances := advances_step h.holds (hsession own hown) hanswers.silent stage
  have helsewhere (location : Location) (hapart : ¬ IsOf place own location) :
      (l.turned rest worker new).files.get? location = l.files.get? location := by
    obtain ⟨hnot, hnot'⟩ := not_or.mp hapart
    have hfiles : (l.turned rest worker new).files =
        (g.step (itemOf g.directory own) stage l.pool.world).2.files :=
      congrArg World.files hturn.of_working.1
    rw [hfiles]
    rcases hadvances.differsAt with hsame | hdiff | hdiff
    · rw [hsame]
      rfl
    · exact hdiff.get?_of_ne hnot
    · exact hdiff.get?_of_ne hnot'
  have hholds : (l.turned rest worker new).files.Holds g.directory place := by
    have hafter := hadvances.holds h.holds
    rw [← hturn.of_working.1] at hafter
    exact hafter
  obtain ⟨again, hgoes⟩ := (h.standing own hown).exists_goes (hready own hown) h.holds h.guarded
    hanswers hworker hturn
  have hasked (id : String) (hne : id ≠ own) : id ∈ again ↔ id ∈ asked := by
    rcases hgoes.asks with ⟨rfl, -⟩ | ⟨-, rfl, -⟩
    · exact Iff.rfl
    · simp [hne]
  refine ⟨again, hholds, hguarded, fun hapart => ?_, hqueued, hbusy, fun id hid => ?_, ?_, ?_, ?_⟩
  · rw [helsewhere _ (hapart own hown)]
    exact h.others hapart
  · by_cases hsame : id = own
    · subst hsame
      exact hgoes.standing
    · refine (h.standing id hid).of_same
        (sameAt_of_ne helsewhere (hsession id hid) (hsession own hown) hsame) (hasked id hsame)
        (fun hat => .inr ((isAt_of_other hsame hworker hturn).mp hat))
        (isAt_of_other hsame hworker hturn).mpr fun hminds => ?_
      refine minds_turned hminds hworker hturn fun _ hfor => ?_
      exact absurd (congrArg WorkItem.id hfor.1).symm hsame
  · rcases hgoes.asks with ⟨rfl, -⟩ | ⟨hnew, rfl, -⟩
    · exact h.once
    · exact List.nodup_append.mpr ⟨h.once, List.nodup_singleton own, fun id hid other hother =>
        fun hsame => hnew (List.mem_singleton.mp hother ▸ hsame ▸ hid)⟩
  · intro id hid
    rcases hgoes.asks with ⟨rfl, -⟩ | ⟨-, rfl, howed, -⟩
    · exact h.listed id hid
    · rcases List.mem_append.mp hid with hbefore | hnow
      · exact h.listed id hbefore
      · obtain rfl := List.mem_singleton.mp hnow
        exact ⟨hown, howed⟩
  · rcases hgoes.asks with ⟨rfl, hcalls⟩ | ⟨-, rfl, -, hcalls⟩
    · rw [hcalls, h.calls_eq]
    · rw [hcalls, h.calls_eq, List.map_append, List.append_assoc]
      rfl

end Turn

/-- Whatever happens next, every session stands somewhere. -/
theorem exists_of_step (h : Conducted g answer calls place world texts ids l asked)
    (hready : ∀ id ∈ ids, Ready g.directory place world.files id (texts id))
    (hanswers : g.backend.Answers answer calls) (hstep : Step g l after) :
    ∃ again, Conducted g answer calls place world texts ids after again := by
  cases hstep with
  | @sent item later hunsent =>
      refine ⟨asked, h.of_queue rfl rfl rfl (fun known hknown => ?_) fun known hminds => ?_⟩
      · rw [hunsent]
        rcases hknown with hlater | hqueued
        · exact .inl (List.mem_cons_of_mem _ hlater)
        · rcases List.mem_append.mp hqueued with hbefore | hnow
          · exact .inr hbefore
          · exact .inl (List.mem_singleton.mp hnow ▸ List.mem_cons_self)
      · rcases hminds with hknown | hminded
        · rw [hunsent] at hknown
          rcases List.mem_cons.mp hknown with rfl | hlater
          · exact .inr (Pool.minds_enqueue_self _ _)
          · exact .inl hlater
        · exact .inr (hminded.enqueue item)
  | worked worker hstep =>
      have hguarded := h.guarded.of_step? hstep
      obtain ⟨old, new, rest, hworker, hturn, rfl⟩ := Pool.exists_turn hstep
      cases old with
      | working item lock stage =>
          exact h.exists_of_working hready hanswers hworker hturn hguarded
      | _ => exact ⟨asked, h.of_idle hworker hturn hguarded rfl⟩
  | closed | cancelled =>
      exact ⟨asked, h.of_queue rfl rfl rfl (fun _ hknown => hknown) fun _ hminds => hminds⟩

/-- What is left when everything is processed. -/
theorem areAnswered (h : Conducted g answer calls place world texts ids l asked)
    (hdone : l.IsDone) :
    AreAnswered g answer place texts ids world.files l.files ∧
      ∀ id, id ∈ asked ↔ id ∈ ids ∧ needsResponse (texts id) = true := by
  obtain ⟨hsent, hqueue, hidle⟩ := hdone
  have hnobody {i : Nat} {id : String} {stage : Stage} : ¬ l.IsAt i id stage := by
    rintro ⟨item, lock, hworker, -⟩
    cases hidle _ (List.mem_of_getElem? hworker)
  have hforgotten (item : WorkItem) : ¬ l.Minds item := by
    rintro (hunsent | hqueued | ⟨activity, hactivity, hfor⟩)
    · rw [hsent] at hunsent
      cases hunsent
    · rw [hqueue] at hqueued
      cases hqueued
    · have hnone := hidle activity hactivity
      cases activity with
      | opening | entering | working => cases hnone
      | _ => cases hfor
  have hsettled (id : String) (hid : id ∈ ids) :
      IsAnswered g answer place world.files l.files id (texts id) ∧
        (needsResponse (texts id) = true → id ∈ asked) := by
    cases h.standing id hid with
    | untouched hsame _ _ hminded =>
        have hnothing : needsResponse (texts id) ≠ true := fun howed =>
          hforgotten _ (hminded howed)
        exact ⟨⟨fun howed => absurd howed hnothing, fun _ => hsame⟩,
          fun howed => absurd howed hnothing⟩
    | generating _ hat | recording _ hat | unmarking _ hat => exact absurd hat hnobody
    | answered _ hanswered hasked => exact ⟨hanswered, fun _ => hasked⟩
  exact ⟨⟨fun id hid => (hsettled id hid).1, h.others⟩,
    fun id => ⟨h.listed id, fun hid => (hsettled id hid.1).2 hid.2⟩⟩

end Conducted

/-- The pool is attended, and as long as there is more to come nobody is told to stop. -/
structure Supplied (l : Workload σ) : Prop where
  attended : l.pool.Attended
  staffed : l.pool.workers ≠ []
  serving : l.unsent ≠ [] → l.pool.closed = false ∧ l.pool.cancelled = false ∧
    ∀ activity ∈ l.pool.workers, activity.IsServing

namespace Supplied

theorem start {workers : Nat} (hstaffed : 0 < workers) (items : List WorkItem) :
    (start workers items world).Supplied where
  attended := .start workers world
  staffed := by
    rw [Workload.start, Pool.start, ne_eq, List.replicate_eq_nil_iff]
    exact Nat.ne_of_gt hstaffed
  serving _ := by
    refine ⟨rfl, rfl, fun activity hactivity => ?_⟩
    obtain ⟨-, rfl⟩ := List.mem_replicate.mp hactivity
    trivial

theorem of_step (h : l.Supplied) (hsteady : g.backend.IsSteady) (hstep : Step g l after) :
    after.Supplied := by
  cases hstep with
  | @sent item later hunsent =>
      have hmore := h.serving (by rw [hunsent]; exact List.cons_ne_nil _ _)
      refine ⟨⟨h.attended.receiver, fun hstopped => ?_, h.attended.alive, h.attended.ongoing⟩,
        h.staffed, fun _ => hmore⟩
      exact (hmore.2.2 _ hstopped).elim
  | worked worker hstep =>
      obtain ⟨old, new, rest, hworker, hturn, rfl⟩ := Pool.exists_turn hstep
      refine ⟨h.attended.of_turn hsteady hworker hturn, ?_, fun hunsent => ?_⟩
      · rw [Pool.become, hturn.workers_eq, ne_eq, List.set_eq_nil_iff]
        exact h.staffed
      · obtain ⟨hclosed, hcancelled, hserving⟩ := h.serving hunsent
        exact ⟨hturn.closed_eq.trans hclosed, hturn.cancelled_eq.trans hcancelled,
          Pool.isServing_of_turn hserving hclosed hcancelled hsteady hworker hturn⟩
  | closed hsent | cancelled hsent =>
      exact ⟨⟨h.attended.receiver, h.attended.stopped, h.attended.alive, h.attended.ongoing⟩,
        h.staffed, fun hunsent => absurd hsent hunsent⟩

end Supplied

/-- A backend with a record of its calls gives the answers that it gives without one. -/
theorem answers_recorded {b : Backend σ}
    (hanswer : ∀ call w, (b.ask call w).1 = answer call.prompt)
    (hlives : ∀ prompt, answer prompt ≠ .crash) (hsilent : b.IsSilent) :
    b.recorded.Answers answer fun host => host.2.map Prod.fst where
  answer_eq call w := hanswer call w.unrecorded
  lives := hlives
  silent call w := by
    obtain ⟨host, hhost⟩ := hsilent call w.unrecorded
    rw [b.ask_recorded, hhost]
    exact ⟨_, rfl⟩
  calls_eq call w := by
    rw [b.ask_recorded]
    exact List.map_append

section Run

/-- Everything can be queued before anything else happens. -/
theorem reaches_sent (p : Pool σ) (items : List WorkItem) :
    Relation.ReflTransGen (Step g) ⟨p, items⟩ ⟨{ p with queue := p.queue ++ items }, []⟩ := by
  induction items generalizing p with
  | nil => rw [List.append_nil]
  | cons item later ih =>
      have hlater := ih (p.enqueue item)
      rw [Pool.enqueue, List.append_assoc] at hlater
      exact hlater.head (.sent rfl)

/-- Each step of the pool's own scheduler is a step of a worker. -/
theorem reaches_run (fuel : Nat) (l : Workload σ) :
    Relation.ReflTransGen (Step g) l ⟨l.pool.run g fuel, l.unsent⟩ := by
  induction fuel generalizing l with
  | zero => exact .refl
  | succ fuel ih =>
      rw [Pool.run]
      cases hany : l.pool.stepAny? g with
      | none => exact .refl
      | some next =>
          obtain ⟨worker, hstep⟩ := Pool.exists_of_stepAny?_eq_some hany
          exact (ih ⟨next, l.unsent⟩).head (.worked worker hstep)

/-- To work off a queue and stop is one of the ways in which it can go. -/
theorem reaches_runAll (workers : Nat) (items : List WorkItem) (cancelFirst : Bool)
    (world : World σ) : Relation.ReflTransGen (Step g) (start workers items world)
      ⟨Pool.runAll g workers items cancelFirst world, []⟩ := by
  have hsent := reaches_sent (g := g) (Pool.start workers world) items
  cases cancelFirst with
  | true => exact (hsent.tail (.cancelled rfl)).trans (reaches_run _ _)
  | false => exact (hsent.tail (.closed rfl)).trans (reaches_run _ _)

/-- It goes on until nobody can do anything more. -/
theorem isStuck_runAll (workers : Nat) (items : List WorkItem) (cancelFirst : Bool)
    (world : World σ) : (Pool.runAll g workers items cancelFirst world).IsStuck g := by
  refine Pool.isStuck_run ?_
  rw [Pool.effort, Pool.enoughSteps, Pool.start]
  simp only [Activity.efforts_replicate, List.length_replicate, Activity.effort]
  omega

end Run

/-- What a session holds. -/
def textAt (directory : Path) (fs : FileSystem) (id : String) : String :=
  ((fs.readText (Path.join directory id)).toOption).getD ""

theorem textAt_of_readText {directory : Path} {fs : FileSystem} {id text : String}
    (h : fs.readText (Path.join directory id) = .ok text) : textAt directory fs id = text := by
  rw [textAt, h]
  rfl

end Workload

section Main

open Workload

variable {g : Generator σ} {answer : String → Answer} {place : Location}
  {world : World (σ × List (Call × FileSystem))} {items : List WorkItem} {workers : Nat}
  {l : Workload (σ × List (Call × FileSystem))}

/-- However many workers there are, whatever is queued how often and in whatever order, and
however the steps interleave: when everything is processed, the files are those that are left when
each session is processed once, one after the other in any order, and the backend was asked
once about each session that owed a reply. Workers that can do nothing more have processed
everything, and they can only do so much. -/
theorem get?_eq_processEach (hanswer : ∀ call w, (g.backend.ask call w).1 = answer call.prompt)
    (hlives : ∀ prompt, answer prompt ≠ .crash) (hsilent : g.backend.IsSilent)
    (hholds : world.files.Holds g.directory place)
    (hready : ∀ item ∈ items, item = itemOf g.directory item.id ∧
      ∃ text, Ready g.directory place world.files item.id text)
    (hstaffed : 0 < workers)
    (h : Relation.ReflTransGen (Step g.recorded) (start workers items world) l) :
    (l.IsDone →
      (∀ order : List String, order.Nodup → (∀ id, id ∈ order ↔ id ∈ items.map WorkItem.id) →
        ∀ location, l.files.get? location =
          (g.recorded.processEach order world).files.get? location) ∧
      ∃ asked : List (String × String), (asked.map Prod.fst).Nodup ∧
        (∀ id text, (id, text) ∈ asked ↔ id ∈ items.map WorkItem.id ∧
          world.files.readText (Path.join g.directory id) = .ok text ∧
          needsResponse text = true) ∧
        l.pool.world.host.2.map Prod.fst =
          world.host.2.map Prod.fst ++ asked.map fun pair => g.callFor pair.2) ∧
    (l.unsent = [] → l.pool.IsStuck g.recorded → l.IsDone) ∧
    ∀ worker pool, l.pool.step? g.recorded worker = some pool → pool.effort < l.pool.effort := by
  have hanswers := answers_recorded hanswer hlives hsilent
  have hread (id : String) (hid : id ∈ items.map WorkItem.id) :
      Ready g.directory place world.files id (textAt g.directory world.files id) := by
    obtain ⟨item, hitem, rfl⟩ := List.mem_map.mp hid
    obtain ⟨text, hthis⟩ := (hready item hitem).2
    rw [textAt_of_readText hthis.finds.read]
    exact hthis
  have hitems (item : WorkItem) : item ∈ items ↔
      ∃ id ∈ items.map WorkItem.id, item = itemOf g.directory id := by
    constructor
    · exact fun hitem => ⟨item.id, List.mem_map_of_mem hitem, (hready item hitem).1⟩
    · rintro ⟨id, hid, rfl⟩
      obtain ⟨item, hitem, rfl⟩ := List.mem_map.mp hid
      rw [← (hready item hitem).1]
      exact hitem
  obtain ⟨⟨asked, hconducted⟩, hsupplied⟩ : (∃ asked, Conducted g.recorded answer
      (fun host => host.2.map Prod.fst) place world (textAt g.directory world.files)
      (items.map WorkItem.id) l asked) ∧ l.Supplied := by
    induction h with
    | refl => exact ⟨⟨[], .start (g := g.recorded) hholds workers hitems⟩, .start hstaffed items⟩
    | tail _ hstep ih =>
        obtain ⟨⟨asked, hconducted⟩, hsupplied⟩ := ih
        exact ⟨hconducted.exists_of_step hread hanswers hstep,
          hsupplied.of_step hanswers.isSteady hstep⟩
  refine ⟨fun hdone => ⟨fun order hnodup hsame location => ?_, ?_⟩, fun hsent hstuck => ?_, ?_⟩
  · obtain ⟨hall, -⟩ := areAnswered_processEach (g := g.recorded) (w := world) hholds
      (fun id hid => hread id ((hsame id).mp hid)) hnodup hanswers
    exact (hconducted.areAnswered hdone).1.get?_eq hall hsame location
  · obtain ⟨-, hasked⟩ := hconducted.areAnswered hdone
    refine ⟨asked.map fun id => (id, textAt g.directory world.files id), ?_, fun id text => ?_, ?_⟩
    · rw [List.map_map]
      exact hconducted.once.map fun _ _ hsame => hsame
    · constructor
      · intro hmem
        obtain ⟨known, hknown, hpair⟩ := List.mem_map.mp hmem
        obtain ⟨rfl, rfl⟩ := Prod.mk.inj hpair
        obtain ⟨hid, howed⟩ := (hasked known).mp hknown
        exact ⟨hid, (hread known hid).finds.read, howed⟩
      · rintro ⟨hid, htext, howed⟩
        have hthis := textAt_of_readText htext
        exact List.mem_map.mpr ⟨id, (hasked id).mpr ⟨hid, by rwa [hthis]⟩, by rw [hthis]⟩
    · rw [hconducted.calls_eq, List.map_map]
      rfl
  · exact ⟨hsent, hstuck.queue_eq hconducted.guarded hsupplied.attended hsupplied.staffed,
      fun _ hactivity => hstuck.item?_eq hconducted.guarded hactivity⟩
  · exact fun _ _ hstep => Pool.effort_lt_of_step? hstep

/-- A session that is queued twice, for two workers. -/
theorem get?_eq_processEach_of_duplicate :
    ∃ l : Workload (List DryRun.Record × List (Call × FileSystem)),
      Relation.ReflTransGen (Step (rehearsal .echo).recorded)
        (start 2 [itemOf "/s" "a", itemOf "/s" "a"]
          (.start (withFile "a" (Utf8.encode "User: hi\n")) ([], []))) l ∧
      l.IsDone ∧ l.pool.world.host.2.length = 1 ∧
      ∀ location, l.files.get? location = ((rehearsal .echo).recorded.processEach ["a"]
        (.start (withFile "a" (Utf8.encode "User: hi\n")) ([], []))).files.get? location := by
  have hid : IsSessionName "a" := ⟨by decide, by decide⟩
  have hfinds := Finds.withFile hid (by decide) "User: hi\n"
  have hready : Ready "/s" ["s"] (withFile "a" (Utf8.encode "User: hi\n")) "a" "User: hi\n" := by
    refine ⟨hfinds, by decide, _, (createSentinel_eq_ok hfinds.holds hid.noSlash).mpr
      ⟨by decide, .inl ⟨?_, rfl⟩⟩⟩
    rw [get?_withFile, if_neg (by decide)]
  have hreaches := reaches_runAll (g := (rehearsal .echo).recorded) 2
    [itemOf "/s" "a", itemOf "/s" "a"] false
    (.start (withFile "a" (Utf8.encode "User: hi\n")) ([], []))
  have hanswer (call : Call) (w : World (List DryRun.Record)) :
      ((rehearsal .echo).backend.ask call w).1 = DryRun.Rule.echo.answer call.prompt := rfl
  have hlives (prompt : String) : DryRun.Rule.echo.answer prompt ≠ .crash := by
    simp [DryRun.Rule.answer]
  have hitems (item : WorkItem) (hitem : item ∈ [itemOf "/s" "a", itemOf "/s" "a"]) :
      item = itemOf "/s" item.id ∧
        ∃ text, Ready "/s" ["s"] (withFile "a" (Utf8.encode "User: hi\n")) item.id text := by
    obtain rfl : item = itemOf "/s" "a" := by simpa using hitem
    exact ⟨rfl, _, hready⟩
  obtain ⟨hleft, hends, -⟩ := get?_eq_processEach hanswer hlives (DryRun.isSilent_backend _ _)
    hfinds.holds hitems (by decide) hreaches
  have hdone := hends rfl (isStuck_runAll _ _ _ _)
  obtain ⟨hfiles, asked, honce, hasked, hcalls⟩ := hleft hdone
  refine ⟨_, hreaches, hdone, ?_, hfiles ["a"] (List.nodup_singleton _) fun id => by simp [itemOf]⟩
  have hone : asked.Perm [("a", "User: hi\n")] := by
    refine (List.perm_ext_iff_of_nodup honce.of_map (List.nodup_singleton _)).mpr fun pair => ?_
    obtain ⟨id, text⟩ := pair
    rw [hasked]
    constructor
    · rintro ⟨hlisted, hread, -⟩
      obtain rfl : id = "a" := by simpa [itemOf] using hlisted
      obtain rfl := Except.ok.inj (hread.symm.trans hfinds.read)
      exact List.mem_singleton_self _
    · intro hpair
      obtain ⟨rfl, rfl⟩ := Prod.mk.inj (List.mem_singleton.mp hpair)
      exact ⟨List.mem_cons_self, hfinds.read, by decide⟩
  have hlength := congrArg List.length hcalls
  rw [List.length_map, List.length_append, List.length_map, List.length_map, hone.length_eq]
    at hlength
  exact hlength

end Main

end FileChat.Worker
