/-
# Sentinels tell who is at work

Creating a sentinel overwrites one that is there, and removing one that is missing is no failure,
so the files do not keep two workers from taking each other's marks away. The lock of the session
does: a sentinel is there exactly while one worker is between creating it and removing it, and
that worker has made its attempt to append before it removes it. A ledger of what the workers did
tells this about every sentinel that is gone.
-/

import Mathlib.Logic.Relation
import FileChat.Proofs.Worker.Sentinels

namespace FileChat.Worker

open Conversation FileSystem Session

variable {σ : Type}

/-- An act of a worker at a session. -/
structure Deed where
  worker : Nat
  item : WorkItem
  act : Act

/-- A worker is between creating the sentinel of a session and removing it. -/
def Pool.Marks (p : Pool σ) (i : Nat) (id : String) : Prop :=
  ∃ item lock stage, p.workers[i]? = some (.working item lock stage) ∧ item.id = id ∧
    stage.isMarked = true

/-- A pool with a ledger of what its workers did. -/
structure Ledger (σ : Type) where
  pool : Pool σ
  deeds : List Deed

namespace Ledger

/-- What a worker that was doing something adds to the ledger. -/
def entry (g : Generator σ) (l : Ledger σ) (worker : Nat) : Option Activity → List Deed
  | some (.working item _ stage) =>
      (g.act? item stage l.pool.world).toList.map fun act => ⟨worker, item, act⟩
  | _ => []

/-- What can happen next while nobody else uses the names of sentinels and no worker goes down. -/
inductive Step (g : Generator σ) (place : Location) (l : Ledger σ) : Ledger σ → Prop
  /-- A worker goes on. While the backend is asked, the sentinels are left alone too. -/
  | worked (worker : Nat) {pool : Pool σ} (hstep : l.pool.step? g worker = some pool)
      (hlives : pool.workers[worker]? ≠ some .crashed)
      (hspares : ∀ item lock content,
        l.pool.workers[worker]? = some (.working item lock (.generating content)) →
          SparesSentinels g.directory place l.pool.world.files pool.world.files) :
      Step g place l ⟨pool, l.deeds ++ l.entry g worker l.pool.workers[worker]?⟩
  /-- Others do something: to the queue, to the flags of the pool, or to the files. -/
  | altered {pool : Pool σ} (hworkers : pool.workers = l.pool.workers)
      (hlocks : pool.locks = l.pool.locks)
      (hspares : SparesSentinels g.directory place l.pool.world.files pool.world.files) :
      Step g place l ⟨pool, l.deeds⟩

/-- What was done about a session. -/
def about (id : String) (deeds : List Deed) : List Deed :=
  deeds.filter fun deed => deed.item.id = id

/-- A worker at a session did this last there, and nobody did anything there since. -/
def EndsWith (deeds : List Deed) (i : Nat) (item : WorkItem) (acts : List Act) : Prop :=
  acts.map (fun act => ⟨i, item, act⟩) <:+ about item.id deeds

/-- Each sentinel that was removed had been created by the same worker, which had then asked the
backend and attempted to append the reply, and nobody else had done anything there since. -/
def Settles (deeds : List Deed) : Prop :=
  ∀ before i item later, deeds = before ++ ⟨i, item, .removed⟩ :: later →
    ∃ answer reply outcome fs after, turnFor? answer = some (reply, outcome) ∧
      IsAttempt item.path reply fs after ∧
      EndsWith before i item [.created, .asked answer, .tried reply fs after]

/-- What holds of every ledger. -/
structure Kept (g : Generator σ) (place : Location) (l : Ledger σ) : Prop where
  holds : HoldsSentinels g.directory place l.pool.world.files
  guarded : l.pool.Guarded
  sentinel (id : String) : l.pool.world.files.pathExists (sentinelPath g.directory id) = true ↔
    ∃ i, l.pool.Marks i id
  carries {i : Nat} {item : WorkItem} {lock : Lock} {stage : Stage} :
    l.pool.workers[i]? = some (.working item lock stage) → stage.isMarked = true →
      ∃ acts, Carries item stage acts ∧ EndsWith l.deeds i item acts
  settles : Settles l.deeds

section Deeds

variable {deeds more : List Deed} {i : Nat} {item : WorkItem} {acts : List Act} {act : Act}

theorem endsWith_nil (deeds : List Deed) (i : Nat) (item : WorkItem) : EndsWith deeds i item [] :=
  List.nil_suffix

theorem about_append (id : String) (deeds more : List Deed) :
    about id (deeds ++ more) = about id deeds ++ about id more := List.filter_append _ _

/-- What is done elsewhere does not matter. -/
theorem EndsWith.append_of_ne (h : EndsWith deeds i item acts)
    (hne : ∀ deed ∈ more, deed.item.id ≠ item.id) : EndsWith (deeds ++ more) i item acts := by
  have hnone : about item.id more = [] := List.filter_eq_nil_iff.mpr (by simpa using hne)
  rw [EndsWith, about_append, hnone, List.append_nil]
  exact h

/-- What the worker does comes at the end. -/
theorem EndsWith.append (h : EndsWith deeds i item acts) (more : List Act) :
    EndsWith (deeds ++ more.map fun act => ⟨i, item, act⟩) i item (acts ++ more) := by
  obtain ⟨earlier, hearlier⟩ := h
  have hall : about item.id (more.map fun act => ⟨i, item, act⟩) =
      more.map fun act => ⟨i, item, act⟩ := by
    apply List.filter_eq_self.mpr
    intro deed hdeed
    obtain ⟨act, -, rfl⟩ := List.mem_map.mp hdeed
    exact decide_eq_true rfl
  refine ⟨earlier, ?_⟩
  rw [List.map_append, ← List.append_assoc, hearlier, about_append, hall]

/-- One more deed settles what it has to settle. -/
theorem Settles.append_singleton (h : Settles deeds) (deed : Deed)
    (hremoved : deed.act = .removed → ∃ answer reply outcome fs after,
      turnFor? answer = some (reply, outcome) ∧ IsAttempt deed.item.path reply fs after ∧
        EndsWith deeds deed.worker deed.item [.created, .asked answer, .tried reply fs after]) :
    Settles (deeds ++ [deed]) := by
  intro before i item later hsplit
  rcases List.eq_nil_or_concat later with rfl | ⟨most, last, rfl⟩
  · obtain ⟨rfl, hlast⟩ := List.append_inj' hsplit rfl
    obtain rfl := List.head_eq_of_cons_eq hlast
    exact hremoved rfl
  · have hshorter : deeds ++ [deed] = (before ++ ⟨i, item, .removed⟩ :: most) ++ [last] := by
      rw [hsplit]
      simp
    exact h before i item most (List.append_inj' hshorter rfl).1

end Deeds

section Invariant

variable {g : Generator σ} {place : Location} {l after : Ledger σ}

theorem kept_start {world : World σ} (hopens : world.files.Opens g.directory place)
    (hnone : ∀ id, world.files.get? (place ++ [sentinelName id]) = none) (workers : Nat) :
    Kept g place ⟨Pool.start workers world, []⟩ := by
  have hholds : HoldsSentinels g.directory place world.files :=
    ⟨hopens, fun hentry => by simp [hnone] at hentry⟩
  have hidle {i : Nat} {activity : Activity}
      (hworker : (Pool.start workers world).workers[i]? = some activity) : activity = .seeking :=
    (List.mem_replicate.mp (List.mem_of_getElem? hworker)).2
  refine ⟨hholds, Pool.guarded_start workers world, fun id => ?_, ?_, ?_⟩
  · apply iff_of_false
    · exact fun hexists => ((hholds.pathExists_sentinelPath id).mp hexists).2.2 (hnone id)
    · rintro ⟨i, item, lock, stage, hworker, -, -⟩
      cases hidle hworker
  · intro i item lock stage hworker
    cases hidle hworker
  · intro before i item later hsplit
    simp at hsplit

/-- The worker at a session is the only one that can have marked it. -/
theorem exists_marks_iff {p : Pool σ} (h : p.Guarded) {i : Nat} {item : WorkItem} {lock : Lock}
    {stage : Stage} (hworker : p.workers[i]? = some (.working item lock stage)) :
    (∃ j, p.Marks j item.id) ↔ stage.isMarked = true := by
  constructor
  · rintro ⟨j, other, known, further, hother, hid, hmarked⟩
    obtain rfl := h.eq_of_working hworker hother hid.symm
    rw [hworker] at hother
    obtain ⟨-, -, rfl⟩ := Activity.working.inj (Option.some.inj hother)
    exact hmarked
  · exact fun hmarked => ⟨i, item, lock, stage, hworker, rfl, hmarked⟩

section Turn

variable {p rest : Pool σ} {worker : Nat} {item : WorkItem} {lock : Lock} {stage : Stage}
  {new : Activity}

/-- Whoever is at a session after a worker took a step at its own is this worker, or was there
before and is at another session. -/
theorem working_become_cases (h : p.Guarded)
    (hworker : p.workers[worker]? = some (.working item lock stage))
    (hturn : Pool.Turn g worker p (.working item lock stage) new rest) {i : Nat} {other : WorkItem}
    {known : Lock} {further : Stage}
    (hthere : (rest.become worker new).workers[i]? = some (.working other known further)) :
    i = worker ∧ other = item ∧ further = (g.step item stage p.world).1 ∨
      i ≠ worker ∧ other.id ≠ item.id ∧ p.workers[i]? = some (.working other known further) := by
  obtain ⟨-, hnew, -⟩ := hturn.of_working
  rcases Pool.getElem?_become hthere with ⟨rfl, hnow⟩ | ⟨hi, hother⟩
  · rcases hnew with rfl | rfl | rfl
    · obtain ⟨rfl, rfl, rfl⟩ := Activity.working.inj hnow
      exact .inl ⟨rfl, rfl, rfl⟩
    · cases hnow
    · cases hnow
  · rw [hturn.workers_eq] at hother
    exact .inr ⟨hi, fun hid => hi (h.eq_of_working hother hworker hid), hother⟩

/-- A session is marked if the step that its worker took leaves it marked. -/
theorem exists_marks_become_self_iff (h : p.Guarded)
    (hworker : p.workers[worker]? = some (.working item lock stage))
    (hturn : Pool.Turn g worker p (.working item lock stage) new rest) :
    (∃ i, (rest.become worker new).Marks i item.id) ↔
      (g.step item stage p.world).1.isMarked = true := by
  constructor
  · rintro ⟨i, other, known, further, hthere, hid, hmarked⟩
    rcases working_become_cases h hworker hturn hthere with ⟨-, -, rfl⟩ | ⟨-, hne, -⟩
    · exact hmarked
    · exact absurd hid hne
  · intro hmarked
    obtain ⟨-, -, hstays⟩ := hturn.of_working
    have hnow := hturn.getElem?_become_self hworker
    rw [hstays (Stage.isOver_of_isMarked hmarked)] at hnow ⊢
    exact ⟨worker, item, lock, _, hnow, rfl, hmarked⟩

/-- A step at one session leaves the marks of the others. -/
theorem exists_marks_become_iff (h : p.Guarded)
    (hworker : p.workers[worker]? = some (.working item lock stage))
    (hturn : Pool.Turn g worker p (.working item lock stage) new rest) {id : String}
    (hne : id ≠ item.id) :
    (∃ i, (rest.become worker new).Marks i id) ↔ ∃ i, p.Marks i id := by
  constructor
  · rintro ⟨i, other, known, further, hthere, rfl, hmarked⟩
    rcases working_become_cases h hworker hturn hthere with ⟨-, rfl, -⟩ | ⟨-, -, hbefore⟩
    · exact absurd rfl hne
    · exact ⟨i, other, known, further, hbefore, rfl, hmarked⟩
  · rintro ⟨i, other, known, further, hthere, rfl, hmarked⟩
    have hi : i ≠ worker := by
      rintro rfl
      obtain ⟨rfl, -⟩ := Activity.working.inj (Option.some.inj (hworker.symm.trans hthere))
      exact hne rfl
    refine ⟨i, other, known, further, ?_, rfl, hmarked⟩
    rw [hturn.getElem?_become_of_ne hi, hthere]

end Turn

namespace Kept

theorem of_altered (h : Kept g place l) {pool : Pool σ} (hworkers : pool.workers = l.pool.workers)
    (hlocks : pool.locks = l.pool.locks)
    (hspares : SparesSentinels g.directory place l.pool.world.files pool.world.files) :
    Kept g place ⟨pool, l.deeds⟩ := by
  have hholds := h.holds.of_spares hspares
  refine ⟨hholds, h.guarded.of_eq hworkers hlocks, fun id => ?_, ?_, h.settles⟩
  · rw [pathExists_congr h.holds hholds (by rw [hspares.get?_eq]), h.sentinel]
    unfold Pool.Marks
    rw [hworkers]
  · intro i item lock stage hworker
    rw [hworkers] at hworker
    exact h.carries hworker

/-- A worker that answers no session leaves files and ledger alone. -/
theorem of_idle (h : Kept g place l) {worker : Nat} {old new : Activity} {rest : Pool σ}
    (hworker : l.pool.workers[worker]? = some old)
    (hturn : Pool.Turn g worker l.pool old new rest)
    (hguarded : (rest.become worker new).Guarded) (hidle : old.isWorking = false) :
    Kept g place ⟨rest.become worker new, l.deeds⟩ := by
  obtain ⟨hworld, hreading⟩ := hturn.of_idle hidle
  have hfiles : (rest.become worker new).world.files = l.pool.world.files :=
    congrArg World.files hworld
  have hsame {i : Nat} {item : WorkItem} {lock : Lock} {stage : Stage}
      (hat : (rest.become worker new).workers[i]? = some (.working item lock stage))
      (hmarked : stage.isMarked = true) :
      l.pool.workers[i]? = some (.working item lock stage) := by
    rcases Pool.getElem?_become hat with ⟨rfl, rfl⟩ | ⟨-, hother⟩
    · obtain rfl := hreading item lock stage rfl
      cases hmarked
    · exact hturn.workers_eq ▸ hother
  refine ⟨by rw [hfiles]; exact h.holds, hguarded, fun id => ?_, ?_, h.settles⟩
  · rw [hfiles, h.sentinel]
    constructor
    · rintro ⟨i, item, lock, stage, hat, hid, hmarked⟩
      have hi : i ≠ worker := by
        rintro rfl
        obtain rfl := Option.some.inj (hworker.symm.trans hat)
        cases hidle
      refine ⟨i, item, lock, stage, ?_, hid, hmarked⟩
      rw [hturn.getElem?_become_of_ne hi, hat]
    · rintro ⟨i, item, lock, stage, hat, hid, hmarked⟩
      exact ⟨i, item, lock, stage, hsame hat hmarked, hid, hmarked⟩
  · exact fun hat hmarked => h.carries (hsame hat hmarked) hmarked

/-- What a worker has done since it created a sentinel, which is nothing if it has not. -/
theorem exists_acts (h : Kept g place l) {i : Nat} {item : WorkItem} {lock : Lock} {stage : Stage}
    (hworker : l.pool.workers[i]? = some (.working item lock stage)) :
    ∃ acts, (stage.isMarked = true → Carries item stage acts) ∧
      (stage.isMarked = false → acts = []) ∧ EndsWith l.deeds i item acts := by
  cases hstage : stage.isMarked with
  | false => exact ⟨[], fun hmarked => (by cases hmarked), fun _ => rfl, endsWith_nil _ _ _⟩
  | true =>
      obtain ⟨acts, hacts, hends⟩ := h.carries hworker hstage
      exact ⟨acts, fun _ => hacts, fun hidle => (by cases hidle), hends⟩

/-- A worker that answers a session keeps the sentinels, and the ledger says what it did. -/
theorem of_working (h : Kept g place l) {worker : Nat} {item : WorkItem} {lock : Lock}
    {stage : Stage} {new : Activity} {rest : Pool σ}
    (hworker : l.pool.workers[worker]? = some (.working item lock stage))
    (hturn : Pool.Turn g worker l.pool (.working item lock stage) new rest)
    (hguarded : (rest.become worker new).Guarded) (hlives : new ≠ .crashed)
    (hspares : ∀ content, stage = .generating content →
      SparesSentinels g.directory place l.pool.world.files rest.world.files) :
    Kept g place ⟨rest.become worker new,
      l.deeds ++ (g.act? item stage l.pool.world).toList.map fun act => ⟨worker, item, act⟩⟩ := by
  obtain ⟨hworld, -, -⟩ := hturn.of_working
  have hfiles : (rest.become worker new).world.files =
      (g.step item stage l.pool.world).2.files := congrArg World.files hworld
  have hdoes := does_step g item stage l.pool.world
  have hnext := hturn.step_ne_crashed hlives
  have hown := (h.sentinel item.id).trans (exists_marks_iff h.guarded hworker)
  have hkept : KeepsSentinels g.directory place item.id (g.step item stage l.pool.world).1
      l.pool.world.files (rest.become worker new).world.files := by
    rw [hfiles]
    apply hdoes.keepsSentinels h.holds hown
    · rw [← hworld]
      exact hspares
    · exact hnext
  refine ⟨hkept.holds, hguarded, fun id => ?_, ?_, ?_⟩
  · by_cases hid : id = item.id
    · subst hid
      rw [hkept.own, exists_marks_become_self_iff h.guarded hworker hturn]
    · rw [hkept.others hid, h.sentinel, exists_marks_become_iff h.guarded hworker hturn hid]
  · intro i other known further hthere hmarked
    rcases working_become_cases h.guarded hworker hturn hthere with
      ⟨rfl, rfl, rfl⟩ | ⟨-, hne, hbefore⟩
    · obtain ⟨acts, hacts, hnone, hends⟩ := h.exists_acts hworker
      exact ⟨_, hdoes.carries hacts hnone hmarked, hends.append _⟩
    · obtain ⟨acts, hacts, hends⟩ := h.carries hbefore hmarked
      refine ⟨acts, hacts, hends.append_of_ne fun deed hdeed => ?_⟩
      obtain ⟨act, -, rfl⟩ := List.mem_map.mp hdeed
      exact Ne.symm hne
  · cases hact : g.act? item stage l.pool.world with
    | none => simpa using h.settles
    | some act =>
        apply h.settles.append_singleton
        rintro rfl
        rw [hact] at hdoes
        obtain ⟨appended, outcome, rfl⟩ := hdoes.exists_eq_unmarking hnext
        obtain ⟨acts, hacts, hends⟩ := h.carries hworker rfl
        cases hacts with
        | tried _ hturn' hattempt => exact ⟨_, _, _, _, _, hturn', hattempt, hends⟩

/-- Whatever happens next, sentinels and ledger stay in order. -/
theorem of_step (h : Kept g place l) (hstep : Step g place l after) : Kept g place after := by
  cases hstep with
  | worked worker hstep hlives hspares =>
      have hguarded := h.guarded.of_step? hstep
      obtain ⟨old, new, rest, hworker, hturn, rfl⟩ := Pool.exists_turn hstep
      rw [hturn.getElem?_become_self hworker] at hlives
      have hnew : new ≠ .crashed := fun hcrashed => hlives (congrArg some hcrashed)
      rw [hworker] at hspares ⊢
      cases old with
      | working item lock stage =>
          apply h.of_working hworker hturn hguarded hnew
          rintro content rfl
          exact hspares item lock content rfl
      | _ =>
          show Kept g place ⟨rest.become worker new, l.deeds ++ []⟩
          rw [List.append_nil]
          exact h.of_idle hworker hturn hguarded rfl
  | altered hworkers hlocks hspares => exact h.of_altered hworkers hlocks hspares

end Kept

/-- Whenever a sentinel goes, it goes because its worker removed it. -/
theorem Step.exists_removed {id : String} (hkept : Kept g place l) (hstep : Step g place l after)
    (hthere : l.pool.world.files.pathExists (sentinelPath g.directory id) = true)
    (hgone : after.pool.world.files.pathExists (sentinelPath g.directory id) = false) :
    ∃ i item, item.id = id ∧ after.deeds = l.deeds ++ [⟨i, item, .removed⟩] := by
  have hafter := hkept.of_step hstep
  obtain ⟨i, item, lock, stage, hbefore, rfl, hmarked⟩ := (hkept.sentinel id).mp hthere
  have hnobody : ∀ j, ¬ after.pool.Marks j item.id := by
    intro j hmarks
    rw [(hafter.sentinel item.id).mpr ⟨j, hmarks⟩] at hgone
    cases hgone
  cases hstep with
  | altered hworkers =>
      exact absurd ⟨item, lock, stage, hworkers ▸ hbefore, rfl, hmarked⟩ (hnobody i)
  | worked worker hstep hlives =>
      obtain ⟨old, new, rest, hworker, hturn, rfl⟩ := Pool.exists_turn hstep
      have hself := hturn.getElem?_become_self hworker
      have hi : i = worker := by
        by_contra hother
        refine hnobody i ⟨item, lock, stage, ?_, rfl, hmarked⟩
        rw [hturn.getElem?_become_of_ne hother, hbefore]
      subst hi
      obtain rfl := Option.some.inj (hworker.symm.trans hbefore)
      rw [hself] at hlives
      have hnew : new ≠ .crashed := fun hcrashed => hlives (congrArg some hcrashed)
      have hnext : (g.step item stage l.pool.world).1.isMarked = false := by
        cases hstill : (g.step item stage l.pool.world).1.isMarked with
        | false => rfl
        | true =>
            obtain ⟨j, hmarks⟩ :=
              (exists_marks_become_self_iff hkept.guarded hworker hturn).mpr hstill
            exact absurd hmarks (hnobody j)
      refine ⟨i, item, rfl, ?_⟩
      have hact := (does_step g item stage l.pool.world).eq_removed hmarked
        (hturn.step_ne_crashed hnew) hnext
      rw [hworker, entry, hact]
      rfl

end Invariant

/-- As long as nobody else uses the names of sentinels and no worker goes down, a sentinel is there
exactly while one worker is between creating it and removing it. A sentinel that goes is removed by
its worker: that worker had created it, had asked the backend and had attempted to append the
reply, in this order and with nobody else at the session, so the reply is in the file if there is
one. -/
theorem sentinel_iff_marks {g : Generator σ} {place : Location} {workers : Nat} {world : World σ}
    {l : Ledger σ} (hopens : world.files.Opens g.directory place)
    (hnone : ∀ id, world.files.get? (place ++ [sentinelName id]) = none)
    (hrun : Relation.ReflTransGen (Step g place) ⟨Pool.start workers world, []⟩ l) :
    (∀ id, l.pool.world.files.pathExists (sentinelPath g.directory id) = true ↔
      ∃! i, l.pool.Marks i id) ∧
    (∀ after id, Step g place l after →
      l.pool.world.files.pathExists (sentinelPath g.directory id) = true →
      after.pool.world.files.pathExists (sentinelPath g.directory id) = false →
      ∃ i item, item.id = id ∧ after.deeds = l.deeds ++ [⟨i, item, .removed⟩]) ∧
    Settles l.deeds := by
  have hkept : Kept g place l := by
    induction hrun with
    | refl => exact kept_start hopens hnone workers
    | tail _ hstep ih => exact ih.of_step hstep
  refine ⟨fun id => ?_, fun after id hstep => hstep.exists_removed hkept, hkept.settles⟩
  rw [hkept.sentinel]
  refine ⟨fun ⟨i, hi⟩ => ⟨i, hi, fun j hj => ?_⟩, fun ⟨i, hi, _⟩ => ⟨i, hi⟩⟩
  obtain ⟨item, lock, stage, hbefore, rfl, -⟩ := hi
  obtain ⟨other, known, further, hother, hid, -⟩ := hj
  exact hkept.guarded.eq_of_working hother hbefore hid

/-- The only worker takes a step at its session and stays there. -/
theorem exists_advanced {g : Generator σ} {place : Location} {l : Ledger σ} {item : WorkItem}
    {lock : Lock} {stage next : Stage} {world : World σ}
    (hworkers : l.pool.workers = [.working item lock stage])
    (hstep : g.step item stage l.pool.world = (next, world)) (hnext : next.isOver = false)
    (hspares : ∀ content, stage = .generating content → world.files = l.pool.world.files) :
    ∃ after, Step g place l after ∧ after.pool.workers = [.working item lock next] ∧
      after.pool.world = world ∧ after.deeds = l.deeds ++
        (g.act? item stage l.pool.world).toList.map fun act => ⟨0, item, act⟩ := by
  have hworker : l.pool.workers[0]? = some (.working item lock stage) := by rw [hworkers]; rfl
  have hturn : Pool.Turn g 0 l.pool (.working item lock stage) (.working item lock next)
      { l.pool with world } := .advanced hstep hnext
  refine ⟨_, .worked 0 (hturn.step?_eq hworker) ?_ ?_, ?_, rfl, ?_⟩
  · rw [hturn.getElem?_become_self hworker]
    exact fun hcrashed => by cases hcrashed
  · intro other known content hthere
    obtain ⟨-, -, rfl⟩ := Activity.working.inj (Option.some.inj (hworker.symm.trans hthere))
    have hfiles := hspares content rfl
    show SparesSentinels g.directory place l.pool.world.files world.files
    rw [hfiles]
    exact .refl _
  · rw [Pool.become]
    dsimp only
    rw [hworkers]
    rfl
  · rw [hworker, entry]

/-- A worker that answers no session can go on. -/
theorem step_of_idle {g : Generator σ} {place : Location} {l : Ledger σ} (worker : Nat)
    {old new : Activity} {rest : Pool σ} (hworker : l.pool.workers[worker]? = some old)
    (hturn : Pool.Turn g worker l.pool old new rest) (hidle : old.isWorking = false)
    (hnew : new ≠ .crashed) : Step g place l ⟨rest.become worker new, l.deeds⟩ := by
  have hentry : l.entry g worker (some old) = [] := by
    cases old with
    | working => cases hidle
    | _ => rfl
  have hstep : _ → _ → Step g place l _ := Step.worked worker (hturn.step?_eq hworker)
  rw [hturn.getElem?_become_self hworker, hworker, hentry, List.append_nil] at hstep
  apply hstep
  · exact fun hcrashed => hnew (Option.some.inj hcrashed)
  · intro item lock content hthere
    obtain rfl := Option.some.inj hthere
    cases hidle

/-- A worker comes to read a session. -/
theorem exists_reading (g : Generator σ) (place : Location) (item : WorkItem) (world : World σ) :
    ∃ l, Relation.ReflTransGen (Step g place) ⟨Pool.start 1 world, []⟩ l ∧
      l.pool.workers = [.working item 0 .reading] ∧ l.pool.world = world ∧ l.deeds = [] := by
  have h1 : Relation.ReflTransGen (Step g place) ⟨Pool.start 1 world, []⟩
      ⟨(Pool.start 1 world).enqueue item, []⟩ := .single (.altered rfl rfl (.refl _))
  have h2 := h1.tail (step_of_idle 0 rfl (.sought rfl) rfl (by nofun))
  have h3 := h2.tail (step_of_idle 0 rfl (.took (.inl rfl) rfl) rfl (by nofun))
  have h4 := h3.tail (step_of_idle 0 rfl .opened rfl (by nofun))
  have h5 := h4.tail (step_of_idle 0 rfl (.entered rfl) rfl (by nofun))
  exact ⟨_, h5, rfl, rfl, rfl⟩

/-- The only worker removes the sentinel of its session. -/
theorem exists_cleared {g : Generator σ} {place : Location} {l : Ledger σ} {item : WorkItem}
    {lock : Lock} {stage : Stage} {result : Except StoreError Outcome} {world : World σ}
    (hworkers : l.pool.workers = [.working item lock stage])
    (hstep : g.step item stage l.pool.world = (.finished result, world))
    (hact : g.act? item stage l.pool.world = some .removed) :
    ∃ after, Step g place l after ∧ after.deeds = l.deeds ++ [⟨0, item, .removed⟩] := by
  have hworker : l.pool.workers[0]? = some (.working item lock stage) := by rw [hworkers]; rfl
  have hturn : Pool.Turn g 0 l.pool (.working item lock stage) (.leaving item lock) _ :=
    .finished hstep
  refine ⟨_, .worked 0 (hturn.step?_eq hworker) ?_ ?_, ?_⟩
  · rw [hturn.getElem?_become_self hworker]
    nofun
  · intro other known content hthere
    obtain ⟨-, -, rfl⟩ := Activity.working.inj (Option.some.inj (hworker.symm.trans hthere))
    cases hact
  · rw [hworker, entry, hact]
    rfl

/-- One worker answers one session: its sentinel comes and goes. -/
theorem exists_marked_cleared {g : Generator σ} {place : Location} {id text : String}
    {world : World σ} (hread : Finds g.directory place id world.files text)
    (howed : needsResponse text = true) (herror : nameError? g.directory (sentinelName id) = none)
    (hfree : world.files.get? (place ++ [sentinelName id]) = none)
    (hsilent : g.backend.IsSilent) (hsteady : g.backend.IsSteady) :
    ∃ marked cleared,
      Relation.ReflTransGen (Step g place) ⟨Pool.start 1 world, []⟩ marked ∧
      Relation.ReflTransGen (Step g place) marked cleared ∧
      marked.pool.world.files.pathExists (sentinelPath g.directory id) = true ∧
      ∃ before, cleared.deeds = before ++ [⟨0, itemOf g.directory id, .removed⟩] := by
  have hslash := hread.session.noSlash
  obtain ⟨reading, hbegun, hworkers, rfl, -⟩ :=
    exists_reading g place (itemOf g.directory id) world
  have hstep := step_reading hread.read
  rw [howed, if_pos rfl] at hstep
  obtain ⟨marking, howing, hworkers, hworld, -⟩ : ∃ marking, Step g place reading marking ∧ _ :=
    exists_advanced hworkers hstep rfl nofun
  have hfinds : Finds g.directory place id marking.pool.world.files text := by rwa [hworld]
  obtain ⟨files, hmark⟩ : ∃ files,
      createSentinel marking.pool.world.files g.directory id = .ok files :=
    ⟨_, (createSentinel_eq_ok hfinds.holds hslash).mpr ⟨herror, .inl ⟨by rwa [hworld], rfl⟩⟩⟩
  obtain ⟨-, executable, hthere⟩ := get?_of_createSentinel hfinds.holds hslash hmark
  have hfound := hfinds.of_differsAt (hread.session.ne_sentinelName id)
    (differsAt_of_createSentinel hfinds.holds hslash hmark)
  obtain ⟨marked, hmarking, hworkers, hmarked, -⟩ : ∃ marked, Step g place marking marked ∧ _ :=
    exists_advanced hworkers (step_marking hmark) rfl nofun
  have hfiles : marked.pool.world.files = files := congrArg World.files hmarked
  obtain ⟨reply, outcome, asked, hasked, -, hsame⟩ :=
    exists_step_generating (itemOf g.directory id) hsilent
      (hsteady (g.callFor text) marked.pool.world)
  obtain ⟨recording, hanswered, hworkers, rfl, -⟩ : ∃ recording,
      Step g place marked recording ∧ _ :=
    exists_advanced hworkers hasked rfl fun _ _ => hsame
  obtain ⟨told, htold, happends⟩ := exists_appendReply (hsame ▸ hfiles ▸ hfound) reply
  obtain ⟨unmarking, hrecorded, hworkers, rfl, -⟩ : ∃ unmarking,
      Step g place recording unmarking ∧ _ :=
    exists_advanced hworkers (step_recording htold) rfl nofun
  have hstill : unmarking.pool.world.files.get? (place ++ [sentinelName id]) =
      some (.file [] executable) := by
    rw [happends.get?_of_ne (spot_ne_sentinel place hread.session id).symm, hsame, hfiles, hthere]
  have hcleared := removeSentinel_of_file (happends.holds (hsame ▸ hfiles ▸ hfound.holds)) hslash
    herror hstill
  obtain ⟨cleared, hleft, hdeeds⟩ : ∃ cleared, Step g place unmarking cleared ∧ _ :=
    exists_cleared hworkers (step_unmarking hcleared) rfl
  refine ⟨marked, cleared, (hbegun.tail howing).tail hmarking,
    ((Relation.ReflTransGen.single hanswered).tail hrecorded).tail hleft, ?_, _, hdeeds⟩
  rw [hfiles, sentinelPath, hfound.holds.pathExists_join (isName_sentinelName hslash), hthere]
  exact ⟨herror, by simp⟩

/-- The sentinel of a greeting is there while it is answered, and its worker takes it away. -/
theorem sentinel_iff_marks_of_greeting :
    ∃ marked cleared : Ledger (List DryRun.Record),
      Relation.ReflTransGen (Step (rehearsal .echo) ["s"])
        ⟨Pool.start 1 (.start (withFile "a" (Utf8.encode "User: hi\n")) []), []⟩ marked ∧
      Relation.ReflTransGen (Step (rehearsal .echo) ["s"]) marked cleared ∧
      marked.pool.world.files.pathExists (sentinelPath "/s" "a") = true ∧
      (∃! i, marked.pool.Marks i "a") ∧ Settles cleared.deeds ∧
      ∃ before, cleared.deeds = before ++ [⟨0, itemOf "/s" "a", .removed⟩] := by
  have hid : IsSessionName "a" := ⟨by decide, by decide⟩
  have hfinds := Finds.withFile hid (by decide) "User: hi\n"
  have hnone (id : String) : (withFile "a" (Utf8.encode "User: hi\n")).get?
      (["s"] ++ [sentinelName id]) = none := by
    rw [get?_withFile, if_neg (hid.ne_sentinelName id).symm]
  obtain ⟨marked, cleared, hmarked, hcleared, hthere, hremoved⟩ : ∃ marked cleared,
      Relation.ReflTransGen (Step (rehearsal .echo) ["s"])
        ⟨Pool.start 1 (.start (withFile "a" (Utf8.encode "User: hi\n")) []), []⟩ marked ∧ _ :=
    exists_marked_cleared hfinds (by decide) (by decide) (hnone "a") (DryRun.isSilent_backend _ _)
      (DryRun.isSteady_backend _ (by decide) _)
  obtain ⟨hsentinel, -, -⟩ := sentinel_iff_marks hfinds.holds.opens hnone hmarked
  obtain ⟨-, -, hsettles⟩ :=
    sentinel_iff_marks hfinds.holds.opens hnone (hmarked.trans hcleared)
  exact ⟨marked, cleared, hmarked, hcleared, hthere, (hsentinel "a").mp hthere, hsettles, hremoved⟩

end Ledger

end FileChat.Worker
