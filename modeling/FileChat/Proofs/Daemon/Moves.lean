/-
# What a step of the daemon can do

Every step of a daemon is one of the moves listed here. A move of the daemon itself touches the
survey, the sessions in hand, the queue or the notices; a worker's turn touches the pool alone.
-/

import FileChat.Daemon.Basic

namespace FileChat

open Session Worker

variable {σ : Type}

/-- A notice that is about an entry does not say that notices were lost. -/
theorem Session.Event.kind_ne_lost {directory : Path} {notice : Notice} {event : Event}
    (hnotice : notice ≠ .lost) (hevent : Event.ofNotice? directory notice = some event) :
    event.kind ≠ .lost := by
  cases notice with
  | lost => exact absurd rfl hnotice
  | closed place | movedTo place | movedWithin source place =>
      obtain ⟨name, -, rfl⟩ := Option.map_eq_some_iff.mp hevent
      nofun

namespace Daemon

/-- What a daemon can become, and by which label. -/
inductive Move (g : Generator σ) (d : Daemon σ) : Label → Daemon σ → Prop
  | listed {found : List String} (hsurvey : d.survey = .unlisted)
      (hlist : names d.pool.world.files d.directory = .ok found) :
      Move g d .list { d with survey := .looking false found [] }
  | looked {again : Bool} {name : String} {later : List String} {items : List WorkItem}
      (hsurvey : d.survey = .looking again (name :: later) items) :
      Move g d .look
        { d with
          survey := .looking again later (items ++
            (workItem? d.pool.world.files d.directory (Path.join d.directory name)).toList) }
  | arranged {items : List WorkItem} (hsurvey : d.survey = .looking false [] items) :
      Move g d .look { d with survey := .queueing (inIdOrder items) }
  | rearranged {items : List WorkItem} (hsurvey : d.survey = .looking true [] items) :
      Move g d .look
        { d with survey := .queueing [], inHand := d.inHand ++ inIdOrder items }
  | queuedFound {item : WorkItem} {later : List WorkItem}
      (hsurvey : d.survey = .queueing (item :: later)) (halive : d.pool.isAlive = true)
      (hroom : d.hasRoom = true) :
      Move g d .queueFound { d with survey := .queueing later, pool := d.pool.enqueue item }
  | gaveUp {item : WorkItem} {later : List WorkItem}
      (hsurvey : d.survey = .queueing (item :: later)) (hdead : d.pool.isAlive = false) :
      Move g d .queueFound { d with survey := .queueing [] }
  | queuedInHand {item : WorkItem} {later : List WorkItem} (hhand : d.inHand = item :: later)
      (halive : d.pool.isAlive = true) (hroom : d.hasRoom = true) :
      Move g d .queueInHand { d with inHand := later, pool := d.pool.enqueue item }
  | forsaken {item : WorkItem} {later : List WorkItem} (hhand : d.inHand = item :: later)
      (hdead : d.pool.isAlive = false) :
      Move g d .queueInHand d.deaf
  | heard {notice : Notice} {later : List Notice} {items : List WorkItem}
      (hwatching : d.watching = true) (hcaughtUp : d.isCaughtUp = true) (hhand : d.inHand = [])
      (hnotices : d.pool.world.notices = notice :: later) (hnotice : notice ≠ .lost)
      (hitems : items = match Event.ofNotice? d.directory notice with
        | some event => workItems d.pool.world.files d.directory event
        | none => []) :
      Move g d .hear
        { d.inWorld { d.pool.world with notices := later } with inHand := items }
  | relisted {later : List Notice} {found : List String} (hwatching : d.watching = true)
      (hcaughtUp : d.isCaughtUp = true) (hhand : d.inHand = [])
      (hnotices : d.pool.world.notices = .lost :: later)
      (hlist : names d.pool.world.files d.directory = .ok found) :
      Move g d .hear
        { d.inWorld { d.pool.world with notices := later } with
          survey := .looking true found [] }
  | notRelisted {later : List Notice} {cause : StoreError} (hwatching : d.watching = true)
      (hcaughtUp : d.isCaughtUp = true) (hhand : d.inHand = [])
      (hnotices : d.pool.world.notices = .lost :: later)
      (hlist : names d.pool.world.files d.directory = .error cause) :
      Move g d .hear (d.inWorld { d.pool.world with notices := later })
  | worked {worker : Nat} {pool : Pool σ} (hstep : d.pool.step? g worker = some pool) :
      Move g d (.work worker) { d with pool }
  | cancelled : Move g d .cancel { d with pool := { d.pool with cancelled := true } }
  | stopped (hcancelled : d.pool.cancelled = true) (hwatching : d.watching = true)
      (hcaughtUp : d.isCaughtUp = true) :
      Move g d .stopWatching d.deaf
  | edited {e : Edit} : Move g d (.edit e) (d.inWorld (d.pool.world.edited e))

section Steps

variable {g : Generator σ} {d after : Daemon σ}

/-- Who has nothing in hand has nothing in hand in another world. -/
theorem inWorld_of_inHand (hhand : d.inHand = []) {world : World σ} :
    { d.inWorld world with inHand := [] } = d.inWorld world := by
  rw [← hhand]
  rfl

theorem move_of_list? (h : d.list? = some after) : Move g d .list after := by
  unfold list? at h
  cases hsurvey : d.survey with
  | unlisted =>
      rw [hsurvey] at h
      dsimp only at h
      unfold list at h
      cases hlist : names d.pool.world.files d.directory with
      | error cause =>
          rw [hlist] at h
          cases h
      | ok found =>
          rw [hlist] at h
          obtain rfl := Option.some.inj h
          exact .listed hsurvey hlist
  | looking again listed items =>
      rw [hsurvey] at h
      cases h
  | queueing items =>
      rw [hsurvey] at h
      cases h

theorem move_of_look? (h : d.look? = some after) : Move g d .look after := by
  unfold look? at h
  cases hsurvey : d.survey with
  | unlisted =>
      rw [hsurvey] at h
      cases h
  | looking again listed items =>
      rw [hsurvey] at h
      cases listed with
      | nil =>
          cases again with
          | false =>
              obtain rfl := Option.some.inj h
              exact .arranged hsurvey
          | true =>
              obtain rfl := Option.some.inj h
              exact .rearranged hsurvey
      | cons name later =>
          obtain rfl := Option.some.inj h
          exact .looked hsurvey
  | queueing items =>
      rw [hsurvey] at h
      cases h

theorem move_of_queueFound? (h : d.queueFound? = some after) : Move g d .queueFound after := by
  unfold queueFound? at h
  cases hsurvey : d.survey with
  | unlisted =>
      rw [hsurvey] at h
      cases h
  | looking again listed items =>
      rw [hsurvey] at h
      cases h
  | queueing items =>
      rw [hsurvey] at h
      cases items with
      | nil => cases h
      | cons item later =>
          dsimp only at h
          cases halive : d.pool.isAlive with
          | false =>
              rw [halive] at h
              obtain rfl := Option.some.inj h
              exact .gaveUp hsurvey halive
          | true =>
              cases hroom : d.hasRoom with
              | false =>
                  rw [halive, hroom] at h
                  cases h
              | true =>
                  rw [halive, hroom] at h
                  obtain rfl := Option.some.inj h
                  exact .queuedFound hsurvey halive hroom

theorem move_of_queueInHand? (h : d.queueInHand? = some after) :
    Move g d .queueInHand after := by
  unfold queueInHand? at h
  cases hhand : d.inHand with
  | nil =>
      rw [hhand] at h
      cases h
  | cons item later =>
      rw [hhand] at h
      dsimp only at h
      cases halive : d.pool.isAlive with
      | false =>
          rw [halive] at h
          obtain rfl := Option.some.inj h
          exact .forsaken hhand halive
      | true =>
          cases hroom : d.hasRoom with
          | false =>
              rw [halive, hroom] at h
              cases h
          | true =>
              rw [halive, hroom] at h
              obtain rfl := Option.some.inj h
              exact .queuedInHand hhand halive hroom

theorem move_of_hear? (h : d.hear? = some after) : Move g d .hear after := by
  unfold hear? at h
  split at h
  · cases h
  · next hready =>
      obtain ⟨⟨hwatching, hcaughtUp⟩, hhand⟩ :
          (d.watching = true ∧ d.isCaughtUp = true) ∧ d.inHand = [] := by
        simpa using hready
      cases hnotices : d.pool.world.notices with
      | nil =>
          rw [hnotices] at h
          cases h
      | cons notice later =>
          rw [hnotices] at h
          dsimp only at h
          by_cases hnotice : notice = .lost
          · subst hnotice
            obtain rfl := Option.some.inj h
            rw [heed, if_pos rfl]
            dsimp only [inWorld]
            cases hlist : names d.pool.world.files d.directory with
            | ok found => exact .relisted hwatching hcaughtUp hhand hnotices hlist
            | error cause => exact .notRelisted hwatching hcaughtUp hhand hnotices hlist
          · cases hevent : Event.ofNotice? d.directory notice with
            | none =>
                rw [hevent] at h
                obtain rfl := Option.some.inj h
                rw [← inWorld_of_inHand hhand]
                exact .heard hwatching hcaughtUp hhand hnotices hnotice (by rw [hevent])
            | some event =>
                rw [hevent] at h
                obtain rfl := Option.some.inj h
                rw [heed, if_neg (Event.kind_ne_lost hnotice hevent)]
                exact .heard hwatching hcaughtUp hhand hnotices hnotice (by rw [hevent]; rfl)

theorem move_of_stopWatching? (h : d.stopWatching? = some after) :
    Move g d .stopWatching after := by
  unfold stopWatching? at h
  split at h
  · next hready =>
      obtain ⟨⟨hcancelled, hwatching⟩, hcaughtUp⟩ :
          (d.pool.cancelled = true ∧ d.watching = true) ∧ d.isCaughtUp = true := by
        simpa using hready
      obtain rfl := Option.some.inj h
      exact .stopped hcancelled hwatching hcaughtUp
  · cases h

/-- Every step of a daemon is one of the moves. -/
theorem move_of_step? {label : Label} (h : d.step? g label = some after) :
    Move g d label after := by
  cases label with
  | list => exact move_of_list? h
  | look => exact move_of_look? h
  | queueFound => exact move_of_queueFound? h
  | queueInHand => exact move_of_queueInHand? h
  | hear => exact move_of_hear? h
  | work worker =>
      obtain ⟨pool, hstep, rfl⟩ := Option.map_eq_some_iff.mp h
      exact .worked hstep
  | cancel =>
      obtain rfl := Option.some.inj h
      exact .cancelled
  | stopWatching => exact move_of_stopWatching? h
  | edit e =>
      obtain rfl := Option.some.inj h
      exact .edited

/-- Every move can be made. -/
theorem Move.step?_eq {label : Label} (h : Move g d label after) :
    d.step? g label = some after := by
  cases h with
  | listed hsurvey hlist =>
      unfold step? list? list
      rw [hsurvey, hlist]
      rfl
  | looked hsurvey | arranged hsurvey | rearranged hsurvey =>
      unfold step? look?
      rw [hsurvey]
  | queuedFound hsurvey halive hroom =>
      unfold step? queueFound?
      rw [hsurvey, halive, hroom]
      rfl
  | gaveUp hsurvey hdead =>
      unfold step? queueFound?
      rw [hsurvey, hdead]
      rfl
  | queuedInHand hhand halive hroom =>
      unfold step? queueInHand?
      rw [hhand, halive, hroom]
      rfl
  | forsaken hhand hdead =>
      unfold step? queueInHand?
      rw [hhand, hdead]
      rfl
  | @heard notice later items hwatching hcaughtUp hhand hnotices hnotice hitems =>
      unfold step? hear?
      rw [hwatching, hcaughtUp, hhand, hnotices]
      dsimp only
      cases hevent : Event.ofNotice? d.directory notice with
      | none =>
          rw [hevent] at hitems
          rw [hitems, inWorld_of_inHand hhand]
          rfl
      | some event =>
          rw [hevent] at hitems
          dsimp only
          rw [heed, if_neg (Event.kind_ne_lost hnotice hevent), hitems]
          rfl
  | relisted hwatching hcaughtUp hhand hnotices hlist
  | notRelisted hwatching hcaughtUp hhand hnotices hlist =>
      unfold step? hear?
      rw [hwatching, hcaughtUp, hhand, hnotices]
      dsimp only [Event.ofNotice?]
      unfold heed
      rw [if_pos rfl]
      dsimp only [inWorld]
      rw [hlist]
      rfl
  | worked hstep => exact Option.map_eq_some_iff.mpr ⟨_, hstep, rfl⟩
  | stopped hcancelled hwatching hcaughtUp =>
      unfold step? stopWatching?
      rw [hcancelled, hwatching, hcaughtUp]
      rfl
  | cancelled | edited => rfl

end Steps

end Daemon

end FileChat
