/-
# Sessions answered one after the other

What answering a session does to a directory depends on that session alone, if the backend gives
one answer to each prompt: a reply goes behind what was there, and the sentinel is gone, or
nothing happens at all. So sessions that are answered one after the other leave a directory that
is known in advance, whatever their order.
-/

import FileChat.Proofs.Worker.Answering

namespace FileChat

/-- A backend gives one answer to each prompt, goes down on none, changes nothing but what is behind
it, and leaves a record of its calls there. -/
structure Backend.Answers {σ : Type} (b : Backend σ) (answer : String → Answer)
    (calls : σ → List Call) : Prop where
  answer_eq (call : Call) (w : World σ) : (b.ask call w).1 = answer call.prompt
  lives (prompt : String) : answer prompt ≠ .crash
  silent : b.IsSilent
  calls_eq (call : Call) (w : World σ) : calls (b.ask call w).2.host = calls w.host ++ [call]

theorem Backend.Answers.isSteady {σ : Type} {b : Backend σ} {answer : String → Answer}
    {calls : σ → List Call} (h : b.Answers answer calls) : b.IsSteady :=
  fun call w hcrash => h.lives call.prompt (h.answer_eq call w ▸ hcrash)

namespace Worker

open Conversation FileSystem Session

variable {σ : Type} {g : Generator σ} {answer : String → Answer} {calls : σ → List Call}
  {directory : Path} {place location : Location} {fs after : FileSystem} {id other text : String}
  {texts : String → String} {ids : List String} {w : World σ}

section Same

/-- A location is that of a session or of its sentinel. -/
def IsOf (place : Location) (id : String) (location : Location) : Prop :=
  location = place ++ [id] ∨ location = place ++ [sentinelName id]

theorem isOf_session : IsOf place id (place ++ [id]) := .inl rfl

theorem isOf_sentinel : IsOf place id (place ++ [sentinelName id]) := .inr rfl

/-- What is of one session is not of another. -/
theorem IsOf.unique (h : IsOf place id location) (hother : IsOf place other location)
    (hid : IsSessionName id) (hsession : IsSessionName other) : id = other := by
  rcases h with rfl | rfl
  · rcases hother with hsame | hsame
    · simpa using hsame
    · exact absurd hsame (spot_ne_sentinel place hid other)
  · rcases hother with hsame | hsame
    · exact absurd hsame.symm (spot_ne_sentinel place hsession id)
    · simpa [sentinelName] using hsame

/-- A session and its sentinel are the same in two trees. -/
def SameAt (place : Location) (id : String) (fs after : FileSystem) : Prop :=
  ∀ location, IsOf place id location → after.get? location = fs.get? location

theorem SameAt.trans {later : FileSystem} (h : SameAt place id fs after)
    (hlater : SameAt place id after later) : SameAt place id fs later :=
  fun location hof => (hlater location hof).trans (h location hof)

/-- A change at one session leaves the others as they are. -/
theorem sameAt_of_ne (h : ∀ location, ¬ IsOf place other location →
    after.get? location = fs.get? location) (hid : IsSessionName id)
    (hother : IsSessionName other) (hne : id ≠ other) : SameAt place id fs after :=
  fun location hof => h location fun hagain => hne (hof.unique hagain hid hother)

end Same

/-- A session can be read and marked, and it holds whole lines. -/
structure Ready (directory : Path) (place : Location) (fs : FileSystem) (id text : String) :
    Prop where
  finds : Finds directory place id fs text
  whole : Text.IsWholeLines text.toList
  markable : ∃ marked, createSentinel fs directory id = .ok marked

/-- A session is ready wherever it and its sentinel are the same. -/
theorem Ready.of_sameAt (h : Ready directory place fs id text)
    (hholds : after.Holds directory place) (hsame : SameAt place id fs after) :
    Ready directory place after id text := by
  have hid := h.finds.session
  refine ⟨⟨hholds, hid, ?_⟩, h.whole, ?_⟩
  · rw [hholds.readText_join hid.isName, hsame _ isOf_session,
      ← h.finds.holds.readText_join hid.isName]
    exact h.finds.read
  · obtain ⟨marked, hmarked⟩ := h.markable
    obtain ⟨herror, hthere⟩ := (createSentinel_eq_ok h.finds.holds hid.noSlash).mp hmarked
    rw [← hsame _ isOf_sentinel] at hthere
    rcases hthere with ⟨hfree, -⟩ | ⟨bytes, executable, hfile, -⟩
    · exact ⟨_, (createSentinel_eq_ok hholds hid.noSlash).mpr ⟨herror, .inl ⟨hfree, rfl⟩⟩⟩
    · exact ⟨_, (createSentinel_eq_ok hholds hid.noSlash).mpr
        ⟨herror, .inr ⟨bytes, executable, hfile, rfl⟩⟩⟩

/-- The turn that a session gets when it owes a reply. -/
def Generator.turnAbout? (g : Generator σ) (answer : String → Answer) (text : String) :
    Option (String × Outcome) :=
  turnFor? (answer (g.callFor text).prompt)

/-- A session was answered once: it has the turn for the answer and no sentinel if it owed a
reply, and it is as it was if it owed none. -/
structure IsAnswered (g : Generator σ) (answer : String → Answer) (place : Location)
    (fs after : FileSystem) (id text : String) : Prop where
  owed : needsResponse text = true → ∃ bytes executable reply outcome,
    fs.get? (place ++ [id]) = some (.file bytes executable) ∧
    g.turnAbout? answer text = some (reply, outcome) ∧
    after.get? (place ++ [id]) =
      some (.file (bytes ++ Utf8.encode (assistantLine reply)) executable) ∧
    after.get? (place ++ [sentinelName id]) = none
  skipped : needsResponse text = false → SameAt place id fs after

/-- Each of some sessions was answered once, and nothing else happened. -/
structure AreAnswered (g : Generator σ) (answer : String → Answer) (place : Location)
    (texts : String → String) (ids : List String) (fs after : FileSystem) : Prop where
  each : ∀ id ∈ ids, IsAnswered g answer place fs after id (texts id)
  others {location : Location} :
    (∀ id ∈ ids, ¬ IsOf place id location) → after.get? location = fs.get? location

section Answered

/-- Only the session and its sentinel matter, before and after. -/
theorem IsAnswered.of_sameAt (h : IsAnswered g answer place fs after id text)
    {before later : FileSystem} (hbefore : SameAt place id before fs)
    (hlater : SameAt place id after later) :
    IsAnswered g answer place before later id text where
  owed howed := by
    obtain ⟨bytes, executable, reply, outcome, hfile, hturn, hsession, hsentinel⟩ := h.owed howed
    refine ⟨bytes, executable, reply, outcome, ?_, hturn, ?_, ?_⟩
    · rw [← hbefore _ isOf_session, hfile]
    · rw [hlater _ isOf_session, hsession]
    · rw [hlater _ isOf_sentinel, hsentinel]
  skipped hnothing := (hbefore.trans (h.skipped hnothing)).trans hlater

/-- What answering a session leaves depends only on what was there. -/
theorem IsAnswered.sameAt (h : IsAnswered g answer place fs after id text) {later : FileSystem}
    (hlater : IsAnswered g answer place fs later id text) : SameAt place id later after := by
  intro location hof
  cases howed : needsResponse text with
  | true =>
      obtain ⟨bytes, executable, reply, outcome, hfile, hturn, hsession, hsentinel⟩ :=
        h.owed howed
      obtain ⟨bytes', executable', reply', outcome', hfile', hturn', hsession', hsentinel'⟩ :=
        hlater.owed howed
      obtain ⟨rfl, rfl⟩ : bytes = bytes' ∧ executable = executable' := by
        simpa [hfile] using hfile'
      obtain ⟨rfl, rfl⟩ : reply = reply' ∧ outcome = outcome' := by simpa [hturn] using hturn'
      rcases hof with rfl | rfl
      · rw [hsession, hsession']
      · rw [hsentinel, hsentinel']
  | false => rw [h.skipped howed location hof, hlater.skipped howed location hof]

/-- What answering leaves of a directory depends only on what was there and which sessions are
answered. -/
theorem AreAnswered.get?_eq {again : List String} {later : FileSystem}
    (h : AreAnswered g answer place texts ids fs after)
    (hagain : AreAnswered g answer place texts again fs later)
    (hsame : ∀ id, id ∈ again ↔ id ∈ ids) (location : Location) :
    after.get? location = later.get? location := by
  by_cases hof : ∃ id ∈ ids, IsOf place id location
  · obtain ⟨id, hid, hof⟩ := hof
    exact (h.each id hid).sameAt (hagain.each id ((hsame id).mpr hid)) location hof
  · have hapart (id : String) (hid : id ∈ ids) : ¬ IsOf place id location :=
      fun hthis => hof ⟨id, hid, hthis⟩
    rw [h.others hapart, hagain.others fun id hid => hapart id ((hsame id).mp hid)]

end Answered

section Process

/-- However far a worker gets, the directory stays one without links. -/
theorem holds_steps (hholds : w.files.Holds g.directory place) (hid : IsSessionName id)
    (hsilent : g.backend.IsSilent) (n : Nat) (stage : Stage) :
    (g.steps (itemOf g.directory id) n (stage, w)).2.files.Holds g.directory place := by
  induction n generalizing stage w with
  | zero => exact hholds
  | succ n ih =>
      rw [steps_succ]
      exact ih ((advances_step hholds hid hsilent stage).holds hholds) _

theorem holds_process (hholds : w.files.Holds g.directory place) (hid : IsSessionName id)
    (hsilent : g.backend.IsSilent) :
    (g.process (itemOf g.directory id) w).2.files.Holds g.directory place := by
  have hsteps := holds_steps hholds hid hsilent Generator.maxSteps .reading
  unfold Generator.process
  generalize g.steps (itemOf g.directory id) Generator.maxSteps (.reading, w) = reached at hsteps
  obtain ⟨stage, after⟩ := reached
  cases stage <;> exact hsteps

/-- A session that is answered is answered once, and nothing else happens. -/
theorem isAnswered_process (h : Ready g.directory place w.files id text)
    (hanswers : g.backend.Answers answer calls) :
    IsAnswered g answer place w.files (g.process (itemOf g.directory id) w).2.files id text ∧
      ∀ location, ¬ IsOf place id location →
        (g.process (itemOf g.directory id) w).2.files.get? location = w.files.get? location := by
  have hholds := h.finds.holds
  have hid := h.finds.session
  cases howed : needsResponse text with
  | false =>
      rw [process_of_not_owed h.finds.read howed]
      refine ⟨⟨fun hyes => ?_, fun _ _ _ => rfl⟩, fun _ _ => rfl⟩
      rw [howed] at hyes
      cases hyes
  | true =>
      obtain ⟨marked, hmark⟩ := h.markable
      obtain ⟨-, bytes, executable, hfile, -⟩ := (hholds.readText_join hid.isName).mp h.finds.read
      have hdiff := differsAt_of_createSentinel hholds hid.noSlash hmark
      obtain ⟨host, hhost⟩ :=
        hanswers.silent (g.callFor text) (w.written (sentinelPath g.directory id) marked)
      have hfiles := congrArg World.files hhost
      have hanswer := hanswers.answer_eq (g.callFor text)
        (w.written (sentinelPath g.directory id) marked)
      obtain ⟨result, done, hprocess, -, hconcludes⟩ := exists_process_of_marked hholds hid.isName
        h.finds.read howed hmark (Prod.eta _).symm (hanswers.isSteady _ _)
        (hfiles ▸ ⟨⟨rfl, fun hentry => hentry, fun hentry => hentry⟩, fun _ => rfl,
          (hdiff.holds hholds).noLink id⟩)
      rw [hfiles, hanswer] at hconcludes
      have hstill : marked.get? (place ++ [id]) = some (.file bytes executable) := by
        rw [hdiff.get?_of_ne (spot_ne_sentinel place hid id), hfile]
      obtain ⟨reply, outcome, hturn, -, hsession⟩ := hconcludes.appended hstill
      rw [hprocess]
      refine ⟨⟨fun _ => ⟨bytes, executable, reply, outcome, hfile, hturn, hsession,
        hconcludes.cleared⟩, fun hnothing => ?_⟩, fun location hapart => ?_⟩
      · rw [howed] at hnothing
        cases hnothing
      · obtain ⟨hsession, hsentinel⟩ := not_or.mp hapart
        exact (hconcludes.elsewhere hsession hsentinel).trans (hdiff.get?_of_ne hsentinel)

/-- Answer sessions one after the other, with nothing in between. -/
def Generator.processEach (g : Generator σ) (ids : List String) (w : World σ) : World σ :=
  ids.foldl (fun w id => (g.process (itemOf g.directory id) w).2) w

/-- One more session that was not answered before. -/
theorem AreAnswered.process {before : FileSystem}
    (h : AreAnswered g answer place texts ids before w.files)
    (hholds : w.files.Holds g.directory place)
    (hready : Ready g.directory place before id (texts id)) (hnew : id ∉ ids)
    (hids : ∀ other ∈ ids, IsSessionName other) (hanswers : g.backend.Answers answer calls) :
    AreAnswered g answer place texts (ids ++ [id]) before
      (g.process (itemOf g.directory id) w).2.files := by
  have hid := hready.finds.session
  have hsame : SameAt place id before w.files := fun location hof => by
    refine h.others fun other hother hagain => ?_
    obtain rfl := hof.unique hagain hid (hids other hother)
    exact hnew hother
  obtain ⟨hanswered, helsewhere⟩ := isAnswered_process (hready.of_sameAt hholds hsame) hanswers
  refine ⟨fun known hknown => ?_, fun {location} hapart => ?_⟩
  · rcases List.mem_append.mp hknown with hbefore | hlast
    · have hne : known ≠ id := fun heq => hnew (heq ▸ hbefore)
      exact (h.each known hbefore).of_sameAt (fun _ _ => rfl)
        (sameAt_of_ne helsewhere (hids known hbefore) hid hne)
    · obtain rfl := List.mem_singleton.mp hlast
      exact hanswered.of_sameAt hsame fun _ _ => rfl
  · rw [helsewhere location (hapart id (List.mem_append_right _ (List.mem_singleton_self _)))]
    exact h.others fun other hother => hapart other (List.mem_append_left _ hother)

/-- Sessions that are answered one after the other are each answered once. -/
theorem areAnswered_processEach (hholds : w.files.Holds g.directory place)
    (hready : ∀ id ∈ ids, Ready g.directory place w.files id (texts id))
    (hnodup : ids.Nodup) (hanswers : g.backend.Answers answer calls) :
    AreAnswered g answer place texts ids w.files (g.processEach ids w).files ∧
      (g.processEach ids w).files.Holds g.directory place := by
  induction ids using List.reverseRecOn with
  | nil =>
      refine ⟨⟨fun id hid => ?_, fun _ => rfl⟩, hholds⟩
      cases hid
  | append_singleton ids last ih =>
      obtain ⟨hbefore, -, hapart⟩ := List.nodup_append.mp hnodup
      have hready' (id : String) (hid : id ∈ ids) := hready id (List.mem_append_left _ hid)
      have hlast := hready last (List.mem_append_right _ (List.mem_singleton_self _))
      have hnew : last ∉ ids := fun hlast => hapart last hlast last (List.mem_singleton_self _) rfl
      obtain ⟨hall, hheld⟩ := ih hready' hbefore
      rw [Generator.processEach, List.foldl_append]
      exact ⟨hall.process hheld hlast hnew (fun id hid => (hready' id hid).finds.session) hanswers,
        holds_process hheld hlast.finds.session hanswers.silent⟩

end Process

end Worker

end FileChat
