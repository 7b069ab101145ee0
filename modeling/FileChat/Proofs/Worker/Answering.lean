/-
# Answering a session, on every path

A session is read, marked, asked about, appended to and unmarked, and each of these can fail. What
follows from where it fails is told here for one session from beginning to end, while others may
do to the session what they like as long as the backend is asked. The calls of a backend are told
by a record of them, which changes nothing else.
-/

import FileChat.Proofs.Worker.Settled

namespace FileChat

open FileSystem

variable {σ τ : Type}

/-- The same world with something else behind the backend. -/
def World.hosting (w : World σ) (host : τ) : World τ := ⟨w.files, host, w.watched, w.notices⟩

/-- The world without what is kept beside the host. -/
def World.unrecorded (w : World (σ × τ)) : World σ := w.hosting w.host.1

/-- A backend that keeps a record of its calls, each with the files that it found. -/
def Backend.recorded (b : Backend σ) : Backend (σ × List (Call × FileSystem)) where
  name := b.name
  ask call w :=
    let asked := b.ask call w.unrecorded
    (asked.1, asked.2.hosting (asked.2.host, w.host.2 ++ [(call, w.files)]))

theorem Backend.ask_recorded (b : Backend σ) (call : Call)
    (w : World (σ × List (Call × FileSystem))) :
    b.recorded.ask call w =
      ((b.ask call w.unrecorded).1, (b.ask call w.unrecorded).2.hosting
        ((b.ask call w.unrecorded).2.host, w.host.2 ++ [(call, w.files)])) := rfl

/-- What was done was done at one location or below it. Directories and links stay, and no link
is made at the location. -/
structure ChangesBelow (spot : Location) (fs after : FileSystem) : Prop where
  keeps : Keeps fs after
  get?_eq {other : Location} : ¬ spot <+: other → after.get? other = fs.get? other
  noLink (target : Path) : after.get? spot ≠ some (.link target)

/-- While the backend is asked about a session, others leave everything but that session alone. -/
def Backend.SparesOthers (b : Backend σ) (directory : Path) (place : Location) (id : String) :
    Prop :=
  ∀ call w, w.files.Holds directory place →
    (∃ bytes executable, w.files.get? (place ++ [id]) = some (.file bytes executable)) →
      ChangesBelow (place ++ [id]) w.files (b.ask call w).2.files

section ChangesBelow

variable {fs after : FileSystem} {directory : Path} {place : Location} {id name : String}

/-- Names in one directory are not below each other. -/
theorem not_prefix_of_ne (place : Location) (hne : name ≠ id) :
    ¬ place ++ [id] <+: place ++ [name] := by
  rw [List.prefix_append_right_inj]
  simpa using Ne.symm hne

namespace ChangesBelow

/-- A directory without links stays one. -/
theorem holds (h : ChangesBelow (place ++ [id]) fs after) (hfs : fs.Holds directory place) :
    after.Holds directory place where
  opens := hfs.opens.of_keeps h.keeps
  noLink name target hentry := by
    by_cases hname : name = id
    · exact h.noLink target (hname ▸ hentry)
    · rw [h.get?_eq (not_prefix_of_ne place hname)] at hentry
      exact hfs.noLink name target hentry

/-- The other entries of the directory stay as they are. -/
theorem get?_of_ne (h : ChangesBelow (place ++ [id]) fs after) (hname : name ≠ id) :
    after.get? (place ++ [name]) = fs.get? (place ++ [name]) :=
  h.get?_eq (not_prefix_of_ne place hname)

end ChangesBelow

/-- To change one file is to change nothing outside it. -/
theorem FileSystem.DiffersAt.changesBelow {spot : Location} (h : DiffersAt spot fs after) :
    ChangesBelow spot fs after where
  keeps := h.keeps
  get?_eq hother := h.get?_of_ne fun hsame => hother (hsame ▸ List.prefix_refl _)
  noLink target hlink := by
    obtain ⟨bytes, executable, hfile⟩ := h.isFile hlink
    cases hfile

/-- Appending to a session while the backend is asked leaves everything else alone. -/
theorem DryRun.sparesOthers_backend (directory : Path) (place : Location)
    (hname : Path.IsName id) (rule : DryRun.Rule) (added : Bytes) :
    (DryRun.backend directory rule [.append (Path.join directory id) added]).SparesOthers
      directory place id := by
  intro call w hfs _
  have hfiles : ((DryRun.backend directory rule [.append (Path.join directory id) added]).ask
      call w).2.files = (Edit.apply w.files (.append (Path.join directory id) added)).1 := rfl
  rw [hfiles, Edit.apply]
  cases hdone : w.files.appendOrCreate (Path.join directory id) added with
  | error cause =>
      exact ⟨⟨rfl, fun hentry => hentry, fun hentry => hentry⟩, fun _ => rfl, hfs.noLink _⟩
  | ok changed => exact (hfs.grows_of_appendOrCreate hname hdone).toDiffersAt.changesBelow

end ChangesBelow

namespace Worker

open Conversation Session

/-- How a session that was marked and asked about is left: the sentinel was there and is gone,
the session as others left it has the turn for the answer, and nothing else was done. A session
that is not there any more gets no turn, and that is the result. -/
structure Concludes (place : Location) (id : String) (marked : FileSystem) (answer : Answer)
    (left : FileSystem) (result : Except StoreError Outcome) (after : FileSystem) : Prop where
  marked : ∃ executable, marked.get? (place ++ [sentinelName id]) = some (.file [] executable)
  cleared : after.get? (place ++ [sentinelName id]) = none
  elsewhere {other : Location} : other ≠ place ++ [id] → other ≠ place ++ [sentinelName id] →
    after.get? other = left.get? other
  appended {bytes : Bytes} {executable : Bool} :
    left.get? (place ++ [id]) = some (.file bytes executable) →
      ∃ reply outcome, turnFor? answer = some (reply, outcome) ∧ result = .ok outcome ∧
        after.get? (place ++ [id]) =
          some (.file (bytes ++ Utf8.encode (assistantLine reply)) executable)
  gone : (∀ bytes executable, left.get? (place ++ [id]) ≠ some (.file bytes executable)) →
    (∃ cause, result = .error cause) ∧ after.get? (place ++ [id]) = left.get? (place ++ [id])

/-- Workers whose backend keeps a record of its calls. -/
def Generator.recorded (g : Generator σ) : Generator (σ × List (Call × FileSystem)) where
  backend := g.backend.recorded
  directory := g.directory
  params := g.params

section Record

variable (g : Generator σ) (item : WorkItem) (w : World (σ × List (Call × FileSystem)))

theorem appendReply_unrecorded (reply : String) :
    appendReply item reply w.unrecorded = (appendReply item reply w).map World.unrecorded := by
  have hfiles : w.unrecorded.files = w.files := rfl
  unfold appendReply
  rw [hfiles]
  cases Session.append w.files item.path (assistantLine reply) <;> rfl

/-- A step does the same with a record of calls as without one. -/
theorem step_unrecorded (stage : Stage) :
    g.step item stage w.unrecorded =
      ((g.recorded.step item stage w).1, (g.recorded.step item stage w).2.unrecorded) := by
  have hfiles : w.unrecorded.files = w.files := rfl
  have hdirectory : g.recorded.directory = g.directory := rfl
  unfold Generator.step
  cases stage with
  | reading =>
      dsimp only
      rw [hfiles]
      cases Session.read w.files item.path with
      | error cause => rfl
      | ok content =>
          dsimp only
          split <;> rfl
  | marking content =>
      dsimp only
      rw [hfiles, hdirectory]
      cases createSentinel w.files g.directory item.id <;> rfl
  | excusing cause =>
      dsimp only
      rw [appendReply_unrecorded]
      cases appendReply item (errorReply (": ".intercalate cause.chain)) w <;> rfl
  | generating content =>
      obtain ⟨answer, after, hasked⟩ : ∃ answer after,
          g.backend.ask (g.callFor content) w.unrecorded = (answer, after) := ⟨_, _, rfl⟩
      have hrecorded : g.recorded.backend.ask (g.recorded.callFor content) w =
          (answer, after.hosting (after.host, w.host.2 ++ [(g.callFor content, w.files)])) := by
        have hask := g.backend.ask_recorded (g.callFor content) w
        rw [hasked] at hask
        exact hask
      dsimp only
      rw [hasked, hrecorded]
      cases answer <;> rfl
  | recording reply outcome =>
      dsimp only
      rw [appendReply_unrecorded]
      cases appendReply item reply w <;> rfl
  | unmarking appended outcome =>
      dsimp only
      rw [hfiles, hdirectory]
      cases removeSentinel w.files g.directory item.id <;> rfl
  | finished result => rfl
  | crashed => rfl

theorem steps_unrecorded (n : Nat) (stage : Stage) :
    g.steps item n (stage, w.unrecorded) =
      ((g.recorded.steps item n (stage, w)).1,
        (g.recorded.steps item n (stage, w)).2.unrecorded) := by
  induction n generalizing stage w with
  | zero => rfl
  | succ n ih => rw [steps_succ, steps_succ, step_unrecorded, ih]

/-- A record of calls changes nothing else. -/
theorem process_unrecorded :
    g.process item w.unrecorded =
      ((g.recorded.process item w).1, (g.recorded.process item w).2.unrecorded) := by
  unfold Generator.process
  rw [steps_unrecorded]
  generalize g.recorded.steps item Generator.maxSteps (.reading, w) = reached
  obtain ⟨stage, after⟩ := reached
  cases stage <;> rfl

end Record

section Process

variable {g : Generator σ} {place : Location} {id text reply : String} {w : World σ}

/-- A session that cannot be read is left as it is. -/
theorem exists_process_of_unreadable
    (hread : ∀ text, w.files.readText (Path.join g.directory id) ≠ .ok text) :
    ∃ cause, g.process (itemOf g.directory id) w = (some (.error cause), w) := by
  cases hdone : Session.read w.files (itemOf g.directory id).path with
  | ok text => exact absurd (read_itemOf_eq_ok.mp hdone) (hread text)
  | error cause =>
      refine ⟨cause, process_of_steps (n := 1) (by decide) ?_⟩
      have hstep : g.step (itemOf g.directory id) .reading w = (.finished (.error cause), w) := by
        unfold Generator.step
        dsimp only
        rw [hdone]
      rw [steps_succ, hstep, Generator.steps]

/-- To append a turn to a file that is there changes nothing else, and nothing behind the
backend. -/
theorem exists_appended (hfs : w.files.Holds g.directory place) (hname : Path.IsName id)
    (herror : nameError? g.directory id = none) {bytes : Bytes} {executable : Bool}
    (hfile : w.files.get? (place ++ [id]) = some (.file bytes executable)) (reply : String) :
    ∃ after, appendReply (itemOf g.directory id) reply w = .ok after ∧ after.host = w.host ∧
      Appends (place ++ [id]) reply w.files after.files ∧
      after.files.get? (place ++ [id]) =
        some (.file (bytes ++ Utf8.encode (assistantLine reply)) executable) :=
  ⟨_, appendReply_of_file hfs hname herror hfile reply, rfl, .put (by simp) hfile,
    get?_put_self _ (by simp) _⟩

/-- No turn is appended where there is no file. -/
theorem exists_appendReply_eq_error (hfs : w.files.Holds g.directory place)
    (hname : Path.IsName id)
    (hgone : ∀ bytes executable, w.files.get? (place ++ [id]) ≠ some (.file bytes executable))
    (reply : String) : ∃ cause, appendReply (itemOf g.directory id) reply w = .error cause := by
  cases happend : Session.append w.files (Path.join g.directory id) (assistantLine reply) with
  | ok files =>
      obtain ⟨-, bytes, executable, hfile, -⟩ := (append_eq_ok hfs hname).mp happend
      exact absurd hfile (hgone bytes executable)
  | error cause =>
      refine ⟨cause, ?_⟩
      unfold appendReply itemOf
      dsimp only
      rw [happend]
      rfl

/-- A worker that owes a reply and cannot mark its session tells the user so, and does not ask
the backend. -/
theorem exists_process_of_unmarkable (hfs : w.files.Holds g.directory place)
    (hname : Path.IsName id) (hread : w.files.readText (Path.join g.directory id) = .ok text)
    (howed : needsResponse text = true) {cause : StoreError}
    (hmark : createSentinel w.files g.directory id = .error cause) :
    ∃ after, g.process (itemOf g.directory id) w = (some (.ok .errorReply), after) ∧
      after.host = w.host ∧ Appends (place ++ [id]) (excuse cause) w.files after.files := by
  obtain ⟨herror, bytes, executable, hentry, -⟩ := (hfs.readText_join hname).mp hread
  obtain ⟨after, htold, hhost, happends, -⟩ :=
    exists_appended hfs hname herror hentry (excuse cause)
  refine ⟨after, process_of_steps (n := 3) (by decide) ?_, hhost, happends⟩
  rw [steps_succ, step_reading hread, howed, if_pos rfl, steps_succ, step_unmarkable hmark,
    steps_succ, step_excusing htold, Generator.steps]

theorem step_unrecordable {item : WorkItem} {outcome : Outcome} {cause : StoreError}
    (hfailed : appendReply item reply w = .error cause) :
    g.step item (.recording reply outcome) w = (.unmarking (.error cause) outcome, w) := by
  unfold Generator.step
  dsimp only
  rw [hfailed]

/-- A worker that has an answer appends the turn for it, if there is still a session to append
it to, and takes the mark away in either case. -/
theorem exists_steps_recording (hfs : w.files.Holds g.directory place) (hname : Path.IsName id)
    (herror : nameError? g.directory id = none)
    (hmarkable : nameError? g.directory (sentinelName id) = none) {marked : FileSystem}
    {executable : Bool}
    (hmarked : marked.get? (place ++ [sentinelName id]) = some (.file [] executable))
    (hstill : w.files.get? (place ++ [sentinelName id]) = some (.file [] executable))
    {answer : Answer} {outcome : Outcome} (hturn : turnFor? answer = some (reply, outcome)) :
    ∃ result after,
      g.steps (itemOf g.directory id) 2 (.recording reply outcome, w) =
        (.finished result, after) ∧
      after.host = w.host ∧ Concludes place id marked answer w.files result after.files := by
  have hne : place ++ [sentinelName id] ≠ place ++ [id] := by
    simpa using (ne_sentinelName id).symm
  have hroot : place ++ [sentinelName id] ≠ [] := by simp
  by_cases hthere : ∃ bytes executable, w.files.get? (place ++ [id]) = some (.file bytes executable)
  · obtain ⟨bytes, executable', hfile⟩ := hthere
    obtain ⟨told, htold, hhost, hgrows, hnow⟩ := exists_appended hfs hname herror hfile reply
    have hcleared := removeSentinel_of_file (hgrows.holds hfs) hname.noSlash hmarkable
      ((hgrows.get?_of_ne hne).trans hstill)
    refine ⟨.ok outcome, { told with files := told.files.erase (place ++ [sentinelName id]) }, ?_,
      hhost, ?_⟩
    · rw [steps_succ, step_recording htold, steps_succ, step_unmarking hcleared, Generator.steps,
        Except.map]
    · refine ⟨⟨executable, hmarked⟩, ?_, ?_, ?_, fun hgone => absurd hfile (hgone _ _)⟩
      · rw [get?_erase _ hroot, if_pos rfl]
      · intro other hsession hsentinel
        rw [get?_erase _ hroot, if_neg hsentinel, hgrows.get?_of_ne hsession]
      · intro known executable'' hknown
        obtain ⟨rfl, rfl⟩ : bytes = known ∧ executable' = executable'' := by
          simpa [hfile] using hknown
        refine ⟨reply, outcome, hturn, rfl, ?_⟩
        rw [get?_erase _ hroot, if_neg hne.symm, hnow]
  · have hgone : ∀ bytes executable,
        w.files.get? (place ++ [id]) ≠ some (.file bytes executable) :=
      fun bytes executable hfile => hthere ⟨bytes, executable, hfile⟩
    obtain ⟨cause, hfailed⟩ := exists_appendReply_eq_error hfs hname hgone reply
    have hcleared := removeSentinel_of_file hfs hname.noSlash hmarkable hstill
    refine ⟨.error cause, { w with files := w.files.erase (place ++ [sentinelName id]) }, ?_, rfl,
      ?_⟩
    · rw [steps_succ, step_unrecordable hfailed, steps_succ, step_unmarking hcleared,
        Generator.steps, Except.map]
    · refine ⟨⟨executable, hmarked⟩, ?_, ?_, fun hfile => absurd hfile (hgone _ _), ?_⟩
      · rw [get?_erase _ hroot, if_pos rfl]
      · intro other _ hsentinel
        rw [get?_erase _ hroot, if_neg hsentinel]
      · intro _
        rw [get?_erase _ hroot, if_neg hne.symm]
        exact ⟨⟨cause, rfl⟩, rfl⟩

/-- A worker that owes a reply and has marked its session asks the backend once, whatever becomes
of the session meanwhile, and leaves the session unmarked. -/
theorem exists_process_of_marked (hfs : w.files.Holds g.directory place) (hname : Path.IsName id)
    (hread : w.files.readText (Path.join g.directory id) = .ok text)
    (howed : needsResponse text = true) {marked : FileSystem}
    (hmark : createSentinel w.files g.directory id = .ok marked)
    {answer : Answer} {asked : World σ}
    (hasked : g.backend.ask (g.callFor text) (w.written (sentinelPath g.directory id) marked) =
      (answer, asked)) (hsteady : answer ≠ .crash)
    (hspared : ChangesBelow (place ++ [id]) marked asked.files) :
    ∃ result after, g.process (itemOf g.directory id) w = (some result, after) ∧
      after.host = asked.host ∧
      Concludes place id marked answer asked.files result after.files := by
  obtain ⟨hmarkable, executable, hsentinel⟩ := get?_of_createSentinel hfs hname.noSlash hmark
  have hmarked : marked.Holds g.directory place :=
    (differsAt_of_createSentinel hfs hname.noSlash hmark).holds hfs
  have hstill : asked.files.get? (place ++ [sentinelName id]) = some (.file [] executable) := by
    rw [hspared.get?_of_ne (ne_sentinelName id).symm, hsentinel]
  obtain ⟨herror, -⟩ := (hfs.readText_join hname).mp hread
  obtain ⟨reply, outcome, hturn, -⟩ := exists_turnFor? hsteady
  obtain ⟨result, after, hsteps, hhost, hconcludes⟩ := exists_steps_recording
    (hspared.holds hmarked) hname herror hmarkable hsentinel hstill hturn
  have hgenerating : g.step (itemOf g.directory id) (.generating text)
      (w.written (sentinelPath g.directory id) marked) = (.recording reply outcome, asked) := by
    rw [step_generating (itemOf g.directory id) (by rw [hasked, hturn]), hasked]
  refine ⟨result, after, process_of_steps (n := 5) (by decide) ?_, hhost, hconcludes⟩
  rw [steps_succ, step_reading hread, howed, if_pos rfl, steps_succ, step_marking hmark,
    steps_succ, hgenerating, hsteps]

end Process

/-- What becomes of a session that is answered, on every path. The backend keeps a record of its
calls, and others may do to the session what they like while it is asked. -/
theorem process_recorded {g : Generator σ} {place : Location} {id : String}
    {w : World (σ × List (Call × FileSystem))} (hfs : w.files.Holds g.directory place)
    (hname : Path.IsName id) (hsteady : g.backend.IsSteady)
    (hspares : g.backend.SparesOthers g.directory place id) :
    ((∀ text, w.files.readText (Path.join g.directory id) ≠ .ok text) →
      ∃ cause, g.recorded.process (itemOf g.directory id) w = (some (.error cause), w)) ∧
    ∀ text, w.files.readText (Path.join g.directory id) = .ok text →
      (needsResponse text = false →
        g.recorded.process (itemOf g.directory id) w = (some (.ok .skipped), w)) ∧
      (needsResponse text = true →
        (∀ cause, createSentinel w.files g.directory id = .error cause →
          ∃ after, g.recorded.process (itemOf g.directory id) w =
              (some (.ok .errorReply), after) ∧
            after.host = w.host ∧
            Appends (place ++ [id]) (excuse cause) w.files after.files) ∧
        ∀ marked, createSentinel w.files g.directory id = .ok marked →
          ∃ answer asked result after,
            g.backend.ask (g.callFor text)
                (w.written (sentinelPath g.directory id) marked).unrecorded = (answer, asked) ∧
            g.recorded.process (itemOf g.directory id) w = (some result, after) ∧
            after.host = (asked.host, w.host.2 ++ [(g.callFor text, marked)]) ∧
            DiffersAt (place ++ [sentinelName id]) w.files marked ∧
            Concludes place id marked answer asked.files result after.files) := by
  refine ⟨exists_process_of_unreadable (g := g.recorded), fun text hread => ⟨?_, ?_⟩⟩
  · exact process_of_not_owed (g := g.recorded) hread
  intro howed
  refine ⟨fun cause hmark => ?_, fun marked hmark => ?_⟩
  · exact exists_process_of_unmarkable (g := g.recorded) hfs hname hread howed hmark
  · have hdiff := differsAt_of_createSentinel hfs hname.noSlash hmark
    have hthere : ∃ bytes executable, marked.get? (place ++ [id]) =
        some (.file bytes executable) := by
      obtain ⟨-, bytes, executable, hentry, -⟩ := (hfs.readText_join hname).mp hread
      refine ⟨bytes, executable, ?_⟩
      rw [hdiff.get?_of_ne (by simpa using ne_sentinelName id), hentry]
    have hspared := hspares (g.callFor text)
      (w.written (sentinelPath g.directory id) marked).unrecorded (hdiff.holds hfs) hthere
    obtain ⟨result, after, hprocess, hhost, hconcludes⟩ :=
      exists_process_of_marked (g := g.recorded) hfs hname hread howed hmark
        (g.backend.ask_recorded _ _) (hsteady _ _) hspared
    exact ⟨_, _, result, after, rfl, hprocess, hhost, hdiff, hconcludes⟩

/-- A rehearsal in which the user says more while the backend is asked. -/
def interrupted : Generator (List DryRun.Record) where
  backend := DryRun.backend "/s" (.fixed "Hello.")
    [.append (Path.join "/s" "a") (Utf8.encode "User: Wait\n")]
  directory := "/s"
  params := (rehearsal (.fixed "Hello.")).params

theorem process_recorded_interrupted :
    ∃ after, interrupted.recorded.process (itemOf "/s" "a")
        (.start (withFile "a" (Utf8.encode "User: hi\n")) ([], [])) =
          (some (.ok .replied), after) ∧
      (∃ marked, after.host.2 = [(interrupted.callFor "User: hi\n", marked)]) ∧
      after.files.get? ["s", sentinelName "a"] = none := by
  have hname : Path.IsName "a" := ⟨⟨by decide, by decide⟩, by decide, by decide⟩
  have hid : IsSessionName "a" := ⟨by decide, by decide⟩
  have hfinds := Finds.withFile hid (by decide) "User: hi\n"
  have hspares : interrupted.backend.SparesOthers "/s" ["s"] "a" :=
    DryRun.sparesOthers_backend "/s" ["s"] hname (.fixed "Hello.") _
  have hsteady : interrupted.backend.IsSteady := DryRun.isSteady_backend _ (by decide) _
  obtain ⟨-, hreads⟩ := process_recorded (g := interrupted)
    (w := .start (withFile "a" (Utf8.encode "User: hi\n")) ([], [])) hfinds.holds hname hsteady
    hspares
  obtain ⟨-, howes⟩ := hreads _ hfinds.read
  obtain ⟨-, hmarks⟩ := howes (by decide)
  obtain ⟨marked, hmark⟩ : ∃ marked,
      createSentinel (withFile "a" (Utf8.encode "User: hi\n")) "/s" "a" = .ok marked := by
    refine ⟨_, (createSentinel_eq_ok hfinds.holds hname.noSlash).mpr ⟨by decide, .inl ⟨?_, rfl⟩⟩⟩
    rw [get?_withFile, if_neg (by decide)]
  obtain ⟨answer, asked, result, after, hasked, hprocess, hhost, hdiff, hconcludes⟩ :=
    hmarks marked hmark
  obtain rfl : .reply "Hello." = answer := congrArg Prod.fst hasked
  have hmarked : marked.get? (["s"] ++ ["a"]) = some (.file (Utf8.encode "User: hi\n") false) := by
    rw [hdiff.get?_of_ne (by simpa using ne_sentinelName "a")]
    exact get?_withFile "a" _ "a"
  have hmore : marked.appendOrCreate (Path.join "/s" "a") (Utf8.encode "User: Wait\n") = .ok _ :=
    ((hdiff.holds hfinds.holds).openOrCreate_join hname).mpr
      ⟨by decide, .inr ⟨_, _, hmarked, rfl⟩⟩
  have hleft : (marked.put (["s"] ++ ["a"]) (.file (Utf8.encode "User: hi\n" ++
      Utf8.encode "User: Wait\n") false)) = asked.files := by
    have hfiles := congrArg (fun result => result.2.files) hasked
    refine Eq.trans ?_ hfiles
    show _ = (Edit.apply marked (.append (Path.join "/s" "a") (Utf8.encode "User: Wait\n"))).1
    rw [Edit.apply, hmore]
  have hroot : ["s"] ++ ["a"] ≠ [] := by simp
  have hthere := get?_put_self marked hroot (.file
    (Utf8.encode "User: hi\n" ++ Utf8.encode "User: Wait\n") false)
  rw [hleft] at hthere
  obtain ⟨reply, outcome, hturn, rfl, -⟩ := hconcludes.appended hthere
  obtain ⟨-, rfl⟩ := Prod.mk.inj (Option.some.inj hturn)
  exact ⟨after, hprocess, ⟨marked, by rw [hhost]; rfl⟩, hconcludes.cleared⟩

end Worker

end FileChat
