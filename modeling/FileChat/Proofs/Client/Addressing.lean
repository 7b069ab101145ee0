/-
# How client and daemon address a session

The client names a session by an id, the daemon by the name of a file, and both have a path for its
sentinel. Wherever one of them makes a name or takes it apart, the other has a place where the same
is done the other way round, and here they are compared. What keeps sessions and sentinels apart is
that the names of sentinels are hidden and accepted ids are not; what keeps sessions apart is that
an accepted id is one component of a path.
-/

import FileChat.Proofs.Client.Session
import FileChat.Proofs.Session.Listing
import FileChat.Proofs.Worker.Settled

namespace FileChat.Client.Session

open FileChat.Session FileSystem
open Worker (Generator Outcome)

variable {directory : Path} {options : Options} {id : String} {session : Session}

/-- The work item by which the daemon knows the session. -/
def item (session : Session) : WorkItem := ⟨session.path, session.id⟩

/-- Client and daemon mean the same by a session of a directory, and no other session. -/
structure Meets (directory : Path) (session : Session) : Prop where
  /-- The file of the session is the entry of the directory that has the id as its name. -/
  components_path : Path.components session.path = Path.components directory ++ [session.id]
  /-- The sentinel is an entry of the directory, too. -/
  components_sentinel :
    Path.components session.sentinel = Path.components directory ++ [sentinelName session.id]
  /-- The end of a write to the file, or of a move to its name, leads to the session alone. -/
  notified {fs : FileSystem} (hfile : fs.isRegularFile session.path = true) (source : Path) :
    workItems fs directory ⟨.closed .write, [session.path]⟩ = [session.item] ∧
      workItems fs directory ⟨.renamed .target, [session.path]⟩ = [session.item] ∧
      workItems fs directory ⟨.renamed .both, [source, session.path]⟩ = [session.item]
  /-- A scan finds the file. Only the empty path is the path of no directory. -/
  listed {fs : FileSystem} (hdirectory : directory ≠ "")
    (hfile : fs.isRegularFile session.path = true) :
    ∃ items, scan fs directory = .ok items ∧ session.item ∈ items
  /-- Each session is listed once, in the order of the ids. -/
  ordered {fs : FileSystem} (hnamed : fs.IsNamed) {items : List WorkItem}
    (hscan : scan fs directory = .ok items) :
    items.Pairwise fun first second => first.id < second.id
  /-- A worker marks the session with the sentinel that the client looks for. -/
  marked {σ : Type} {g : Generator σ} (hg : g.directory = directory) {content : String}
    {w after : World σ}
    (hstep : g.step session.item (.marking content) w = (.generating content, after)) :
    w.files.write session.sentinel [] = .ok after.files ∧
      after.files.pathExists session.sentinel = true
  /-- The worker takes the same sentinel away, or fails to do so and changes nothing. -/
  unmarked {σ : Type} {g : Generator σ} (hg : g.directory = directory)
    {appended : Except StoreError Unit} {outcome : Outcome} {result : Except StoreError Outcome}
    {w after : World σ}
    (hstep : g.step session.item (.unmarking appended outcome) w = (.finished result, after)) :
    after.files.pathExists session.sentinel = false ∨ after = w ∧ ∃ e, result = .error e
  /-- Recovery reads the id off the name of the sentinel. -/
  decoded : (Path.fileName? session.sentinel).bind idOfSentinel? = some session.id
  /-- No client accepts the name of the sentinel as an id. -/
  refused (elsewhere : Path) (options : Options) :
    at? (sentinelName session.id) elsewhere options = .error (.invalidId (sentinelName session.id))
  /-- A path that ends with the name of the sentinel is not worked on. -/
  ignored (fs : FileSystem) {path : Path} (hname : Path.fileName? path = sentinelName session.id) :
    workItem? fs directory path = none
  /-- No event and no scan leads to the sentinel. -/
  unlisted {fs : FileSystem} {worked : WorkItem}
    (hworked : (∃ event, worked ∈ workItems fs directory event) ∨
      ∃ items, scan fs directory = .ok items ∧ worked ∈ items) :
    worked.id ≠ sentinelName session.id ∧
      Path.components worked.path ≠ Path.components session.sentinel
  /-- Two sessions with different ids share nothing. -/
  apart {options : Options} {id : String} {other : Session}
    (hother : at? id directory options = .ok other) (hne : other.id ≠ session.id) :
    Path.components other.path ≠ Path.components session.path ∧
      Path.components other.sentinel ≠ Path.components session.sentinel
  /-- The file of no session is the sentinel of any. -/
  unmixed {options : Options} {id : String} {other : Session}
    (hother : at? id directory options = .ok other) :
    Path.components other.path ≠ Path.components session.sentinel ∧
      Path.components session.path ≠ Path.components other.sentinel

/-- Two names below one directory are told apart by the components of the paths. -/
theorem ne_of_components {first second : Path} {name other : String}
    (hfirst : Path.components first = Path.components directory ++ [name])
    (hsecond : Path.components second = Path.components directory ++ [other])
    (hne : name ≠ other) : Path.components first ≠ Path.components second := by
  rw [hfirst, hsecond]
  simpa using hne

theorem components_of_at?_eq_ok (h : at? id directory options = .ok session) :
    IsSessionName session.id ∧
      Path.components session.path = Path.components directory ++ [session.id] ∧
      Path.components session.sentinel =
        Path.components directory ++ [sentinelName session.id] := by
  obtain ⟨hid, hpath⟩ := of_at?_eq_ok h
  obtain ⟨rfl, hsentinel⟩ := names_of_at?_eq_ok h
  rw [hpath, hsentinel]
  exact ⟨hid, Path.components_join hid.isName,
    Path.components_join (isName_sentinelName hid.noSlash)⟩

/-- A worker that has marked a session has written its sentinel. -/
theorem createSentinel_of_step {σ : Type} {g : Generator σ} {worked : WorkItem}
    {content : String} {w after : World σ}
    (hstep : g.step worked (.marking content) w = (.generating content, after)) :
    createSentinel w.files g.directory worked.id = .ok after.files := by
  unfold Generator.step at hstep
  dsimp only at hstep
  split at hstep
  · cases hstep
  · next files hdone =>
      obtain ⟨-, rfl⟩ := Prod.mk.inj hstep
      exact hdone

/-- A worker that is done with a session has taken its sentinel away, or else could not. -/
theorem removeSentinel_of_step {σ : Type} {g : Generator σ} {worked : WorkItem}
    {appended : Except StoreError Unit} {outcome : Outcome} {result : Except StoreError Outcome}
    {w after : World σ}
    (hstep : g.step worked (.unmarking appended outcome) w = (.finished result, after)) :
    removeSentinel w.files g.directory worked.id = .ok after.files ∨
      after = w ∧ ∃ e, result = .error e := by
  unfold Generator.step at hstep
  dsimp only at hstep
  split at hstep
  · obtain ⟨hresult, rfl⟩ := Prod.mk.inj hstep
    obtain rfl := Worker.Stage.finished.inj hresult
    cases appended with
    | error e => exact .inr ⟨rfl, e, rfl⟩
    | ok _ => exact .inr ⟨rfl, _, rfl⟩
  · next files hdone =>
      obtain ⟨-, rfl⟩ := Prod.mk.inj hstep
      exact .inl hdone

/-- Client and daemon mean the same by every session that a client can refer to. -/
theorem meets_of_accepted (h : at? id directory options = .ok session) :
    Meets directory session := by
  obtain ⟨hid, hpath⟩ := of_at?_eq_ok h
  obtain ⟨rfl, hsentinel⟩ := names_of_at?_eq_ok h
  obtain ⟨-, hfile, hmark⟩ := components_of_at?_eq_ok h
  have hitem : session.item = itemOf directory session.id := by rw [item, hpath, itemOf]
  exact {
    components_path := hfile
    components_sentinel := hmark
    notified := by
      intro fs hregular source
      have hwork : workItem? fs directory session.path = some session.item := by
        rw [hitem, hpath]
        exact workItem?_join hid (hpath ▸ hregular)
      simp [workItems, Event.completePaths, EventKind.isWriteComplete, hwork]
    listed := by
      intro fs hdirectory hregular
      rw [hitem]
      exact exists_scan_of_isRegularFile hid hdirectory (hpath ▸ hregular)
    ordered := fun hnamed _ hscan => pairwise_scan hnamed hscan
    marked := by
      intro σ g hg content w after hstep
      have hdone := createSentinel_of_step hstep
      rw [hg] at hdone
      rw [hsentinel]
      exact ⟨during_eq_ok.mp hdone, pathExists_of_createSentinel hdone⟩
    unmarked := by
      intro σ g hg appended outcome result w after hstep
      refine (removeSentinel_of_step hstep).imp_left fun hdone => ?_
      rw [hg] at hdone
      rw [hsentinel]
      exact pathExists_of_removeSentinel hid.noSlash hdone
    decoded := by
      rw [hsentinel, sentinelPath, Path.fileName?_join (isName_sentinelName hid.noSlash),
        Option.bind_some, idOfSentinel?_sentinelName]
    refused := by
      intro elsewhere options
      rw [at?, isValidId, isHiddenName_sentinelName]
      rfl
    ignored := fun _ _ hname => workItem?_eq_none hname (isHiddenName_sentinelName _)
    unlisted := by
      intro fs worked hworked
      obtain ⟨name, hname, rfl⟩ : IsItemOf directory worked := by
        obtain ⟨event, hmem⟩ | ⟨items, hscan, hmem⟩ := hworked
        · exact mem_workItems hmem
        · exact isItemOf_of_mem_scan hscan hmem
      exact ⟨hname.ne_sentinelName _, ne_of_components (Path.components_join hname.isName) hmark
        (hname.ne_sentinelName _)⟩
    apart := by
      intro options id other hother hne
      obtain ⟨-, hotherFile, hotherMark⟩ := components_of_at?_eq_ok hother
      have hmarks : sentinelName other.id ≠ sentinelName session.id := by
        simpa [sentinelName] using hne
      exact ⟨ne_of_components hotherFile hfile hne, ne_of_components hotherMark hmark hmarks⟩
    unmixed := by
      intro options id other hother
      obtain ⟨hotherId, hotherFile, hotherMark⟩ := components_of_at?_eq_ok hother
      exact ⟨ne_of_components hotherFile hmark (hotherId.ne_sentinelName _),
        ne_of_components hfile hotherMark (hid.ne_sentinelName _)⟩ }

theorem isNamed_withFile : (withFile "a" []).IsNamed := by
  intro place name hthere
  rw [withFile, get?_put _ (by simp), get?_put _ (by simp)] at hthere
  have hname : name = "a" ∨ name = "s" := by
    split at hthere
    · next hfile => exact .inl (by simpa using congrArg List.getLast? hfile)
    · split at hthere
      · next hdirectory => exact .inr (by simpa using congrArg List.getLast? hdirectory)
      · simp [get?, FileSystem.empty] at hthere
  obtain rfl | rfl := hname
  · exact ⟨⟨by decide, by decide⟩, by decide, by decide⟩
  · exact ⟨⟨by decide, by decide⟩, by decide, by decide⟩

/-- The daemon finds a client's session in a small tree, and marks it where the client looks. -/
theorem meets_of_accepted_caller :
    workItems (withFile "a" []) "/s" ⟨.closed .write, [caller.path]⟩ = [caller.item] ∧
      (∃ items, scan (withFile "a" []) "/s" = .ok items ∧ caller.item ∈ items ∧
        items.Pairwise fun first second => first.id < second.id) ∧
      ∃ after, (Worker.rehearsal .echo).step caller.item (.marking "")
          (.start (withFile "a" []) []) = (.generating "", after) ∧
        after.files.pathExists caller.sentinel = true := by
  have hmeets : Meets "/s" caller := meets_of_accepted at?_caller
  have hid : IsSessionName "a" := ⟨by decide, by decide⟩
  have hentry : (withFile "a" []).get? (["s"] ++ ["a"]) = some (.file [] false) :=
    get?_withFile "a" [] "a"
  have hregular : (withFile "a" []).isRegularFile caller.path = true :=
    isRegularFile_iff.mpr ⟨[], ((holds_withFile "a" []).readBytes_join hid.isName).mpr
      ⟨by decide, false, hentry⟩⟩
  refine ⟨(hmeets.notified hregular "").1, ?_, ?_⟩
  · obtain ⟨items, hscan, hmem⟩ := hmeets.listed (by decide) hregular
    exact ⟨items, hscan, hmem, hmeets.ordered isNamed_withFile hscan⟩
  · have hfree : (withFile "a" []).get? (["s"] ++ [sentinelName "a"]) = none := by
      rw [get?_withFile, if_neg (by decide)]
    have hcreate := (createSentinel_eq_ok (holds_withFile "a" []) hid.noSlash).mpr
      ⟨by decide, .inl ⟨hfree, rfl⟩⟩
    have hstep : (Worker.rehearsal .echo).step caller.item (.marking "")
        (.start (withFile "a" []) []) = (.generating "", _) :=
      Worker.step_marking hcreate
    exact ⟨_, hstep, (hmeets.marked rfl hstep).2⟩

end FileChat.Client.Session
