/-
# Work items of a directory

Whatever an event or a listing says, a work item names a session of the directory, and a session
that holds a text is never passed over.
-/

import FileChat.Proofs.Session.Store
import FileChat.Session.Watch

namespace FileChat.Session

open FileSystem

/-- The work item of a session of a directory. -/
def itemOf (directory : Path) (id : String) : WorkItem := ⟨Path.join directory id, id⟩

/-- A work item for a session of a directory. -/
def IsItemOf (directory : Path) (item : WorkItem) : Prop :=
  ∃ id, IsSessionName id ∧ item = itemOf directory id

variable {fs : FileSystem} {directory path : Path} {place : Location} {id text : String}

/-- Nothing but a session becomes a work item. -/
theorem isItemOf_of_workItem? {item : WorkItem} (h : workItem? fs directory path = some item) :
    IsItemOf directory item := by
  unfold workItem? at h
  cases htext : (Path.fileName? path).bind Path.text? with
  | none =>
      rw [htext] at h
      cases h
  | some name =>
      rw [htext] at h
      dsimp only at h
      split at h
      · next hgood =>
          obtain ⟨hvisible, -⟩ := Bool.and_eq_true_iff.mp hgood
          obtain rfl := Option.some.inj h
          obtain ⟨_, hname, hsame⟩ := Option.bind_eq_some_iff.mp htext
          obtain ⟨-, rfl⟩ := Path.text?_eq_some_iff.mp hsame
          exact ⟨_, ⟨by simpa using hvisible, (Path.isName_of_fileName? hname).noSlash⟩, rfl⟩
      · cases h

/-- Nothing under a hidden name does. -/
theorem workItem?_eq_none {name : String} (hname : Path.fileName? path = some name)
    (hhidden : isHiddenName name = true) : workItem? fs directory path = none := by
  unfold workItem?
  rw [hname, Option.bind_some]
  cases htext : Path.text? name with
  | none => rfl
  | some text =>
      obtain ⟨-, rfl⟩ := Path.text?_eq_some_iff.mp htext
      dsimp only
      rw [hhidden, if_neg (by simp)]

/-- A file with the name of a session becomes one. -/
theorem workItem?_join (hid : IsSessionName id)
    (hfile : fs.isRegularFile (Path.join directory id) = true) :
    workItem? fs directory (Path.join directory id) = some (itemOf directory id) := by
  unfold workItem?
  rw [Path.fileName?_join hid.isName, Option.bind_some,
    (isText_of_isRegularFile_join hfile).text?_eq]
  dsimp only
  rw [hid.visible, hfile, if_pos (by simp), itemOf]

/-- So does a session that holds a text. -/
theorem Finds.workItem?_join (h : Finds directory place id fs text) :
    workItem? fs directory (Path.join directory id) = some (itemOf directory id) := by
  have hname := h.session.isName
  obtain ⟨herror, bytes, executable, hentry, -⟩ := (h.holds.readText_join hname).mp h.read
  refine Session.workItem?_join h.session ?_
  rw [isRegularFile, h.holds.metadata_join hname herror hentry]

theorem mem_workItems {event : Event} {item : WorkItem} (h : item ∈ workItems fs directory event) :
    IsItemOf directory item := by
  obtain ⟨path, -, hitem⟩ := List.mem_filterMap.mp h
  exact isItemOf_of_workItem? hitem

/-- The event of a notice that an entry of the directory was closed. -/
theorem ofNotice?_closed (directory : Path) (place : Location) (name : String) :
    Event.ofNotice? directory (.closed (place ++ [name])) =
      some ⟨.closed .write, [Path.join directory name]⟩ := by
  simp [Event.ofNotice?]

theorem workItems_closed : workItems fs directory ⟨.closed .write, [path]⟩ =
    (workItem? fs directory path).toList := by
  have hcomplete : Event.completePaths ⟨.closed .write, [path]⟩ = [path] := rfl
  rw [workItems, hcomplete, List.filterMap_cons]
  cases workItem? fs directory path <;> rfl

/-- A notice that a session was closed leads to it. -/
theorem Finds.exists_event (h : Finds directory place id fs text) :
    ∃ event, Event.ofNotice? directory (.closed (place ++ [id])) = some event ∧
      itemOf directory id ∈ workItems fs directory event := by
  refine ⟨_, ofNotice?_closed directory place id, ?_⟩
  rw [workItems_closed, h.workItem?_join]
  exact List.mem_singleton_self _

/-- A session that holds a text is listed. -/
theorem Finds.mem_names (h : Finds directory place id fs text) {found : List String}
    (hfound : names fs directory = .ok found) : id ∈ found := by
  obtain ⟨-, bytes, executable, hentry, -⟩ :=
    (h.holds.readText_join h.session.isName).mp h.read
  rw [names, during_eq_ok, h.holds.list_eq] at hfound
  exact Except.ok.inj hfound ▸ FileSystem.mem_names hentry

/-- Putting sessions in order loses none and brings in none. -/
theorem mem_inIdOrder {items : List WorkItem} {item : WorkItem} :
    item ∈ inIdOrder items ↔ item ∈ items := List.mem_mergeSort

end FileChat.Session
