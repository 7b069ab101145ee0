/-
# What a scan lists

A scan lists the sessions of a directory by their names. Since no two entries of a directory share
a name, no session is listed twice, and the order of the list is strict. A file with the name of a
session is listed whenever it can be seen, whatever links lead to it.
-/

import FileChat.Proofs.Files.Presence
import FileChat.Proofs.Session.Watch

namespace FileChat

/-- Every entry of the tree has a name that an entry can have. -/
def FileSystem.IsNamed (fs : FileSystem) : Prop :=
  ∀ place name, fs.get? (place ++ [name]) ≠ none → Path.IsName name

namespace Session

open FileSystem

variable {fs after : FileSystem} {directory : Path} {place : Location} {id name : String}
variable {items : List WorkItem} {item : WorkItem}

theorem scan_eq_ok : scan fs directory = .ok items ↔
    ∃ found, names fs directory = .ok found ∧ items = inIdOrder (found.filterMap fun name =>
      workItem? fs directory (Path.join directory name)) := by
  rw [scan]
  cases names fs directory with
  | error e => simp [Except.map]
  | ok found => simp [Except.map, eq_comm]

/-- Nothing but sessions of the directory is listed. -/
theorem isItemOf_of_mem_scan (hscan : scan fs directory = .ok items) (hitem : item ∈ items) :
    IsItemOf directory item := by
  obtain ⟨found, -, rfl⟩ := scan_eq_ok.mp hscan
  obtain ⟨name, -, hname⟩ := List.mem_filterMap.mp (mem_inIdOrder.mp hitem)
  exact isItemOf_of_workItem? hname

/-- A file with the name of a session is listed. Only the empty path leads to no directory of the
files below it. -/
theorem exists_scan_of_isRegularFile (hid : IsSessionName id) (hdirectory : directory ≠ "")
    (hfile : fs.isRegularFile (Path.join directory id) = true) :
    ∃ items, scan fs directory = .ok items ∧ itemOf directory id ∈ items := by
  obtain ⟨place, hopens, hmem⟩ := exists_mem_names_of_isRegularFile hid.isName hdirectory hfile
  have hnames : names fs directory = .ok (fs.names place) := by
    rw [names, hopens.list_eq]
    rfl
  refine ⟨_, scan_eq_ok.mpr ⟨_, hnames, rfl⟩, mem_inIdOrder.mpr ?_⟩
  exact List.mem_filterMap.mpr ⟨id, hmem, workItem?_join hid hfile⟩

/-- What is found under a name has the name as its id. -/
theorem id_eq_of_workItem?_join (hname : Path.IsName name)
    (hitem : workItem? fs directory (Path.join directory name) = some item) : item.id = name := by
  unfold workItem? at hitem
  rw [Path.fileName?_join hname, Option.bind_some] at hitem
  cases htext : Path.text? name with
  | none =>
      rw [htext] at hitem
      cases hitem
  | some text =>
      rw [htext] at hitem
      obtain ⟨-, rfl⟩ := Path.text?_eq_some_iff.mp htext
      dsimp only at hitem
      split at hitem
      · rw [← Option.some.inj hitem]
      · cases hitem

/-- A list has the names of one directory. -/
theorem exists_place_of_names {found : List String} (hfound : names fs directory = .ok found) :
    ∃ place, found = fs.names place := by
  rw [names, during_eq_ok, list, bind_eq_ok] at hfound
  obtain ⟨reached, -, hlist⟩ := hfound
  split at hlist
  · next place => exact ⟨place, (pure_eq_ok.mp hlist).symm⟩
  · cases hlist
  · cases hlist

/-- Sessions are listed in the order of their ids, and each of them once: the ids are names of the
directory, and no name is taken twice. -/
theorem pairwise_scan (hnamed : fs.IsNamed) (hscan : scan fs directory = .ok items) :
    items.Pairwise fun first second => first.id < second.id := by
  obtain ⟨found, hfound, rfl⟩ := scan_eq_ok.mp hscan
  obtain ⟨place, rfl⟩ := exists_place_of_names hfound
  have hids : ((fs.names place).filterMap fun name =>
      workItem? fs directory (Path.join directory name)).map WorkItem.id =
        (fs.names place).filter fun name =>
          (workItem? fs directory (Path.join directory name)).isSome := by
    rw [List.map_filterMap, ← List.filterMap_eq_filter]
    refine List.filterMap_congr fun name hname => ?_
    have hproper := hnamed place name (get?_of_mem_names hname)
    cases hitem : workItem? fs directory (Path.join directory name) with
    | none => simp [Option.guard, hitem]
    | some item => simp [Option.guard, hitem, id_eq_of_workItem?_join hproper hitem]
  have hnodup : (inIdOrder ((fs.names place).filterMap fun name =>
      workItem? fs directory (Path.join directory name))).Pairwise
        fun first second => first.id ≠ second.id := by
    rw [← List.pairwise_map (f := WorkItem.id) (R := fun first second => first ≠ second)]
    refine (((List.mergeSort_perm _ _).map WorkItem.id).nodup_iff).mpr ?_
    rw [hids]
    exact (nodup_names fs place).filter _
  have hsorted : (inIdOrder ((fs.names place).filterMap fun name =>
      workItem? fs directory (Path.join directory name))).Pairwise
        fun first second => inOrder first.id second.id = true :=
    List.pairwise_mergeSort (by simp only [inOrder]; grind) (by simp only [inOrder]; grind) _
  refine (hsorted.and hnodup).imp fun ⟨hordered, hne⟩ => ?_
  simp only [inOrder] at hordered
  grind

/-- A sentinel that was created is there, whatever was at its path before. -/
theorem pathExists_of_createSentinel (hdone : createSentinel fs directory id = .ok after) :
    after.pathExists (sentinelPath directory id) = true := by
  rw [createSentinel, during_eq_ok, write] at hdone
  exact pathExists_of_openOrCreate hdone

/-- A sentinel that was removed is not there, whatever was at its path before. -/
theorem pathExists_of_removeSentinel (hslash : '/' ∉ id.toList)
    (hdone : removeSentinel fs directory id = .ok after) :
    after.pathExists (sentinelPath directory id) = false := by
  rcases removeSentinel_eq_ok.mp hdone with hremove | ⟨hnone, rfl⟩
  · exact pathExists_of_remove hremove
  · exact pathExists_of_remove_eq_notFound
      (Path.hasFinalSlash_join (isName_sentinelName hslash).toIsStep _) hnone

end Session

end FileChat
