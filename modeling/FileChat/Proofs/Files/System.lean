/-
# Changes at one location

The tree is one table, so a change at one location is seen there and nowhere else. What is
proved about paths and sessions goes through these few facts and never looks into the table
again.
-/

import Mathlib.Data.List.Nodup
import FileChat.Files.System
import FileChat.Proofs.Lookup

namespace FileChat.FileSystem

/-- What is at a location after an entry was put somewhere. -/
theorem get?_put (fs : FileSystem) {place : Location} (hroot : place ≠ []) (entry : Entry)
    (other : Location) :
    (fs.put place entry).get? other = if other = place then some entry else fs.get? other := by
  unfold get?
  by_cases hother : other = []
  · rw [if_pos hother, if_neg (hother ▸ Ne.symm hroot), if_pos hother]
  · rw [if_neg hother, if_neg hother]
    unfold put
    by_cases hsame : other = place
    · subst hsame
      rw [if_pos rfl]
      split
      · next hlisted => exact lookup_map_replace_self entry hlisted
      · exact List.lookup_cons_self
    · rw [if_neg hsame]
      split
      · exact lookup_map_replace_of_ne hsame entry fs.entries
      · simp only [List.lookup_cons, beq_false_of_ne hsame]

theorem get?_put_self (fs : FileSystem) {place : Location} (hroot : place ≠ []) (entry : Entry) :
    (fs.put place entry).get? place = some entry := by
  rw [get?_put fs hroot, if_pos rfl]

theorem get?_put_of_ne (fs : FileSystem) {place other : Location} (hroot : place ≠ [])
    (entry : Entry) (hne : other ≠ place) : (fs.put place entry).get? other = fs.get? other := by
  rw [get?_put fs hroot, if_neg hne]

/-- What is at a location after another was taken away. -/
theorem get?_erase (fs : FileSystem) {place : Location} (hroot : place ≠ []) (other : Location) :
    (fs.erase place).get? other = if other = place then none else fs.get? other := by
  unfold get?
  by_cases hother : other = []
  · rw [if_pos hother, if_neg (hother ▸ Ne.symm hroot), if_pos hother]
  · rw [if_neg hother, if_neg hother]
    exact lookup_filter_ne fs.entries place other

@[simp]
theorem workingDirectory_put (fs : FileSystem) (place : Location) (entry : Entry) :
    (fs.put place entry).workingDirectory = fs.workingDirectory := by
  unfold put
  split <;> rfl

/-- Every entry of a directory is listed. -/
theorem mem_names {fs : FileSystem} {place : Location} {name : String} {entry : Entry}
    (h : fs.get? (place ++ [name]) = some entry) : name ∈ fs.names place := by
  rw [get?, if_neg (by simp)] at h
  obtain ⟨before, after, hentries, -⟩ := List.lookup_eq_some_iff.mp h
  refine List.mem_filterMap.mpr ⟨(place ++ [name], entry), ?_, ?_⟩
  · rw [hentries]
    exact List.mem_append_right _ List.mem_cons_self
  · simp

/-- A location with a name at the end is one step below a place. -/
theorem eq_append_of_name {place location : Location} {name : String}
    (h : (if location ≠ [] && location.dropLast = place then location.getLast? else none) =
      some name) : location = place ++ [name] := by
  split at h
  · next hbelow =>
      obtain ⟨-, rfl⟩ : location ≠ [] ∧ location.dropLast = place := by simpa using hbelow
      obtain ⟨before, rfl⟩ := List.getLast?_eq_some_iff.mp h
      rw [List.dropLast_concat]
  · cases h

/-- Everything that is listed is there. -/
theorem get?_of_mem_names {fs : FileSystem} {place : Location} {name : String}
    (h : name ∈ fs.names place) : fs.get? (place ++ [name]) ≠ none := by
  obtain ⟨known, hknown, hname⟩ := List.mem_filterMap.mp h
  rw [get?, if_neg (by simp)]
  intro hnone
  have hother := List.lookup_eq_none_iff.mp hnone known hknown
  simp [eq_append_of_name hname] at hother

/-- Nothing is listed twice. -/
theorem nodup_names (fs : FileSystem) (place : Location) : (fs.names place).Nodup := by
  have hnames : fs.names place = (fs.entries.map Prod.fst).filterMap fun location =>
      if location ≠ [] && location.dropLast = place then location.getLast? else none := by
    rw [List.filterMap_map]
    rfl
  rw [hnames]
  refine List.Nodup.filterMap (fun first second name hfirst hsecond => ?_) fs.nodup
  rw [eq_append_of_name hfirst, eq_append_of_name hsecond]

/-- The bytes of the file at a location. Where there is no file there are none. -/
def bytesAt (fs : FileSystem) (place : Location) : Bytes :=
  match fs.get? place with
  | some (.file bytes _) => bytes
  | _ => []

theorem bytesAt_of_file {fs : FileSystem} {place : Location} {bytes : Bytes} {executable : Bool}
    (h : fs.get? place = some (.file bytes executable)) : fs.bytesAt place = bytes := by
  rw [bytesAt, h]

theorem bytesAt_of_get?_eq {fs after : FileSystem} {place : Location}
    (h : after.get? place = fs.get? place) : after.bytesAt place = fs.bytesAt place := by
  rw [bytesAt, bytesAt, h]

end FileChat.FileSystem
