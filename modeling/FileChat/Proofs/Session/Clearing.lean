/-
# What recovery leaves

Recovery goes through the names of a directory in the order in which they happen to be listed, and
changes the directory on the way. A session that one sentinel names may be another sentinel, so
that it is told of the restart if its own turn comes later and is gone if its turn came before. In
the end both come to the same, because a sentinel that is told is removed all the same. So for each
location it can be said without the order what a part of the work leaves there, and what the whole
work leaves is the same for every order. Two things that look like a sentinel stay behind: one whose
name is no text is passed over, and at one whose path is too long to be followed recovery fails.
-/

import FileChat.Proofs.Files.Presence
import FileChat.Proofs.Session.Recovery
import FileChat.Proofs.Session.Sentinel

namespace FileChat

open FileSystem

/-- A file with the line that tells of a restart behind what it holds. -/
def Entry.told : Entry → Entry
  | .file bytes executable =>
    .file (bytes ++ Utf8.encode (Conversation.assistantLine Conversation.restartError)) executable
  | entry => entry

namespace Session

variable {directory : Path} {place spot : Location} {fs middle after : FileSystem}
variable {id other : String} {ids names listing : List String}

/-- A sessions directory of regular files and other directories, in which everything that has the
name of a sentinel, and a text for its name, is a regular file, also for the program that follows
its path. -/
structure IsOrdinary (directory : Path) (place : Location) (fs : FileSystem) : Prop where
  holds : fs.Holds directory place
  isName {name : String} : fs.get? (place ++ [name]) ≠ none → Path.IsName name
  isRegularFile {id : String} : Path.IsText id → fs.get? (place ++ [sentinelName id]) ≠ none →
    fs.isRegularFile (sentinelPath directory id) = true

/-- The sentinels of some sessions were cleared and nothing else was done: they are gone, the
sessions that are still there were told, and whatever else there is was left. -/
structure IsCleared (place : Location) (ids : List String) (fs after : FileSystem) : Prop where
  workingDirectory_eq : after.workingDirectory = fs.workingDirectory
  gone {id : String} : id ∈ ids → after.get? (place ++ [sentinelName id]) = none
  told {id : String} : id ∈ ids → (∀ other ∈ ids, id ≠ sentinelName other) →
    after.get? (place ++ [id]) = (fs.get? (place ++ [id])).map Entry.told
  left {spot : Location} :
    (∀ id ∈ ids, spot ≠ place ++ [sentinelName id] ∧ spot ≠ place ++ [id]) →
      after.get? spot = fs.get? spot

/-- The names in the directory in some order, and what recovery makes of them. -/
def recoverListed (directory : Path) (fs : FileSystem) (listing : List String) :
    FileSystem × Except StoreError (List String) :=
  let (cleared, result) := recoverEach directory fs [] listing
  (cleared, result.map sorted)

/-- All sentinels were cleared and nothing else was done. -/
structure IsRecovered (place : Location) (fs after : FileSystem) : Prop where
  workingDirectory_eq : after.workingDirectory = fs.workingDirectory
  /-- No name of a sentinel is taken. -/
  gone {id : String} : Path.IsText id → after.get? (place ++ [sentinelName id]) = none
  /-- A file that had a sentinel has the line behind what it held, once. -/
  told {name : String} {bytes : Bytes} {executable : Bool} : Path.IsText name →
    idOfSentinel? name = none → fs.get? (place ++ [sentinelName name]) ≠ none →
      fs.get? (place ++ [name]) = some (.file bytes executable) →
        after.get? (place ++ [name]) = some (.file
          (bytes ++ Utf8.encode (Conversation.assistantLine Conversation.restartError)) executable)
  /-- Everything else is what it was: files without a sentinel, directories, free names, whatever
  has no text for its name, and whatever is elsewhere. -/
  left {spot : Location} : (∀ id, Path.IsText id → spot ≠ place ++ [sentinelName id]) →
    (∀ name bytes executable, Path.IsText name → spot = place ++ [name] →
      fs.get? spot = some (.file bytes executable) →
        fs.get? (place ++ [sentinelName name]) = none) →
    after.get? spot = fs.get? spot

theorem sentinelName_inj : sentinelName id = sentinelName other ↔ id = other := by
  constructor
  · intro h
    have hid := congrArg idOfSentinel? h
    rwa [idOfSentinel?_sentinelName, idOfSentinel?_sentinelName, Option.some.injEq] at hid
  · exact congrArg sentinelName

theorem mem_filterMap_ownerOf? :
    id ∈ names.filterMap ownerOf? ↔ Path.IsText id ∧ sentinelName id ∈ names := by
  rw [List.mem_filterMap]
  constructor
  · rintro ⟨name, hmem, howner⟩
    obtain ⟨rfl, hid⟩ := ownerOf?_eq_some_iff.mp howner
    exact ⟨hid, hmem⟩
  · exact fun ⟨hid, hmem⟩ => ⟨_, hmem, ownerOf?_sentinelName hid⟩

/-- A file under a name that can be followed is a regular file for the program. -/
theorem isRegularFile_of_get? {name : String} (h : fs.Holds directory place)
    (hname : Path.IsName name) (herror : nameError? directory name = none)
    (hfile : ∃ bytes executable, fs.get? (place ++ [name]) = some (.file bytes executable)) :
    fs.isRegularFile (Path.join directory name) = true := by
  obtain ⟨bytes, executable, hentry⟩ := hfile
  exact isRegularFile_iff.mpr ⟨bytes, (h.readBytes_join hname).mpr ⟨herror, executable, hentry⟩⟩

namespace IsOrdinary

/-- A sentinel is a file under a name that can be followed. -/
theorem exists_file (h : IsOrdinary directory place fs) (hid : Path.IsText id)
    (hthere : fs.get? (place ++ [sentinelName id]) ≠ none) :
    nameError? directory (sentinelName id) = none ∧ ∃ bytes executable,
      fs.get? (place ++ [sentinelName id]) = some (.file bytes executable) := by
  obtain ⟨bytes, hread⟩ := isRegularFile_iff.mp (h.isRegularFile hid hthere)
  obtain ⟨herror, executable, hfile⟩ := (h.holds.readBytes_join (h.isName hthere)).mp hread
  exact ⟨herror, bytes, executable, hfile⟩

/-- A session with a sentinel is told if it is a regular file, and otherwise nothing is done. -/
theorem reportRestart_eq (h : IsOrdinary directory place fs) (hid : Path.IsText id)
    (hthere : fs.get? (place ++ [sentinelName id]) ≠ none) :
    ∃ told, reportRestart fs directory id = .ok told ∧ told.Holds directory place ∧
      told.workingDirectory = fs.workingDirectory ∧
        ∀ spot, told.get? spot =
          if spot = place ++ [id] then (fs.get? spot).map Entry.told else fs.get? spot := by
  have hslash : '/' ∉ id.toList := noSlash_of_sentinelName (h.isName hthere).noSlash
  unfold reportRestart
  dsimp only
  by_cases hfile : ∃ bytes executable, fs.get? (place ++ [id]) = some (.file bytes executable)
  · obtain ⟨bytes, executable, hfile⟩ := hfile
    have hname : Path.IsName id := h.isName (by simp [hfile])
    have herror := nameError?_of_sentinelName hname.toIsStep (h.exists_file hid hthere).1
    have hregular := isRegularFile_of_get? h.holds hname herror ⟨bytes, executable, hfile⟩
    have hsome : id.isEmpty = false := by simpa using hname.ne_empty
    rw [hregular, hsome, if_pos (by simp)]
    refine ⟨_, (append_eq_ok h.holds hname).mpr ⟨herror, bytes, executable, hfile, rfl⟩, ?_,
      workingDirectory_put _ _ _, fun spot => ?_⟩
    · exact (Grows.put (by simp) hfile).toDiffersAt.holds h.holds
    · rw [get?_put _ (by simp)]
      split
      · next hspot => rw [hspot, hfile, Option.map_some, Entry.told]
      · rfl
  · have hskipped : ¬ (!id.isEmpty && fs.isRegularFile (Path.join directory id)) = true := by
      intro htold
      obtain ⟨hsome, hregular⟩ := Bool.and_eq_true_iff.mp htold
      have hname := h.holds.opens.isName_of_isRegularFile ⟨by simpa using hsome, hslash⟩ hregular
      obtain ⟨bytes, hread⟩ := isRegularFile_iff.mp hregular
      obtain ⟨-, executable, hentry⟩ := (h.holds.readBytes_join hname).mp hread
      exact hfile ⟨bytes, executable, hentry⟩
    rw [if_neg hskipped]
    refine ⟨fs, rfl, h.holds, rfl, fun spot => ?_⟩
    split
    · next hspot =>
        subst hspot
        cases hentry : fs.get? (place ++ [id]) with
        | none => rfl
        | some entry =>
            cases entry with
            | file bytes executable => exact absurd ⟨bytes, executable, hentry⟩ hfile
            | directory | link target => rfl
    · rfl

/-- One sentinel is cleared. -/
theorem exists_cleared (h : IsOrdinary directory place fs) (hid : Path.IsText id)
    (hthere : fs.get? (place ++ [sentinelName id]) ≠ none) :
    ∃ told cleared, reportRestart fs directory id = .ok told ∧
      removeSentinel told directory id = .ok cleared ∧ cleared.Holds directory place ∧
        IsCleared place [id] fs cleared := by
  obtain ⟨told, htold, hholds, hworking, hget⟩ := h.reportRestart_eq hid hthere
  obtain ⟨herror, bytes, executable, hfile⟩ := h.exists_file hid hthere
  have hslash : '/' ∉ id.toList := noSlash_of_sentinelName (h.isName hthere).noSlash
  have hstill : told.get? (place ++ [sentinelName id]) = some (.file bytes executable) := by
    rw [hget, if_neg (by simpa using (ne_sentinelName id).symm), hfile]
  refine ⟨told, _, htold, removeSentinel_of_file hholds hslash herror hstill,
    (DiffersAt.erase (by simp) hstill).holds hholds, ?_⟩
  constructor
  · exact hworking
  · intro other hother
    rw [List.mem_singleton.mp hother, get?_erase _ (by simp), if_pos rfl]
  · intro other hother hne
    obtain rfl := List.mem_singleton.mp hother
    rw [get?_erase _ (by simp), if_neg (by simpa using ne_sentinelName other), hget,
      if_pos rfl]
  · intro spot hspot
    obtain ⟨hsentinel, hsession⟩ := hspot id List.mem_cons_self
    rw [get?_erase _ (by simp), if_neg hsentinel, hget, if_neg hsession]

end IsOrdinary

namespace IsCleared

theorem nil (place : Location) (fs : FileSystem) : IsCleared place [] fs fs where
  workingDirectory_eq := rfl
  gone hmem := by cases hmem
  told hmem := by cases hmem
  left _ := rfl

/-- A name that is neither a session's nor a sentinel's is left. -/
theorem left_name (h : IsCleared place ids fs after) {name : String}
    (hsentinel : ∀ id ∈ ids, name ≠ sentinelName id) (hname : name ∉ ids) :
    after.get? (place ++ [name]) = fs.get? (place ++ [name]) := by
  refine h.left fun id hid => ⟨by simpa using hsentinel id hid, fun heq => hname ?_⟩
  obtain rfl : name = id := by simpa using heq
  exact hid

/-- What is cleared after one sentinel is cleared with it. Its session may be one of the other
sentinels, and it may have the other sentinel for its own. -/
theorem cons (hfirst : IsCleared place [id] fs middle) (hlater : IsCleared place ids middle after)
    (hid : id ∉ ids) : IsCleared place (id :: ids) fs after where
  workingDirectory_eq := hlater.workingDirectory_eq.trans hfirst.workingDirectory_eq
  gone {other} hother := by
    rcases List.mem_cons.mp hother with rfl | hmem
    · have hnone : middle.get? (place ++ [sentinelName other]) = none :=
        hfirst.gone List.mem_cons_self
      have hfree : ∀ known ∈ ids, sentinelName other ≠ sentinelName known :=
        fun known hknown heq => hid (sentinelName_inj.mp heq ▸ hknown)
      by_cases hagain : sentinelName other ∈ ids
      · rw [hlater.told hagain hfree, hnone, Option.map_none]
      · rw [hlater.left_name hfree hagain, hnone]
    · exact hlater.gone hmem
  told {other} hother hplain := by
    have hfree : ∀ known ∈ ids, other ≠ sentinelName known :=
      fun known hknown => hplain known (List.mem_cons_of_mem _ hknown)
    have hself : ∀ known ∈ [id], other ≠ sentinelName known := fun known hknown =>
      hplain known (List.mem_singleton.mp hknown ▸ List.mem_cons_self)
    rcases List.mem_cons.mp hother with rfl | hmem
    · rw [hlater.left_name hfree hid, hfirst.told List.mem_cons_self hself]
    · have hne : other ∉ [id] := fun heq => hid (List.mem_singleton.mp heq ▸ hmem)
      rw [hlater.told hmem hfree, hfirst.left_name hself hne]
  left {spot} hspot := by
    rw [hlater.left fun known hknown => hspot known (List.mem_cons_of_mem _ hknown), hfirst.left]
    intro known hknown
    rw [List.mem_singleton.mp hknown]
    exact hspot id List.mem_cons_self

/-- There are three things that can have happened at a location. -/
theorem eq_none_or (h : IsCleared place ids fs after) (spot : Location) :
    after.get? spot = none ∨ after.get? spot = (fs.get? spot).map Entry.told ∨
      after.get? spot = fs.get? spot := by
  by_cases hgone : ∃ id ∈ ids, spot = place ++ [sentinelName id]
  · obtain ⟨id, hmem, rfl⟩ := hgone
    exact .inl (h.gone hmem)
  by_cases htold : ∃ id ∈ ids, spot = place ++ [id]
  · obtain ⟨id, hmem, rfl⟩ := htold
    exact .inr (.inl (h.told hmem fun other hother heq => hgone ⟨other, hother, by rw [heq]⟩))
  · exact .inr (.inr (h.left fun id hmem =>
      ⟨fun heq => hgone ⟨id, hmem, heq⟩, fun heq => htold ⟨id, hmem, heq⟩⟩))

/-- Nothing is made. -/
theorem get?_ne_none (h : IsCleared place ids fs after) (hthere : after.get? spot ≠ none) :
    fs.get? spot ≠ none := by
  rcases h.eq_none_or spot with hnone | htold | hsame
  · exact absurd hnone hthere
  · rw [htold] at hthere
    simpa using hthere
  · rwa [← hsame]

/-- A sentinel that was not cleared is there if it was there, told or not. -/
theorem get?_sentinel_eq_none_iff (h : IsCleared place ids fs after) (hid : id ∉ ids) :
    after.get? (place ++ [sentinelName id]) = none ↔
      fs.get? (place ++ [sentinelName id]) = none := by
  have hother : ∀ other ∈ ids, sentinelName id ≠ sentinelName other := fun other hmem heq =>
    hid (sentinelName_inj.mp heq ▸ hmem)
  by_cases htold : sentinelName id ∈ ids
  · rw [h.told htold hother, Option.map_eq_none_iff]
  · rw [h.left_name hother htold]

end IsCleared

/-- A directory stays what it is while sentinels in it are cleared. -/
theorem IsOrdinary.of_isCleared (h : IsOrdinary directory place fs)
    (hholds : after.Holds directory place) (hcleared : IsCleared place ids fs after) :
    IsOrdinary directory place after where
  holds := hholds
  isName hthere := h.isName (hcleared.get?_ne_none hthere)
  isRegularFile {id} hid hthere := by
    have hwas := hcleared.get?_ne_none hthere
    obtain ⟨herror, bytes, executable, hfile⟩ := h.exists_file hid hwas
    refine isRegularFile_of_get? hholds (h.isName hwas) herror ?_
    rcases hcleared.eq_none_or (place ++ [sentinelName id]) with hnone | htold | hsame
    · exact absurd hnone hthere
    · exact ⟨_, executable, by rw [htold, hfile, Option.map_some, Entry.told]⟩
    · exact ⟨bytes, executable, by rw [hsame, hfile]⟩

/-- A directory stays what it is while sentinels are made in it. -/
theorem IsOrdinary.of_createSentinel (h : IsOrdinary directory place fs) (hslash : '/' ∉ id.toList)
    (hdone : createSentinel fs directory id = .ok after) : IsOrdinary directory place after := by
  have hdiff := differsAt_of_createSentinel h.holds hslash hdone
  have hholds := hdiff.holds h.holds
  obtain ⟨herror, executable, hmade⟩ := get?_of_createSentinel h.holds hslash hdone
  refine ⟨hholds, fun {name} hthere => ?_, fun {other} htext hthere => ?_⟩
  · by_cases hname : name = sentinelName id
    · exact hname ▸ isName_sentinelName hslash
    · exact h.isName (by rwa [← hdiff.get?_of_ne (by simpa using hname)])
  · by_cases hother : other = id
    · rw [hother]
      exact isRegularFile_of_get? hholds (isName_sentinelName hslash) herror ⟨[], executable, hmade⟩
    · rw [hdiff.get?_of_ne (by simpa [sentinelName_inj] using hother)] at hthere
      obtain ⟨herror, bytes, executable, hfile⟩ := h.exists_file htext hthere
      refine isRegularFile_of_get? hholds (h.isName hthere) herror ⟨bytes, executable, ?_⟩
      rw [hdiff.get?_of_ne (by simpa [sentinelName_inj] using hother), hfile]

/-- A directory stays what it is when a file comes that has no text for its name. -/
theorem IsOrdinary.of_put (h : IsOrdinary directory place fs) {name : String}
    (hname : Path.IsName name) (htext : ¬ Path.IsText name)
    (hfree : fs.get? (place ++ [name]) = none) (bytes : Bytes) :
    IsOrdinary directory place (fs.put (place ++ [name]) (.file bytes false)) := by
  have hgrows : Grows (place ++ [name]) bytes fs _ := .put_new (by simp) hfree false
  have hholds := hgrows.holds h.holds
  refine ⟨hholds, fun {other} hthere => ?_, fun {id} hid hthere => ?_⟩
  · by_cases hsame : other = name
    · exact hsame ▸ hname
    · exact h.isName (by rwa [← hgrows.get?_of_ne (by simpa using hsame)])
  · have hother : place ++ [sentinelName id] ≠ place ++ [name] := by
      intro hsame
      obtain rfl : sentinelName id = name := by simpa using hsame
      exact htext (isText_sentinelName.mpr hid)
    rw [hgrows.get?_of_ne hother] at hthere
    obtain ⟨herror, bytes, executable, hfile⟩ := h.exists_file hid hthere
    refine isRegularFile_of_get? hholds (h.isName hthere) herror ⟨bytes, executable, ?_⟩
    rw [hgrows.get?_of_ne hother, hfile]

/-- Recovery goes through with every list of names that are there, and clears the sentinels among
them. -/
theorem IsOrdinary.recoverEach_eq (h : IsOrdinary directory place fs) (hnodup : names.Nodup)
    (hthere : ∀ id, sentinelName id ∈ names → fs.get? (place ++ [sentinelName id]) ≠ none)
    (recovered : List String) :
    ∃ after, recoverEach directory fs recovered names =
        (after, .ok ((names.filterMap ownerOf?).reverse ++ recovered)) ∧
      after.Holds directory place ∧ IsCleared place (names.filterMap ownerOf?) fs after := by
  induction names generalizing fs recovered with
  | nil => exact ⟨fs, rfl, h.holds, .nil place fs⟩
  | cons name later ih =>
      obtain ⟨hname, hlater⟩ := List.nodup_cons.mp hnodup
      rw [recoverEach_cons]
      cases howner : ownerOf? name with
      | none =>
          rw [List.filterMap_cons_none howner]
          exact ih h hlater (fun id hmem => hthere id (List.mem_cons_of_mem _ hmem)) recovered
      | some id =>
          obtain ⟨rfl, hid⟩ := ownerOf?_eq_some_iff.mp howner
          have hlast : id ∉ later.filterMap ownerOf? := fun hmem =>
            hname (mem_filterMap_ownerOf?.mp hmem).2
          obtain ⟨told, cleared, htold, hremoved, hholds, hfirst⟩ :=
            h.exists_cleared hid (hthere id List.mem_cons_self)
          have hstill : ∀ other, sentinelName other ∈ later →
              cleared.get? (place ++ [sentinelName other]) ≠ none := by
            intro other hmem hnone
            have hne : other ∉ [id] := by
              rintro hsame
              exact hname (List.mem_singleton.mp hsame ▸ hmem)
            exact hthere other (List.mem_cons_of_mem _ hmem)
              ((hfirst.get?_sentinel_eq_none_iff hne).mp hnone)
          obtain ⟨after, hafter, hopen, hrest⟩ :=
            ih (h.of_isCleared hholds hfirst) hlater hstill (id :: recovered)
          refine ⟨after, ?_, hopen, ?_⟩
          · dsimp only
            rw [htold]
            dsimp only
            rw [hremoved]
            dsimp only
            rw [hafter, List.filterMap_cons_some howner, List.reverse_cons, List.append_assoc]
            rfl
          · rw [List.filterMap_cons_some howner]
            exact hfirst.cons hrest hlast

/-- Names without a sentinel among them are looked at in vain. -/
theorem recoverEach_of_none (hnone : ∀ name ∈ names, ownerOf? name = none)
    (recovered : List String) : recoverEach directory fs recovered names = (fs, .ok recovered) := by
  induction names with
  | nil => rfl
  | cons name later ih =>
      rw [recoverEach_cons, hnone name List.mem_cons_self]
      exact ih fun name hmem => hnone name (List.mem_cons_of_mem _ hmem)

/-- Sessions that were recovered are told in the order of their names, each once. -/
theorem pairwise_sorted (hnodup : ids.Nodup) :
    (sorted ids).Pairwise fun first second => first < second := by
  have hordered : (sorted ids).Pairwise fun first second => inOrder first second = true :=
    List.pairwise_mergeSort (by simp only [inOrder]; grind) (by simp only [inOrder]; grind) _
  have hdistinct : (sorted ids).Pairwise fun first second => first ≠ second :=
    (List.mergeSort_perm ids _).nodup_iff.mpr hnodup
  refine (hordered.and hdistinct).imp fun ⟨hin, hne⟩ => ?_
  simp only [inOrder] at hin
  grind

/-- The order in which names come does not matter once they are sorted. -/
theorem sorted_congr {again : List String} (hnodup : ids.Nodup) (hperm : again.Perm ids) :
    sorted again = sorted ids := by
  have hsame : (sorted again).Perm (sorted ids) :=
    (List.mergeSort_perm _ _).trans (hperm.trans (List.mergeSort_perm _ _).symm)
  exact hsame.eq_of_pairwise (fun first second _ _ hlt hgt => absurd hgt (by grind))
    (pairwise_sorted (hperm.nodup_iff.mpr hnodup)) (pairwise_sorted hnodup)

theorem mem_sorted : id ∈ sorted ids ↔ id ∈ ids := (List.mergeSort_perm ids _).mem_iff

/-- No name gives the same session as another. -/
theorem nodup_filterMap_ownerOf? (hnodup : names.Nodup) :
    (names.filterMap ownerOf?).Nodup := by
  refine List.Nodup.filterMap (fun first second id hfirst hsecond => ?_) hnodup
  rw [(ownerOf?_eq_some_iff.mp hfirst).1, (ownerOf?_eq_some_iff.mp hsecond).1]

theorem mem_names_iff {name : String} : name ∈ fs.names place ↔ fs.get? (place ++ [name]) ≠ none :=
  ⟨get?_of_mem_names, fun hthere =>
    (Option.ne_none_iff_exists'.mp hthere).elim fun _ hentry => mem_names hentry⟩

/-- If all sentinels are cleared, that is all that is done. -/
theorem IsCleared.isRecovered (h : IsCleared place ids fs after)
    (hids : ∀ id, id ∈ ids ↔ Path.IsText id ∧ fs.get? (place ++ [sentinelName id]) ≠ none) :
    IsRecovered place fs after where
  workingDirectory_eq := h.workingDirectory_eq
  gone {id} htext := by
    by_cases hid : id ∈ ids
    · exact h.gone hid
    · refine (h.get?_sentinel_eq_none_iff hid).mpr (not_ne_iff.mp fun hthere => ?_)
      exact hid ((hids id).mpr ⟨htext, hthere⟩)
  told {name bytes executable} htext hplain hthere hfile := by
    have hne : ∀ other ∈ ids, name ≠ sentinelName other := by
      rintro other - rfl
      rw [idOfSentinel?_sentinelName] at hplain
      cases hplain
    rw [h.told ((hids name).mpr ⟨htext, hthere⟩) hne, hfile, Option.map_some, Entry.told]
  left {spot} hsentinel hfile := by
    have hnot {id : String} (hid : id ∈ ids) : spot ≠ place ++ [sentinelName id] :=
      hsentinel id ((hids id).mp hid).1
    by_cases htold : ∃ id ∈ ids, spot = place ++ [id]
    · obtain ⟨id, hid, rfl⟩ := htold
      obtain ⟨htext, hthere⟩ := (hids id).mp hid
      rw [h.told hid fun other hother heq => hnot hother (by rw [heq])]
      cases hentry : fs.get? (place ++ [id]) with
      | none => rfl
      | some entry =>
          cases entry with
          | file bytes executable =>
              exact absurd (hfile id bytes executable htext rfl hentry) hthere
          | directory | link target => rfl
    · exact h.left fun id hid => ⟨hnot hid, fun heq => htold ⟨id, hid, heq⟩⟩

/-- What recovery leaves is determined by what it found. -/
theorem IsRecovered.get?_eq {again : FileSystem} (h : IsRecovered place fs after)
    (hagain : IsRecovered place fs again) (spot : Location) :
    again.get? spot = after.get? spot := by
  by_cases hsentinel : ∃ id, Path.IsText id ∧ spot = place ++ [sentinelName id]
  · obtain ⟨id, htext, rfl⟩ := hsentinel
    rw [h.gone htext, hagain.gone htext]
  have hnot : ∀ id, Path.IsText id → spot ≠ place ++ [sentinelName id] :=
    fun id htext hspot => hsentinel ⟨id, htext, hspot⟩
  by_cases htold : ∃ name bytes executable, Path.IsText name ∧ spot = place ++ [name] ∧
      fs.get? spot = some (.file bytes executable) ∧ fs.get? (place ++ [sentinelName name]) ≠ none
  · obtain ⟨name, bytes, executable, htext, rfl, hfile, hthere⟩ := htold
    have hplain : idOfSentinel? name = none := by
      by_contra hsome
      obtain ⟨id, hid⟩ := Option.ne_none_iff_exists'.mp hsome
      obtain rfl := eq_sentinelName_of_idOfSentinel? hid
      exact hnot id (isText_sentinelName.mp htext) rfl
    rw [h.told htext hplain hthere hfile, hagain.told htext hplain hthere hfile]
  · have hleft : ∀ name bytes executable, Path.IsText name → spot = place ++ [name] →
        fs.get? spot = some (.file bytes executable) →
          fs.get? (place ++ [sentinelName name]) = none := by
      intro name bytes executable htext hspot hfile
      by_contra hthere
      exact htold ⟨name, bytes, executable, htext, hspot, hfile, hthere⟩
    rw [h.left hnot hleft, hagain.left hnot hleft]

theorem recoverStale_eq (h : fs.Opens directory place) :
    recoverStale fs directory = recoverListed directory fs (fs.names place) := by
  have hnames : Session.names fs directory = .ok (fs.names place) := by
    rw [Session.names, during_eq_ok, h.list_eq]
  rw [recoverStale, hnames]
  rfl

/-- Where no sentinel is, recovery does nothing, whatever the order of the names. -/
theorem recoverListed_of_none
    (hgone : ∀ id, Path.IsText id → fs.get? (place ++ [sentinelName id]) = none)
    (hlisting : listing.Perm (fs.names place)) :
    recoverListed directory fs listing = (fs, .ok []) := by
  have hnone : ∀ name ∈ listing, ownerOf? name = none := by
    intro name hmem
    by_contra hsome
    obtain ⟨id, howner⟩ := Option.ne_none_iff_exists'.mp hsome
    obtain ⟨rfl, htext⟩ := ownerOf?_eq_some_iff.mp howner
    exact get?_of_mem_names (hlisting.mem_iff.mp hmem) (hgone id htext)
  rw [recoverListed, recoverEach_of_none hnone]
  simp [Except.map, sorted]

/-- In a directory of files and other directories recovery goes through, in whatever order the
names are listed. It answers with the sessions whose sentinels were there, in order, whatever the
names are: a session of that name need not be there, may be a sentinel, or have no name at all.
It leaves no sentinel, each file that had one has been told once, and all else is as it was, also
what looks like a sentinel and has no text for its name, so that every order comes to the same.
Another run finds nothing to do. -/
theorem IsOrdinary.recoverStale_exact (h : IsOrdinary directory place fs) :
    recoverStale fs directory = recoverListed directory fs (fs.names place) ∧
    ∃ recovered : List String,
      (recovered.Pairwise fun first second => first < second) ∧
      (∀ id, id ∈ recovered ↔
        Path.IsText id ∧ fs.get? (place ++ [sentinelName id]) ≠ none) ∧
      ∀ listing, listing.Perm (fs.names place) → ∃ after,
        recoverListed directory fs listing = (after, .ok recovered) ∧
        IsRecovered place fs after ∧
        (∀ spot, after.get? spot = (recoverStale fs directory).1.get? spot) ∧
        recoverStale after directory = (after, .ok []) ∧
        ∀ again, again.Perm (after.names place) →
          recoverListed directory after again = (after, .ok []) := by
  have hids (id : String) : id ∈ (fs.names place).filterMap ownerOf? ↔
      Path.IsText id ∧ fs.get? (place ++ [sentinelName id]) ≠ none := by
    rw [mem_filterMap_ownerOf?, mem_names_iff]
  have hnodup := nodup_filterMap_ownerOf? (nodup_names fs place)
  have hrun (listing : List String) (hlisting : listing.Perm (fs.names place)) : ∃ after,
      recoverListed directory fs listing =
          (after, .ok (sorted ((fs.names place).filterMap ownerOf?))) ∧
        after.Holds directory place ∧ IsRecovered place fs after := by
    have hsame := hlisting.filterMap ownerOf?
    obtain ⟨after, hafter, hholds, hcleared⟩ :=
      h.recoverEach_eq (hlisting.nodup_iff.mpr (nodup_names fs place))
        (fun id hmem => get?_of_mem_names (hlisting.mem_iff.mp hmem)) []
    refine ⟨after, ?_, hholds, hcleared.isRecovered fun id => ?_⟩
    · rw [recoverListed, hafter]
      dsimp only
      rw [Except.map, List.append_nil,
        sorted_congr hnodup ((List.reverse_perm _).trans hsame)]
    · rw [hsame.mem_iff, hids]
  obtain ⟨stale, hstale, -, hrecovered⟩ := hrun _ (List.Perm.refl _)
  refine ⟨recoverStale_eq h.holds.opens, _, pairwise_sorted hnodup,
    fun id => mem_sorted.trans (hids id), fun listing hlisting => ?_⟩
  obtain ⟨after, hafter, hholds, hdone⟩ := hrun listing hlisting
  refine ⟨after, hafter, hdone, fun spot => ?_, ?_, fun again hagain => ?_⟩
  · rw [recoverStale_eq h.holds.opens, hstale]
    exact hrecovered.get?_eq hdone spot
  · rw [recoverStale_eq hholds.opens]
    exact recoverListed_of_none (fun _ => hdone.gone) (List.Perm.refl _)
  · exact recoverListed_of_none (fun _ => hdone.gone) hagain

/-- A small directory with one session. -/
theorem isOrdinary_withFile {name : String} (hname : Path.IsName name)
    (hplain : idOfSentinel? name = none) (bytes : Bytes) :
    IsOrdinary "/s" ["s"] (withFile name bytes) where
  holds := holds_withFile name bytes
  isName {other} hthere := by
    rw [get?_withFile] at hthere
    split at hthere
    · next hsame => exact hsame ▸ hname
    · exact absurd rfl hthere
  isRegularFile {id} _ hthere := by
    rw [get?_withFile] at hthere
    split at hthere
    · next hsame =>
        rw [← hsame, idOfSentinel?_sentinelName] at hplain
        cases hplain
    · exact absurd rfl hthere

/-- The mark of a sentinel, and after it a byte that is no text. -/
def unspelled : String := Path.spell (Utf8.encode sentinelMark ++ [0xff])

theorem unspelled_eq : unspelled = sentinelName (Path.spell [0xff]) := by decide

theorem not_isText_unspelled : ¬ Path.IsText unspelled := by
  have hdecode : Utf8.decode (Utf8.encode sentinelMark ++ [0xff]) = none := by decide
  exact not_not_intro (Path.text?_spell_of_decode_eq_none hdecode)

theorem isName_unspelled : Path.IsName unspelled :=
  unspelled_eq ▸ isName_sentinelName (by decide)

/-- A small directory with a session, its sentinel, a sentinel for that sentinel, one for nothing,
and one whose name is no text. -/
def withSentinels : FileSystem :=
  ((((withFile "a" (Utf8.encode "User: hi\n")).put ["s", unspelled] (.file [] false)).put
    ["s", sentinelName "a"] (.file [] false)).put ["s", sentinelName (sentinelName "a")]
      (.file [] false)).put ["s", sentinelName ""] (.file [] false)

theorem isOrdinary_withSentinels : IsOrdinary "/s" ["s"] withSentinels := by
  have hname : Path.IsName "a" := ⟨⟨by decide, by decide⟩, by decide, by decide⟩
  have hsession := isOrdinary_withFile hname (by decide) (Utf8.encode "User: hi\n")
  have hfirst := hsession.of_put isName_unspelled not_isText_unspelled (by decide) []
  have hsecond := hfirst.of_createSentinel (by decide : '/' ∉ "a".toList)
    ((createSentinel_eq_ok hfirst.holds (by decide)).mpr ⟨by decide, .inl ⟨by decide, rfl⟩⟩)
  have hthird := hsecond.of_createSentinel (by decide : '/' ∉ (sentinelName "a").toList)
    ((createSentinel_eq_ok hsecond.holds (by decide)).mpr ⟨by decide, .inl ⟨by decide, rfl⟩⟩)
  exact hthird.of_createSentinel (by decide : '/' ∉ "".toList)
    ((createSentinel_eq_ok hthird.holds (by decide)).mpr ⟨by decide, .inl ⟨by decide, rfl⟩⟩)

/-- The answer has three names, of which only one is a session's, and that session is told once.
What has no text for its name stays. -/
theorem recoverStale_exact_of_three : ∃ recovered after,
    recoverStale withSentinels "/s" = (after, .ok recovered) ∧
      "a" ∈ recovered ∧ sentinelName "a" ∈ recovered ∧ "" ∈ recovered ∧
      after.get? ["s", "a"] = some (.file (Utf8.encode
        "User: hi\nAssistant: [Error: Daemon restarted during generation]\n") false) ∧
      after.get? ["s", sentinelName "a"] = none ∧
      after.get? ["s", unspelled] = some (.file [] false) ∧
      recoverStale after "/s" = (after, .ok []) := by
  obtain ⟨hstale, recovered, -, hmem, hrun⟩ := isOrdinary_withSentinels.recoverStale_exact
  obtain ⟨after, hafter, hdone, -, hagain, -⟩ := hrun _ (List.Perm.refl _)
  have htext : Path.IsText "a" := by decide
  refine ⟨recovered, after, hstale.trans hafter, (hmem _).mpr (by decide), (hmem _).mpr (by decide),
    (hmem _).mpr (by decide), ?_, hdone.gone htext, ?_, hagain⟩
  · have hfile : withSentinels.get? (["s"] ++ ["a"]) =
        some (.file (Utf8.encode "User: hi\n") false) := by decide
    have htold := hdone.told htext (by decide) (by decide) hfile
    have hline : "User: hi\n" ++ Conversation.assistantLine Conversation.restartError =
        "User: hi\nAssistant: [Error: Daemon restarted during generation]\n" := by decide
    rwa [← Utf8.encode_append, hline] at htold
  · have hfile : withSentinels.get? (["s"] ++ [unspelled]) = some (.file [] false) := by decide
    refine (hdone.left (fun id hid hspot => ?_) fun name _ _ hname hspot _ => ?_).trans hfile
    · have hsame : unspelled = sentinelName id := by simpa using hspot
      exact not_isText_unspelled (hsame ▸ isText_sentinelName.mpr hid)
    · have hsame : unspelled = name := by simpa using hspot
      exact absurd (hsame ▸ hname) not_isText_unspelled

/-- A sessions directory of regular files and other directories, in which everything that begins
with the mark of a sentinel is a regular file. -/
structure HasFileSentinels (directory : Path) (place : Location) (fs : FileSystem) : Prop where
  holds : fs.Holds directory place
  isName {name : String} : fs.get? (place ++ [name]) ≠ none → Path.IsName name
  isFile {id : String} : fs.get? (place ++ [sentinelName id]) ≠ none →
    ∃ bytes executable, fs.get? (place ++ [sentinelName id]) = some (.file bytes executable)

theorem hasFileSentinels_withFile {name : String} (hname : Path.IsName name) (bytes : Bytes)
    (hholds : (withFile name bytes).Holds directory ["s"]) :
    HasFileSentinels directory ["s"] (withFile name bytes) where
  holds := hholds
  isName {other} hthere := by
    rw [get?_withFile] at hthere
    split at hthere
    · next hsame => exact hsame ▸ hname
    · exact absurd rfl hthere
  isFile {id} hthere := by
    rw [get?_withFile] at hthere ⊢
    split at hthere
    · next hsame => exact ⟨bytes, false, if_pos hsame⟩
    · exact absurd rfl hthere

/-- What has no text for its name is passed over. -/
theorem recoverStale_of_not_isText {name : String} (htext : ¬ Path.IsText name) (bytes : Bytes) :
    recoverStale (withFile name bytes) "/s" = (withFile name bytes, .ok []) := by
  rw [recoverStale_eq (holds_withFile name bytes).opens]
  refine recoverListed_of_none (fun id hid => ?_) (List.Perm.refl _)
  rw [get?_withFile, if_neg]
  rintro rfl
  exact htext (isText_sentinelName.mpr hid)

/-- A path with some slashes behind it. -/
def padded (path : Path) : Nat → Path
  | 0 => path
  | n + 1 => padded path n ++ "/"

theorem utf8ByteSize_padded (path : Path) (n : Nat) :
    (padded path n).utf8ByteSize = path.utf8ByteSize + n := by
  induction n with
  | zero => rfl
  | succ n ih =>
      rw [padded, String.utf8ByteSize_append, ih]
      rfl

/-- However many slashes there are, they lead to the same directory, as long as the path can be
followed. -/
theorem holds_padded (h : fs.Holds directory place) {n : Nat}
    (hsize : directory.utf8ByteSize + n ≤ maxPathBytes) : fs.Holds (padded directory n) place := by
  induction n with
  | zero => exact h
  | succ n ih =>
      have hshorter : (padded directory n).utf8ByteSize < maxPathBytes := by
        rw [utf8ByteSize_padded]
        omega
      have hbefore : fs.Holds (padded directory n) place := ih (by omega)
      exact ⟨hbefore.opens.slash hshorter, h.noLink⟩

/-- A sentinel whose path is too long to be followed stays. -/
theorem removeSentinel_of_long (htext : Path.IsText (sentinelPath directory id))
    (hlong : maxPathBytes < (sentinelPath directory id).utf8ByteSize) :
    removeSentinel fs directory id =
      .error ⟨.removeSentinel, sentinelPath directory id, .nameTooLong⟩ := by
  have hnul : (sentinelPath directory id).toList.contains '\x00' = false := by
    simpa using Path.isText_iff.mp htext
  have hsome : (sentinelPath directory id).isEmpty = false := by
    rw [← Bool.not_eq_true, String.isEmpty_iff]
    intro hempty
    rw [hempty] at hlong
    cases hlong
  have hremove : fs.remove (sentinelPath directory id) = .error .nameTooLong := by
    rw [remove, resolveLast, follow, hnul, hsome, if_neg Bool.false_ne_true,
      if_neg Bool.false_ne_true, if_pos hlong]
    rfl
  unfold removeSentinel
  dsimp only
  rw [hremove]
  rfl

/-- Recovery fails at such a sentinel. -/
theorem recoverStale_of_long (hid : Path.IsName id) (htext : Path.IsText id) (bytes : Bytes)
    (hholds : (withFile (sentinelName id) bytes).Holds directory ["s"])
    (hlong : maxPathBytes < (sentinelPath directory id).utf8ByteSize) :
    (recoverStale (withFile (sentinelName id) bytes) directory).2 =
      .error ⟨.removeSentinel, sentinelPath directory id, .nameTooLong⟩ := by
  have hdirectory : Path.IsText directory :=
    Path.isText_iff.mpr (by simpa using hholds.opens.of_resolve.1)
  have hstays : removeSentinel (withFile (sentinelName id) bytes) directory id = .error _ :=
    removeSentinel_of_long (hdirectory.join (isText_sentinelName.mpr htext)) hlong
  have hmissing : ¬ (withFile (sentinelName id) bytes).isRegularFile (Path.join directory id) := by
    intro hfile
    obtain ⟨known, hread⟩ := isRegularFile_iff.mp hfile
    obtain ⟨-, executable, hentry⟩ := (hholds.readBytes_join hid).mp hread
    rw [get?_withFile, if_neg (ne_sentinelName id)] at hentry
    cases hentry
  have htold : reportRestart (withFile (sentinelName id) bytes) directory id =
      .ok (withFile (sentinelName id) bytes) := by
    unfold reportRestart
    dsimp only
    rw [if_neg (by simp [hmissing])]
  rw [recoverStale_eq hholds.opens, names_withFile, recoverListed, recoverEach_cons,
    ownerOf?_sentinelName htext]
  dsimp only
  rw [htold]
  dsimp only
  rw [hstays]
  rfl

/-- Recovery does not go through in each directory of regular files and other directories, and where
it does, it does not clear everything that begins with the mark of a sentinel. -/
theorem not_forall_recoverStale :
    (¬ ∀ directory place fs, HasFileSentinels directory place fs →
      ∃ recovered, (recoverStale fs directory).2 = .ok recovered) ∧
    ¬ ∀ directory place fs recovered, HasFileSentinels directory place fs →
      (recoverStale fs directory).2 = .ok recovered →
        ∀ id, (recoverStale fs directory).1.get? (place ++ [sentinelName id]) = none := by
  constructor
  · intro hall
    have hname : Path.IsName "a" := ⟨⟨by decide, by decide⟩, by decide, by decide⟩
    have hholds := holds_padded (holds_withFile (sentinelName "a") []) (n := 4090) (by decide)
    have hlong : maxPathBytes < (sentinelPath (padded "/s" 4090) "a").utf8ByteSize := by
      have hsize : (padded "/s" 4090).utf8ByteSize + (sentinelName "a").utf8ByteSize ≤
          (sentinelPath (padded "/s" 4090) "a").utf8ByteSize :=
        Path.utf8ByteSize_le_join (isName_sentinelName (by decide)).isAbsolute
      rw [utf8ByteSize_padded] at hsize
      exact Nat.lt_of_lt_of_le (by decide) hsize
    obtain ⟨recovered, hdone⟩ := hall _ _ _
      (hasFileSentinels_withFile (isName_sentinelName (by decide)) [] hholds)
    rw [recoverStale_of_long hname (by decide) [] hholds hlong] at hdone
    cases hdone
  · intro hall
    have hpassed := recoverStale_of_not_isText not_isText_unspelled []
    have hgone := hall "/s" ["s"] (withFile unspelled []) []
      (hasFileSentinels_withFile isName_unspelled [] (holds_withFile _ _)) (by rw [hpassed])
      (Path.spell [0xff])
    rw [hpassed, ← unspelled_eq, get?_withFile, if_pos rfl] at hgone
    cases hgone

end Session

end FileChat
