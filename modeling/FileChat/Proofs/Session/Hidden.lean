/-
# What happens to a hidden entry

A hidden entry is no session. It can be a sentinel, which comes and goes, and otherwise nothing is
meant to happen to it. Told here for one operation of the store at a time: the operation leaves the
entry alone or deals with it as a sentinel, unless it appends to that very entry or a link in the
directory takes it there. Recovery appends to an entry that is hidden: it takes whatever stands
behind the mark of a sentinel for the name of a session.
-/

import FileChat.Proofs.Conversation.Turn
import FileChat.Proofs.Files.Presence
import FileChat.Proofs.Session.Recovery

namespace FileChat.Session

open Conversation FileSystem

variable {fs after : FileSystem} {directory : Path} {place : Location} {name other id : String}

/-- The entry under a name is what it was, or it is a sentinel, and no directory, that was made,
emptied or taken away. -/
def Spares (place : Location) (name : String) (fs after : FileSystem) : Prop :=
  after.get? (place ++ [name]) = fs.get? (place ++ [name]) ∨
    (∃ id, name = sentinelName id) ∧ fs.get? (place ++ [name]) ≠ some .directory ∧
      (after.get? (place ++ [name]) = none ∨
        ∃ executable, after.get? (place ++ [name]) = some (.file [] executable))

/-- A link in the directory leads to the entry under a name. -/
def IsLinked (directory : Path) (place : Location) (name : String) (fs : FileSystem) : Prop :=
  ∃ other target, fs.get? (place ++ [other]) = some (.link target) ∧
    fs.LeadsTo (Path.join directory other) (place ++ [name])

theorem Spares.refl (fs : FileSystem) : Spares place name fs fs := .inl rfl

/-- In a directory without links none leads anywhere. -/
theorem not_isLinked (h : fs.Holds directory place) : ¬ IsLinked directory place name fs := by
  rintro ⟨other, target, hlink, -⟩
  exact h.noLink other target hlink

/-- An entry that grew was not spared. -/
theorem not_spares_of_grows {added : Bytes} (hgrows : Grows (place ++ [name]) added fs after)
    (hadded : added ≠ []) : ¬ Spares place name fs after := by
  obtain ⟨executable, hnow⟩ := hgrows.get?_eq
  rintro (hsame | ⟨-, -, hgone | ⟨executable', hempty⟩⟩)
  · rw [hnow] at hsame
    have hbytes := bytesAt_of_file hsame.symm
    exact hadded (by simpa using hbytes)
  · rw [hnow] at hgone
    cases hgone
  · rw [hnow] at hempty
    have hnothing := (Entry.file.inj (Option.some.inj hempty)).1
    exact hadded (List.append_eq_nil_iff.mp hnothing).2

/-- Where an operation on a name in the directory comes to: to the entry under that name, unless
the name is a link. -/
theorem eq_or_isLinked (hopens : fs.Opens directory place) (hother : Path.IsName other)
    (hleads : fs.LeadsTo (Path.join directory other) (place ++ [name])) :
    name = other ∨ IsLinked directory place name fs := by
  by_cases hsame : name = other
  · exact .inl hsame
  · obtain ⟨target, hlink⟩ := hopens.exists_link_of_leadsTo hother hleads (by simpa using hsame)
    exact .inr ⟨other, target, hlink, hleads⟩

/-- What is appended to one entry spares the others. -/
theorem spares_of_append (hopens : fs.Opens directory place) (hother : Path.IsName other)
    {text : String} (hdone : append fs (Path.join directory other) text = .ok after) :
    Spares place name fs after ∨
      (name = other ∧ Grows (place ++ [name]) (Utf8.encode text) fs after) ∨
        IsLinked directory place name fs := by
  obtain ⟨spot, bytes, executable, hreached, -, hgrows⟩ :=
    exists_grows_of_append (during_eq_ok.mp hdone)
  by_cases hspot : place ++ [name] = spot
  · subst hspot
    refine .inr ((eq_or_isLinked hopens hother ⟨.reach, _, hreached, rfl⟩).imp_left ?_)
    exact fun hsame => ⟨hsame, hgrows⟩
  · exact .inl (.inl (hgrows.get?_of_ne hspot))

theorem spares_of_createSentinel (hopens : fs.Opens directory place) (hslash : '/' ∉ id.toList)
    (hdone : createSentinel fs directory id = .ok after) :
    Spares place name fs after ∨ IsLinked directory place name fs := by
  rw [createSentinel, during_eq_ok, write] at hdone
  obtain ⟨reached, executable, hreached, -, hdiff, hnow⟩ :=
    exists_differsAt_of_openOrCreate hdone
  by_cases hspot : place ++ [name] = reached.spot
  · rw [← hspot] at hnow
    refine (eq_or_isLinked hopens (isName_sentinelName hslash)
      ⟨.create, reached, hreached, hspot.symm⟩).imp_left ?_
    rintro rfl
    refine .inr ⟨⟨id, rfl⟩, fun hdirectory => ?_, .inr ⟨executable, hnow⟩⟩
    obtain ⟨bytes, runs, hfile⟩ := hdiff.wasFile (hspot ▸ hdirectory)
    cases hfile
  · exact .inl (.inl (hdiff.get?_of_ne hspot))

/-- A link that has the name of a sentinel is taken away itself. -/
theorem spares_of_removeSentinel (hopens : fs.Opens directory place) (hslash : '/' ∉ id.toList)
    (hdone : removeSentinel fs directory id = .ok after) : Spares place name fs after := by
  rcases removeSentinel_eq_ok.mp hdone with hremove | ⟨-, rfl⟩
  · obtain ⟨entry, hthere, hentry, rfl⟩ :=
      hopens.exists_erase_of_remove_join (isName_sentinelName hslash) hremove
    by_cases hsame : name = sentinelName id
    · subst hsame
      refine .inr ⟨⟨id, rfl⟩, ?_, .inl ?_⟩
      · simpa [hthere] using hentry
      · rw [get?_erase _ (by simp), if_pos rfl]
    · refine .inl ?_
      rw [get?_erase _ (by simp), if_neg (by simpa using hsame)]
  · exact .refl _

namespace Recovery

/-- No name that recovery has still to deal with holds a slash. -/
def IsPlain : Recovery → Prop
  | .looking names _ => ∀ name ∈ names, '/' ∉ name.toList
  | .clearing id later _ => '/' ∉ id.toList ∧ ∀ name ∈ later, '/' ∉ name.toList
  | .ended _ _ => True

variable {recovery : Recovery}

theorem IsPlain.step (h : recovery.IsPlain) (directory : Path) (fs : FileSystem) :
    (recovery.step directory fs).1.IsPlain := by
  cases recovery with
  | ended result names => trivial
  | looking names recovered =>
      cases names with
      | nil => trivial
      | cons name later =>
          have hlater : ∀ name ∈ later, '/' ∉ name.toList := fun other hother =>
            h other (List.mem_cons_of_mem _ hother)
          unfold Recovery.step
          dsimp only
          cases howner : ownerOf? name with
          | none => exact hlater
          | some id =>
              obtain ⟨rfl, -⟩ := ownerOf?_eq_some_iff.mp howner
              dsimp only
              cases reportRestart fs directory id with
              | error cause => trivial
              | ok told => exact ⟨noSlash_of_sentinelName (h _ List.mem_cons_self), hlater⟩
  | clearing id later recovered =>
      unfold Recovery.step
      dsimp only
      cases removeSentinel fs directory id with
      | error cause => trivial
      | ok cleared => exact h.2

/-- The next step finds the sentinel of an entry, and the entry, which is a file and no link, is
told. -/
structure Tells (directory : Path) (place : Location) (name : String) (fs : FileSystem)
    (recovery : Recovery) : Prop where
  addressed : recovery.addressee? = some name
  isRegularFile : fs.isRegularFile (Path.join directory name) = true
  noLink (target : Path) : fs.get? (place ++ [name]) ≠ some (.link target)

/-- Whatever recovery does next, an entry is spared if it is not told. -/
theorem spares_step (hopens : fs.Opens directory place) (hplain : recovery.IsPlain) :
    Spares place name fs (recovery.step directory fs).2 ∨
      Tells directory place name fs recovery ∨ IsLinked directory place name fs := by
  cases recovery with
  | ended result names => exact .inl (.refl _)
  | looking names recovered =>
      cases names with
      | nil => exact .inl (.refl _)
      | cons first later =>
          unfold Recovery.step
          dsimp only
          cases howner : ownerOf? first with
          | none => exact .inl (.refl _)
          | some id =>
              obtain ⟨rfl, -⟩ := ownerOf?_eq_some_iff.mp howner
              dsimp only
              cases htold : reportRestart fs directory id with
              | error cause => exact .inl (.refl _)
              | ok told =>
                  dsimp only
                  unfold reportRestart at htold
                  dsimp only at htold
                  split at htold
                  · next hthere =>
                      obtain ⟨hsome, hfile⟩ := Bool.and_eq_true_iff.mp hthere
                      have hname := hopens.isName_of_isRegularFile
                        ⟨by simpa using hsome, noSlash_of_sentinelName
                          (hplain _ List.mem_cons_self)⟩ hfile
                      refine (spares_of_append hopens hname htold).imp_right
                        (Or.imp_left ?_)
                      rintro ⟨rfl, hgrows⟩
                      refine ⟨howner, hfile, fun target hlink => ?_⟩
                      obtain ⟨bytes, executable, hentry⟩ := hgrows.wasFile hlink
                      cases hentry
                  · obtain rfl := Except.ok.inj htold
                    exact .inl (.refl _)
  | clearing id later recovered =>
      unfold Recovery.step
      dsimp only
      cases hcleared : removeSentinel fs directory id with
      | error cause => exact .inl (.refl _)
      | ok cleared => exact .inl (spares_of_removeSentinel hopens hplain.1 hcleared)

/-- An entry that is told gets one line more. -/
theorem Tells.grows (h : Tells directory place name fs recovery)
    (hopens : fs.Opens directory place) (hplain : recovery.IsPlain) (hsome : name ≠ "") :
    Grows (place ++ [name]) (Utf8.encode (assistantLine restartError)) fs
      (recovery.step directory fs).2 := by
  obtain ⟨hid, later, recovered, rfl⟩ : Path.IsText name ∧ ∃ later recovered,
      recovery = .looking (sentinelName name :: later) recovered := by
    have haddressed := h.addressed
    unfold addressee? at haddressed
    split at haddressed
    · obtain ⟨rfl, hid⟩ := ownerOf?_eq_some_iff.mp haddressed
      exact ⟨hid, _, _, rfl⟩
    · cases haddressed
  have hname := hopens.isName_of_isRegularFile
    ⟨hsome, noSlash_of_sentinelName (hplain _ List.mem_cons_self)⟩ h.isRegularFile
  obtain ⟨bytes, hread⟩ := isRegularFile_iff.mp h.isRegularFile
  obtain ⟨told, hdone⟩ := exists_append_of_readBytes hread
    (Utf8.encode (assistantLine restartError))
  have htold : reportRestart fs directory name = .ok told := by
    unfold reportRestart
    dsimp only
    rw [h.isRegularFile, if_pos (by simpa using hsome), append, during_eq_ok]
    exact hdone
  rw [step_told recovered hid htold]
  obtain ⟨spot, known, executable, hreached, -, hgrows⟩ := exists_grows_of_append hdone
  have hspot : spot = place ++ [name] := by
    by_contra haway
    obtain ⟨target, hlink⟩ :=
      hopens.exists_link_of_leadsTo hname ⟨.reach, _, hreached, rfl⟩ haway
    exact h.noLink target hlink
  exact hspot ▸ hgrows

end Recovery

end FileChat.Session
