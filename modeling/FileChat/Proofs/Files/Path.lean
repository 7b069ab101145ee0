/-
# Names in a directory

A name that holds no slash is one more step, whatever the path before it looks like, and unless
it is made of dots alone the step leads down. Joining puts it at the end of the steps, and the
end of the steps gives it back. A name that is no text has a spelling that no text has.
-/

import FileChat.Files.Path
import FileChat.Proofs.Text.Utf8

namespace FileChat.Path

/-- What can stand between two slashes and leads somewhere. -/
structure IsStep (name : String) : Prop where
  ne_empty : name ≠ ""
  noSlash : '/' ∉ name.toList

/-- A name that an entry of a directory can have. -/
structure IsName (name : String) : Prop extends IsStep name where
  ne_dot : name ≠ "."
  ne_dots : name ≠ ".."

variable {directory name : String}

/-- A name that is a text. -/
def IsText (name : String) : Prop := text? name ≠ none

instance (name : String) : Decidable (IsText name) :=
  inferInstanceAs (Decidable (text? name ≠ none))

theorem isText_iff : IsText name ↔ '\x00' ∉ name.toList := by
  rw [IsText, text?]
  split
  · next hnul => simpa using hnul
  · next hnul => simpa using hnul

theorem text?_eq_some_iff {text : String} :
    text? name = some text ↔ IsText name ∧ name = text := by
  rw [isText_iff, text?]
  split
  · next hnul => simp [show '\x00' ∈ name.toList by simpa using hnul]
  · next hnul => simp [show '\x00' ∉ name.toList by simpa using hnul]

theorem IsText.text?_eq (h : IsText name) : text? name = some name :=
  text?_eq_some_iff.mpr ⟨h, rfl⟩

/-- What stands behind a directory in a path that is a text is a text. -/
theorem isText_of_join (h : '\x00' ∉ (join directory name).toList) : IsText name := by
  refine isText_iff.mpr fun hnul => h ?_
  rw [join]
  split
  · exact hnul
  · split <;> simp [hnul]

theorem IsText.join (hdirectory : IsText directory) (hname : IsText name) :
    IsText (join directory name) := by
  rw [isText_iff] at hdirectory hname ⊢
  rw [Path.join]
  split
  · exact hname
  · split <;> simp [hdirectory, hname]

/-- A name that is a text is spelled as that text. -/
theorem text?_spell_encode {text : String} (h : IsText text) :
    text? (spell (Utf8.encode text)) = some text := by
  rw [spell, Utf8.decode_encode]
  exact h.text?_eq

/-- A name that is no text is not spelled as one. -/
theorem text?_spell_of_decode_eq_none {bytes : Bytes} (h : Utf8.decode bytes = none) :
    text? (spell bytes) = none := by
  by_contra htext
  have hnul : '\x00' ∉ (spell bytes).toList := isText_iff.mp htext
  rw [spell, h] at hnul
  have hascii : ∀ byte ∈ bytes, byte < 0x80 := by
    intro byte hbyte
    by_contra hlarge
    refine hnul ?_
    rw [String.toList_ofList]
    exact List.mem_flatMap.mpr ⟨byte, hbyte, by rw [if_neg hlarge]; exact List.mem_cons_self⟩
  obtain ⟨text, hdecode⟩ := Utf8.exists_decode_of_ascii hascii
  rw [h] at hdecode
  cases hdecode

theorem IsStep.toList_ne_nil (h : IsStep name) : name.toList ≠ [] := fun hnil =>
  h.ne_empty (String.toList_inj.mp hnil)

theorem IsStep.isAbsolute (h : IsStep name) : isAbsolute name = false := by
  rw [Path.isAbsolute, decide_eq_false_iff_not]
  exact fun hhead => h.noSlash (List.mem_of_mem_head? hhead)

/-- What comes behind a step does not make it begin at the root. -/
theorem IsStep.isAbsolute_slash (h : IsStep name) (rest : String) :
    Path.isAbsolute (name ++ "/" ++ rest) = false := by
  obtain ⟨c, more, hcons⟩ := List.exists_cons_of_ne_nil h.toList_ne_nil
  have hhead := h.isAbsolute
  rw [Path.isAbsolute, hcons] at hhead
  rw [Path.isAbsolute, String.append_assoc, String.toList_append, hcons]
  exact hhead

/-- What is joined has the slash in front of the name, and what is before that slash has the
names of the directory. -/
theorem exists_toList_join (hname : isAbsolute name = false) (hdirectory : directory ≠ "") :
    ∃ before, (join directory name).toList = before ++ '/' :: name.toList ∧
      parts directory =
        ((before.splitOn '/').filter fun part => !part.isEmpty).map String.ofList := by
  have hempty : directory.isEmpty = false := by
    simpa [String.isEmpty_iff] using hdirectory
  rw [join, hname, hempty, if_neg (by simp), Bool.false_or]
  split
  · next hslash =>
      obtain ⟨before, hbefore⟩ : ∃ before, directory.toList = before ++ ['/'] :=
        List.getLast?_eq_some_iff.mp (by simpa [hasFinalSlash] using hslash)
      refine ⟨before, by simp [hbefore], ?_⟩
      rw [parts, hbefore, List.splitOn_append_cons_self]
      simp
  · exact ⟨directory.toList, by simp, rfl⟩

/-- A joined name is the last name of the path. -/
theorem parts_join (hname : IsStep name) (hdirectory : directory ≠ "") :
    parts (join directory name) = parts directory ++ [name] := by
  obtain ⟨before, htext, hparts⟩ := exists_toList_join hname.isAbsolute hdirectory
  have hlast : name.toList.isEmpty = false := by simpa using hname.toList_ne_nil
  rw [hparts, parts, htext, List.splitOn_append_cons_self, List.splitOn_eq_singleton hname.noSlash,
    List.filter_append, List.map_append]
  simp [hlast]

theorem IsStep.hasFinalSlash_append (h : IsStep name) (before : String) :
    hasFinalSlash (before ++ name) = false := by
  rw [hasFinalSlash, decide_eq_false_iff_not, String.toList_append, List.getLast?_append,
    List.getLast?_eq_some_getLast h.toList_ne_nil, Option.some_or]
  exact fun hlast => h.noSlash (Option.some.inj hlast ▸ List.getLast_mem h.toList_ne_nil)

theorem hasFinalSlash_join (hname : IsStep name) (directory : String) :
    hasFinalSlash (join directory name) = false := by
  rw [join, hname.isAbsolute, if_neg Bool.false_ne_true]
  split
  · exact hname.hasFinalSlash_append _
  · exact hname.hasFinalSlash_append _

theorem steps_join (hname : IsStep name) (hdirectory : directory ≠ "") :
    steps (join directory name) = parts directory ++ [name] := by
  rw [steps, hasFinalSlash_join hname, if_neg (by simp), parts_join hname hdirectory]

/-- The steps of a path are its names, and perhaps the empty step of a final slash. -/
theorem exists_steps_eq (path : Path) :
    ∃ slash, steps path = parts path ++ slash ∧ (slash = [] ∨ slash = [""]) := by
  rw [steps]
  split
  · exact ⟨[""], rfl, .inr rfl⟩
  · exact ⟨[], (List.append_nil _).symm, .inl rfl⟩

theorem isAbsolute_join (hname : isAbsolute name = false) (hdirectory : directory ≠ "") :
    isAbsolute (join directory name) = isAbsolute directory := by
  have hempty : directory.isEmpty = false := by
    simpa [String.isEmpty_iff] using hdirectory
  have hnil : directory.toList ≠ [] := fun h => hdirectory (String.toList_inj.mp h)
  obtain ⟨c, rest, hcons⟩ := List.exists_cons_of_ne_nil hnil
  rw [join, hname, hempty, if_neg (by simp), Bool.false_or]
  split <;> simp [isAbsolute, hcons]

theorem join_ne_empty (hname : isAbsolute name = false) (hdirectory : directory ≠ "") :
    join directory name ≠ "" := by
  obtain ⟨before, htext, -⟩ := exists_toList_join hname hdirectory
  intro h
  rw [h] at htext
  simp at htext

theorem join_empty_left (name : String) : join "" name = name := by
  rw [join]
  split <;> simp

/-- A final slash adds no name. -/
theorem parts_slash (path : Path) : parts (path ++ "/") = parts path := by
  rw [parts, parts, String.toList_append, show "/".toList = '/' :: [] from rfl,
    List.splitOn_append_cons_self]
  simp

theorem hasFinalSlash_slash (path : Path) : hasFinalSlash (path ++ "/") = true := by
  simp [hasFinalSlash]

theorem isAbsolute_slash {path : Path} (h : path ≠ "") :
    isAbsolute (path ++ "/") = isAbsolute path := by
  obtain ⟨c, rest, hcons⟩ := List.exists_cons_of_ne_nil fun hnil => h (String.toList_inj.mp hnil)
  simp [isAbsolute, hcons]

/-- What is joined is no shorter than the directory and the name. -/
theorem utf8ByteSize_le_join (hname : isAbsolute name = false) :
    directory.utf8ByteSize + name.utf8ByteSize ≤ (join directory name).utf8ByteSize := by
  rw [join, hname, if_neg Bool.false_ne_true]
  split <;> simp only [String.utf8ByteSize_append] <;> omega

/-- A final slash adds no component. -/
theorem components_join_empty (directory : String) :
    components (join directory "") = components directory := by
  have hempty : isAbsolute "" = false := rfl
  rw [join, hempty, if_neg Bool.false_ne_true]
  split
  · rw [String.append_empty]
  · next hopen =>
      have hdirectory : directory ≠ "" := by
        rintro rfl
        exact hopen rfl
      rw [components, components, String.append_empty, parts_slash, isAbsolute_slash hdirectory]

/-- A name is joined behind the directory. -/
theorem exists_join_eq (hname : isAbsolute name = false) (directory : String) :
    ∃ rest, join directory name = directory ++ rest := by
  rw [join, hname, if_neg Bool.false_ne_true]
  split
  · exact ⟨_, rfl⟩
  · exact ⟨"/" ++ name, String.append_assoc⟩

theorem IsName.components (hname : IsName name) : components name = [name] := by
  have hparts : parts name = [name] := by
    have hlast : name.toList.isEmpty = false := by simpa using hname.toList_ne_nil
    rw [parts, List.splitOn_eq_singleton hname.noSlash]
    simp [hlast]
  simp [Path.components, hparts, hname.ne_dot]

/-- A joined name is one more component. -/
theorem components_join (hname : IsName name) :
    components (join directory name) = components directory ++ [name] := by
  by_cases hdirectory : directory = ""
  · rw [hdirectory, join_empty_left, hname.components]
    rfl
  · have hhead : (parts directory ++ [name]).head? = some "." ↔
        (parts directory).head? = some "." := by
      cases parts directory <;> simp [hname.ne_dot]
    simp only [components, parts_join hname.toIsStep hdirectory,
      isAbsolute_join hname.isAbsolute hdirectory, List.filter_append, Bool.and_eq_true,
      decide_eq_true_eq, hhead]
    split <;> simp [hname.ne_dot]

/-- The end of a joined path gives back the name. -/
theorem fileName?_join (hname : IsName name) : fileName? (join directory name) = some name := by
  rw [fileName?, components_join hname, List.getLast?_append]
  simp [hname.ne_dot, hname.ne_dots]

/-- No part of a text that was cut at a character holds that character. -/
theorem not_mem_of_mem_splitOn {c : Char} {text part : List Char} (h : part ∈ text.splitOn c) :
    c ∉ part := by
  induction text generalizing part with
  | nil =>
      obtain rfl : part = [] := by simpa using h
      simp
  | cons d rest ih =>
      rw [List.splitOn_cons_eq_if_modifyHead] at h
      split at h
      · rcases List.mem_cons.mp h with rfl | h
        · simp
        · exact ih h
      · next hne =>
          obtain ⟨first, later, hcut⟩ := List.exists_cons_of_ne_nil (List.splitOn_ne_nil c rest)
          rw [hcut, List.modifyHead_cons] at h
          rcases List.mem_cons.mp h with rfl | h
          · have hfirst := ih (hcut ▸ List.mem_cons_self)
            have hd : c ≠ d := fun heq => hne (by simp [heq])
            simpa [hd] using hfirst
          · exact ih (hcut ▸ List.mem_cons_of_mem _ h)

/-- What is not cut away is in some part. -/
theorem exists_mem_splitOn {c d : Char} {text : List Char} (hd : d ∈ text) (hne : d ≠ c) :
    ∃ part ∈ text.splitOn c, d ∈ part := by
  induction text with
  | nil => cases hd
  | cons e rest ih =>
      rw [List.splitOn_cons_eq_if_modifyHead]
      split
      · next hcut =>
          obtain rfl : e = c := by simpa using hcut
          obtain ⟨part, hpart, hmem⟩ := ih ((List.mem_cons.mp hd).resolve_left hne)
          exact ⟨part, List.mem_cons_of_mem _ hpart, hmem⟩
      · obtain ⟨first, later, hparts⟩ := List.exists_cons_of_ne_nil (List.splitOn_ne_nil c rest)
        rw [hparts] at ih ⊢
        rcases List.mem_cons.mp hd with rfl | hrest
        · exact ⟨d :: first, List.mem_cons_self, List.mem_cons_self⟩
        · obtain ⟨part, hpart, hmem⟩ := ih hrest
          rcases List.mem_cons.mp hpart with rfl | hlater
          · exact ⟨e :: part, List.mem_cons_self, List.mem_cons_of_mem _ hmem⟩
          · exact ⟨part, List.mem_cons_of_mem _ hlater, hmem⟩

/-- A path without names is made of slashes. -/
theorem eq_slash_of_parts_eq_nil {path : Path} (h : parts path = []) {c : Char}
    (hc : c ∈ path.toList) : c = '/' := by
  apply Decidable.byContradiction
  intro hne
  obtain ⟨part, hpart, hmem⟩ := exists_mem_splitOn hc hne
  have hkept : part ∈ (path.toList.splitOn '/').filter fun part => !part.isEmpty :=
    List.mem_filter.mpr ⟨hpart, by simpa using List.ne_nil_of_mem hmem⟩
  have hname : String.ofList part ∈ parts path := List.mem_map_of_mem hkept
  rw [h] at hname
  cases hname

/-- A name with a slash in it is more than one step, since what follows the slash is either a name
or slashes only. -/
theorem exists_steps_join_slash (hname : IsStep name) (hdirectory : directory ≠ "")
    (rest : String) :
    ∃ later, later ≠ [] ∧
      steps (join directory (name ++ "/" ++ rest)) = parts directory ++ name :: later := by
  obtain ⟨before, htext, hparts⟩ :=
    exists_toList_join (hname.isAbsolute_slash rest) hdirectory
  have hname_ne : name.toList.isEmpty = false := by simpa using hname.toList_ne_nil
  have hall : parts (join directory (name ++ "/" ++ rest)) =
      parts directory ++ name :: parts rest := by
    have htail : (name ++ "/" ++ rest).toList = name.toList ++ '/' :: rest.toList := by simp
    rw [hparts, parts, parts, htext, htail, List.splitOn_append_cons_self,
      List.splitOn_append_cons_self, List.splitOn_eq_singleton hname.noSlash]
    simp [hname_ne]
  rw [steps, hall]
  split
  · exact ⟨parts rest ++ [""], by simp, by simp⟩
  · next hopen =>
      refine ⟨parts rest, fun hnone => hopen ?_, rfl⟩
      have hlast : (join directory (name ++ "/" ++ rest)).toList.getLast? =
          ('/' :: rest.toList).getLast? := by
        rw [htext]
        simp [List.getLast?_append, List.getLast?_cons]
      rw [hasFinalSlash, hlast, decide_eq_true_eq, List.getLast?_eq_some_getLast (by simp)]
      rcases List.mem_cons.mp (List.getLast_mem (l := '/' :: rest.toList) (by simp)) with h | h
      · rw [h]
      · rw [eq_slash_of_parts_eq_nil hnone h]

/-- What a path ends with is a name. -/
theorem isName_of_fileName? {path : Path} (h : fileName? path = some name) : IsName name := by
  obtain ⟨hlast, hdots⟩ := Option.filter_eq_some_iff.mp h
  obtain ⟨hdots, hdot⟩ : name ≠ ".." ∧ name ≠ "." := by simpa using hdots
  have hpart : name ∈ parts path := by
    have hmem := List.mem_of_getLast? hlast
    unfold components at hmem
    dsimp only at hmem
    split at hmem
    · rcases List.mem_cons.mp hmem with heq | hmem
      · exact absurd heq hdot
      · exact (List.mem_filter.mp hmem).1
    · exact (List.mem_filter.mp hmem).1
  obtain ⟨part, hkept, rfl⟩ := List.mem_map.mp hpart
  obtain ⟨hcut, hne⟩ := List.mem_filter.mp hkept
  refine ⟨⟨?_, ?_⟩, hdot, hdots⟩
  · intro hempty
    rw [← String.toList_inj, String.toList_ofList] at hempty
    simp [hempty] at hne
  · rw [String.toList_ofList]
    exact not_mem_of_mem_splitOn hcut

end FileChat.Path
