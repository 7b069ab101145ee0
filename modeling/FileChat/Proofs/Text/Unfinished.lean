/-
# Texts that are cut

A text that is cut anywhere is a shorter text and the beginning of one more character. The
reader finds the cut by counting: each byte either goes on with the character in progress or
ends what is in progress, and only then is there one more result. So the beginning of a
character leaves no result, and all of its bytes are counted.
-/

import FileChat.Proofs.Text.Utf8

namespace FileChat.Utf8

namespace Reader

/-- How many bytes of the character in progress have been read. -/
def seen (r : Reader) : Nat := (r.current.map Partial.seen).getD 0

/-- A byte goes on with the character in progress, or it brings a result. -/
theorem step_eq_or_done_lt (r : Reader) (b : UInt8) :
    (step r b).done = r.done ∧ (step r b).current ≠ none ∧ (step r b).seen = r.seen + 1 ∨
      r.done <:+ (step r b).done ∧ r.done.length < (step r b).done.length := by
  have hstart (done : List (Option Char)) :
      (start done b).done = done ∧ (start done b).current ≠ none ∧ (start done b).seen = 1 ∨
        done <:+ (start done b).done ∧ done.length < (start done b).done.length := by
    unfold start
    repeat' split
    all_goals simp [seen]
  unfold step
  split
  · next hnone => simpa [seen, hnone] using hstart r.done
  · next p hp =>
      split
      · dsimp only
        split
        · simp
        · simp [seen, hp]
      · -- The byte ends what was in progress, and that is one result already.
        refine .inr ?_
        rcases hstart (none :: r.done) with ⟨hdone, -, -⟩ | ⟨hdone, hlt⟩
        · rw [hdone]
          exact ⟨List.suffix_cons _ _, Nat.lt_succ_self _⟩
        · exact ⟨(List.suffix_cons _ _).trans hdone, Nat.lt_of_succ_lt hlt⟩

/-- No result is taken back. -/
theorem done_suffix_foldl (r : Reader) (bytes : Bytes) :
    r.done <:+ (bytes.foldl step r).done := by
  induction bytes generalizing r with
  | nil => exact List.suffix_refl _
  | cons b rest ih =>
      refine List.IsSuffix.trans ?_ (ih (step r b))
      rcases step_eq_or_done_lt r b with ⟨hdone, -, -⟩ | ⟨hdone, -⟩
      · exact hdone ▸ List.suffix_refl _
      · exact hdone

/-- Bytes that bring no result are counted. -/
theorem seen_foldl_of_done_eq {r : Reader} {bytes : Bytes}
    (h : (bytes.foldl step r).done = r.done) :
    (bytes.foldl step r).seen = r.seen + bytes.length := by
  induction bytes using List.reverseRecOn with
  | nil => rfl
  | append_singleton bytes b ih =>
      rw [List.foldl_append, List.foldl_cons, List.foldl_nil] at h ⊢
      have hbefore := done_suffix_foldl r bytes
      rcases step_eq_or_done_lt (bytes.foldl step r) b with ⟨hdone, -, hseen⟩ | ⟨-, hlt⟩
      · rw [hseen, ih (hdone ▸ h), List.length_append, List.length_singleton, Nat.add_assoc]
      · rw [h] at hlt
        exact absurd hlt (Nat.not_lt.mpr hbefore.length_le)

/-- Between two characters nothing is counted. -/
theorem seen_of_current {r : Reader} (h : r.current = none) : r.seen = 0 := by
  rw [seen, h]
  rfl

/-- A character of which a byte is missing brings no result. -/
theorem done_foldl_step_of_prefix (done : List (Option Char)) {c : Char} {bytes : Bytes}
    (hbegins : bytes <+: String.utf8EncodeChar c)
    (hmissing : bytes.length < (String.utf8EncodeChar c).length) :
    (bytes.foldl step ⟨done, none⟩).done = done := by
  obtain ⟨rest, hrest⟩ := hbegins
  have hread := foldl_step_char done c
  rw [← hrest, List.foldl_append] at hread
  rcases List.eq_nil_or_concat rest with rfl | ⟨middle, last, rfl⟩
  · rw [List.append_nil] at hrest
    exact absurd (congrArg List.length hrest) (Nat.ne_of_lt hmissing)
  · -- The last byte brings the one result that there is.
    rw [List.concat_eq_append, List.foldl_append, List.foldl_cons, List.foldl_nil] at hread
    have hbefore := done_suffix_foldl ⟨done, none⟩ bytes
    have hmiddle := done_suffix_foldl (bytes.foldl step ⟨done, none⟩) middle
    refine (hbefore.eq_of_length_le ?_).symm
    have hlast := step_eq_or_done_lt (middle.foldl step (bytes.foldl step ⟨done, none⟩)) last
    rw [hread] at hlast
    rcases hlast with ⟨-, hopen, -⟩ | ⟨-, hlt⟩
    · exact absurd rfl hopen
    · exact Nat.le_trans hmiddle.length_le (Nat.le_of_lt_succ hlt)

end Reader

/-- The beginning of a character, which may be empty. -/
def IsBegun (bytes : Bytes) : Prop :=
  ∃ c : Char, bytes <+: String.utf8EncodeChar c ∧ bytes.length < (String.utf8EncodeChar c).length

theorem isBegun_nil : IsBegun [] := ⟨'a', List.nil_prefix, by decide⟩

/-- At most three bytes of a character are there before the last one. -/
theorem IsBegun.length_le {bytes : Bytes} (h : IsBegun bytes) : bytes.length ≤ 3 := by
  obtain ⟨c, -, hmissing⟩ := h
  rw [String.length_utf8EncodeChar] at hmissing
  exact Nat.le_of_lt_succ (Nat.lt_of_lt_of_le hmissing c.utf8Size_le_four)

/-- Where a text is cut there are whole characters and the beginning of one more. -/
theorem exists_of_prefix_encode {bytes : Bytes} {text : String} (h : bytes <+: encode text) :
    ∃ whole held, bytes = encode whole ++ held ∧ IsBegun held := by
  suffices hcut : ∃ (chars : List Char) (held : Bytes),
      bytes = chars.flatMap String.utf8EncodeChar ++ held ∧ IsBegun held by
    obtain ⟨chars, held, hbytes, hheld⟩ := hcut
    exact ⟨String.ofList chars, held, by rw [hbytes, encode, String.toList_ofList], hheld⟩
  unfold encode at h
  generalize text.toList = chars at h
  induction chars generalizing bytes with
  | nil => exact ⟨[], [], List.prefix_nil.mp h, isBegun_nil⟩
  | cons c later ih =>
      rw [List.flatMap_cons] at h
      have hchar := List.prefix_append (String.utf8EncodeChar c)
        (later.flatMap String.utf8EncodeChar)
      rcases Nat.lt_or_ge bytes.length (String.utf8EncodeChar c).length with hshort | hlong
      · exact ⟨[], bytes, rfl, c, List.prefix_of_prefix_length_le h hchar (Nat.le_of_lt hshort),
          hshort⟩
      · obtain ⟨rest, rfl⟩ := List.prefix_of_prefix_length_le hchar h hlong
        obtain ⟨chars, held, rfl, hheld⟩ := ih ((List.prefix_append_right_inj _).mp h)
        exact ⟨c :: chars, held, by rw [List.flatMap_cons, List.append_assoc], hheld⟩

/-- What is read of a text with the beginning of a character behind it. -/
theorem read_encode_append {held : Bytes} (hheld : IsBegun held) (s : String) :
    (Reader.read (encode s ++ held)).done = (s.toList.map some).reverse ∧
      (Reader.read (encode s ++ held)).seen = held.length := by
  obtain ⟨c, hbegins, hmissing⟩ := hheld
  have hdone := Reader.done_foldl_step_of_prefix (s.toList.map some).reverse hbegins hmissing
  rw [Reader.read, List.foldl_append, ← Reader.read, read_encode]
  exact ⟨hdone, (Reader.seen_foldl_of_done_eq hdone).trans (Nat.zero_add _)⟩

/-- What is waited for is the rest of the character that was begun. -/
theorem unfinished_encode_append {held : Bytes} (hheld : IsBegun held) (s : String) :
    unfinished (encode s ++ held) = held.length := by
  obtain ⟨hdone, hseen⟩ := read_encode_append hheld s
  have hwell : (Reader.read (encode s ++ held)).wellFormed = true := by
    simp [Reader.wellFormed, hdone]
  rw [unfinished, hwell, if_pos rfl]
  exact hseen

/-- Bytes that end in the middle of a character are no text. -/
theorem eq_nil_of_decode {held : Bytes} (hheld : IsBegun held) {s text : String}
    (h : decode (encode s ++ held) = some text) : held = [] := by
  rw [decode_eq_some_iff] at h
  have hseen := (read_encode_append hheld s).2
  rw [Reader.seen_of_current (congrArg Reader.current h)] at hseen
  exact List.eq_nil_of_length_eq_zero hseen.symm

/-- A text that begins with the bytes of another one goes on with the bytes of a text. -/
theorem exists_of_encode_append_prefix {s text : String} {bytes : Bytes}
    (h : encode s ++ bytes <+: encode text) : ∃ rest, bytes <+: encode rest := by
  obtain ⟨after, hafter⟩ := h
  rw [List.append_assoc] at hafter
  have hread := congrArg Reader.read hafter
  rw [Reader.read, List.foldl_append, ← Reader.read, read_encode, read_encode] at hread
  have hsuffix := Reader.done_suffix_foldl ⟨(s.toList.map some).reverse, none⟩ (bytes ++ after)
  rw [hread, List.reverse_suffix] at hsuffix
  have hchars : s.toList <+: text.toList := by simpa using hsuffix.filterMap id
  obtain ⟨later, hlater⟩ := hchars
  have hsplit : encode text = encode s ++ encode (String.ofList later) := by
    rw [encode, encode, encode, ← hlater, List.flatMap_append, String.toList_ofList]
  rw [hsplit] at hafter
  exact ⟨String.ofList later, after, List.append_cancel_left hafter⟩

end FileChat.Utf8
