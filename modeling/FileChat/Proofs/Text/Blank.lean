/-
# Texts without blanks at their ends

Blanks at the end of a text are taken away one by one, so they reach into what is in front only
if everything behind it is blank. A terminator is blank too: to a reader that trims, it makes no
difference whether a line still has one.
-/

import Mathlib.Data.List.TakeWhile
import FileChat.Proofs.Text.Lines
import FileChat.Text.Blank

namespace FileChat.Text

variable {text first second : List Char}

/-- Taking away from the end stops in the second part, unless all of that goes. -/
theorem dropEndWhile_append (p : Char → Bool) (first second : List Char) :
    dropEndWhile p (first ++ second) =
      if second.all p then dropEndWhile p first else first ++ dropEndWhile p second := by
  induction second using List.reverseRecOn with
  | nil => simp
  | append_singleton second c ih =>
      rw [← List.append_assoc, dropEndWhile_append_singleton, dropEndWhile_append_singleton, ih,
        List.all_append]
      cases hc : p c with
      | false => simp [hc]
      | true => simp [hc]

theorem trimEnd_append_of_isBlankText (h : isBlankText second = true) (first : List Char) :
    trimEnd (first ++ second) = trimEnd first :=
  (dropEndWhile_append isBlank first second).trans (if_pos h)

theorem trimEnd_append_of_not_isBlankText (h : isBlankText second = false) (first : List Char) :
    trimEnd (first ++ second) = first ++ trimEnd second :=
  (dropEndWhile_append isBlank first second).trans (if_neg (by rw [← isBlankText, h]; simp))

/-- A blank at the end is not seen by who trims. -/
theorem trim_append_singleton {c : Char} (hc : isBlank c = true) (text : List Char) :
    trim (text ++ [c]) = trim text := by
  have hblank : isBlankText [c] = true := by simp [isBlankText, hc]
  rw [trim, trim, trimStart, trimStart, List.dropWhile_append]
  split
  · next hnone => simp [List.isEmpty_iff.mp hnone, hc]
  · exact trimEnd_append_of_isBlankText hblank _

/-- A text that begins with more than a blank is trimmed at its end alone. -/
theorem trim_cons {c : Char} (hc : isBlank c = false) (text : List Char) :
    trim (c :: text) = trimEnd (c :: text) := by
  rw [trim, trimStart, List.dropWhile_cons, hc, if_neg (by simp)]

/-- A terminator is not seen by who trims. -/
theorem trim_unterminated (piece : List Char) : trim (unterminated piece) = trim piece := by
  have hlast {c : Char} (hc : isBlank c = true) {text : List Char}
      (h : text.getLast? = some c) : trim text.dropLast = trim text := by
    obtain ⟨before, rfl⟩ := List.getLast?_eq_some_iff.mp h
    rw [List.dropLast_concat, trim_append_singleton hc]
  unfold unterminated
  dsimp only
  split
  · next hfeed =>
      split
      · next hreturn => rw [hlast (by decide) hreturn, hlast (by decide) hfeed]
      · exact hlast (by decide) hfeed
  · rfl

/-- The lines of a text that hold something, without blanks at their ends. -/
def spoken (text : List Char) : List (List Char) :=
  ((lines text).map trim).filter fun line => !line.isEmpty

theorem spoken_eq_pieces (text : List Char) :
    spoken text = ((pieces text).map trim).filter fun line => !line.isEmpty := by
  rw [spoken, lines, List.map_map, Function.comp_def]
  simp only [trim_unterminated]

/-- Whole lines are not changed by what comes after them. -/
theorem spoken_append (h : IsWholeLines first) (second : List Char) :
    spoken (first ++ second) = spoken first ++ spoken second := by
  rw [spoken, lines_append h, List.map_append, List.filter_append, spoken, spoken]

/-- A blank at the end of a text makes no line of it. -/
theorem spoken_append_singleton {c : Char} (hc : isBlank c = true) (text : List Char) :
    spoken (text ++ [c]) = spoken text := by
  obtain ⟨whole, rest, rfl, hwhole, hfeed⟩ := exists_wholeLines_append text
  rw [spoken_eq_pieces, spoken_eq_pieces, List.append_assoc, pieces_append hwhole,
    pieces_append hwhole, pieces_append_singleton hfeed]
  simp only [List.map_append, List.filter_append, List.map_singleton, trim_append_singleton hc]
  cases rest with
  | nil => rfl
  | cons first later => rw [pieces_of_not_mem (by simp) hfeed, List.map_singleton]

theorem spoken_append_of_isBlankText (h : isBlankText second = true) (first : List Char) :
    spoken (first ++ second) = spoken first := by
  induction second using List.reverseRecOn with
  | nil => rw [List.append_nil]
  | append_singleton second c ih =>
      obtain ⟨hsecond, hc⟩ := Bool.and_eq_true_iff.mp ((List.all_append).symm.trans h)
      rw [← List.append_assoc, spoken_append_singleton (by simpa using hc), ih hsecond]

/-- What is trimmed away to nothing held nothing. -/
theorem isEmpty_trim (text : List Char) : (trim text).isEmpty = isBlankText text := by
  cases hblank : isBlankText text with
  | true =>
      have hstart : trimStart text = [] := by
        rw [trimStart, List.dropWhile_eq_nil_iff]
        exact List.all_eq_true.mp hblank
      rw [trim, hstart]
      rfl
  | false =>
      have hstart : text.dropWhile isBlank ≠ [] := by
        rw [ne_eq, List.dropWhile_eq_nil_iff, ← List.all_eq_true, ← isBlankText, hblank]
        simp
      obtain ⟨c, rest, hrest⟩ := List.exists_cons_of_ne_nil hstart
      have hc : isBlank c = false := by
        have hhead := List.head_dropWhile_not isBlank hstart
        simpa [hrest] using hhead
      have hnone : dropEndWhile isBlank [c] = [c] := by simp [dropEndWhile, hc]
      rw [trim, trimStart, hrest, trimEnd, ← List.singleton_append, dropEndWhile_append, hnone]
      split
      · rfl
      · rfl

/-- A trimmed text ends with more than a blank. -/
theorem isBlank_of_getLast?_trimEnd {text : List Char} {c : Char}
    (h : (trimEnd text).getLast? = some c) : isBlank c = false := by
  induction text using List.reverseRecOn with
  | nil => cases h
  | append_singleton text d ih =>
      rw [trimEnd, dropEndWhile_append_singleton] at h
      split at h
      · exact ih h
      · next hd =>
          rw [List.getLast?_concat] at h
          obtain rfl := Option.some.inj h
          simpa using hd

theorem mem_of_mem_dropEndWhile {p : Char → Bool} {text : List Char} {c : Char}
    (h : c ∈ dropEndWhile p text) : c ∈ text := by
  rw [dropEndWhile, List.mem_reverse] at h
  exact List.mem_reverse.mp ((List.dropWhile_sublist p).mem h)

theorem mem_of_mem_trim {text : List Char} {c : Char} (h : c ∈ trim text) : c ∈ text :=
  (List.dropWhile_sublist isBlank).mem (mem_of_mem_dropEndWhile h)

/-- A trimmed text is the beginning of what it was. -/
theorem exists_eq_trimEnd_append (text : List Char) : ∃ rest, text = trimEnd text ++ rest := by
  obtain ⟨rest, hrest⟩ := List.dropWhile_suffix (l := text.reverse) isBlank
  refine ⟨rest.reverse, ?_⟩
  rw [trimEnd, dropEndWhile, ← List.reverse_append, hrest, List.reverse_reverse]

/-- A text that ends with more than a blank holds something. -/
theorem isBlankText_of_getLast? {c : Char} (h : text.getLast? = some c)
    (hc : isBlank c = false) : isBlankText text = false := by
  rw [isBlankText, List.all_eq_false]
  exact ⟨c, List.mem_of_getLast? h, by simp [hc]⟩

/-- Behind a mark there is what the line ends with. -/
theorem isBlankText_of_getLast?_append {mark : List Char} {c : Char}
    (hmark : mark.getLast? = some ' ') (h : (mark ++ text).getLast? = some c)
    (hc : isBlank c = false) : isBlankText text = false := by
  rw [List.getLast?_append, Option.or_eq_some_iff, hmark] at h
  rcases h with hlast | ⟨-, hlast⟩
  · exact isBlankText_of_getLast? hlast hc
  · rw [← Option.some.inj hlast] at hc
    cases hc

/-- A text without a beginning has nothing behind it. -/
theorem afterMark_of_not_prefix {mark line : List Char} (h : ¬ mark <+: line) :
    afterMark mark line = none := by
  cases hrest : afterMark mark line with
  | none => rfl
  | some rest => exact absurd ⟨rest, (eq_append_of_afterMark hrest).symm⟩ h

end FileChat.Text
