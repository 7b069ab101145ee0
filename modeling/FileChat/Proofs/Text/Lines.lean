/-
# Whole lines

A text of whole lines can be continued without touching what is there: its lines stay,
and the lines of the continuation come after them. Any text is whole lines with at most
one unfinished line behind them.
-/

import Mathlib.Data.List.Induction
import FileChat.Text.Lines

namespace FileChat.Text

/-- A text that is empty or ends with a line feed. -/
def IsWholeLines (text : List Char) : Prop := text = [] ∨ text.getLast? = some '\n'

instance (text : List Char) : Decidable (IsWholeLines text) :=
  inferInstanceAs (Decidable (text = [] ∨ text.getLast? = some '\n'))

theorem isWholeLines_nil : IsWholeLines [] := .inl rfl

theorem isWholeLines_append_lineFeed (text : List Char) : IsWholeLines (text ++ ['\n']) :=
  .inr (by simp)

theorem IsWholeLines.append {first second : List Char} (hfirst : IsWholeLines first)
    (hsecond : IsWholeLines second) : IsWholeLines (first ++ second) := by
  rcases hsecond with rfl | hsecond
  · rwa [List.append_nil]
  · exact .inr (by rw [List.getLast?_append, hsecond, Option.some_or])

theorem IsWholeLines.tail {c : Char} {text : List Char} (h : IsWholeLines (c :: text)) :
    IsWholeLines text := by
  cases text with
  | nil => exact isWholeLines_nil
  | cons d rest => exact .inr (by simpa [IsWholeLines] using h)

theorem pieces_ne_nil {text : List Char} (h : text ≠ []) : pieces text ≠ [] := fun hnone =>
  h (by rw [← flatten_pieces text, hnone, List.flatten_nil])

theorem addFront_append {c : Char} {cut later : List (List Char)} (h : cut ≠ [] ∨ c = '\n') :
    addFront c (cut ++ later) = addFront c cut ++ later := by
  unfold addFront
  split
  · rfl
  · next hc =>
      cases cut with
      | nil => simp [hc] at h
      | cons first rest => rfl

/-- A continuation of whole lines is cut by itself. -/
theorem pieces_append {first : List Char} (h : IsWholeLines first) (second : List Char) :
    pieces (first ++ second) = pieces first ++ pieces second := by
  induction first with
  | nil => rfl
  | cons c rest ih =>
      have hfront : pieces rest ≠ [] ∨ c = '\n' := by
        cases rest with
        | nil => exact .inr (by simpa [IsWholeLines] using h)
        | cons d later => exact .inl (pieces_ne_nil (by simp))
      rw [List.cons_append, pieces_cons, ih h.tail, addFront_append hfront, pieces_cons]

theorem lines_append {first : List Char} (h : IsWholeLines first) (second : List Char) :
    lines (first ++ second) = lines first ++ lines second := by
  rw [lines, pieces_append h, List.map_append, lines, lines]

@[simp]
theorem lines_nil : lines [] = [] := rfl

/-- A text without a line feed is cut nowhere. -/
theorem pieces_of_not_mem {text : List Char} (hne : text ≠ []) (hfeed : '\n' ∉ text) :
    pieces text = [text] := by
  induction text with
  | nil => exact absurd rfl hne
  | cons c rest ih =>
      obtain ⟨hc, hrest⟩ := not_or.mp (mt List.mem_cons.mpr hfeed)
      cases rest with
      | nil => simp [addFront, Ne.symm hc]
      | cons d later =>
          rw [pieces_cons, ih (by simp) hrest]
          simp [addFront, Ne.symm hc]

/-- An unfinished line is a line. -/
theorem lines_of_not_mem {text : List Char} (hne : text ≠ []) (hfeed : '\n' ∉ text) :
    lines text = [text] := by
  have hlast : text.getLast? ≠ some '\n' := fun h =>
    hfeed (List.mem_of_getLast? h)
  rw [lines, pieces_of_not_mem hne hfeed, List.map_singleton, unterminated, if_neg hlast]

/-- A text is not cut before a line feed has come. -/
theorem pieces_append_singleton {line : List Char} (hfeed : '\n' ∉ line) (c : Char) :
    pieces (line ++ [c]) = [line ++ [c]] := by
  induction line with
  | nil => simp [addFront]
  | cons d rest ih =>
      obtain ⟨hd, hrest⟩ := not_or.mp (mt List.mem_cons.mpr hfeed)
      rw [List.cons_append, pieces_cons, ih hrest]
      simp [addFront, Ne.symm hd]

/-- A line with its line feed is one line. -/
theorem lines_append_lineFeed {line : List Char} (hfeed : '\n' ∉ line)
    (hreturn : line.getLast? ≠ some '\r') : lines (line ++ ['\n']) = [line] := by
  rw [lines, pieces_append_singleton hfeed, List.map_singleton]
  simp [unterminated, hreturn]

/-- Every text is whole lines and an unfinished line, which may be empty. -/
theorem exists_wholeLines_append (text : List Char) :
    ∃ whole rest, text = whole ++ rest ∧ IsWholeLines whole ∧ '\n' ∉ rest := by
  induction text using List.reverseRecOn with
  | nil => exact ⟨[], [], rfl, isWholeLines_nil, by simp⟩
  | append_singleton text c ih =>
      by_cases hc : c = '\n'
      · subst hc
        exact ⟨text ++ ['\n'], [], by simp, isWholeLines_append_lineFeed text, by simp⟩
      · obtain ⟨whole, rest, rfl, hwhole, hrest⟩ := ih
        exact ⟨whole, rest ++ [c], by simp, hwhole, by simp [hrest, Ne.symm hc]⟩

/-- A piece that has others behind it ends with a line feed, and those are cut by themselves. -/
theorem pieces_cons_eq {text first : List Char} {later : List (List Char)}
    (h : pieces text = first :: later) :
    pieces later.flatten = later ∧ (later ≠ [] → first.getLast? = some '\n') := by
  induction text generalizing first with
  | nil => cases h
  | cons c rest ih =>
      rw [pieces_cons, addFront.eq_def] at h
      split at h
      · next hfeed =>
          obtain ⟨rfl, rfl⟩ := List.cons.inj h
          rw [flatten_pieces]
          exact ⟨rfl, fun _ => by simp [hfeed]⟩
      · split at h
        · obtain ⟨rfl, rfl⟩ := List.cons.inj h
          exact ⟨rfl, fun hne => absurd rfl hne⟩
        · next begun others hcut =>
            obtain ⟨rfl, rfl⟩ := List.cons.inj h
            obtain ⟨hothers, hbegun⟩ := ih hcut
            refine ⟨hothers, fun hne => ?_⟩
            rw [List.getLast?_cons, hbegun hne]
            rfl

/-- What is behind some pieces is cut as before. -/
theorem pieces_flatten_drop (text : List Char) (count : Nat) :
    pieces ((pieces text).drop count).flatten = (pieces text).drop count := by
  induction count generalizing text with
  | zero => rw [List.drop_zero, flatten_pieces]
  | succ count ih =>
      cases hcut : pieces text with
      | nil => rfl
      | cons first later =>
          have hlater := (pieces_cons_eq hcut).1
          rw [List.drop_succ_cons, ← hlater]
          exact ih later.flatten

/-- Pieces with others behind them are whole lines. -/
theorem isWholeLines_flatten_take {text : List Char} {count : Nat}
    (h : count < (pieces text).length) : IsWholeLines ((pieces text).take count).flatten := by
  induction count generalizing text with
  | zero => exact isWholeLines_nil
  | succ count ih =>
      cases hcut : pieces text with
      | nil => simp [hcut] at h
      | cons first later =>
          obtain ⟨hlater, hfirst⟩ := pieces_cons_eq hcut
          rw [hcut, List.length_cons, Nat.succ_lt_succ_iff] at h
          have hne : later ≠ [] := List.length_pos_iff.mp (Nat.zero_lt_of_lt h)
          rw [List.take_succ_cons, List.flatten_cons, ← hlater]
          exact IsWholeLines.append (.inr (hfirst hne)) (ih (by rwa [hlater]))

/-- The first pieces are cut as before. -/
theorem pieces_flatten_take (text : List Char) (count : Nat) :
    pieces ((pieces text).take count).flatten = (pieces text).take count := by
  rcases Nat.lt_or_ge count (pieces text).length with hless | hall
  · have hcut := pieces_append (isWholeLines_flatten_take hless)
      ((pieces text).drop count).flatten
    rw [← List.flatten_append, List.take_append_drop, flatten_pieces, pieces_flatten_drop] at hcut
    have hsame : (pieces text).take count ++ (pieces text).drop count =
        pieces ((pieces text).take count).flatten ++ (pieces text).drop count := by
      rw [List.take_append_drop]
      exact hcut
    exact (List.append_cancel_right hsame).symm
  · rw [List.take_of_length_le hall, flatten_pieces]

theorem isWholeLines_flatten_take_of_isWholeLines {text : List Char} (h : IsWholeLines text)
    (count : Nat) : IsWholeLines ((pieces text).take count).flatten := by
  rcases Nat.lt_or_ge count (pieces text).length with hless | hall
  · exact isWholeLines_flatten_take hless
  · rwa [List.take_of_length_le hall, flatten_pieces]

/-- A piece has a line feed nowhere but at its end. -/
theorem not_mem_dropLast_of_mem_pieces {text piece : List Char} (h : piece ∈ pieces text) :
    '\n' ∉ piece.dropLast := by
  induction text generalizing piece with
  | nil => cases h
  | cons c rest ih =>
      rw [pieces_cons, addFront.eq_def] at h
      split at h
      · rcases List.mem_cons.mp h with rfl | h
        · simp
        · exact ih h
      · next hc =>
          split at h
          · obtain rfl := List.mem_singleton.mp h
            simp
          · next first later hcut =>
              have hfirst : first ∈ pieces rest := by simp [hcut]
              rcases List.mem_cons.mp h with rfl | h
              · rw [List.dropLast_cons_of_ne_nil (ne_nil_of_mem_pieces hfirst), List.mem_cons,
                  not_or]
                exact ⟨Ne.symm hc, ih hfirst⟩
              · exact ih (hcut ▸ List.mem_cons_of_mem _ h)

/-- A line has no line feed. -/
theorem not_mem_of_mem_lines {text line : List Char} (h : line ∈ lines text) : '\n' ∉ line := by
  rw [lines, List.mem_map] at h
  obtain ⟨piece, hpiece, rfl⟩ := h
  have hbefore := not_mem_dropLast_of_mem_pieces hpiece
  unfold unterminated
  dsimp only
  split
  · split
    · exact fun hmem => hbefore ((List.dropLast_sublist _).mem hmem)
    · exact hbefore
  · next hlast =>
      intro hmem
      obtain ⟨before, c, rfl⟩ := (List.eq_nil_or_concat piece).resolve_left
        (ne_nil_of_mem_pieces hpiece)
      rw [List.concat_eq_append] at hmem hlast hbefore
      rw [List.dropLast_concat] at hbefore
      rw [List.getLast?_concat, Option.some_inj] at hlast
      rcases List.mem_append.mp hmem with hmem | hmem
      · exact hbefore hmem
      · exact hlast (List.mem_singleton.mp hmem).symm

/-- A line with a line feed and more behind it is a line by itself. -/
theorem lines_append_lineFeed_append {line : List Char} (hfeed : '\n' ∉ line)
    (hreturn : line.getLast? ≠ some '\r') (text : List Char) :
    lines (line ++ '\n' :: text) = line :: lines text := by
  rw [List.append_cons, lines_append (isWholeLines_append_lineFeed line),
    lines_append_lineFeed hfeed hreturn, List.singleton_append]

end FileChat.Text
