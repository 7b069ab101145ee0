/-
# Lines of a text

A text is cut after every line feed. The pieces keep their terminators, so they join to
the text again; a line is a piece without its terminator, which is a line feed or a
carriage return followed by a line feed.
-/

namespace FileChat.Text

/-- Put one character in front of a text that is already cut. -/
def addFront (c : Char) (cut : List (List Char)) : List (List Char) :=
  if c = '\n' then [c] :: cut
  else
    match cut with
    | [] => [[c]]
    | first :: later => (c :: first) :: later

/-- The text cut after every line feed, terminators kept. -/
def pieces (text : List Char) : List (List Char) := text.foldr addFront []

/-- A piece without its terminator. A carriage return counts as part of the terminator
only in front of a line feed. -/
def unterminated (piece : List Char) : List Char :=
  if piece.getLast? = some '\n' then
    let line := piece.dropLast
    if line.getLast? = some '\r' then line.dropLast else line
  else piece

/-- The lines of a text, without terminators. -/
def lines (text : List Char) : List (List Char) := (pieces text).map unterminated

@[simp] theorem pieces_nil : pieces [] = [] := rfl

@[simp] theorem pieces_cons (c : Char) (text : List Char) :
    pieces (c :: text) = addFront c (pieces text) := rfl

theorem flatten_addFront (c : Char) (cut : List (List Char)) :
    (addFront c cut).flatten = c :: cut.flatten := by
  unfold addFront
  split
  · simp
  · split <;> simp

/-- Cutting loses nothing. -/
theorem flatten_pieces (text : List Char) : (pieces text).flatten = text := by
  induction text with
  | nil => rfl
  | cons c rest ih => rw [pieces_cons, flatten_addFront, ih]

/-- No piece is empty. -/
theorem ne_nil_of_mem_pieces {text piece : List Char} (h : piece ∈ pieces text) : piece ≠ [] := by
  induction text generalizing piece with
  | nil => simp at h
  | cons c rest ih =>
    rw [pieces_cons] at h
    unfold addFront at h
    split at h
    · rcases List.mem_cons.1 h with rfl | h
      · simp
      · exact ih h
    · split at h
      · simp_all
      · next first later hcut =>
        rcases List.mem_cons.1 h with rfl | h
        · simp
        · exact ih (hcut ▸ List.mem_cons_of_mem _ h)

end FileChat.Text
