/-
# Lookup in a table that was changed

A table is a list of keys with their values, and the first value of a key is the one that
counts. The tree of files and the list of locks are both such tables.
-/

namespace FileChat

variable {α β : Type} [BEq α] [LawfulBEq α] [DecidableEq α]

/-- Replacing the value of a key that is listed. -/
theorem lookup_map_replace_self {key : α} (value : β) {table : List (α × β)}
    (hlisted : key ∈ table.map Prod.fst) :
    (table.map fun pair => if pair.1 = key then (key, value) else pair).lookup key =
      some value := by
  induction table with
  | nil => simp at hlisted
  | cons pair rest ih =>
      by_cases hfirst : pair.1 = key
      · rw [List.map_cons, if_pos hfirst, List.lookup_cons_self]
      · have hrest : key ∈ rest.map Prod.fst := by simpa [Ne.symm hfirst] using hlisted
        rw [List.map_cons, if_neg hfirst, List.lookup_cons, beq_false_of_ne (Ne.symm hfirst)]
        exact ih hrest

theorem lookup_map_replace_of_ne {key other : α} (hne : other ≠ key) (value : β)
    (table : List (α × β)) :
    (table.map fun pair => if pair.1 = key then (key, value) else pair).lookup other =
      table.lookup other := by
  induction table with
  | nil => rfl
  | cons pair rest ih =>
      by_cases hfirst : pair.1 = key
      · rw [List.map_cons, if_pos hfirst, List.lookup_cons, List.lookup_cons, ih, hfirst,
          beq_false_of_ne hne]
      · rw [List.map_cons, if_neg hfirst, List.lookup_cons, List.lookup_cons, ih]

/-- Taking a key out of a table. -/
theorem lookup_filter_ne (table : List (α × β)) (key other : α) :
    (table.filter fun pair => decide (pair.1 ≠ key)).lookup other =
      if other = key then none else table.lookup other := by
  induction table with
  | nil => simp
  | cons pair rest ih =>
      by_cases hfirst : pair.1 = key
      · rw [List.filter_cons_of_neg (by simpa using hfirst), ih, List.lookup_cons, hfirst]
        by_cases hsame : other = key
        · rw [if_pos hsame, if_pos hsame]
        · rw [if_neg hsame, if_neg hsame, beq_false_of_ne hsame]
      · rw [List.filter_cons_of_pos (by simpa using hfirst), List.lookup_cons, List.lookup_cons,
          ih]
        by_cases hsame : other = key
        · rw [if_pos hsame, if_pos hsame, hsame, beq_false_of_ne (Ne.symm hfirst)]
        · rw [if_neg hsame, if_neg hsame]

end FileChat
