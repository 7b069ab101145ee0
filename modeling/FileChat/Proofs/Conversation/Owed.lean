/-
# The last speaker

Whether a reply is owed was defined through positions among the lines that hold something.
Read from the front it is simpler: each turn settles the question anew, and every other line
leaves it open. In this form a conversation that is continued needs to be read only from
where it was continued.
-/

import FileChat.Conversation.Owed
import FileChat.Proofs.Text.Lines

namespace FileChat.Conversation

open Text

/-- Whether a reply is owed after one more line. -/
def owedAfterLine (owed : Bool) (line : List Char) : Bool :=
  if isUserLine line then true else if isAssistantLine line then false else owed

/-- Whether a reply is owed after some more lines. -/
def owedAfter (owed : Bool) (more : List (List Char)) : Bool := more.foldl owedAfterLine owed

@[simp]
theorem owedAfter_nil (owed : Bool) : owedAfter owed [] = owed := rfl

@[simp]
theorem owedAfter_cons (owed : Bool) (line : List Char) (more : List (List Char)) :
    owedAfter owed (line :: more) = owedAfter (owedAfterLine owed line) more := rfl

@[simp]
theorem owedAfter_append (owed : Bool) (first second : List (List Char)) :
    owedAfter owed (first ++ second) = owedAfter (owedAfter owed first) second :=
  List.foldl_append

theorem isUserLine_iff {line : List Char} : isUserLine line = true ↔ "User:".toList <+: line := by
  rw [isUserLine, List.isPrefixOf_iff_prefix]

theorem isAssistantLine_iff {line : List Char} :
    isAssistantLine line = true ↔ "Assistant:".toList <+: line := by
  rw [isAssistantLine, List.isPrefixOf_iff_prefix]

/-- A turn holds something. -/
theorem not_isBlankText_of_mark {mark line : List Char} (hmark : isBlankText mark = false)
    (h : mark <+: line) : isBlankText line = false := by
  obtain ⟨rest, rfl⟩ := h
  rw [isBlankText, List.all_append, ← isBlankText, hmark, Bool.false_and]

theorem not_isBlankText_of_isUserLine {line : List Char} (h : isUserLine line = true) :
    isBlankText line = false :=
  not_isBlankText_of_mark (by decide) (isUserLine_iff.mp h)

theorem not_isBlankText_of_isAssistantLine {line : List Char} (h : isAssistantLine line = true) :
    isBlankText line = false :=
  not_isBlankText_of_mark (by decide) (isAssistantLine_iff.mp h)

/-- A line that is no turn decides nothing. -/
theorem owedAfterLine_of_not_turn {line : List Char}
    (h : isUserLine line = false ∧ isAssistantLine line = false) (owed : Bool) :
    owedAfterLine owed line = owed := by
  simp [owedAfterLine, h.1, h.2]

/-- A line that holds nothing decides nothing. -/
theorem owedAfterLine_of_isBlankText {line : List Char} (h : isBlankText line = true)
    (owed : Bool) : owedAfterLine owed line = owed := by
  have huser : isUserLine line = false := by
    by_contra hc
    simp [not_isBlankText_of_isUserLine (by simpa using hc)] at h
  have hassistant : isAssistantLine line = false := by
    by_contra hc
    simp [not_isBlankText_of_isAssistantLine (by simpa using hc)] at h
  exact owedAfterLine_of_not_turn ⟨huser, hassistant⟩ owed

/-- Lines that are no turns decide nothing. -/
theorem owedAfter_of_forall_not_turn {spoken : List (List Char)}
    (h : ∀ line ∈ spoken, isUserLine line = false ∧ isAssistantLine line = false) (owed : Bool) :
    owedAfter owed spoken = owed := by
  induction spoken generalizing owed with
  | nil => rfl
  | cons line later ih =>
      obtain ⟨hline, hlater⟩ := List.forall_mem_cons.mp h
      rw [owedAfter_cons, owedAfterLine_of_not_turn hline, ih hlater]

/-- Lines that decide nothing can be left out. -/
theorem owedAfter_filter {counts : List Char → Bool}
    (h : ∀ line, counts line = false → ∀ owed, owedAfterLine owed line = owed) (owed : Bool)
    (more : List (List Char)) : owedAfter owed (more.filter counts) = owedAfter owed more := by
  rw [owedAfter, List.foldl_filter, owedAfter]
  congr 1
  funext owed line
  cases hcounts : counts line with
  | true => simp
  | false => simp [h line hcounts]

section LastIndex

variable {α : Type} (p : α → Bool)

theorem lastIndex?_fold (xs : List α) (at_ : Nat) (found : Option Nat) :
    (xs.foldl (fun (at_, found) x => (at_ + 1, if p x then some at_ else found))
      (at_, found)).1 = at_ + xs.length := by
  induction xs generalizing at_ found with
  | nil => rfl
  | cons x rest ih =>
      rw [List.foldl_cons, ih, List.length_cons]
      omega

@[simp]
theorem lastIndex?_nil : lastIndex? p [] = none := rfl

theorem lastIndex?_append_singleton (xs : List α) (x : α) :
    lastIndex? p (xs ++ [x]) = if p x then some xs.length else lastIndex? p xs := by
  have hat := lastIndex?_fold p xs 0 none
  rw [Nat.zero_add] at hat
  simp only [lastIndex?, List.foldl_append, List.foldl_cons, List.foldl_nil, hat]

/-- A position that was found is one of the list. -/
theorem lt_of_lastIndex?_eq_some {xs : List α} {i : Nat} (h : lastIndex? p xs = some i) :
    i < xs.length := by
  induction xs using List.reverseRecOn with
  | nil => simp at h
  | append_singleton xs x ih =>
      rw [lastIndex?_append_singleton] at h
      rw [List.length_append, List.length_singleton]
      split at h
      · obtain rfl := Option.some.inj h
        omega
      · exact Nat.lt_succ_of_lt (ih h)

end LastIndex

/-- Comparing the positions of the last turns is asking who spoke last. -/
theorem owedAfter_eq_positions (spoken : List (List Char)) :
    owedAfter false spoken =
      match lastIndex? isUserLine spoken, lastIndex? isAssistantLine spoken with
      | some user, some assistant => decide (user > assistant)
      | some _, none => true
      | none, _ => false := by
  induction spoken using List.reverseRecOn with
  | nil => rfl
  | append_singleton spoken line ih =>
      rw [owedAfter_append, ih]
      simp only [owedAfter_cons, owedAfter_nil, owedAfterLine, lastIndex?_append_singleton]
      by_cases huser : isUserLine line = true
      · have hassistant := isAssistantLine_of_isUserLine huser
        simp only [huser, hassistant, if_true, Bool.false_eq_true, if_false]
        cases hlast : lastIndex? isAssistantLine spoken with
        | none => rfl
        | some i => simpa using lt_of_lastIndex?_eq_some _ hlast
      · simp only [huser, Bool.false_eq_true, if_false]
        by_cases hassistant : isAssistantLine line = true
        · simp only [hassistant, if_true]
          cases hlast : lastIndex? isUserLine spoken with
          | none => rfl
          | some i => simpa using Nat.le_of_lt (lt_of_lastIndex?_eq_some _ hlast)
        · simp only [hassistant, Bool.false_eq_true, if_false]

/-- A reply is owed exactly if the last turn among all lines is the user's. -/
theorem needsResponse_eq_owedAfter (content : String) :
    needsResponse content = owedAfter false (lines content.toList) := by
  have hspoken (line : List Char) (hblank : (!isBlankText line) = false) (owed : Bool) :
      owedAfterLine owed line = owed :=
    owedAfterLine_of_isBlankText (by simpa using hblank) owed
  rw [← owedAfter_filter hspoken, owedAfter_eq_positions]
  rfl

/-- A continuation of whole lines is read from where it begins. -/
theorem needsResponse_append {first : String} (h : IsWholeLines first.toList) (second : String) :
    needsResponse (first ++ second) =
      owedAfter (needsResponse first) (lines second.toList) := by
  rw [needsResponse_eq_owedAfter, needsResponse_eq_owedAfter, String.toList_append,
    lines_append h, owedAfter_append]

end FileChat.Conversation
