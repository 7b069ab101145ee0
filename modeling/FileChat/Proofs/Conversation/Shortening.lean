/-
# Shortening a conversation

A conversation that is too long loses its oldest lines, two at a time, and a count is kept of the
characters that are left. The count is always right, so where the dropping stops can be said
without it: behind the least number of pairs at which the rest is short enough or has no two lines
to spare. Lines that were kept are cut as before, which is why a second shortening goes on where
the first one stopped.
-/

import Mathlib.Data.Nat.Find
import Mathlib.Order.Bounds.Basic
import FileChat.Conversation.Prompt
import FileChat.Proofs.Text.Lines

namespace FileChat.Conversation

open Text

section Lines

/-- Without its first pairs of lines a conversation is within the budget, or it has no two lines
to spare. -/
def IsShort (budget : Nat) (cut : List (List Char)) (pairs : Nat) : Prop :=
  (cut.drop (2 * pairs)).flatten.length ≤ budget ∨ (cut.drop (2 * pairs)).length < 4

/-- How far the dropping has come: how many lines are gone, and the count that is kept of the
characters in the others. -/
inductive Dropping (budget : Nat) (cut : List (List Char)) : Nat → Nat → Prop
  | start : Dropping budget cut 0 cut.flatten.length
  | pair {gone total : Nat} (before : Dropping budget cut gone total) (hlong : budget < total)
      (hmany : 4 ≤ cut.length - gone) :
      Dropping budget cut (gone + 2) (total - ((cut.drop gone).take 2).flatten.length)

variable {budget : Nat} {cut : List (List Char)}

/-- One round: two lines go if the text is too long and has two to spare. -/
theorem dropOldest_eq_ite (budget total : Nat) (cut : List (List Char)) :
    dropOldest budget total cut =
      if budget < total ∧ 4 ≤ cut.length then
        dropOldest budget (total - (cut.take 2).flatten.length) (cut.drop 2)
      else cut := by
  rcases cut with _ | ⟨first, _ | ⟨second, later⟩⟩
  · simp [dropOldest]
  · simp [dropOldest]
  · have hspare : (!(later.drop 1).isEmpty) = true ↔ 4 ≤ (first :: second :: later).length := by
      simp only [Bool.not_eq_true', List.isEmpty_eq_false_iff, ne_eq, List.drop_eq_nil_iff,
        List.length_cons]
      omega
    simp only [dropOldest, Bool.and_eq_true, decide_eq_true_eq, hspare]
    simp

theorem length_flatten_take_add_drop (cut : List (List Char)) (count : Nat) :
    (cut.take count).flatten.length + (cut.drop count).flatten.length = cut.flatten.length := by
  rw [← List.length_append, ← List.flatten_append, List.take_append_drop]

namespace Dropping

variable {gone total : Nat}

/-- The count is the number of characters that are left, and no more lines are gone than there
were. -/
theorem invariant (h : Dropping budget cut gone total) :
    gone ≤ cut.length ∧ total = (cut.drop gone).flatten.length := by
  induction h with
  | start => exact ⟨Nat.zero_le _, rfl⟩
  | @pair gone total before hlong hmany ih =>
      have hcount := length_flatten_take_add_drop (cut.drop gone) 2
      rw [List.drop_drop] at hcount
      exact ⟨by omega, by omega⟩

/-- The dropping goes on from where it has come. -/
theorem dropOldest_eq (h : Dropping budget cut gone total) :
    dropOldest budget total (cut.drop gone) = dropOldest budget cut.flatten.length cut := by
  induction h with
  | start => rw [List.drop_zero]
  | @pair gone total before hlong hmany ih =>
      rw [← ih, dropOldest_eq_ite budget total, List.length_drop, if_pos ⟨hlong, hmany⟩,
        List.drop_drop]

end Dropping

instance (budget : Nat) (cut : List (List Char)) : DecidablePred (IsShort budget cut) :=
  fun _ => inferInstanceAs (Decidable (_ ∨ _))

/-- Without any lines a conversation is short. -/
theorem exists_isLeast_isShort (budget : Nat) (cut : List (List Char)) :
    ∃ pairs, IsLeast {pairs | IsShort budget cut pairs} pairs := by
  have hnone : cut.drop (2 * cut.length) = [] := List.drop_eq_nil_of_le (by omega)
  have hshort : ∃ pairs, IsShort budget cut pairs := ⟨cut.length, .inr (by simp [hnone])⟩
  exact ⟨Nat.find hshort, Nat.find_spec hshort, fun pairs h => Nat.find_min' hshort h⟩

/-- More budget or more pairs: what is short stays short. -/
theorem IsShort.mono {larger pairs more : Nat} (h : IsShort budget cut pairs)
    (hbudget : budget ≤ larger) (hpairs : pairs ≤ more) : IsShort larger cut more := by
  have hdrop : (cut.drop (2 * pairs)).drop (2 * more - 2 * pairs) = cut.drop (2 * more) := by
    rw [List.drop_drop]
    congr 1
    omega
  have hcount := length_flatten_take_add_drop (cut.drop (2 * pairs)) (2 * more - 2 * pairs)
  rw [hdrop] at hcount
  rcases h with hfits | hfew
  · exact .inl (by omega)
  · refine .inr ?_
    rw [List.length_drop] at hfew ⊢
    omega

/-- A pair goes as long as the rest is not short. -/
theorem dropping_of_forall_not_isShort {pairs : Nat} (h : ∀ k < pairs, ¬ IsShort budget cut k) :
    Dropping budget cut (2 * pairs) (cut.drop (2 * pairs)).flatten.length := by
  induction pairs with
  | zero => exact .start
  | succ pairs ih =>
      have hlong := h pairs (Nat.lt_succ_self _)
      rw [IsShort, not_or, Nat.not_le, Nat.not_lt, List.length_drop] at hlong
      have hnext := (ih fun k hk => h k (Nat.lt_succ_of_lt hk)).pair hlong.1 hlong.2
      rwa [hnext.invariant.2] at hnext

/-- The dropping stops behind the least number of pairs at which the rest is short. -/
theorem dropOldest_of_isLeast {pairs : Nat}
    (h : IsLeast {pairs | IsShort budget cut pairs} pairs) :
    dropOldest budget cut.flatten.length cut = cut.drop (2 * pairs) := by
  have hreached := dropping_of_forall_not_isShort fun k hk hshort =>
    Nat.not_le_of_lt hk (h.2 hshort)
  rw [← hreached.dropOldest_eq, dropOldest_eq_ite, if_neg]
  rintro ⟨hlong, hmany⟩
  rcases h.1 with hfits | hfew
  · exact Nat.not_lt_of_le hfits hlong
  · exact Nat.not_lt_of_le hmany hfew

/-- Two lines stay, if there were two. -/
theorem two_mul_add_two_le {pairs : Nat}
    (h : IsLeast {pairs | IsShort budget cut pairs} pairs) (hcut : 2 ≤ cut.length) :
    2 * pairs + 2 ≤ cut.length := by
  cases pairs with
  | zero => exact hcut
  | succ pairs =>
      have hbefore : ¬ IsShort budget cut pairs := fun hshort =>
        Nat.not_succ_le_self _ (h.2 hshort)
      rw [IsShort, not_or, Nat.not_lt, List.length_drop] at hbefore
      omega

/-- A conversation is within both of two budgets if it is within the smaller one. -/
theorem isShort_min {first second pairs : Nat} :
    IsShort (min first second) cut pairs ↔
      IsShort first cut pairs ∧ IsShort second cut pairs := by
  rw [IsShort, IsShort, IsShort, Nat.le_min, and_or_right]

theorem isShort_drop {pairs more : Nat} :
    IsShort budget (cut.drop (2 * pairs)) more ↔ IsShort budget cut (pairs + more) := by
  rw [IsShort, IsShort, List.drop_drop, Nat.mul_add]

/-- What is left for one budget loses as many pairs more for another one as are too many for the
smaller one of the two: what is enough for both is enough for the first, and what it has beyond
that is enough for the second. -/
theorem isLeast_isShort_min {first second pairs more : Nat}
    (hfirst : IsLeast {pairs | IsShort first cut pairs} pairs)
    (hsecond : IsLeast {more | IsShort second (cut.drop (2 * pairs)) more} more) :
    IsLeast {pairs | IsShort (min first second) cut pairs} (pairs + more) := by
  constructor
  · have hstill : IsShort first cut (pairs + more) :=
      hfirst.1.mono (Nat.le_refl _) (Nat.le_add_right _ _)
    exact isShort_min.mpr ⟨hstill, isShort_drop.mp hsecond.1⟩
  · intro enough henough
    obtain ⟨hone, htwo⟩ := isShort_min.mp henough
    have hpairs : pairs ≤ enough := hfirst.2 hone
    have hmore : more ≤ enough - pairs := by
      apply hsecond.2
      rwa [Set.mem_ofPred_eq, isShort_drop, Nat.add_sub_cancel' hpairs]
    omega

end Lines

section Text

variable {content : String} {budget pairs : Nat}

theorem toList_trimToContext
    (h : IsLeast {pairs | IsShort budget (pieces content.toList) pairs} pairs) :
    (trimToContext content budget).toList =
      ((pieces content.toList).drop (2 * pairs)).flatten := by
  have hcut := dropOldest_of_isLeast h
  rw [flatten_pieces] at hcut
  rw [trimToContext, hcut, String.toList_ofList]

/-- The lines that are kept are lines of the conversation. -/
theorem pieces_trimToContext
    (h : IsLeast {pairs | IsShort budget (pieces content.toList) pairs} pairs) :
    pieces (trimToContext content budget).toList = (pieces content.toList).drop (2 * pairs) := by
  rw [toList_trimToContext h, pieces_flatten_drop]

/-- What a budget leaves of a conversation: the text behind the least number of pairs of lines at
which it is short. The dropping comes to just this place. -/
structure IsShortened (content : String) (budget pairs : Nat) (rest : String) : Prop where
  least : IsLeast {pairs | IsShort budget (pieces content.toList) pairs} pairs
  isRest : rest.toList = ((pieces content.toList).drop (2 * pairs)).flatten
  boundary : ∃ gone, IsWholeLines gone ∧ content.toList = gone ++ rest.toList
  enough : 2 ≤ (pieces content.toList).length → 2 ≤ (pieces rest.toList).length
  fits : 4 ≤ (pieces rest.toList).length → rest.length ≤ budget
  counted : Dropping budget (pieces content.toList) (2 * pairs) rest.length

theorem IsShortened.of_isLeast
    (h : IsLeast {pairs | IsShort budget (pieces content.toList) pairs} pairs) :
    IsShortened content budget pairs (trimToContext content budget) := by
  have hrest := toList_trimToContext h
  have hcut := pieces_trimToContext h
  constructor
  · exact h
  · exact hrest
  · refine ⟨((pieces content.toList).take (2 * pairs)).flatten, ?_, ?_⟩
    · rcases Nat.eq_zero_or_pos pairs with rfl | hpos
      · exact isWholeLines_nil
      · -- A pair that went left two lines behind it.
        have hmany : 2 ≤ (pieces content.toList).length := by
          by_contra hfew
          exact Nat.not_le_of_lt hpos (h.2 (.inr (by rw [List.length_drop]; omega)))
        have htwo := two_mul_add_two_le h hmany
        exact isWholeLines_flatten_take (by omega)
    · rw [hrest, ← List.flatten_append, List.take_append_drop, flatten_pieces]
  · intro hmany
    have htwo := two_mul_add_two_le h hmany
    rw [hcut, List.length_drop]
    omega
  · intro hmany
    rw [hcut] at hmany
    rw [← String.length_toList, hrest]
    exact h.1.resolve_right (Nat.not_lt_of_le hmany)
  · rw [← String.length_toList, hrest]
    exact dropping_of_forall_not_isShort fun k hk hshort => Nat.not_le_of_lt hk (h.2 hshort)

/-- Shortening takes away from the front. -/
theorem trimToContext_suffix (content : String) (budget : Nat) :
    (trimToContext content budget).toList <:+ content.toList := by
  obtain ⟨pairs, hpairs⟩ := exists_isLeast_isShort budget (pieces content.toList)
  obtain ⟨gone, -, hgone⟩ := (IsShortened.of_isLeast hpairs).boundary
  exact ⟨gone, hgone.symm⟩

/-- Of two budgets the smaller one decides. -/
theorem trimToContext_min (content : String) (first second : Nat) :
    trimToContext (trimToContext content first) second =
      trimToContext content (min first second) := by
  obtain ⟨pairs, hpairs⟩ := exists_isLeast_isShort first (pieces content.toList)
  obtain ⟨more, hmore⟩ := exists_isLeast_isShort second ((pieces content.toList).drop (2 * pairs))
  have hboth := isLeast_isShort_min hpairs hmore
  rw [← pieces_trimToContext hpairs] at hmore
  apply String.toList_inj.mp
  rw [toList_trimToContext hmore, pieces_trimToContext hpairs, toList_trimToContext hboth,
    List.drop_drop, Nat.mul_add]

/-- What is left of a conversation is the text behind the least number of pairs of lines at which
it is short; it begins with a line, it has two lines if the conversation has two, and if it has
four or more it fits. All the way there the count is the number of characters that are left, so
neither it nor the number of lines that are left is ever taken below nothing. -/
theorem exists_isShortened_trimToContext (content : String) (budget : Nat) :
    (∃ pairs, IsShortened content budget pairs (trimToContext content budget)) ∧
      ∀ gone total, Dropping budget (pieces content.toList) gone total →
        gone ≤ (pieces content.toList).length ∧
          total = ((pieces content.toList).drop gone).flatten.length ∧
          (((pieces content.toList).drop gone).take 2).flatten.length ≤ total ∧
          trimToContext content budget = String.ofList
            (dropOldest budget total ((pieces content.toList).drop gone)).flatten := by
  refine ⟨?_, fun gone total hreached => ?_⟩
  · obtain ⟨pairs, hpairs⟩ := exists_isLeast_isShort budget (pieces content.toList)
    exact ⟨pairs, .of_isLeast hpairs⟩
  · obtain ⟨hgone, htotal⟩ := hreached.invariant
    have hcount := length_flatten_take_add_drop ((pieces content.toList).drop gone) 2
    refine ⟨hgone, htotal, by omega, ?_⟩
    rw [hreached.dropOldest_eq, flatten_pieces, trimToContext]

theorem exists_isShortened_trimToContext_of_one_pair :
    let content := "User: aaaa\nAssistant: bbbb\nUser: cccc\nAssistant: dddd\nUser: eeee\n"
    ∃ total, Dropping 30 (pieces content.toList) 2 total ∧
      total = ((pieces content.toList).drop 2).flatten.length ∧
      trimToContext content 30 =
        String.ofList (dropOldest 30 total ((pieces content.toList).drop 2)).flatten := by
  intro content
  have hstart : Dropping 30 (pieces content.toList) 0 _ := .start
  have hreached := hstart.pair (by decide +kernel) (by decide +kernel)
  obtain ⟨-, hcounted⟩ := exists_isShortened_trimToContext content 30
  obtain ⟨-, htotal, -, hrest⟩ := hcounted 2 _ hreached
  exact ⟨_, hreached, htotal, hrest⟩

example :
    trimToContext "User: aaaa\nAssistant: bbbb\nUser: cccc\nAssistant: dddd\nUser: eeee\n" 30 =
      "User: cccc\nAssistant: dddd\nUser: eeee\n" := by
  decide +kernel

/-- Shortening twice is shortening once by the smaller budget, so it makes no difference in which
order it is done and whether it is repeated; and less budget leaves a suffix of what more leaves. -/
theorem trimToContext_trimToContext (content : String) (first second : Nat) :
    trimToContext (trimToContext content first) second =
        trimToContext content (min first second) ∧
      trimToContext (trimToContext content first) first = trimToContext content first ∧
      trimToContext (trimToContext content first) second =
        trimToContext (trimToContext content second) first ∧
      (first ≤ second →
        (trimToContext content first).toList <:+ (trimToContext content second).toList) := by
  refine ⟨trimToContext_min content first second, ?_, ?_, fun hle => ?_⟩
  · rw [trimToContext_min, Nat.min_self]
  · rw [trimToContext_min, trimToContext_min, Nat.min_comm]
  · have hagain := trimToContext_suffix (trimToContext content second) first
    rwa [trimToContext_min, Nat.min_eq_right hle] at hagain

theorem trimToContext_trimToContext_of_le :
    let content := "User: 1\nAssistant: 2\nUser: 3\nAssistant: 4\n"
    5 ≤ 50 ∧ trimToContext (trimToContext content 5) 50 = trimToContext content (min 5 50) ∧
      (trimToContext content 5).toList <:+ (trimToContext content 50).toList := by
  intro content
  obtain ⟨hmin, -, -, hsuffix⟩ := trimToContext_trimToContext content 5 50
  exact ⟨by decide, hmin, hsuffix (by decide)⟩

end Text

end FileChat.Conversation
