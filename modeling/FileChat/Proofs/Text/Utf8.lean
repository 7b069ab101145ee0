/-
# Reading back what was written

A text that was encoded reads back as itself, also behind bytes that end with a complete
character. The reader is between two characters exactly where a text may be cut, so the
statements here are about a reader that has no character in progress.
-/

import Mathlib.Data.List.Induction
import FileChat.Proofs.Text.Lines
import FileChat.Text.Utf8

namespace FileChat.Utf8

namespace Reader

/-- A byte that may come next adds six bits to the character in progress. -/
theorem step_continuing (done : List (Option Char)) (p : Partial) {bits : Nat}
    (hbits : bits < 0x40) (hlow : p.low.toNat ≤ bits + 0x80) (hhigh : bits + 0x80 ≤ p.high.toNat) :
    step ⟨done, some p⟩ (UInt8.ofNat (bits + 0x80)) =
      if p.left ≤ 1 then ⟨some (Char.ofNat (p.code * 64 + bits)) :: done, none⟩
      else ⟨done, some ⟨p.code * 64 + bits, p.seen + 1, p.left - 1, 0x80, 0xBF⟩⟩ := by
  have hbyte : (UInt8.ofNat (bits + 0x80)).toNat = bits + 0x80 := by
    simp only [UInt8.toNat_ofNat']
    omega
  simp only [step, UInt8.le_iff_toNat_le, hbyte]
  rw [if_pos ⟨hlow, hhigh⟩, Nat.add_sub_cancel]

theorem start_one (done : List (Option Char)) {v : Nat} (hhigh : v ≤ 0x7f) :
    start done (UInt8.ofNat v) = ⟨some (Char.ofNat v) :: done, none⟩ := by
  have hbyte : (UInt8.ofNat v).toNat = v := by
    simp only [UInt8.toNat_ofNat']
    omega
  simp only [start, UInt8.lt_iff_toNat_lt, hbyte, UInt8.reduceToNat]
  rw [if_pos (by omega)]

theorem start_two (done : List (Option Char)) {top : Nat} (hlow : 2 ≤ top) (hhigh : top < 0x20) :
    start done (UInt8.ofNat (top + 0xc0)) = ⟨done, some ⟨top, 1, 1, 0x80, 0xBF⟩⟩ := by
  have hbyte : (UInt8.ofNat (top + 0xc0)).toNat = top + 0xc0 := by
    simp only [UInt8.toNat_ofNat']
    omega
  simp only [start, UInt8.lt_iff_toNat_lt, hbyte, UInt8.reduceToNat]
  rw [if_neg (by omega), if_neg (by omega), if_pos (by omega), Nat.add_sub_cancel]

theorem start_three (done : List (Option Char)) {top : Nat} (hhigh : top < 0x10) :
    start done (UInt8.ofNat (top + 0xe0)) =
      ⟨done, some
        ⟨top, 1, 2, if top = 0 then 0xA0 else 0x80, if top = 13 then 0x9F else 0xBF⟩⟩ := by
  have hbyte : (UInt8.ofNat (top + 0xe0)).toNat = top + 0xe0 := by
    simp only [UInt8.toNat_ofNat']
    omega
  simp only [start, UInt8.lt_iff_toNat_lt, ← UInt8.toNat_inj, hbyte, UInt8.reduceToNat]
  rw [if_neg (by omega), if_neg (by omega), if_neg (by omega), if_pos (by omega),
    Nat.add_sub_cancel]
  simp only [show (top + 0xe0 = 224) = (top = 0) by simp,
    show (top + 0xe0 = 237) = (top = 13) by simp]

theorem start_four (done : List (Option Char)) {top : Nat} (hhigh : top < 5) :
    start done (UInt8.ofNat (top + 0xf0)) =
      ⟨done, some ⟨top, 1, 3, if top = 0 then 0x90 else 0x80, if top = 4 then 0x8F else 0xBF⟩⟩ := by
  have hbyte : (UInt8.ofNat (top + 0xf0)).toNat = top + 0xf0 := by
    simp only [UInt8.toNat_ofNat']
    omega
  simp only [start, UInt8.lt_iff_toNat_lt, ← UInt8.toNat_inj, hbyte, UInt8.reduceToNat]
  rw [if_neg (by omega), if_neg (by omega), if_neg (by omega), if_neg (by omega),
    if_pos (by omega), Nat.add_sub_cancel]
  simp only [show (top + 0xf0 = 240) = (top = 0) by simp,
    show (top + 0xf0 = 244) = (top = 4) by simp]

/-- The bytes of one character are read as that character. -/
theorem foldl_step_char (done : List (Option Char)) (c : Char) :
    (String.utf8EncodeChar c).foldl step ⟨done, none⟩ = ⟨some c :: done, none⟩ := by
  have hvalid : c.toNat < 0xD800 ∨ 0xDFFF < c.toNat ∧ c.toNat < 0x110000 := c.valid
  have hchar : Char.ofNat c.toNat = c := Char.ofNat_toNat c
  have hval : c.val.toNat = c.toNat := rfl
  generalize c.toNat = v at hvalid hchar hval
  simp only [String.utf8EncodeChar, hval]
  split
  · rw [List.foldl_cons, List.foldl_nil]
    simp only [step]
    rw [start_one done (by omega), hchar]
  split
  · have hcode : (v / 64 % 32) * 64 + v % 64 = v := by omega
    simp only [List.foldl_cons, List.foldl_nil]
    rw [show step ⟨done, none⟩ (UInt8.ofNat (v / 64 % 32 + 192)) = _ from
      start_two done (by omega) (by omega)]
    rw [step_continuing _ _ (by omega) (by simp) (by simp; omega), if_pos (by simp), hcode, hchar]
  split
  · have hcode : (v / 4096 % 16 * 64 + v / 64 % 64) * 64 + v % 64 = v := by omega
    simp only [List.foldl_cons, List.foldl_nil]
    rw [show step ⟨done, none⟩ (UInt8.ofNat (v / 4096 % 16 + 224)) = _ from
      start_three done (by omega)]
    rw [step_continuing _ _ (by omega) (by dsimp only; split <;> simp; omega)
        (by dsimp only; split <;> simp <;> omega), if_neg (by simp),
      step_continuing _ _ (by omega) (by simp) (by simp; omega), if_pos (by simp)]
    dsimp only
    rw [hcode, hchar]
  · have hcode : ((v / 262144 % 8 * 64 + v / 4096 % 64) * 64 + v / 64 % 64) * 64 + v % 64 = v := by
      omega
    simp only [List.foldl_cons, List.foldl_nil]
    rw [show step ⟨done, none⟩ (UInt8.ofNat (v / 262144 % 8 + 240)) = _ from
      start_four done (by omega)]
    rw [step_continuing _ _ (by omega) (by dsimp only; split <;> simp; omega)
        (by dsimp only; split <;> simp <;> omega), if_neg (by simp),
      step_continuing _ _ (by omega) (by simp) (by simp; omega), if_neg (by simp),
      step_continuing _ _ (by omega) (by simp) (by simp; omega), if_pos (by simp)]
    dsimp only
    rw [hcode, hchar]

/-- A reader between two characters reads an encoded text as its characters. -/
theorem foldl_step_encode (done : List (Option Char)) (s : String) :
    (encode s).foldl step ⟨done, none⟩ = ⟨(s.toList.map some).reverse ++ done, none⟩ := by
  unfold encode
  generalize s.toList = text
  induction text generalizing done with
  | nil => rfl
  | cons c rest ih =>
      rw [List.flatMap_cons, List.foldl_append, foldl_step_char, ih]
      simp

/-- A line feed ends whatever was in progress. -/
theorem current_step_lineFeed (r : Reader)
    (hlow : ∀ p, r.current = some p → 0x80 ≤ p.low) : (step r 0x0A).current = none := by
  unfold step
  split
  · rfl
  · next p hp =>
      have hnot : ¬ p.low ≤ 0x0A := fun hle => by
        have := UInt8.le_trans (hlow p hp) hle
        exact absurd this (by decide)
      rw [if_neg fun h => hnot h.1]
      rfl

/-- No character goes on with a byte below 0x80. -/
theorem low_current_read (bytes : Bytes) :
    ∀ p, (read bytes).current = some p → 0x80 ≤ p.low := by
  have hstart (done : List (Option Char)) (b : UInt8) (p : Partial)
      (h : (start done b).current = some p) : 0x80 ≤ p.low := by
    unfold start at h
    repeat' split at h
    all_goals simp only [reduceCtorEq, Option.some.injEq] at h
    all_goals subst h
    all_goals dsimp only
    all_goals decide
  have hstep (r : Reader) (b : UInt8) (p : Partial) (h : (step r b).current = some p) :
      0x80 ≤ p.low := by
    unfold step at h
    split at h
    · exact hstart _ _ _ h
    · split at h
      · split at h
        · simp at h
        · simp only [Option.some.injEq] at h
          subst h
          exact UInt8.le_refl _
      · exact hstart _ _ _ h
  induction bytes using List.reverseRecOn with
  | nil => simp [read, empty]
  | append_singleton bytes b _ =>
      intro p hp
      rw [read, List.foldl_append] at hp
      exact hstep _ _ _ hp

/-- Bytes that end with a line feed end with a complete character. -/
theorem current_read_append_lineFeed (bytes : Bytes) :
    (read (bytes ++ [0x0A])).current = none := by
  rw [read, List.foldl_append]
  exact current_step_lineFeed _ (low_current_read bytes)

end Reader

@[simp]
theorem encode_append (s t : String) : encode (s ++ t) = encode s ++ encode t := by
  simp [encode]

@[simp]
theorem encode_empty : encode "" = [] := by simp [encode]

/-- Bytes are the encoding of a text exactly if they are read as its characters and
nothing else. -/
theorem decode_eq_some_iff {bytes : Bytes} {s : String} :
    decode bytes = some s ↔ Reader.read bytes = ⟨(s.toList.map some).reverse, none⟩ := by
  rw [decode]
  obtain ⟨done, current⟩ := Reader.read bytes
  constructor
  · intro h
    dsimp only at h
    split at h
    · next hgood =>
        obtain ⟨hnone, hwell⟩ := Bool.and_eq_true_iff.mp hgood
        obtain rfl : current = none := by simpa using hnone
        obtain rfl := Option.some.inj h
        have hback : (done.reverse.filterMap id).map some = done.reverse := by
          have hall : ∀ x ∈ done.reverse, x.isSome := by
            simpa [Reader.wellFormed] using hwell
          generalize done.reverse = read at hall
          induction read with
          | nil => rfl
          | cons x rest ih =>
              obtain ⟨c, rfl⟩ := Option.isSome_iff_exists.mp (hall x List.mem_cons_self)
              simpa using ih fun y hy => hall y (List.mem_cons_of_mem _ hy)
        rw [String.toList_ofList, hback, List.reverse_reverse]
    · simp at h
  · intro h
    obtain ⟨rfl, rfl⟩ := Reader.mk.inj h
    simp [Reader.wellFormed]

/-- What was encoded reads back as itself. -/
@[simp]
theorem decode_encode (s : String) : decode (encode s) = some s := by
  rw [decode_eq_some_iff, Reader.read, Reader.empty, Reader.foldl_step_encode, List.append_nil]

/-- Bytes that are characters by themselves are read one by one. -/
theorem Reader.foldl_step_ascii (done : List (Option Char)) {bytes : Bytes}
    (hascii : ∀ byte ∈ bytes, byte < 0x80) :
    bytes.foldl step ⟨done, none⟩ =
      ⟨(bytes.map fun byte => some (Char.ofNat byte.toNat)).reverse ++ done, none⟩ := by
  induction bytes generalizing done with
  | nil => rfl
  | cons byte later ih =>
      have hfirst : step ⟨done, none⟩ byte = ⟨some (Char.ofNat byte.toNat) :: done, none⟩ :=
        if_pos (hascii byte List.mem_cons_self)
      rw [List.foldl_cons, hfirst,
        ih _ fun other hother => hascii other (List.mem_cons_of_mem _ hother)]
      simp

/-- They make a text. -/
theorem exists_decode_of_ascii {bytes : Bytes} (hascii : ∀ byte ∈ bytes, byte < 0x80) :
    ∃ text, decode bytes = some text := by
  refine ⟨String.ofList (bytes.map fun byte => Char.ofNat byte.toNat), decode_eq_some_iff.mpr ?_⟩
  rw [Reader.read, Reader.empty, Reader.foldl_step_ascii _ hascii, String.toList_ofList,
    List.map_map, List.append_nil]
  rfl

/-- Only the empty text has no bytes. -/
theorem encode_ne_nil {s : String} (hs : s ≠ "") : encode s ≠ [] := by
  intro hnil
  have hback := decode_encode s
  rw [hnil, ← encode_empty, decode_encode] at hback
  exact hs (Option.some.inj hback).symm

/-- A text that was encoded is read as its characters. -/
theorem read_encode (s : String) :
    Reader.read (encode s) = ⟨(s.toList.map some).reverse, none⟩ :=
  decode_eq_some_iff.mp (decode_encode s)

/-- Nothing of a text that was encoded is waited for. -/
theorem unfinished_encode (s : String) : unfinished (encode s) = 0 := by
  rw [unfinished, read_encode]
  simp

/-- What was encoded makes sense everywhere. -/
theorem decodeLossy_encode (s : String) : decodeLossy (encode s) = s := by
  have hsense : (fun x : Option Char => x.getD '\uFFFD') ∘ some = id := rfl
  rw [decodeLossy, read_encode]
  simp [hsense]

/-- A text that is put behind bytes in which no character is in progress is read behind
what these say, and it makes no sense of bytes that have none. -/
theorem decode_append_encode {bytes : Bytes} (hcomplete : (Reader.read bytes).current = none)
    (s : String) : decode (bytes ++ encode s) = (decode bytes).map (· ++ s) := by
  have hread : Reader.read (bytes ++ encode s) =
      ⟨(s.toList.map some).reverse ++ (Reader.read bytes).done, none⟩ := by
    rw [← Reader.foldl_step_encode, Reader.read, List.foldl_append, ← Reader.read, ← hcomplete]
  cases hdecode : decode bytes with
  | some t =>
      rw [decode_eq_some_iff] at hdecode
      rw [Option.map_some, decode_eq_some_iff, hread, hdecode]
      simp
  | none =>
      have hill : (Reader.read bytes).wellFormed = false := by
        rw [decode, hcomplete] at hdecode
        simpa using hdecode
      rw [decode, hread]
      simp_all [Reader.wellFormed]

/-- Bytes that are empty or end with a line feed: as far as they are lines, they are whole
lines. -/
def IsWholeLines (bytes : Bytes) : Prop := bytes = [] ∨ bytes.getLast? = some 0x0A

theorem IsWholeLines.append {first second : Bytes} (hfirst : IsWholeLines first)
    (hsecond : IsWholeLines second) : IsWholeLines (first ++ second) := by
  rcases hsecond with rfl | hsecond
  · rwa [List.append_nil]
  · exact .inr (by rw [List.getLast?_append, hsecond, Option.some_or])

/-- The bytes of a text that ends with a line feed end with one. -/
theorem isWholeLines_encode_append_lineFeed (s : String) : IsWholeLines (encode (s ++ "\n")) := by
  rw [encode_append]
  exact .inr (by simp [encode]; decide)

/-- In whole lines no character is in progress. -/
theorem IsWholeLines.current_read {bytes : Bytes} (h : IsWholeLines bytes) :
    (Reader.read bytes).current = none := by
  rcases h with rfl | h
  · rfl
  · obtain ⟨before, rfl⟩ := List.getLast?_eq_some_iff.mp h
    exact Reader.current_read_append_lineFeed before

/-- Whatever a line feed follows, it is read as itself. -/
theorem Reader.done_step_lineFeed (r : Reader)
    (hlow : ∀ p, r.current = some p → 0x80 ≤ p.low) :
    (step r 0x0A).done.head? = some (some '\n') := by
  unfold step
  split
  · rfl
  · next p hp =>
      have hnot : ¬ p.low ≤ 0x0A := fun hle => by
        have := UInt8.le_trans (hlow p hp) hle
        exact absurd this (by decide)
      rw [if_neg fun h => hnot h.1]
      rfl

/-- The text of whole lines is whole lines. -/
theorem IsWholeLines.toList {bytes : Bytes} {text : String} (h : IsWholeLines bytes)
    (hdecode : decode bytes = some text) : Text.IsWholeLines text.toList := by
  rw [decode_eq_some_iff] at hdecode
  rcases h with rfl | h
  · have hnil : (text.toList.map some).reverse = [] := congrArg Reader.done hdecode.symm
    exact .inl (by simpa using hnil)
  · obtain ⟨before, rfl⟩ := List.getLast?_eq_some_iff.mp h
    have hhead : (Reader.read (before ++ [0x0A])).done.head? = some (some '\n') := by
      rw [Reader.read, List.foldl_append]
      exact Reader.done_step_lineFeed _ (Reader.low_current_read before)
    rw [hdecode, List.head?_reverse, List.getLast?_map] at hhead
    exact .inr (by simpa using hhead)

end FileChat.Utf8
