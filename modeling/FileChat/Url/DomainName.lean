/-
# Domain names

A domain name is written in any script and sent in ASCII. Its characters are first replaced
by those that stand for them in a name, then each label between dots is checked, and one
that is not ASCII is sent in its encoded form. A label may also be written in that form; it
is checked just as if it had been written out.
-/
import FileChat.Text.Composition
import FileChat.Text.Direction
import FileChat.Text.Joining
import FileChat.Url.NameMap
import FileChat.Url.Punycode

namespace FileChat.Url.DomainName

/-- What an encoded label begins with. -/
def encodedMark : List Char := "xn--".toList

/-- The longest label that is encoded. -/
def maxLabel : Nat := 1000

/-- The longest encoded label that is read, without its mark. -/
def maxEncoded : Nat := 2000

/-- A label as it is sent and as it is read. -/
structure Label where
  ascii : List Char
  text : List Char
  deriving Repr, DecidableEq

/-- Whether a text is all ASCII. -/
def isAscii (text : List Char) : Bool := text.all fun c => c.toNat < 0x80

/-- A text with each character replaced by what stands for it in a name, if all of them can
be written there. -/
def mapped? (text : List Char) : Option (List Char) :=
  (text.mapM NameMap.image?).map fun parts => Text.composed parts.flatten

/-- Whether a label is one that replacing characters would not change, does not begin with a
mark, and has characters that are not seen only where they are needed. -/
def isProper (text : List Char) : Bool :=
  text.all NameMap.isFixed && Text.composed text = text &&
    !(text.head?.map Text.isMark).getD false && Text.joinersChangeForm [] text

/-- The label that a word is, if it is one. An encoded label that could have been written in
ASCII is none. -/
def label? (word : List Char) : Option Label :=
  match encodedMark.isPrefixOf? word with
  | some encoded =>
    if maxEncoded < encoded.length || encoded.getLast? = some '-' || !isAscii word then none
    else
      match Punycode.decode? encoded with
      | some text =>
        if !isAscii text && isProper text && text.length ≤ maxLabel then some ⟨word, text⟩
        else none
      | none => none
  | none =>
    if isAscii word then some ⟨word, word⟩
    else if isProper word && word.length ≤ maxLabel then
      some ⟨encodedMark ++ Punycode.encode word, word⟩
    else none

/-- Whether labels hold together if one of them goes from right to left. -/
def holdTogether (labels : List Label) : Bool :=
  !(labels.any fun label => Text.goesRightToLeft label.text) ||
    labels.all fun label => Text.holdsTogether label.text

/-- Characters that no name has. -/
def isForbidden (c : Char) : Bool :=
  c.toNat ≤ 0x20 || 0x7F ≤ c.toNat || "#%/:<>?@[\\]^|".toList.contains c

/-- A name as it is sent, if it can be. -/
def toAscii? (text : List Char) : Option (List Char) := do
  let labels ← ((← mapped? text).splitOn '.').mapM label?
  let name := List.intercalate ['.'] (labels.map Label.ascii)
  if holdTogether labels && !name.any isForbidden then return name else none

/-- A name that is sent has no forbidden characters. -/
theorem not_isForbidden_of_toAscii? {text name : List Char} (h : toAscii? text = some name) :
    ∀ c ∈ name, isForbidden c = false := by
  simp only [toAscii?, Option.bind_eq_bind, Option.bind_eq_some_iff] at h
  obtain ⟨_, _, labels, _, h⟩ := h
  split at h
  · simp only [Option.pure_def, Option.some.injEq] at h
    simp_all
  · simp at h

end FileChat.Url.DomainName
