/-
# Quoted text

A value that a message reports is put between quotation marks, with everything escaped
that a reader could not see or could take for the end of the quotation.
-/
import FileChat.Text.Visible

namespace FileChat.Text

/-- One character inside a quotation: a backslash form for the quotation mark, the
backslash and the common control codes, the character itself if it is visible, and its
code point in hexadecimal otherwise. -/
def quotedChar (c : Char) : List Char :=
  if c = '\x00' then ['\\', '0']
  else if c = '\t' then ['\\', 't']
  else if c = '\n' then ['\\', 'n']
  else if c = '\r' then ['\\', 'r']
  else if c = '"' then ['\\', '"']
  else if c = '\\' then ['\\', '\\']
  else if isVisible c then [c]
  else ['\\', 'u', '\x7b'] ++ Nat.toDigits 16 c.toNat ++ ['\x7d']

/-- A text between quotation marks. -/
def quoted (s : String) : String :=
  String.ofList (['"'] ++ s.toList.flatMap quotedChar ++ ['"'])

end FileChat.Text
