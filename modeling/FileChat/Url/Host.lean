/-
# Hosts

The host of an address is a domain name or a number. Under a scheme that does not call for
a host it is any text that would not be taken for another part of the address.
-/
import FileChat.Url.DomainName
import FileChat.Url.NumericHost
import FileChat.Url.Percent

namespace FileChat.Url.Host

/-- A host in brackets. -/
def bracketed? (word : List Char) : Option String :=
  if word.getLast? = some ']' then
    (NumericHost.groups? ((word.drop 1).dropLast)).map NumericHost.bracketed
  else none

/-- A host that is reached over a network. -/
def reached? (word : List Char) : Option String := do
  if word.head? = some '[' then bracketed? word
  else
    let name ← DomainName.toAscii? (← Percent.decodeText? word)
    if name.isEmpty then none
    else if NumericHost.looksNumeric name then
      (NumericHost.number? name).map NumericHost.dotted
    else return String.ofList name

/-- Characters that are not in a host which is any text. -/
def isForbidden (c : Char) : Bool :=
  c.toNat = 0 || "\t\n\r #/:<>?@[\\]^|".toList.contains c

/-- A host that is any text. -/
def any? (word : List Char) : Option String :=
  if word.head? = some '[' then bracketed? word
  else if word.any isForbidden then none
  else some (String.ofList (Percent.encode Percent.nothing word))

end FileChat.Url.Host
