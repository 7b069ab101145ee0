/-
# JSON that is sent

The bodies of requests. Where a number stands that is no finite number, null is sent.
-/
import FileChat.Number.Binary

namespace FileChat.Json

/-- A value to be sent. -/
inductive Outgoing
  | null
  | bool (b : Bool)
  | natural (n : Nat)
  | real (x : Number.Binary32)
  | text (s : String)
  | array (items : List Outgoing)
  | object (entries : List (String × Outgoing))

namespace Outgoing

/-- A single-precision number, or null in place of one that is not finite. -/
def ofReal (x : Number.Binary32) : Outgoing := if x.isFinite then .real x else .null

/-- Several texts. -/
def ofTexts (texts : List String) : Outgoing := .array (texts.map .text)

end Outgoing

end FileChat.Json
