/-
# JSON values

A value as it stands in a response. What is looked at is decoded; what is passed over need
only be well formed, so a string may hold a text that no sequence of characters is, and the
size of a number is not kept.
-/

namespace FileChat.Json

/-- A JSON value. A string that stands for no text is `text none`. -/
inductive Value
  | null
  | bool (b : Bool)
  | number
  | text (content : Option String)
  | array (items : List Value)
  | object (entries : List (Option String × Value))

namespace Value

/-- The entry of a record with a single known field: an object in which the field stands
at most once and every name is a text, or an array of at most one item. The answer is
`none` for what is no such record, and `some none` if the field is left out. -/
def field? (name : String) : Value → Option (Option Value)
  | .array [] => some none
  | .array [item] => some (some item)
  | .object entries =>
    if entries.all fun entry => entry.1.isSome then
      match entries.filter fun entry => entry.1 = some name with
      | [] => some none
      | [entry] => some (some entry.2)
      | _ => none
    else none
  | _ => none

end Value

end FileChat.Json
