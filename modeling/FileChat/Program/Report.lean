/-
# Reports

What a program leaves behind when it ends: an exit code and two texts. A failure is a chain
of messages from the outside in; in a line of its own it is joined with colons, and at the
end of a program it is written out with its causes below.
-/
import FileChat.CommandLine.Options
import FileChat.Text.Lines

namespace FileChat.Program

/-- How a program ended. -/
inductive Finish
  /-- The command line was turned away. -/
  | refused (refusal : CommandLine.Refusal)
  | exited (code : Nat) (stdout stderr : String)
  deriving Repr, DecidableEq

namespace Finish

/-- The exit code. Only a command line that is not understood is a mistake. -/
def code : Finish → Nat
  | .refused .usage => 2
  | .refused _ => 0
  | .exited code _ _ => code

end Finish

/-- A chain of messages in one line. -/
def inline (chain : List String) : String := ": ".intercalate chain

/-- A message behind a label, its later lines indented. -/
def indented (label indent message : String) : String :=
  let lines := (message.toList.splitOn '\n').map String.ofList
  label ++ ("\n" ++ indent).intercalate lines

/-- A number, right-aligned in five places. -/
def numberLabel (n : Nat) : String :=
  let digits := toString n
  String.ofList (List.replicate (5 - digits.length) ' ') ++ digits ++ ": "

/-- The causes below a message: a single one is indented, several are numbered. -/
def causes : List String → List String
  | [] => []
  | [cause] => [indented "    " "    " cause]
  | several => several.zipIdx.map fun numbered =>
      indented (numberLabel numbered.2) "       " numbered.1

/-- A failure as a program writes it at its end. -/
def closing (chain : List String) : String :=
  match chain with
  | [] => ""
  | [message] => "Error: " ++ message ++ "\n"
  | message :: later =>
    "Error: " ++ message ++ "\n\nCaused by:\n" ++ "\n".intercalate (causes later) ++ "\n"

/-- The end of a program that failed after it had written something. -/
def failed (stdout stderr : String) (chain : List String) : Finish :=
  .exited 1 stdout (stderr ++ closing chain)

/-- The exit code of a program that had to give up in the middle of its work. -/
def abortCode : Nat := 101

/-- The end of a program that asked for a moment that no clock shows. -/
def beyondClock (stdout stderr : String) : Finish :=
  .exited abortCode stdout (stderr ++ "overflow when adding duration to instant\n")

end FileChat.Program
