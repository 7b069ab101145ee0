/-
# Options on a command line

A command line is read from left to right. An option has a value, which is attached to it
with an equals sign or is the next argument; a value of its own begins with a hyphen only
if it is one. The value of an option is judged when the argument after it is known not to
belong to it, so that a request for help that comes before the judgement wins. Variables
of the environment stand in for options that are not given.
-/
import FileChat.Config.Environment

namespace FileChat.CommandLine

/-- How a command line is turned away. -/
inductive Refusal
  /-- It is not understood. -/
  | usage
  /-- It asks for help. -/
  | help
  /-- It asks for the version. -/
  | version
  deriving Repr, DecidableEq

/-- An option with a value. -/
structure Flag where
  name : String
  /-- Which values it can have. -/
  accepts : String → Bool
  /-- The variable that stands in for it. -/
  key : Option String

/-- The options that can be given in one place. -/
structure Level where
  flags : List Flag
  /-- Whether the version can be asked for here. -/
  tellsVersion : Bool

/-- Options by name, with their values. -/
abbrev Given := List (String × String)

/-- What kind of argument a text is. -/
inductive Argument
  /-- Two hyphens: no options come after them. -/
  | separator
  | long (name : String) (attached : Option String)
  | short (letter : Char)
  | word
  deriving Repr, DecidableEq

namespace Argument

/-- The kind of an argument, seen from its text alone. -/
def ofString (text : String) : Argument :=
  match text.toList with
  | '-' :: '-' :: [] => .separator
  | '-' :: '-' :: body =>
    let name := String.ofList (body.takeWhile (· ≠ '='))
    match body.dropWhile (· ≠ '=') with
    | [] => .long name none
    | _ :: value => .long name (some (String.ofList value))
  | '-' :: letter :: _ => .short letter
  | _ => .word

end Argument

/-- How far the options of one level have been read. -/
structure Reading where
  given : Given
  /-- An option whose value was the next argument, and has not been judged yet. -/
  waiting : Option (Flag × String)

namespace Reading

/-- Nothing has been read. -/
def empty : Reading := ⟨[], none⟩

end Reading

/-- Note an option. None is given twice, and a value has to be acceptable. -/
def Flag.note (flag : Flag) (value : String) (given : Given) : Except Refusal Given :=
  if (given.lookup flag.name).isSome || !flag.accepts value then .error .usage
  else .ok ((flag.name, value) :: given)

/-- Judge the value that is waiting. -/
def Reading.settle (r : Reading) : Except Refusal Given :=
  match r.waiting with
  | none => .ok r.given
  | some (flag, value) => flag.note value r.given

/-- What is left when the options of a level have been read. -/
structure Rest where
  arguments : List String
  /-- The separator came before them, so they are nothing but words. -/
  separated : Bool
  deriving Repr, DecidableEq

namespace Level

/-- The refusal for a long argument that is no option of the level. -/
def refuseLong (level : Level) (name : String) (attached : Option String) : Refusal :=
  if attached.isSome then .usage
  else if name = "help" then .help
  else if name = "version" && level.tellsVersion then .version
  else .usage

/-- The refusal for a short argument, of which only the first letter counts. -/
def refuseShort (level : Level) (letter : Char) : Refusal :=
  if letter = 'h' then .help
  else if letter = 'V' && level.tellsVersion then .version
  else .usage

/-- Read options up to the first word or the separator. -/
def read (level : Level) (r : Reading) : List String → Except Refusal (Reading × Rest)
  | [] => .ok (r, ⟨[], false⟩)
  | argument :: later =>
    match Argument.ofString argument with
    | .separator => .ok (r, ⟨later, true⟩)
    | .word => .ok (r, ⟨argument :: later, false⟩)
    | .short letter => r.settle.bind fun _ => .error (level.refuseShort letter)
    | .long name attached =>
      match r.settle with
      | .error refusal => .error refusal
      | .ok given =>
        match level.flags.find? (·.name = name), attached, later with
        | none, _, _ => .error (level.refuseLong name attached)
        | some flag, some value, later =>
          match flag.note value given with
          | .error refusal => .error refusal
          | .ok given => read level ⟨given, none⟩ later
        | some _, none, [] => .error .usage
        | some flag, none, value :: later =>
          if Argument.ofString value = .word then read level ⟨given, some (flag, value)⟩ later
          else .error .usage

/-- What the environment says about an option that is not given. -/
def standIn (env : Environment) (given : Given) (flag : Flag) : Except Refusal Given :=
  match given.lookup flag.name, flag.key.bind env with
  | none, some value => flag.note value []
  | _, _ => .ok []

/-- What the environment says about all options of a level that are not given. -/
def standIns (level : Level) (env : Environment) (given : Given) : Except Refusal Given :=
  (level.flags.mapM (standIn env given)).map List.flatten

end Level

/-- A value that names a path. -/
def isPath (value : String) : Bool := !value.isEmpty

end FileChat.CommandLine
