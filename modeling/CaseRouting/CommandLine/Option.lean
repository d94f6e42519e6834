import CaseRouting.Text.Natural

/-!
# Options of a command line

A level of the command line has options and may have commands, which lead to a level of their own.
An option is written with its name or its letter, and its value follows as an argument of its own or
after an equals sign, or directly after a letter. A value that came as an argument of its own is
only looked at when the next option is met or the level ends; until then other faults are told
first.
-/

namespace CaseRouting.CommandLine

/-- Why a command line cannot be used; a wish for help is one of the reasons. -/
inductive UsageFault where
  | help
  | nothingGiven
  | missingCommand
  | unknownCommand
  | unknownArgument
  | missingArgument
  | missingValue
  | unfitValue
  | surplusValue
  | repeated
  deriving DecidableEq

/-- What a value must be like. -/
inductive Kind where
  | text
  | path
  | count
  deriving DecidableEq

/-- A path is not empty, and a count is less than 2^64. -/
def Kind.check : Kind → String → Except UsageFault Unit
  | .text, _ => .ok ()
  | .path, s => if s.isEmpty then .error .missingValue else .ok ()
  | .count, s =>
    match Text.natural? s.toList with
    | some n => if n < Nat.pow 2 64 then .ok () else .error .unfitValue
    | none => .error .unfitValue

/-- What follows an option: nothing, one value, or values with commas between them. After a wish for
help nothing matters. -/
inductive Takes where
  | nothing
  | help
  | value (kind : Kind)
  | values
  deriving DecidableEq

structure OptionSpec where
  name : String
  letter : Option Char
  takes : Takes
  deriving DecidableEq

structure Level where
  options : List OptionSpec
  commands : List String
  deriving DecidableEq

/-- The values of the options that were given, and an option whose value is still to be looked at or
is still to come. -/
structure Progress where
  given : List (String × List String)
  pending : Option (OptionSpec × Option String)
  deriving DecidableEq

namespace Progress

def start : Progress := ⟨[], none⟩

def values? (p : Progress) (name : String) : Option (List String) :=
  (p.given.find? (·.1 == name)).map (·.2)

def value? (p : Progress) (name : String) : Option String :=
  (p.values? name).bind List.head?

def has (p : Progress) (name : String) : Bool := (p.values? name).isSome

/-- The option for whose value the next argument is taken. -/
def awaiting (p : Progress) : Option OptionSpec :=
  match p.pending with
  | some (o, none) => some o
  | _ => none

/-- Adds values to those of an option. -/
def add (p : Progress) (name : String) (values : List String) : Progress :=
  { p with given :=
      p.given.filter (·.1 != name) ++ [(name, ((p.values? name).getD []) ++ values)] }

/-- Notes an option that takes no value. -/
def mark (p : Progress) (o : OptionSpec) : Except UsageFault Progress :=
  if p.has o.name then .error .repeated else .ok (p.add o.name [])

/-- Notes an option with its value. -/
def record (p : Progress) (o : OptionSpec) (value : String) : Except UsageFault Progress :=
  match o.takes with
  | .values => .ok (p.add o.name (value.splitOn ","))
  | .value kind =>
    if p.has o.name then .error .repeated
    else (kind.check value).map fun _ => p.add o.name [value]
  | _ => .error .surplusValue

/-- Looks at the value that is still to be looked at. -/
def settle (p : Progress) : Except UsageFault Progress :=
  match p.pending with
  | none => .ok p
  | some (_, none) => .error .missingValue
  | some (o, some value) => { p with pending := none }.record o value

end Progress

namespace Level

/-- An option by its name, with the value after an equals sign. -/
def readName (level : Level) (p : Progress) (body : List Char) : Except UsageFault Progress :=
  let name := body.takeWhile (· ≠ '=')
  match level.options.find? (·.name.toList == name), body.drop name.length with
  | none, _ => .error .unknownArgument
  | some o, rest =>
    match o.takes, rest with
    | .nothing, [] => do (← p.settle).mark o
    | .help, [] => do
      let _ ← p.settle
      throw .help
    | .nothing, _ => .error .surplusValue
    | .help, _ => .error .surplusValue
    | _, [] => do
      let p ← p.settle
      pure { p with pending := some (o, none) }
    | _, _ :: value => do (← p.settle).record o (.ofList value)

/-- Options by their letters. What follows the letter of an option with a value is the value. -/
def readLetters (level : Level) (p : Progress) : List Char → Except UsageFault Progress
  | [] => .ok p
  | c :: rest =>
    match level.options.find? (·.letter == some c) with
    | none => .error .unknownArgument
    | some o =>
      match o.takes with
      | .nothing => do
        let p ← p.settle
        level.readLetters (← p.mark o) rest
      | .help => do
        let _ ← p.settle
        throw .help
      | _ => do
        let p ← p.settle
        match rest with
        | [] => pure { p with pending := some (o, none) }
        | '=' :: value => p.record o (.ofList value)
        | value => p.record o (.ofList value)

/-- The fault of an argument that is neither option nor value. -/
def stray (level : Level) : UsageFault :=
  if level.commands.isEmpty then .unknownArgument else .unknownCommand

/-- Reads arguments up to the first command, which is told with the arguments after it. -/
def read (level : Level) (p : Progress) :
    List String → Except UsageFault (Progress × Option (String × List String))
  | [] => .ok (p, none)
  | arg :: rest =>
    if p.awaiting.isNone && level.commands.contains arg then .ok (p, some (arg, rest))
    else match arg.toList with
      | ['-', '-'] =>
        match rest with
        | [] => .ok (p, none)
        | next :: _ =>
          .error (if level.commands.contains next then .unknownArgument else level.stray)
      | '-' :: '-' :: body => do level.read (← level.readName p body) rest
      | '-' :: c :: letters => do level.read (← level.readLetters p (c :: letters)) rest
      | _ =>
        match p.awaiting with
        | some o => level.read { p with pending := some (o, some arg) } rest
        | none => .error level.stray

end Level

end CaseRouting.CommandLine
