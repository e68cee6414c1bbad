import FacetSearch.Text.Basic

/-! Reading options off a list of arguments. -/
namespace FacetSearch.CommandLine
open Text

/-- An option by its long name, `--name`, and perhaps a letter of its own. -/
structure Switch where
  name : String
  letter : Option Char := none
  hasValue : Bool := true
  /-- Whether a value of its own argument may start with a dash. -/
  takesDashes : Bool := false

/-- What ends the reading of options. -/
inductive Stop
  | finished
  /-- An argument that is no option, and those behind it. -/
  | word (w : String) (rest : List String)
  | help
  | version

/-- The options that end the reading. -/
def helpSwitch : Switch := { name := "help", letter := some 'h', hasValue := false }

def versionSwitch : Switch := { name := "version", letter := some 'V', hasValue := false }

/-- The options read so far, with their values. -/
abbrev Found := List (String × String)

/-- Takes an option in, which must not come twice. -/
def Found.add? (found : Found) (s : Switch) (value : String) : Option Found :=
  if (found.lookup s.name).isSome then none else some (found ++ [(s.name, value)])

/-- Where the reading stands after an option: at its end, or before the value that is missing. -/
inductive Progress
  | stopped (stop : Stop)
  | going (found : Found) (waiting : Option Switch)

/-- Takes in an option that has no value. -/
def Found.flag? (found : Found) (s : Switch) : Option Progress :=
  if s.name = "help" then some (.stopped .help)
  else if s.name = "version" then some (.stopped .version)
  else (found.add? s "").map (.going · none)

/-- Reads an option by its long name. -/
def long? (switches : List Switch) (found : Found) (name : String) (value : Option String) :
    Option Progress := do
  let s ← switches.find? (·.name == name)
  match value with
  | some v => if s.hasValue then return .going (← found.add? s v) none else none
  | none => if s.hasValue then return .going found (some s) else found.flag? s

/-- Reads options by their letters. What follows the letter of an option with a value is that value,
with or without an equals sign before it. -/
def letters? (switches : List Switch) : Found → List Char → Option Progress
  | found, [] => some (.going found none)
  | found, c :: cs => do
    let s ← switches.find? (·.letter == some c)
    if s.hasValue then
      match cs with
      | [] => return .going found (some s)
      | '=' :: value => return .going (← found.add? s (.ofList value)) none
      | value => return .going (← found.add? s (.ofList value)) none
    else
      match ← found.flag? s with
      | .going found _ => letters? switches found cs
      | stopped => return stopped

/-- Whether an argument is an option by its looks; a dash alone is none. -/
def isDashed (arg : String) : Bool :=
  match arg.toList with
  | '-' :: _ :: _ => true
  | _ => false

/-- Reads one argument that is an option by its looks. -/
def option? (switches : List Switch) (found : Found) (arg : List Char) : Option Progress :=
  match arg with
  | '-' :: '-' :: name =>
    match cutFirst? '=' name with
    | some (name, value) => long? switches found (.ofList name) (some (.ofList value))
    | none => long? switches found (.ofList name) none
  | _ => letters? switches found (arg.drop 1)

/-- Reads options up to the first argument that is none. Two dashes end the options too, and nothing
may follow them. -/
def read? (switches : List Switch) : Found → Option Switch → List String → Option (Found × Stop)
  | found, none, [] => some (found, .finished)
  | _, some _, [] => none
  | found, some s, arg :: args => do
    if isDashed arg && !s.takesDashes then none
    else read? switches (← found.add? s arg) none args
  | found, none, arg :: args =>
    if arg = "--" then if args.isEmpty then some (found, .finished) else none
    else if isDashed arg then do
      match ← option? switches found arg.toList with
      | .stopped stop => return (found, stop)
      | .going found waiting => read? switches found waiting args
    else some (found, .word arg args)

end FacetSearch.CommandLine
