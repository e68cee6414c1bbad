import FacetSearch.CommandLine.Options

/-! What a command line asks for. -/
namespace FacetSearch.CommandLine

/-- The options of a query. -/
structure QueryOptions where
  context : String
  filters : Option String := none
  facetFilters : Option String := none
  sortBy : Option String := none
  attributes : Option String := none
  strict : Bool := false

inductive Command
  | compile (options : QueryOptions)
  | sql (options : QueryOptions)
  | daemon (listen : Option String)

/-- A command and the directory of its configuration. -/
structure Invocation where
  directory : String
  command : Command

inductive Reading
  | invocation (i : Invocation)
  | help
  | version

/-- The directory of the configuration may be given before the command and behind it. -/
def configSwitch : Switch := { name := "config" }

def querySwitches : List Switch := [
  { name := "context", letter := some 'c' },
  { name := "filters", letter := some 'f', takesDashes := true },
  { name := "facet-filters", takesDashes := true },
  { name := "sort-by", letter := some 's' },
  { name := "attributes", letter := some 'a' },
  { name := "strict", hasValue := false },
  configSwitch, helpSwitch]

def daemonSwitches : List Switch := [{ name := "listen", letter := some 'l' }, configSwitch, helpSwitch]

/-- A query needs its context. -/
def QueryOptions.ofFound? (found : Found) : Option QueryOptions := do
  return {
    context := ← found.lookup "context"
    filters := found.lookup "filters"
    facetFilters := found.lookup "facet-filters"
    sortBy := found.lookup "sort-by"
    attributes := found.lookup "attributes"
    strict := (found.lookup "strict").isSome }

/-- Reads the options of a command to their end. -/
def Reading.ofOptions? (switches : List Switch) (outer : Found) (args : List String)
    (command? : Found → Option Command) : Option Reading := do
  let (found, stop) ← read? switches [] none args
  match stop with
  | .finished =>
    let directory := ((found.lookup "config").or (outer.lookup "config")).getD "."
    return .invocation ⟨directory, ← command? found⟩
  | .help => some .help
  | .version => some .version
  | .word .. => none

/-- Help may be asked for one command by its name. -/
def Reading.ofHelp? : List String → Option Reading
  | [] => some .help
  | [w] => if w ∈ ["compile", "sql", "daemon", "help"] then some .help else none
  | _ => none

/-- Reads a command line. -/
def Reading.ofArgs? (args : List String) : Option Reading := do
  let (found, stop) ← read? [configSwitch, helpSwitch, versionSwitch] [] none args
  match stop with
  | .finished => none
  | .help => some .help
  | .version => some .version
  | .word w rest =>
    let query (command : QueryOptions → Command) : Option Reading :=
      ofOptions? querySwitches found rest fun found => (QueryOptions.ofFound? found).map command
    if w = "compile" then query .compile
    else if w = "sql" then query .sql
    else if w = "daemon" then
      ofOptions? daemonSwitches found rest fun found => some (.daemon (found.lookup "listen"))
    else if w = "help" then ofHelp? rest
    else none

end FacetSearch.CommandLine
