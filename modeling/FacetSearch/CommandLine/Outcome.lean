import FacetSearch.CommandLine.Invocation
import FacetSearch.Config.Storage
import FacetSearch.Json.Query
import FacetSearch.Sql

/-! What comes of a command line: what it prints, what it leaves on disk, and what it goes on to do. -/
namespace FacetSearch.CommandLine
open Text

inductive Outcome
  | printed (text : String)
  /-- The command failed with a message. -/
  | failed (message : String)
  /-- The command line makes no sense. -/
  | misused
  /-- The service is to listen on an address. -/
  | serving (c : Config) (address : String)

def Outcome.exitCode : Outcome → UInt32
  | printed _ => 0
  | failed _ => 1
  | misused => 2
  | serving .. => 1

def versionText : String := "facetql 0.1.0\n"

def usage : String :=
  "usage: facetql [--config DIR] compile|sql -c CONTEXT [-f FILTERS] [--facet-filters FACETS]\n" ++
    "           [-s SORT] [-a ATTRIBUTES] [--strict]\n" ++
    "       facetql [--config DIR] daemon [-l ADDRESS]\n"

/-- The request that query options make. -/
def QueryOptions.request (o : QueryOptions) : Request where
  filters := o.filters
  facetFilters := o.facetFilters
  sortBy := o.sortBy
  attributesToRetrieve := (o.attributes.map commaParts).getD []

/-- The query that options ask for; they can make the mode strict. -/
def QueryOptions.compile (c : Config) (o : QueryOptions) : Except RequestError Query :=
  c.compileIn (if o.strict then .strict else c.mode) o.context o.request

/-- Prints a query, or says why there is none. -/
def printQuery (c : Config) (o : QueryOptions) (text : Query → String) : Outcome :=
  match o.compile c with
  | .ok q => .printed (text q ++ "\n")
  | .error e => .failed (e.message quoted)

/-- The four parts of a numeric address, which have no leading zeros. -/
def numericHost? (host : List Char) : Option (List Nat) := do
  let parts := host.splitOn '.'
  let isPart (part : List Char) : Bool :=
    part ≠ [] && part.all Char.isDigit && (part.head? != some '0' || part.length = 1) &&
      Decimal.ofDigits part < 256
  if parts.length = 4 && parts.all isPart then some (parts.map Decimal.ofDigits) else none

/-- Whether a numeric address can be one of this machine: that of all its networks, one of the
machine itself, or one of many machines. -/
def isOwn (parts : List Nat) : Bool :=
  parts = [0, 0, 0, 0] || parts.head?.any fun n => n = 127 || (224 ≤ n && n < 240) ||
    parts = [255, 255, 255, 255]

/-- What is wrong with an address of a host and a port. -/
def addressProblem? (address : String) : Option String :=
  match cutLast? ':' address.toList with
  | none => some "invalid socket address"
  | some (host, port) =>
    let digits := if port.head? = some '+' then port.drop 1 else port
    if digits = [] ∨ !digits.all Char.isDigit ∨ 65536 ≤ Decimal.ofDigits digits then
      some "invalid port value"
    else if '\x00' ∈ host then some DiskError.nul.message
    else if (numericHost? host).any (!isOwn ·) then
      some "Cannot assign requested address (os error 99)"
    else none

/-- Runs a command with the configuration it was given. -/
def Command.run (c : Config) : Command → Outcome
  | compile o => printQuery c o fun q => q.toJson.pretty
  | sql o => printQuery c o fun q => Sql.render (c.tableFor o.context) q
  | daemon listen =>
    let address := listen.getD c.listen
    match addressProblem? address with
    | some problem => .failed problem
    | none => .serving c address

/-- Runs a command line. -/
def run (args : List String) (d : Disk) : Disk × Outcome :=
  match Reading.ofArgs? args with
  | none => (d, .misused)
  | some .help => (d, .printed usage)
  | some .version => (d, .printed versionText)
  | some (.invocation i) =>
    let (d, loaded) := Config.load Yaml.format i.directory d
    match loaded with
    | .error e => (d, .failed e.message)
    | .ok c => (d, i.command.run c)

end FacetSearch.CommandLine
