import FacetSearch.Config.Contexts
import FacetSearch.Query
import FacetSearch.Text.Quoted

/-! Configurations: the filtering contexts with their schemas, and how requests are read. -/
namespace FacetSearch

structure Config where
  parameters : ParameterNames := {}
  mode : Mode := .permissive
  /-- The address that the service listens on. -/
  listen : String := "0.0.0.0:8080"
  contexts : Contexts := .ofList [("vehicles", {
    filterable := .ofList ["year", "make", "model", "trim", "color", "price", "condition"] })]
  deriving DecidableEq

/-- What makes the contexts of a configuration invalid. -/
inductive InvalidConfig
  | emptyContextName
  | badAttributeName (context name : String)
  deriving DecidableEq

def InvalidConfig.message : InvalidConfig → String
  | emptyContextName => "context name must not be empty"
  | badAttributeName context name =>
    "context " ++ Text.quoted context ++ ": " ++ Text.quoted name ++ " is not a valid attribute name"

/-- Why a request to a context has no query. -/
inductive RequestError
  | unknownContext (name : String)
  | compile (e : CompileError)
  deriving DecidableEq

/-- A name as it stands, or, for terminals, quoted. -/
def RequestError.message (quote : String → String) : RequestError → String
  | unknownContext name => "unknown context " ++ quote name
  | compile e => e.message

namespace Config

def contextProblem? : String × Schema → Option InvalidConfig
  | (context, s) =>
    if context = "" then some .emptyContextName
    else (s.names.find? fun a => !isAttributeName a).map (.badAttributeName context)

/-- The first thing that is wrong with a configuration. -/
def problem? (c : Config) : Option InvalidConfig := c.contexts.entries.findSome? contextProblem?

def schema? (c : Config) (context : String) : Option Schema := c.contexts.find? context

/-- The table of a context: the one its schema names, or one of the context's own name. -/
def tableFor (c : Config) (context : String) : String :=
  ((c.schema? context).bind (·.table)).getD context

/-- The query of a request to a context, in the given mode. -/
def compileIn (c : Config) (mode : Mode) (context : String) (r : Request) :
    Except RequestError Query :=
  match c.schema? context with
  | none => .error (.unknownContext context)
  | some s => (Query.compile s.policy mode r).mapError .compile

/-- The query of named parameters, in the mode of the configuration. -/
def compile (c : Config) (context : String) (pairs : List (String × String)) :
    Except RequestError Query :=
  c.compileIn c.mode context (.ofPairs c.parameters pairs)

end Config
end FacetSearch
