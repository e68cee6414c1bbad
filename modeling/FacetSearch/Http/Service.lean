import FacetSearch.Config.Basic
import FacetSearch.Http.Target
import FacetSearch.Json.Query
import FacetSearch.Sql

/-! The service: what it answers to each request. -/
namespace FacetSearch.Http
open Text

inductive ContentType
  | json
  | text
  deriving DecidableEq

def ContentType.name : ContentType → String
  | json => "application/json"
  | text => "text/plain; charset=utf-8"

structure Response where
  status : Nat
  contentType : Option ContentType := none
  /-- The methods that are allowed, where another one was used. -/
  allow : Option String := none
  body : String := ""
  deriving DecidableEq

/-- What is asked of a context. -/
inductive Endpoint
  | compile
  | sql
  deriving DecidableEq

/-- What a path leads to; the name of a context is still encoded. -/
inductive Route
  | contexts
  | context (name : List Char) (endpoint : Endpoint)
  deriving DecidableEq

/-- The route of a path. No slash is added or taken away. -/
def Route.ofPath? (path : List Char) : Option Route :=
  match path.splitOn '/' with
  | [[], ['a', 'p', 'i'], ['c', 'o', 'n', 't', 'e', 'x', 't', 's']] => some contexts
  | [[], ['a', 'p', 'i'], name, ['c', 'o', 'm', 'p', 'i', 'l', 'e']] => some (context name .compile)
  | [[], ['a', 'p', 'i'], name, ['s', 'q', 'l']] => some (context name .sql)
  | _ => none

namespace Response

def json (status : Nat) (v : Json) : Response :=
  { status, contentType := some .json, body := v.compact }

def text (status : Nat) (body : String) : Response :=
  { status, contentType := some .text, body }

/-- The answer to a request that has no query. -/
def ofError (e : RequestError) : Response :=
  let status := match e with
    | .unknownContext _ => 404
    | .compile _ => 422
  json status (.object [("error", .string (e.message fun name => "\"" ++ name ++ "\""))])

def invalidContext : Response := text 400 "Invalid URL: Invalid UTF-8 in `context`"

end Response

/-- The answer about one context, given its name and the parameters. -/
def answer (c : Config) (endpoint : Endpoint) (context : String) (pairs : List (String × String)) :
    Response :=
  match c.compile context pairs with
  | .error e => .ofError e
  | .ok q =>
    match endpoint with
    | .compile => .json 200 q.toJson
    | .sql => .text 200 (Sql.render (c.tableFor context) q)

/-- The answer to a request for something. -/
def get (c : Config) (t : Target) : Route → Response
  | .contexts => .json 200 (.strings c.contexts.names)
  | .context name endpoint =>
    match Utf8.strict? (percentDecode (utf8Bytes name)) with
    | none => .invalidContext
    | some context => answer c endpoint context (formPairs t.query)

/-- The characters of method names. -/
def isMethodChar (c : Char) : Bool :=
  c.isAlphanum ||
    c ∈ ['!', '#', '$', '%', '&', '\'', '*', '+', '-', '.', '^', '_', '\x60', '|', '~']

def isMethod (s : String) : Bool := s != "" && s.toList.all isMethodChar

/-- The answer to a request; a request for the head alone is answered without a body. -/
def respond (c : Config) (method : String) (t : Target) : Response :=
  match Route.ofPath? t.path with
  | none => { status := 404 }
  | some route =>
    if method = "GET" then get c t route
    else if method = "HEAD" then { get c t route with body := "" }
    else { status := 405, allow := some "GET,HEAD" }

end FacetSearch.Http
