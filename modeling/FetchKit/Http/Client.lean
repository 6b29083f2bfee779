import FetchKit.Http.Header
import FetchKit.Http.Options

/-! # Clients -/

namespace FetchKit.Http

open FetchKit.Address

/-- Options, and the headers that every request carries. -/
structure Client where
  options : Options
  headers : Headers
  deriving Repr, DecidableEq, Inhabited

/-- The headers of a list. The first entry that is no header fails, by its name before its value; of
two entries with one name the later counts. -/
def readHeaders (list : List (String × String)) : Except Error Headers :=
  list.foldlM
    (fun headers (name, value) =>
      match headerName? name, headerValue? value with
      | none, _ => .error .badHeaderName
      | some _, none => .error .badHeaderValue
      | some name, some value => .ok (headers.insert name value))
    []

namespace Client

def new (options : Options) : Except Error Client := do
  return { options, headers := ← readHeaders options.headers }

def ofSettings (settings : List Setting) : Except Error Client := do
  new (← (Draft.ofSettings settings).build)

def withEndpoint (endpoint : String) : Except Error Client := ofSettings [.endpoint endpoint]

/-- A client whose requests carry no headers of its own. -/
def bare (endpoint : String) : Except Error Client := do
  return { options := ← (Draft.ofSettings [.endpoint endpoint]).build, headers := [] }

/-- The client that all share who bring none. -/
def shared : Except Error Client := new Options.base

def endpoint (c : Client) : Url := c.options.endpoint

/-- The address of a request: the text, relative to the endpoint. -/
def resolve (c : Client) (url : String) : Except Error Url := (c.endpoint.join url).mapError .badUrl

end Client

end FetchKit.Http
