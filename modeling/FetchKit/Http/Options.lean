import FetchKit.Address.Parse
import FetchKit.Http.Error
import FetchKit.Text.Blank

/-!
# Options of a client

Options are built from settings. Of the endpoint and of each timeout the last setting counts,
headers are added one after the other. Nothing is checked before `Draft.build`.
-/

namespace FetchKit.Http

open FetchKit.Address FetchKit.Text

structure Duration where
  seconds : Nat
  nanos : Nat := 0
  deriving Repr, DecidableEq, Inhabited

structure Options where
  endpoint : Url
  timeout : Duration
  connectTimeout : Duration
  readTimeout : Duration
  headers : List (String × String)
  deriving Repr, DecidableEq, Inhabited

/-- `http://localhost/` -/
def Options.localEndpoint : Url where
  scheme := "http".toList
  authority := some { host := .domain "localhost".toList }
  path := .segments [[]]

def Options.base : Options where
  endpoint := localEndpoint
  timeout := ⟨6, 0⟩
  connectTimeout := ⟨6, 0⟩
  readTimeout := ⟨6, 0⟩
  headers := [("User-Agent", "netreq/0.1.0")]

/-! ## Settings -/

inductive Setting where
  | endpoint (url : String)
  | timeout (d : Duration)
  | connectTimeout (d : Duration)
  | readTimeout (d : Duration)
  | header (name value : String)
  deriving Repr, DecidableEq, Inhabited

/-- The settings so far. -/
structure Draft where
  endpoint : Option String := none
  timeout : Option Duration := none
  connectTimeout : Option Duration := none
  readTimeout : Option Duration := none
  headers : List (String × String) := []
  deriving Repr, DecidableEq, Inhabited

namespace Draft

def set (d : Draft) : Setting → Draft
  | .endpoint url => { d with endpoint := some url }
  | .timeout t => { d with timeout := some t }
  | .connectTimeout t => { d with connectTimeout := some t }
  | .readTimeout t => { d with readTimeout := some t }
  | .header name value => { d with headers := d.headers ++ [(name, value)] }

def ofSettings (settings : List Setting) : Draft := settings.foldl set {}

/-- An endpoint that is given must not be blank. -/
def readEndpoint (s : String) : Except Error Url :=
  if allBlank s then .error (.badArgument "Endpoint cannot be empty")
  else (Url.parse s).mapError .badUrl

def build (d : Draft) : Except Error Options := do
  let endpoint ← match d.endpoint with
    | some s => readEndpoint s
    | none => pure Options.base.endpoint
  return {
    endpoint
    timeout := d.timeout.getD Options.base.timeout
    connectTimeout := d.connectTimeout.getD Options.base.connectTimeout
    readTimeout := d.readTimeout.getD Options.base.readTimeout
    headers := Options.base.headers ++ d.headers }

end Draft

end FetchKit.Http
