import FetchKit.Http.Client

/-!
# Fetching

A transport answers requests. Whatever it does, a fetch sends at most one request, and a response
counts by its status.
-/

namespace FetchKit.Http

open FetchKit.Address

/-- What a client asks a transport for. -/
structure Request where
  url : Url
  headers : Headers
  deriving Repr, DecidableEq, Inhabited

/-- A response, at the address that gave it. -/
structure Response where
  url : Url
  status : Status
  body : List UInt8
  deriving Repr, DecidableEq

abbrev Transport := Request → Except TransportFailure Response

/-- The requests that were sent, and what came of them. -/
structure Exchange (α : Type) where
  sent : List Request
  result : Except Error α

namespace Client

/-- Sends one request. -/
def get (c : Client) (send : Transport) (url : String) : Exchange Response :=
  match c.resolve url with
  | .error e => { sent := [], result := .error e }
  | .ok url =>
    let request : Request := { url, headers := c.headers }
    { sent := [request], result := (send request).mapError .transport }

/-- The body of a success, and the address that gave it. -/
def success (r : Response) : Except Error (Url × List UInt8) :=
  if r.status.isSuccess then .ok (r.url, r.body) else .error (.ofStatus r.url r.status r.body)

def fetch (c : Client) (send : Transport) (url : String) : Exchange (Url × List UInt8) :=
  let exchange := c.get send url
  { exchange with result := exchange.result.bind success }

end Client

end FetchKit.Http
