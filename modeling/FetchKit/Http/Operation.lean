import FetchKit.Http.Fetch
import FetchKit.Wire.Payload

/-!
# Operations

An operation fetches an address and reads what comes as a value of a type.
-/

namespace FetchKit.Http

open FetchKit.Address FetchKit.Wire

structure Operation (α : Type) where
  url : String
  read : Read α

/-- The value that a body stands for. -/
def decodeBody {α : Type} (r : Read α) (url : Url) (body : List UInt8) : Except Error α :=
  (decode r body).mapError (.ofMisread url · body)

def Operation.run {α : Type} (op : Operation α) (c : Client) (send : Transport) : Exchange α :=
  let exchange := c.fetch send op.url
  { exchange with result := exchange.result.bind fun (url, body) => decodeBody op.read url body }

def getResponse : Operation NetworkResponse where
  url := "https://api/get"
  read := record NetworkResponse.layout

def fetchUser : Operation User where
  url := "/users/1"
  read := record User.layout

end FetchKit.Http
