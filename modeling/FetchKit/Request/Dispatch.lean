import FetchKit.Request.Conformance
import FetchKit.Request.Expansion

/-!
# Calls from the compiler

A request is put on an item as an attribute, and conformance is derived. The other way round is
refused.
-/

namespace FetchKit.Request

open FetchKit.Source

inductive Call where
  /-- `#[network_request(attr)] item` -/
  | requestOn (attr item : List Tree)
  /-- `#[derive(Codable)] item` -/
  | deriveCodable (item : List Tree)
  | deriveRequest (item : List Tree)
  | codableOn (attr item : List Tree)
  deriving Repr, Inhabited

/-- What the compiler gets. An item with a request on it is kept whatever comes after it. -/
def Call.dispatch : Call → List Tree
  | requestOn attr item => item ++ appendix attr item
  | deriveCodable item =>
    match conform item with
    | .ok tokens => tokens
    | .error c => errorTokens [{ message := c.message }]
  | deriveRequest _ =>
    errorTokens [{ message := "Unsupported macro form for NetworkRequestExpander" }]
  | codableOn _ _ => errorTokens [{ message := "Unsupported macro form for CodableExpander" }]

end FetchKit.Request
