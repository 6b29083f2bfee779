import FetchKit.Address.Url
import FetchKit.Http.Status
import FetchKit.Text.Snippet
import FetchKit.Wire.Flaw

/-! # What can go wrong with a request -/

namespace FetchKit.Http

open FetchKit.Address FetchKit.Text FetchKit.Wire

/-- Why no response came. -/
inductive TransportFailure where
  /-- The request cannot be made. -/
  | unsendable (url : Url)
  | unanswered (url : Url)
  | cutBody
  | redirects (url : Url)
  deriving Repr, DecidableEq, Inhabited

def TransportFailure.message : TransportFailure → String
  | unsendable url => "builder error for url (" ++ url.text ++ ")"
  | unanswered url => "error sending request for url (" ++ url.text ++ ")"
  | cutBody => "error decoding response body"
  | redirects url => "error following redirect for url (" ++ url.text ++ ")"

inductive Error where
  | transport (cause : TransportFailure)
  /-- The status of the response is no success. -/
  | http (url : String) (status : Status) (snippet : String)
  | invalidData (url : String) (source : Misread) (snippet : String)
  | badUrl (cause : Failure)
  | badHeaderName
  | badHeaderValue
  | badArgument (text : String)
  deriving Repr

def Error.message : Error → String
  | transport cause => cause.message
  | http url status snippet =>
    "HTTP error: " ++ status.text ++ " for URL: " ++ url ++ "\nResponse body (truncated): " ++ snippet
  | invalidData url source snippet =>
    "Invalid data from URL: " ++ url ++ "\nSource error: " ++ source.message ++
      "\nResponse body (truncated): " ++ snippet
  | badUrl cause => "Invalid URL: " ++ cause.message
  | badHeaderName => "Invalid header: invalid HTTP header name"
  | badHeaderValue => "Invalid header value: failed to parse header value"
  | badArgument text => "Invalid argument: " ++ text

/-- The response at this address is no success. -/
def Error.ofStatus (url : Url) (status : Status) (body : List UInt8) : Error :=
  .http url.text status (String.ofList (bodySnippet body))

/-- The body from this address is not of the type that was asked for. -/
def Error.ofMisread (url : Url) (source : Misread) (body : List UInt8) : Error :=
  .invalidData url.text source (String.ofList (bodySnippet body))

end FetchKit.Http
