import FetchKit.Http.Fetch

/-!
# Without a network

A transport that reaches nobody. A request that cannot be written fails as it is made, any other as
it is sent.
-/

namespace FetchKit.Http

open FetchKit.Address FetchKit.Text

/-- Whether a text stands for readable text. -/
def isReadable (cs : List Char) : Bool := (Utf8.decode (percentDecode cs)).isSome

/-- A name and a password leave the address: they are sent in a header. -/
def withoutUserinfo (url : Url) : Url :=
  match url.authority with
  | some a =>
    let password := (a.password.map isReadable).getD false
    if isReadable a.username && (!a.username.isEmpty || password) then
      { url with authority := some { a with username := [], password := none } }
    else url
  | none => url

def isHttp (url : Url) : Bool := url.scheme = "http".toList || url.scheme = "https".toList

/-- How many bytes an address in a request may have. -/
def addressLimit : Nat := 65534

def hasPlainHost (url : Url) : Bool :=
  let marks : List Char := ['"', '`', '{', '}']
  !((url.host?.map Host.text).getD []).any marks.contains

/-- Whether a request can hold the address. -/
def isSendable (url : Url) : Bool :=
  isHttp url && hasPlainHost url && url.chars.length ≤ addressLimit

def offline : Transport := fun request =>
  let url := withoutUserinfo request.url
  .error (if isSendable url then .unanswered url else .unsendable url)

end FetchKit.Http
