import FetchKit.Address.Host

/-! # Addresses -/

namespace FetchKit.Address

/-! ## Schemes -/

/-- What is known of a scheme. A special scheme has hosts, ports and a path of segments. -/
inductive SchemeKind where
  | file
  | special (defaultPort : Nat)
  | other
  deriving Repr, DecidableEq, Inhabited

def SchemeKind.ofText (scheme : List Char) : SchemeKind :=
  match String.ofList scheme with
  | "http" | "ws" => .special 80
  | "https" | "wss" => .special 443
  | "ftp" => .special 21
  | "file" => .file
  | _ => .other

def SchemeKind.isSpecial : SchemeKind → Bool
  | other => false
  | _ => true

def SchemeKind.defaultPort : SchemeKind → Option Nat
  | special p => some p
  | _ => none

/-! ## Parts -/

structure Authority where
  username : List Char := []
  password : Option (List Char) := none
  host : Host
  port : Option Nat := none
  deriving Repr, DecidableEq, Inhabited

inductive UrlPath where
  /-- One text without parts. Nothing is relative to it. -/
  | whole (text : List Char)
  | segments (list : List (List Char))
  deriving Repr, DecidableEq, Inhabited

structure Url where
  scheme : List Char
  authority : Option Authority := none
  path : UrlPath
  query : Option (List Char) := none
  fragment : Option (List Char) := none
  deriving Repr, DecidableEq, Inhabited

namespace Url

def kind (u : Url) : SchemeKind := .ofText u.scheme

def isWhole (u : Url) : Bool :=
  match u.path with
  | .whole _ => true
  | .segments _ => false

def segments (u : Url) : List (List Char) :=
  match u.path with
  | .whole _ => []
  | .segments list => list

def host? (u : Url) : Option Host := u.authority.map (·.host)

/-- The port to connect to. -/
def effectivePort (u : Url) : Option Nat :=
  match u.authority with
  | some { port := some p, .. } => some p
  | _ => u.kind.defaultPort

end Url

/-! ## Text -/

def Authority.text (a : Authority) : List Char :=
  let password := match a.password with
    | some p => ':' :: p
    | none => []
  let userinfo := a.username ++ password
  let port := match a.port with
    | some p => ':' :: decimal p
    | none => []
  ['/', '/'] ++ (if userinfo.isEmpty then [] else userinfo ++ ['@']) ++ a.host.text ++ port

def segmentsText (segments : List (List Char)) : List Char := segments.flatMap ('/' :: ·)

/-- A path that starts with an empty segment would read as a host where there is none. -/
def pathText (hasAuthority : Bool) : UrlPath → List Char
  | .whole text => text
  | .segments ([] :: s :: more) =>
    (if hasAuthority then [] else ['/', '.']) ++ segmentsText ([] :: s :: more)
  | .segments list => segmentsText list

/-- With `mark` in front, where there is something. -/
def marked (mark : Char) : Option (List Char) → List Char
  | some cs => mark :: cs
  | none => []

def Url.chars (u : Url) : List Char :=
  u.scheme ++ ':' :: (u.authority.map Authority.text).getD [] ++
    pathText u.authority.isSome u.path ++ marked '?' u.query ++ marked '#' u.fragment

def Url.text (u : Url) : String := String.ofList u.chars

end FetchKit.Address
