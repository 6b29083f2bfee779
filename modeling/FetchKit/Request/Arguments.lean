import FetchKit.Grammar.Rule
import FetchKit.Request.Notice
import FetchKit.Source.Scan

/-!
# The arguments of a request

Arguments are entries `url = "…"` and `name = "…"` with commas between them. The last entry of a
key counts, and the first bad entry is the one that is reported.
-/

namespace FetchKit.Request

open FetchKit.Source FetchKit.Grammar

structure Arguments where
  /-- The address to fetch, maybe relative to the endpoint of the client. -/
  url : String := "https://api/get"
  /-- The name of the generated function. -/
  name : Ident := { name := "get_request" }
  deriving Repr, DecidableEq, Inhabited

/-! ## What can be wrong -/

inductive Mistake where
  | endsBeforeKey
  | literalKey
  | strangeKey
  /-- No identifier after `::`. -/
  | cutKey (atEnd : Bool)
  | qualifiedKey
  | unknownKey (key : String)
  | noEquals
  | notText (atEnd : Bool)
  | notName (value : String)
  | noComma
  deriving Repr, DecidableEq, Inhabited

def Mistake.message : Mistake → String
  | endsBeforeKey => "unexpected end of input, expected nested attribute"
  | literalKey => "unexpected literal in nested attribute, expected ident"
  | strangeKey => "unexpected token in nested attribute, expected ident"
  | cutKey atEnd => Complaint.notice atEnd "expected ident"
  | qualifiedKey => "Expected identifier"
  | unknownKey key =>
    "unsupported network_request argument `" ++ key ++ "`, expected `url` or `name`"
  | noEquals => "expected `=`"
  | notText atEnd => Complaint.notice atEnd "expected string literal"
  | notName value => "`" ++ value ++ "` is not a valid function name"
  | noComma => "expected `,`"

/-- A mistake and its place. -/
structure Fault where
  mistake : Mistake
  span : Span
  deriving Repr, DecidableEq, Inhabited

def Fault.notice (f : Fault) : Notice := ⟨f.mistake.message, f.span⟩

/-- Where a mistake at the front of these trees is: at the first tree, or nowhere at their end. -/
def frontSpan : List Tree → Span
  | [] => .callSite
  | t :: _ => t.head

/-! ## Keys -/

/-- A key as it stands: the identifiers between `::`, and whether `::` comes first. -/
structure Key where
  leading : Bool
  first : Ident
  more : List Ident
  deriving Repr, DecidableEq, Inhabited

/-- From the first identifier to the last. -/
def Key.span (k : Key) : Span :=
  match k.more.getLast? with
  | some i => k.first.span.join i.span
  | none => k.first.span.join k.first.span

/-- The identifiers that follow the first, each after `::`. -/
def readMore : List Tree → Except Fault (List Ident × List Tree)
  | .punct ':' true _ :: .punct ':' _ _ :: rest =>
    match rest with
    | .ident i :: ts =>
      match readMore ts with
      | .ok (is, left) => .ok (i :: is, left)
      | .error f => .error f
    | rest => .error ⟨.cutKey rest.isEmpty, frontSpan rest⟩
  | ts => .ok ([], ts)

/-- Drops `::` at the front. -/
def readLeading : List Tree → Bool × List Tree
  | .punct ':' true _ :: .punct ':' _ _ :: ts => (true, ts)
  | ts => (false, ts)

def readKey (ts : List Tree) : Except Fault (Key × List Tree) :=
  let (leading, ts) := readLeading ts
  match ts with
  | .ident first :: rest =>
    match readMore rest with
    | .ok (more, left) => .ok (⟨leading, first, more⟩, left)
    | .error f => .error f
  | [] => .error ⟨.endsBeforeKey, .callSite⟩
  | t :: rest =>
    if Rule.startsLiteral (t :: rest) then .error ⟨.literalKey, t.head⟩
    else .error ⟨.strangeKey, t.head⟩

/-! ## Values -/

/-- `=` and a string literal: the value of the literal and its place. -/
def readText (ts : List Tree) : Except Fault (String × Span × List Tree) :=
  match ts with
  | .punct '=' _ _ :: rest =>
    match rest with
    | .literal text span :: left =>
      match Text.unquote text with
      | some value => .ok (value, span, left)
      | none => .error ⟨.notText false, span⟩
    | rest => .error ⟨.notText rest.isEmpty, frontSpan rest⟩
  | ts => .error ⟨.noEquals, frontSpan ts⟩

/-- A text that, read as source, is one name. -/
def functionName (value : String) : Option Ident :=
  match scan value with
  | some [.ident i] => if i.isName then some i else none
  | _ => none

/-! ## Entries -/

inductive Entry where
  | url (value : String)
  | name (i : Ident)
  deriving Repr, DecidableEq, Inhabited

def Entry.apply (a : Arguments) : Entry → Arguments
  | url value => { a with url := value }
  | name i => { a with name := i }

def readEntry (ts : List Tree) : Except Fault (Entry × List Tree) :=
  match readKey ts with
  | .error f => .error f
  | .ok (key, rest) =>
    if key.leading || !key.more.isEmpty then .error ⟨.qualifiedKey, key.span⟩
    else if key.first.isWord "url" then
      match readText rest with
      | .ok (value, _, left) => .ok (.url value, left)
      | .error f => .error f
    else if key.first.isWord "name" then
      match readText rest with
      | .ok (value, span, left) =>
        match functionName value with
        | some i => .ok (.name { i with span }, left)
        | none => .error ⟨.notName value, span⟩
      | .error f => .error f
    else .error ⟨.unknownKey key.first.text, key.span⟩

/-- Entries with commas between them, and maybe after the last. -/
def readEntries (ts : List Tree) : Except Fault (List Entry) :=
  if ts.isEmpty then .ok []
  else
    match readEntry ts with
    | .error f => .error f
    | .ok (e, []) => .ok [e]
    | .ok (e, .punct ',' _ _ :: left) =>
      if left.length < ts.length then
        match readEntries left with
        | .ok es => .ok (e :: es)
        | .error f => .error f
      else .ok [e]
    | .ok (_, t :: _) => .error ⟨.noComma, t.head⟩
termination_by ts.length

def Arguments.ofEntries (es : List Entry) : Arguments := es.foldl Entry.apply {}

def Arguments.parse (ts : List Tree) : Except Fault Arguments :=
  match readEntries ts with
  | .ok es => .ok (.ofEntries es)
  | .error f => .error f

end FetchKit.Request
