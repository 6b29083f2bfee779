import FetchKit.Request.Notice
import FetchKit.Request.Outcome

/-!
# Diagnostics

Why a declaration is refused, with an identifier that stays the same when wordings change, and what
could be put in its place.
-/

namespace FetchKit.Request

open FetchKit.Source

inductive Severity where
  | error
  | warning
  deriving Repr, DecidableEq, Inhabited

inductive DiagnosticId where
  | notStruct
  | noConformance
  | wrongConformance
  deriving Repr, DecidableEq, Inhabited

def DiagnosticId.text : DiagnosticId → String
  | notStruct => "not-struct"
  | noConformance => "no-conformance"
  | wrongConformance => "wrong-conformance"

def DiagnosticId.qualified (i : DiagnosticId) : String := "network_request::" ++ i.text

/-- A proposal to replace what stands at `span`. -/
structure FixIt where
  message : String
  span : Span
  original : String
  replacement : String
  deriving Repr, DecidableEq, Inhabited

structure Diagnostic where
  severity : Severity := .error
  id : DiagnosticId
  message : String
  span : Span
  fixIts : List FixIt := []
  deriving Repr, DecidableEq, Inhabited

/-! ## Why a declaration is refused -/

def diagnose (o : Outcome) (d : Declaration) : List Diagnostic :=
  match o with
  | .valid _ => []
  | .wrongKind actual =>
    [{ id := .notStruct, span := d.ident.span,
       message := "declaration needs to be a struct, found " ++ actual.text ++ " `" ++ d.ident.text ++
         "`; replace it with a struct" }]
  | .noCapabilities =>
    [{ id := .noConformance, span := d.ident.span,
       message := "struct `" ++ d.ident.text ++ "` has no conformance; add `#[derive(" ++ required ++
         ")]`" }]
  | .wrongCapability found =>
    let span :=
      match d.capabilities with
      | c :: _ => c.span
      | [] => d.ident.span
    [{ id := .wrongConformance, span,
       message := "struct `" ++ d.ident.text ++ "` does not conform to " ++ required ++
         ": its first derived capability is `" ++ found ++ "`",
       fixIts := [{ message := "Add required capability", span, original := found,
                    replacement := required }] }]

/-! ## Telling it -/

def FixIt.help (f : FixIt) : Notice :=
  { message := "help: " ++ f.message ++ ": replace `" ++ f.original ++ "` with `" ++ f.replacement ++
      "`"
    span := f.span }

def Diagnostic.headline (d : Diagnostic) : Notice :=
  let text := d.message ++ " [" ++ d.id.qualified ++ "]"
  { message := if d.severity = .warning then "warning: " ++ text else text, span := d.span }

/-- The headline, then one line of help for each proposal. -/
def Diagnostic.notices (d : Diagnostic) : List Notice :=
  match combine (d.fixIts.map fun f => [f.help]) with
  | none => [d.headline]
  | some helps => d.headline :: helps

/-- Everything that a list of diagnostics tells. -/
def report (ds : List Diagnostic) : Option (List Notice) := combine (ds.map Diagnostic.notices)

end FetchKit.Request
