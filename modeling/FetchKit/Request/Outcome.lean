import FetchKit.Request.Declaration

/-!
# Whether a declaration can have a request

The kind is checked first, then whether it derives anything, then the first capability that it
derives; later ones do not count.
-/

namespace FetchKit.Request

open FetchKit.Source

inductive Outcome where
  | valid (ident : Ident)
  | wrongKind (actual : Kind)
  | noCapabilities
  | wrongCapability (found : String)
  deriving Repr, DecidableEq, Inhabited

/-- The capability that must come first. -/
def required : String := "Codable"

def Declaration.validate (d : Declaration) : Outcome :=
  if d.kind ≠ .struct then .wrongKind d.kind
  else
    match d.capabilities with
    | [] => .noCapabilities
    | c :: _ => if c.name = required then .valid d.ident else .wrongCapability c.name

end FetchKit.Request
