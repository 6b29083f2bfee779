import FetchKit.Grammar.Item

/-!
# Declarations

What a request has to know of the item that it is put on: its kind, its name and, for a struct, the
capabilities that it derives, in order.
-/

namespace FetchKit.Request

open FetchKit.Source FetchKit.Grammar

inductive Kind where
  | struct
  | enum
  | union
  | trait
  | other
  deriving Repr, DecidableEq, Inhabited

def Kind.text : Kind → String
  | struct => "struct"
  | enum => "enum"
  | union => "union"
  | trait => "trait"
  | other => "item"

structure Capability where
  /-- The last name of its path. -/
  name : String
  /-- The whole path. -/
  span : Span
  deriving Repr, DecidableEq, Inhabited

structure Declaration where
  kind : Kind
  ident : Ident
  capabilities : List Capability
  deriving Repr, DecidableEq, Inhabited

/-! ## Reading an item -/

def capability? (p : Path × List Tree) : Option Capability :=
  p.1.canonicalName.map fun name => ⟨name, spanOf p.2⟩

/-- What one attribute derives. A list that is not well formed derives nothing at all. -/
def derivedBy (a : Attribute) : List Capability :=
  if a.path.isWord "derive" then
    match a.content with
    | .list _ tokens =>
      match Path.parseList tokens with
      | .ok paths => paths.filterMap capability?
      | .error _ => []
    | _ => []
  else []

def derived (as : List Attribute) : List Capability := as.flatMap derivedBy

/-- The declaration that an item makes. `whole` is the place of the item; an item without a name
is named by its place. -/
def Declaration.ofItem (whole : Span) : Item → Declaration
  | .struct d => ⟨.struct, d.ident, derived d.attributes⟩
  | .enum d => ⟨.enum, d.ident, []⟩
  | .union d => ⟨.union, d.ident, []⟩
  | .trait i => ⟨.trait, i, []⟩
  | .named i => ⟨.other, i, []⟩
  | .impl _ => ⟨.other, { name := "item", span := whole }, []⟩
  | .unnamed => ⟨.other, { name := "item", span := whole }, []⟩

/-- Reads the trees as one item and gives the declaration it makes. -/
def Declaration.parse (ts : List Tree) : Except Complaint Declaration :=
  (Item.parse ts).map (.ofItem (spanOf ts))

end FetchKit.Request
