import FetchKit.Wire.Decode

/-! # The types of documents -/

namespace FetchKit.Wire

structure NetworkResponse where
  id : String
  deriving Repr, DecidableEq, Inhabited

structure Args where
  q : String
  deriving Repr, DecidableEq, Inhabited

structure User where
  id : UInt64
  name : String
  args : Option Args
  deriving Repr, DecidableEq, Inhabited

structure Page (α : Type) where
  items : List α
  deriving Repr, DecidableEq, Inhabited

def u64 : Read UInt64 := do return UInt64.ofNat (← integer 0 0xFFFFFFFFFFFFFFFF "u64").toNat

def NetworkResponse.layout : Record (Option String) NetworkResponse where
  name := "NetworkResponse"
  size := 1
  empty := none
  field
    | "id" => some (once "id" (fun s => s) (fun v _ => some v) text)
    | _ => none
  finish s := return { id := ← must "id" s }
  inOrder := return { id := ← element "NetworkResponse" 1 0 text }

def Args.layout : Record (Option String) Args where
  name := "Args"
  size := 1
  empty := none
  field
    | "q" => some (once "q" (fun s => s) (fun v _ => some v) text)
    | _ => none
  finish s := return { q := ← must "q" s }
  inOrder := return { q := ← element "Args" 1 0 text }

/-- The fields of a user that were seen. -/
structure SeenUser where
  id : Option UInt64 := none
  name : Option String := none
  args : Option (Option Args) := none

def User.layout : Record SeenUser User where
  name := "User"
  size := 3
  empty := {}
  field
    | "id" => some (once "id" (·.id) (fun v s => { s with id := some v }) u64)
    | "name" => some (once "name" (·.name) (fun v s => { s with name := some v }) text)
    | "args" =>
      some (once "args" (·.args) (fun v s => { s with args := some v })
        (optional (record Args.layout)))
    | _ => none
  finish s := do
    let id ← must "id" s.id
    let name ← must "name" s.name
    return { id, name, args := s.args.join }
  inOrder := do
    let id ← element "User" 3 0 u64
    let name ← element "User" 3 1 text
    let args ← element "User" 3 2 (optional (record Args.layout))
    return { id, name, args }

def Page.layout {α : Type} (item : Read α) : Record (Option (List α)) (Page α) where
  name := "Page"
  size := 1
  empty := none
  field
    | "items" => some (once "items" (fun s => s) (fun v _ => some v) (list item))
    | _ => none
  finish s := return { items := ← must "items" s }
  inOrder := return { items := ← element "Page" 1 0 (list item) }

end FetchKit.Wire
