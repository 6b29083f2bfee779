import FetchKit.Grammar.Rules

/-! # Attributes -/

namespace FetchKit.Grammar

open FetchKit.Source Rule

/-- A path of names only; `self`, `Self`, `super` and `crate` count as names. -/
def plainPath : Rule Path := do
  let leading ← eatOp? "::"
  let (segments, trailing) ← iterate (([] : List Segment), false) fun (segments, trailing) => do
    if ← peekAny [name, kw "super", kw "self", kw "Self", kw "crate"] then
      let i ← eatAnyIdent
      if ← peek (op "::") then
        eatOp "::"
        return .again ({ ident := i } :: segments, true)
      else return .done ({ ident := i } :: segments, false)
    else return .done (segments, trailing)
  if segments.isEmpty then
    let i ← eatName
    return ⟨leading, [{ ident := i }]⟩
  else if trailing then complain "expected path segment after `::`"
  else return ⟨leading, segments.reverse⟩

/-- What follows the path of an attribute that has no list. -/
def valueAfter (g : Rules) (path : Path) : Rule Attribute := do
  if (← peek (op "=")) && !(← peekAny [op "==", op "=>"]) then
    eatOp "="
    if ← wouldRead (do
        eatLiteral
        unless ← atEnd do fail default) then
      eatLiteral
    else if (← peek (op "#")) && (← peek2 bracket) then
      complain "unexpected attribute inside of attribute"
    else
      let _ ← g.expr true
    return ⟨path, .value⟩
  else return ⟨path, .bare⟩

/-- What follows the path of an attribute. -/
def afterPath (g : Rules) (path : Path) : Rule Attribute := do
  match ← trees with
  | .group d tokens _ :: _ =>
    let _ ← eatGroup
    return ⟨path, .list d tokens⟩
  | _ => valueAfter g path

/-- What stands between the brackets of an attribute. -/
def attributeContent (g : Rules) : Rule Attribute := do
  if ← peek (kw "unsafe") then
    let i ← eatAnyIdent
    afterPath g ⟨false, [{ ident := i }]⟩
  else
    let path ← plainPath
    afterPath g path

def outerAttribute (g : Rules) : Rule Attribute := do
  eatOp "#"
  within .bracket (attributeContent g)

/-- All attributes before a thing. -/
def outerAttributes (g : Rules) : Rule (List Attribute) := do
  let found ← iterate [] fun found => do
    if ← peek (op "#") then return .again ((← outerAttribute g) :: found) else return .done found
  return found.reverse

/-- All attributes at the front of a block. -/
def innerAttributes (g : Rules) : Rule (List Attribute) := do
  let found ← iterate [] fun found => do
    if (← peek (op "#")) && (← peek2 (op "!")) then
      eatOp "#"
      eatOp "!"
      return .again ((← within .bracket (attributeContent g)) :: found)
    else return .done found
  return found.reverse

/-- A block in braces that takes no attributes. -/
def plainBlock (g : Rules) : Rule Unit := within .brace g.statements

/-- A block in braces, with the attributes at its front. -/
def bracedBlock (g : Rules) : Rule Unit :=
  within .brace do
    let _ ← innerAttributes g
    g.statements

end FetchKit.Grammar
