import FetchKit.Grammar.Expression

/-! # Statements -/

namespace FetchKit.Grammar

open FetchKit.Source Rule

/-- Whether a call ends a statement without a semicolon. -/
def ExprShape.endsStatement : ExprShape → Bool
  | .block => true
  | .call d => d == .brace
  | _ => false

/-- Whether the last tree written is a block. -/
def endsInBrace : Rule Bool := do
  match (← get).written with
  | .group .brace _ _ :: _ => return true
  | _ => return false

def localBinding (g : Rules) : Rule Unit := do
  eatWord "let"
  let _ ← g.pattern
  if ← eatOp? ":" then
    let _ ← g.type true
  if ← eatOp? "=" then
    let _ ← g.expr true
    if !(← endsInBrace) && (← peek (kw "else")) then
      eatWord "else"
      plainBlock g
  eatOp ";"

/-- Which statement a call starts: one of its own in braces, an item, or none. -/
inductive CallStatement where
  | braced
  | item
  | none
  deriving DecidableEq

def peekCall : Rule CallStatement := do
  let found ← get
  match StateT.run plainPath found with
  | .error _ => return .none
  | .ok (_, after) =>
    let at_ (n : Nat) (p : Probe) : Bool := p.test (skip n after.rest)
    if at_ 0 (op "!") then
      if at_ 1 name || at_ 1 (kw "try") then return .item
      else if at_ 1 brace && !((at_ 2 (op ".") && !at_ 2 (op "..")) || at_ 2 (op "?")) then
        return .braced
      else return .none
    else return .none

/-- Whether an item starts here. -/
def peekItem : Rule Bool := do
  return (← peekAny [kw "pub", kw "extern", kw "use", kw "fn", kw "mod", kw "type", kw "struct",
      kw "enum", kw "trait", kw "impl", kw "macro"]) ||
    ((← peek (kw "crate")) && !(← peek2 (op "::"))) ||
    ((← peek (kw "static")) && ((← peek2 (kw "mut")) || (← peek2 name))) ||
    ((← peek (kw "const")) &&
      !((← peek2 brace) || (← peek2 (kw "static")) ||
        ((← peek2 (kw "async")) &&
          !((← peek3 (kw "unsafe")) || (← peek3 (kw "extern")) || (← peek3 (kw "fn")))) ||
        (← peek2 (kw "move")) || (← peek2 (op "|")))) ||
    ((← peek (kw "unsafe")) && !(← peek2 brace)) ||
    ((← peek (kw "async")) &&
      ((← peek2 (kw "unsafe")) || (← peek2 (kw "extern")) || (← peek2 (kw "fn")))) ||
    ((← peek (kw "union")) && (← peek2 name)) ||
    ((← peek (kw "auto")) && (← peek2 (kw "trait"))) ||
    ((← peek (kw "default")) && ((← peek2 (kw "unsafe")) || (← peek2 (kw "impl"))))

/-- A statement. Gives whether another may follow it without a semicolon. -/
def keptStatement (g : Rules) : Rule (Kept Bool) := do
  let (attributes, text) ← leadingAttributes g
  let call ← peekCall
  if call = .braced then
    write text
    let _ ← plainPath
    let _ ← callAfterPath
    let _ ← eatOp? ";"
    return ⟨true, false⟩
  if ← peek (kw "let") then
    write text
    localBinding g
    return ⟨true, false⟩
  else if call = .item || (← peekItem) then
    write text
    return ⟨true, (← g.item attributes).asItStood⟩
  else
    let (shape, body) ← withhold g.bounded
    write (attributed text body (shape == .range))
    let ended ← eatOp? ";"
    return ⟨ended || shape.endsStatement, false⟩

def statement (g : Rules) : Rule Bool := keeping (keptStatement g)

def statementsRule (g : Rules) : Rule Unit :=
  loop do
    loop (eatOp? ";")
    if ← atEnd then return false
    let ended ← statement g
    if ← atEnd then return false
    unless ended do complain "unexpected token, expected `;`"
    return true

end FetchKit.Grammar
