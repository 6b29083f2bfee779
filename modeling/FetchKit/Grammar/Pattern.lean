import FetchKit.Grammar.Generics
import FetchKit.Source.Literal

/-! # Patterns -/

namespace FetchKit.Grammar

open FetchKit.Source Rule

/-! ## Members -/

/-- The field at hand: its name, or its place in a tuple. -/
inductive MemberKey where
  | name (i : Ident)
  | index
  deriving Repr

/-- A place in a tuple: a number without a suffix or sign that fits 32 bits, written in decimal. -/
def tupleIndex (negative : Bool) (text : String) (span : Span) : Rule Tree := do
  match integer? text with
  | none => fail (.rule "expected integer literal" false)
  | some (value, suffix) =>
    unless suffix.isEmpty do fail (.rule "expected unsuffixed integer" false)
    if negative then fail (.rule "invalid digit found in string" false)
    unless value < UInt32.size do fail (.rule "number too large to fit in target type" false)
    return .literal (toString value) span

def memberKey : Rule MemberKey := do
  if ← peek name then return .name (← eatName)
  match ← trees with
  | .literal text span :: ts =>
    if (integer? text).isSome then
      advance ts [← tupleIndex false text span]
      return .index
    else complain "expected identifier or integer"
  | .punct '-' _ _ :: .literal text span :: ts =>
    if isNumber text && (integer? text).isSome then
      advance ts [← tupleIndex true text span]
      return .index
    else complain "expected identifier or integer"
  | _ => complain "expected identifier or integer"

/-! ## Alternatives -/

/-- Whether a single `|` comes next. -/
def peekBar : Rule Bool := do
  return (← peek (op "|")) && !(← peek (op "||")) && !(← peek (op "|="))

/-- Patterns with `|` between them, and maybe before the first. -/
def alternatives (g : Rules) : Rule PatternShape := do
  let leading ← eatOp? "|"
  let shape ← g.pattern
  if leading || (← peekBar) then
    loop do
      if ← peekBar then
        eatOp "|"
        let _ ← g.pattern
        return true
      else return false
    return .other
  else return shape

/-! ## Ranges -/

def constBlock (g : Rules) : Rule Unit := do
  eatWord "const"
  bracedBlock g

/-- One end of a range. Gives whether there is one. -/
def rangeBound (g : Rules) : Rule Bool := do
  if (← atEnd) || (← peekAny [op "|", op "=", op ",", op ";", kw "if"]) ||
      ((← peek (op ":")) && !(← peek (op "::"))) then
    return false
  let paths := [name, op "::", op "<", kw "self", kw "Self", kw "super", kw "crate"]
  if ← peek literal then eatLiteral
  else if ← peekAny paths then
    let _ ← anyPath g true
  else if ← peek (kw "const") then constBlock g
  else unmet (literal :: paths ++ [kw "const"])
  return true

/-- Whether a range includes its end. -/
inductive Limits where
  | halfOpen
  | closed
  deriving Repr, DecidableEq

/-- `..` or `..=`. -/
def limits : Rule Limits := do
  if ← peek (op "..=") then
    eatOp "..="
    return .closed
  else if (← peek (op "..")) && !(← peek (op "...")) then
    eatOp ".."
    return .halfOpen
  else unmet [op "..", op "..="]

/-- As `limits`; `...` is an old way to write `..=`. -/
def oldLimits : Rule Limits := do
  if ← peek (op "...") then
    dropOp "..."
    write (operator "..=")
    return .closed
  else limits

/-- A range after its start. -/
def rangeAfter (g : Rules) : Rule PatternShape := do
  let l ← oldLimits
  let bounded ← rangeBound g
  if bounded then return .range
  else if l = .closed then complain "expected range upper bound"
  else return .openRange

def rangeFromNothing (g : Rules) : Rule PatternShape := do
  let l ← limits
  let bounded ← rangeBound g
  if bounded then return .openRange
  else if l = .closed then complain "expected range upper bound"
  else return .rest

/-! ## Patterns of one kind -/

def fieldPattern (g : Rules) : Rule Unit := do
  let boxed ← peek (kw "box")
  let body : Rule Unit := do
    let boxed ← eatWord? "box"
    let byRef ← eatWord? "ref"
    let mutable ← eatWord? "mut"
    if boxed || byRef || mutable then
      let _ ← eatName
    else
      match ← memberKey with
      | .index =>
        eatOp ":"
        let _ ← alternatives g
      | .name _ =>
        if ← eatOp? ":" then
          let _ ← alternatives g
  if boxed then asWritten body else body

def structPattern (g : Rules) : Rule Unit :=
  within .brace do
    loop do
      if ← atEnd then return false
      let _ ← outerAttributes g
      if ← peek (op "..") then
        eatOp ".."
        return false
      fieldPattern g
      if ← atEnd then return false
      eatOp ","
      return true

def pathPattern (g : Rules) : Rule PatternShape := do
  let (qualified, p) ← anyPath g true
  if !qualified && (← peek (op "!")) && !(← peek (op "!=")) && p.isPlain then
    let _ ← callAfterPath
    return .other
  if ← peek brace then
    structPattern g
    return .other
  else if ← peek paren then
    let _ ← within .paren (terminated (alternatives g))
    return .other
  else if ← peek (op "..") then rangeAfter g
  else return .other

def namePattern (g : Rules) : Rule Unit := do
  let _ ← eatWord? "ref"
  let _ ← eatWord? "mut"
  if ← peek (kw "self") then eatWord "self"
  else
    let _ ← eatName
  if ← eatOp? "@" then
    let _ ← g.pattern

def literalPattern (g : Rules) : Rule PatternShape := do
  let _ ← rangeBound g
  if ← peek (op "..") then rangeAfter g else return .other

def slicePattern (g : Rules) : Rule Unit := do
  let _ ← within .bracket <| terminated do
    if (← alternatives g) == .openRange then
      fail (.rule "range pattern is not allowed unparenthesized inside slice pattern" false)

def patternRule (g : Rules) : Rule PatternShape := do
  let pathNext := ((← peek name) &&
      ((← peek2 (op "::")) || (← peek2 (op "!")) || (← peek2 brace) || (← peek2 paren) ||
        (← peek2 (op "..")))) ||
    ((← peek (kw "self")) && (← peek2 (op "::"))) ||
    (← peekAny [op "::", op "<", kw "Self", kw "super", kw "crate"])
  if pathNext then pathPattern g
  else if ← peek (kw "_") then
    eatWord "_"
    return .other
  else if ← peek (kw "box") then
    asWritten do
      eatWord "box"
      let _ ← g.pattern
    return .verbatim
  else if ← peekAny [op "-", literal, kw "const"] then literalPattern g
  else if ← peekAny [kw "ref", kw "mut", kw "self", name] then
    namePattern g
    return .other
  else if ← peek (op "&") then
    eatOp "&"
    let _ ← eatWord? "mut"
    let _ ← g.pattern
    return .other
  else if ← peek paren then
    let _ ← within .paren (terminated (alternatives g))
    return .other
  else if ← peek bracket then
    slicePattern g
    return .other
  else if (← peek (op "..")) && !(← peek (op "...")) then rangeFromNothing g
  else
    unmet [name, op "::", op "<", kw "_", literal, kw "const", kw "ref", kw "mut", op "&", paren,
      bracket, op "..", kw "const"]

end FetchKit.Grammar
