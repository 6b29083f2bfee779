import FetchKit.Grammar.Attribute

/-!
# Paths, bounds and types

Lifetimes among the arguments of a path are written before the other arguments.
-/

namespace FetchKit.Grammar

open FetchKit.Source Rule

/-! ## Arguments of a path -/

/-- A value among generic arguments: a literal, a name or a block. -/
def constArgument (g : Rules) : Rule Unit := do
  if ← peek literal then eatLiteral
  else if ← peek name then
    let _ ← eatName
  else if ← peek brace then bracedBlock g
  else unmet []

inductive BoundKind where
  | lifetime
  | capture
  | trait
  deriving Repr, DecidableEq

/-- Generic parameters after `for`, where a type or a bound is made for all of them. -/
def binder? (g : Rules) : Rule Bool := do
  if ← peek (kw "for") then
    g.binder
    return true
  else return false

/-- What a type captures, as in `use<'a, T>`. Lifetimes are written first. -/
def preciseCapture : Rule Unit := do
  eatWord "use"
  eatOp "<"
  let found ← iterate ([] : List Listed) fun found => do
    if ← peek (op ">") then return .done found
    let first ← peek lifetime
    let text ← held do
      if first then eatLifetime
      else if (← peek name) || (← peek (kw "Self")) then
        let _ ← eatAnyIdent
      else unmet [lifetime, name, op ">"]
    if ← peek (op ",") then return .again (⟨first, text, ← held (eatOp ",")⟩ :: found)
    else if ← peek (op ">") then return .done (⟨first, text, []⟩ :: found)
    else unmet [op ",", op ">"]
  write (arrange found.reverse)
  eatOp ">"

/-- The type after an arrow, if there is one. -/
def returnType (g : Rules) (plus : Bool) : Rule Unit := do
  if ← peek (op "->") then
    eatOp "->"
    let _ ← g.type plus

/-- A segment and its arguments. In an expression arguments need `::` before them. -/
def segment (g : Rules) (inExpr : Bool) : Rule Segment := do
  if ← peekAny [kw "super", kw "self", kw "crate", kw "try"] then
    return { ident := ← eatAnyIdent }
  let i ← if ← peek (kw "Self") then eatAnyIdent else eatName
  let plain := !inExpr && (← peek (op "<")) && !(← peek (op "<=")) && !(← peek (op "<<="))
  if plain || ((← peek (op "::")) && (← peek3 (op "<"))) then
    let _ ← eatOp? "::"
    g.angle
    return { ident := i, hasArguments := true }
  else return { ident := i }

/-- The segments after the first, up to arguments in parentheses. -/
def moreSegments (g : Rules) (inExpr : Bool) (segments : List Segment) : Rule (List Segment) := do
  let found ← iterate segments.reverse fun found => do
    if (← peek (op "::")) && !(← peek3 paren) then
      eatOp "::"
      return .again ((← segment g inExpr) :: found)
    else return .done found
  return found.reverse

def path (g : Rules) (inExpr : Bool) : Rule Path := do
  let leading ← eatOp? "::"
  let first ← segment g inExpr
  return ⟨leading, ← moreSegments g inExpr [first]⟩

/-- A path, maybe one through a type (`<T as A>::B`): whether it is one, and its segments after
the type. -/
def anyPath (g : Rules) (inExpr : Bool) : Rule (Bool × Path) := do
  if ← peek (op "<") then
    eatOp "<"
    let _ ← g.type true
    if ← eatWord? "as" then
      let _ ← path g false
    eatOp ">"
    eatOp "::"
    let found ← iterate [] fun found => do
      let s ← segment g inExpr
      if ← eatOp? "::" then return .again (s :: found) else return .done (s :: found)
    return (true, ⟨false, found.reverse⟩)
  else return (false, ← path g inExpr)

/-- Arguments in parentheses, as in `Fn(A) -> B`, for a path that has none yet. A `::` before them
is not kept. -/
def parenArguments? (g : Rules) (p : Path) : Rule Unit := do
  let plain := p.segments.getLast?.all (!·.hasArguments)
  let apart := (← peek (op "::")) && (← peek3 paren)
  if plain && (apart || (← peek paren)) then
    if apart then dropOp "::"
    let _ ← within .paren (terminated (g.type true))
    returnType g false

/-! ## Bounds -/

/-- A trait bound without the parentheses around it. One with `const` is kept as it stood. -/
def traitBound (g : Rules) (allowConst : Bool) : Rule (Kept Unit) := do
  let binder ← binder? g
  let conditional ← peek bracket
  let constant ← peek (kw "const")
  if conditional then
    within .bracket (eatWord "const")
    unless allowConst do fail (.rule "`[const]` is not allowed here" false)
  else if constant then
    eatWord "const"
    unless allowConst do fail (.rule "`const` is not allowed here" false)
  let maybe ← eatOp? "?"
  let lateBinder ← if maybe && !binder then binder? g else pure false
  parenArguments? g (← path g false)
  if (binder || lateBinder) && maybe then
    fail (.rule "`for<...>` binder not allowed with `?` trait polarity modifier" false)
  return ⟨(), conditional || constant⟩

def bound (g : Rules) (allowCapture allowConst : Bool) : Rule BoundKind := do
  if ← peek lifetime then
    eatLifetime
    return .lifetime
  if ← peek (kw "use") then
    preciseCapture
    unless allowCapture do
      fail (.rule "`use<...>` precise capturing syntax is not allowed here" false)
    return .capture
  keeping do
    if ← peek paren then within .paren (traitBound g allowConst) else traitBound g allowConst
  return .trait

/-- Bounds up to a place where none can follow: `stop` tells it. -/
def boundsUntil (bound : Rule BoundKind) (stop : Rule Bool) : Rule Unit :=
  loop do
    if ← stop then return false
    let _ ← bound
    eatOp? "+"

/-! ## Generic arguments -/

/-- One argument between angle brackets. Gives whether it is a lifetime. -/
def genericArgument (g : Rules) : Rule Bool := do
  if (← peek lifetime) && !(← peek2 (op "+")) then
    eatLifetime
    return true
  if ← peekAny [literal, brace] then
    constArgument g
    return false
  match ← g.type true with
  | .path ⟨false, [_]⟩ =>
    if ← eatOp? "=" then
      if ← peekAny [literal, brace] then constArgument g
      else
        let _ ← g.type true
    else if ← eatOp? ":" then
      boundsUntil (bound g false true) (peekAny [op ",", op ">"])
    return false
  | _ => return false

def angleRule (g : Rules) : Rule Unit := do
  eatOp "<"
  let found ← iterate [] fun found => do
    if ← peek (op ">") then return .done found
    let (first, text) ← withhold (genericArgument g)
    if ← peek (op ">") then return .done (⟨first, text, []⟩ :: found)
    let (_, comma) ← withhold (eatOp ",")
    return .again (⟨first, text, comma⟩ :: found)
  write (arrange found.reverse)
  eatOp ">"

/-- `!` and the group of a call, after its path. -/
def callAfterPath : Rule Delimiter := do
  eatOp "!"
  eatGroup

/-! ## Types -/

/-- Bounds joined by `+`. Gives their kinds and whether a `+` ends them. -/
def boundList (g : Rules) (plus allowCapture allowConst : Bool) : Rule (List BoundKind) :=
  iterate [] fun found => do
    let kind ← bound g allowCapture allowConst
    if plus && (← peek (op "+")) then
      eatOp "+"
      if (← peekAny [anyIdent, op "::", op "?", lifetime, paren]) ||
          (allowConst && (← peek bracket)) then
        return .again (kind :: found)
      else return .done (kind :: found)
    else return .done (kind :: found)

def objectBounds (g : Rules) (plus : Bool) : Rule Unit := do
  let kinds ← boundList g plus false false
  unless kinds.contains .trait do
    fail (.rule "at least one trait is required for an object type" false)

def implBounds (g : Rules) (plus : Bool) : Rule Unit := do
  let kinds ← boundList g plus true true
  unless kinds.contains .trait do fail (.rule "at least one trait must be specified" false)

/-- Bounds after a first one that was read as a type. Gives whether there are none. -/
def moreBounds (g : Rules) : Rule Bool := do
  iterate true fun lone => do
    if ← eatOp? "+" then
      let _ ← bound g false false
      return .again false
    else return .done lone

/-- Bounds after a path that is the first of them. Gives whether there are none. -/
def boundsAfterPath (g : Rules) : Rule Bool := do
  iterate true fun lone => do
    if ← peek (op "+") then
      eatOp "+"
      if ← peekAny [anyIdent, op "::", op "?", lifetime, paren] then
        let _ ← bound g false false
        return .again false
      else return .done false
    else return .done lone

/-- An argument of a function type. -/
def bareArgument (g : Rules) (first : Bool) : Rule Unit := do
  let mutSelf := first && (← peek (kw "mut")) && (← peek2 (kw "self"))
  if mutSelf then
    asWritten do
      eatWord "mut"
      if (← peek2 (op ":")) && !(← peek2 (op "::")) then
        let _ ← eatAnyIdent
        eatOp ":"
        let _ ← g.type true
      else eatWord "self"
  else
    let self := first && (← peek (kw "self"))
    let labelled := ((← peek name) || (← peek (kw "_")) || self) &&
      (← peek2 (op ":")) && !(← peek2 (op "::"))
    if labelled then
      let _ ← eatAnyIdent
      eatOp ":"
    if first && !(self && labelled) && (← peek (kw "mut")) && (← peek2 (kw "self")) then
      eatWord "mut"
      eatWord "self"
    else
      let _ ← g.type true

def abi : Rule Unit := do
  eatWord "extern"
  if ← peek string then eatLiteral

def abi? : Rule Unit := do
  if ← peek (kw "extern") then abi

def bareFunction (g : Rules) : Rule Unit := do
  let _ ← eatWord? "unsafe"
  abi?
  eatWord "fn"
  let (_, missed) ← enter .paren do
    let _ ← iterate true fun first => do
      if ← atEnd then return .done first
      let _ ← outerAttributes g
      let labelled := (← peekAny [name, kw "_"]) && (← peek2 (op ":")) && (← peek3 (op "..."))
      if (← peek (op "...")) || labelled then
        if labelled then
          let _ ← eatAnyIdent
          eatOp ":"
        eatOp "..."
        let _ ← eatOp? ","
        return .done first
      let _ ← outerAttributes g
      bareArgument g first
      if ← atEnd then return .done first
      eatOp ","
      return .again false
  returnType g false
  leave missed

/-- Types after a comma, to the end of the group. -/
def moreElements (g : Rules) : Rule Unit := do
  eatOp ","
  let _ ← terminated (g.type true)

/-- What a parenthesized type turned out to be. -/
inductive Parenthesized where
  | tuple
  | object
  | relaxed
  | type (s : TypeShape)

/-- Takes one pair of two pairs of parentheses off the last tree that was written. -/
def unwrapLast : Rule Unit :=
  modify fun c =>
    match c.written with
    | .group .paren [inner] _ :: before => { c with written := inner :: before }
    | _ => c

/-- A type in parentheses. What is left over in them is noted after the bounds that follow. -/
def parenType (g : Rules) (plus : Bool) : Rule TypeShape := do
  let (content, missed) ← enter .paren do
    if ← atEnd then return Parenthesized.tuple
    if ← peek lifetime then
      objectBounds g true
      return .object
    if ← peek (op "?") then
      let _ ← traitBound g false
      return .relaxed
    let s ← g.type true
    if ← peek (op ",") then
      moreElements g
      return .tuple
    return .type s
  let shape ←
    match content with
    | .tuple => pure .other
    | .object => pure .paren
    | .relaxed => pure (if ← moreBounds g then .relaxed else .bounds false)
    | .type s =>
      if plus && (← peek (op "+")) then
        match s with
        | .path _ => pure (.bounds (← moreBounds g))
        | .bounds true => pure (.bounds (← moreBounds g))
        | .relaxed =>
          unwrapLast
          pure (.bounds (← moreBounds g))
        | _ => pure .paren
      else pure .paren
  leave missed
  return shape

def typeAfterPath (g : Rules) (plus binder : Bool) : Rule TypeShape := do
  match ← anyPath g false with
  | (true, _) => return .other
  | (false, p) =>
    if (← peek (op "!")) && !(← peek (op "!=")) && p.isPlain then
      let _ ← callAfterPath
      return .other
    if binder || (plus && (← peek (op "+"))) then
      let lone ← if plus then boundsAfterPath g else pure true
      return .bounds lone
    return .path p

def pointer (g : Rules) : Rule Unit := do
  eatOp "*"
  if ← peek (kw "const") then eatWord "const"
  else if ← peek (kw "mut") then eatWord "mut"
  else unmet [kw "const", kw "mut"]
  let _ ← g.type false

def reference (g : Rules) : Rule Unit := do
  eatOp "&"
  let _ ← eatLifetime?
  let _ ← eatWord? "mut"
  let _ ← g.type false

def arrayOrSlice (g : Rules) : Rule Unit :=
  within .bracket do
    let _ ← g.type true
    if ← peek (op ";") then
      eatOp ";"
      let _ ← g.expr true

/-- A group of tokens after a word that stands for a facility of the compiler. -/
def builtin : Rule Unit := do
  eatWord "builtin"
  eatOp "#"
  let _ ← eatName
  within .paren eatRest

def peekBuiltin : Rule Bool := do return (← peek (kw "builtin")) && (← peek2 (op "#"))

/-- A type. One that starts with `builtin #` or `dyn *` is kept as it stood. -/
def keptType (g : Rules) (plus : Bool) : Rule (Kept TypeShape) := do
  let binder ← binder? g
  if binder then
    let starts := [name, kw "fn", kw "unsafe", kw "extern", kw "super", kw "self", kw "Self", kw "crate"]
    if !(← peekAny starts) || (← peek (kw "dyn")) then unmet starts
  if ← peek paren then return ⟨← parenType g plus, false⟩
  else if ← peekAny [kw "fn", kw "unsafe", kw "extern"] then
    bareFunction g
    return ⟨.other, false⟩
  else if ← peekBuiltin then
    builtin
    return ⟨.other, true⟩
  else if ← peekAny [name, kw "super", kw "self", kw "Self", kw "crate", op "::", op "<"] then
    return ⟨← typeAfterPath g plus binder, false⟩
  else if ← peek (kw "dyn") then
    eatWord "dyn"
    let starred ← eatOp? "*"
    objectBounds g plus
    return ⟨.other, starred⟩
  else if ← peek bracket then
    arrayOrSlice g
    return ⟨.other, false⟩
  else if ← peek (op "*") then
    pointer g
    return ⟨.other, false⟩
  else if ← peek (op "&") then
    reference g
    return ⟨.other, false⟩
  else if (← peek (op "!")) && !(← peek (op "=")) then
    eatOp "!"
    return ⟨.other, false⟩
  else if ← peek (kw "impl") then
    eatWord "impl"
    implBounds g plus
    return ⟨.other, false⟩
  else if ← peek (kw "_") then
    eatWord "_"
    return ⟨.other, false⟩
  else if ← peek lifetime then
    objectBounds g true
    return ⟨.bounds false, false⟩
  else
    unmet [kw "for", paren, kw "fn", kw "unsafe", kw "extern", name, op "::", op "<", kw "dyn",
      bracket, op "*", op "&", op "!", kw "impl", kw "_", lifetime]

def typeRule (g : Rules) (plus : Bool) : Rule TypeShape := keeping (keptType g plus)

end FetchKit.Grammar
