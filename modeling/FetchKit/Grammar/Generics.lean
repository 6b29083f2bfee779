import FetchKit.Grammar.Type

/-! # Generic parameters and the conditions on them -/

namespace FetchKit.Grammar

open FetchKit.Source Rule

/-! ## Parameters -/

/-- Bounds with the colon before them. A colon that no bound follows is not kept. -/
def boundsAfterColon (bounds : Rule Unit) : Rule (List Tree) := do
  let colon ← held (eatOp? ":")
  if colon.isEmpty then return []
  let found ← held bounds
  return if found.isEmpty then [] else colon ++ found

/-- A lifetime parameter. -/
def lifetimeParameter (attributes : List Tree) : Rule Param := do
  let used ← held eatLifetime
  let bounds ← boundsAfterColon <| loop do
    if (← atEnd) || (← peekAny [op ",", op ">"]) then return false
    eatLifetime
    eatOp? "+"
  return { kind := .lifetime, declared := attributes ++ used ++ bounds, used }

/-- A type parameter. -/
def typeParameter (g : Rules) (attributes : List Tree) : Rule Param := do
  let used ← held eatName
  let bounds ← boundsAfterColon <| boundsUntil (bound g false true) do
    return (← atEnd) || (← peekAny [op ",", op ">", op "="])
  let fallback ← held do
    if ← eatOp? "=" then
      let _ ← g.type true
  return { kind := .type, declared := attributes ++ used ++ bounds, used, fallback }

/-- A parameter that stands for a value. -/
def constParameter (g : Rules) (attributes : List Tree) : Rule Param := do
  let keyword ← held (eatWord "const")
  let used ← held eatName
  let kind ← held do
    eatOp ":"
    let _ ← g.type true
  let fallback ← held do
    if ← eatOp? "=" then constArgument g
  return { kind := .const, declared := attributes ++ keyword ++ used ++ kind, used, fallback }

/-- A parameter; one may be named `_`. -/
def parameter (g : Rules) : Rule Param := do
  let attributes ← held (outerAttributes g)
  if ← peek lifetime then lifetimeParameter attributes
  else if ← peek name then typeParameter g attributes
  else if ← peek (kw "const") then constParameter g attributes
  else if ← peek (kw "_") then
    let used ← held eatAnyIdent
    return { kind := .type, declared := attributes ++ used, used }
  else unmet [lifetime, name, kw "const"]

/-- A parameter after `for`. -/
def boundParameter (g : Rules) : Rule Param := do
  let attributes ← held (outerAttributes g)
  if ← peek name then typeParameter g attributes
  else if ← peek lifetime then lifetimeParameter attributes
  else if ← peek (kw "const") then constParameter g attributes
  else unmet [name, lifetime, kw "const"]

/-- Parameters between angle brackets. They are given, not written. -/
def angledParameters (parameter : Rule Param) : Rule Generics := do
  let opening ← held (eatOp "<")
  let found ← iterate [] fun found => do
    if ← peek (op ">") then return .done found
    let p ← parameter
    if ← peek (op ">") then return .done (p :: found)
    return .again ({ p with comma := ← held (eatOp ",") } :: found)
  return { opening, params := found.reverse, closing := ← held (eatOp ">") }

/-- Parameters between angle brackets, if there are any. They are given, not written. -/
def generics? (g : Rules) : Rule Generics := do
  if ← peek (op "<") then angledParameters (parameter g) else return {}

/-- As `generics?`, and writes them. -/
def generics (g : Rules) : Rule Generics := do
  let found ← generics? g
  write found.text
  return found

/-- Parameters after `for`, written in their order. -/
def binderRule (g : Rules) : Rule Unit := do
  eatWord "for"
  let found ← angledParameters (boundParameter g)
  let params := found.params.flatMap fun p => p.declared ++ p.fallback ++ p.comma
  write (found.opening ++ params ++ found.closing)

/-- Whether `<` opens generic parameters at these trees, and not a path through a type. -/
def opensGenerics (ts : List Tree) : Bool :=
  let at_ (n : Nat) (p : Probe) : Bool := p.test (skip n ts)
  let goesOn := at_ 2 (op ">") || at_ 2 (op ",") || (at_ 2 (op ":") && !at_ 2 (op "::")) || at_ 2 (op "=")
  at_ 0 (op "<") &&
    (at_ 1 (op ">") || at_ 1 (op "#") || ((at_ 1 lifetime || at_ 1 name) && goesOn) || at_ 1 (kw "const"))

def peekGenerics : Rule Bool := do return opensGenerics (← trees)

/-! ## Conditions -/

def predicate (g : Rules) : Rule Unit := do
  if (← peek lifetime) && (← peek2 (op ":")) then
    eatLifetime
    eatOp ":"
    loop do
      if (← atEnd) || (← peekAny [brace, op ",", op ";", op ":", op "="]) then return false
      eatLifetime
      eatOp? "+"
  else
    let _ ← binder? g
    let _ ← g.type true
    eatOp ":"
    boundsUntil (bound g false true) do
      return (← atEnd) || (← peekAny [brace, op ",", op ";", op "="]) ||
        ((← peek (op ":")) && !(← peek (op "::")))

/-- A `where` clause. -/
def whereClause (g : Rules) : Rule Where := do
  let keyword ← held (eatWord "where")
  if ← peekGenerics then
    complain "generic parameters on `where` clauses are reserved for future use"
  let found ← iterate [] fun found => do
    if (← atEnd) || (← peekAny [brace, op ",", op ";", op "="]) ||
        ((← peek (op ":")) && !(← peek (op "::"))) then
      return .done found
    let text ← held (predicate g)
    if ← peek (op ",") then return .again (⟨text, ← held (eatOp ",")⟩ :: found)
    else return .done (⟨text, []⟩ :: found)
  let clause : Where := { keyword, predicates := found.reverse }
  write clause.text
  return clause

def whereClause? (g : Rules) : Rule (Option Where) := do
  if ← peek (kw "where") then return some (← whereClause g) else return none

end FetchKit.Grammar
