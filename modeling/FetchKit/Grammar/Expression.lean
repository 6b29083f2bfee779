import FetchKit.Grammar.Pattern

/-!
# Expressions

An operand is read first, with what may follow it directly; binary operators then join operands by
their precedence.
-/

namespace FetchKit.Grammar

open FetchKit.Source Rule

/-! ## Operators and their precedence -/

namespace Precedence

def lowest : Nat := 0
def assign : Nat := 1
def range : Nat := 2
def compare : Nat := 6
def cast : Nat := 13

end Precedence

/-- Each operator with its precedence; a longer one before those it starts with. -/
def binaryOperators : List (String × Nat) :=
  [("+=", 1), ("-=", 1), ("*=", 1), ("/=", 1), ("%=", 1), ("^=", 1), ("&=", 1), ("|=", 1),
   ("<<=", 1), (">>=", 1), ("&&", 4), ("||", 3), ("<<", 10), (">>", 10), ("==", 6), ("<=", 6),
   ("!=", 6), (">=", 6), ("+", 11), ("-", 11), ("*", 12), ("/", 12), ("%", 12), ("^", 8), ("&", 9),
   ("|", 7), ("<", 6), (">", 6)]

def peekOperator : Rule (Option (String × Nat)) := do
  let ts ← trees
  return binaryOperators.find? fun o => (op o.1).test ts

/-- The precedence of what comes next. -/
def nextPrecedence : Rule Nat := do
  match ← peekOperator with
  | some (_, p) => return p
  | none =>
    if (← peek (op "=")) && !(← peek (op "=>")) then return Precedence.assign
    else if ← peek (op "..") then return Precedence.range
    else if ← peek (kw "as") then return Precedence.cast
    else return Precedence.lowest

/-- The right operand of an operator, with all that binds tighter. -/
def rightOperand (g : Rules) (allowStruct : Bool) (p : Nat) : Rule Unit := do
  let first ← g.unary allowStruct
  let _ ← iterate first fun operand => do
    let next ← nextPrecedence
    if p < next || (next == p && p == Precedence.assign) then
      let before := (← trees).length
      let operand ← g.operators operand allowStruct next
      if (← trees).length = before then return .done operand else return .again operand
    else return .done operand

/-- Whether a range without an end stops here. -/
def rangeStops (allowStruct : Bool) : Rule Bool := do
  return (← atEnd) ||
    (← peekAny [op ",", op ";", op "?", op "=>", op "=", op "+", op "/", op "%", op "^", op ">",
      op "<=", op "!=", op "-=", op "*=", op "&=", op "|=", op "<<=", kw "as"]) ||
    ((← peek (op ".")) && !(← peek (op ".."))) || (!allowStruct && (← peek brace))

/-- The limits of a range and its end. -/
def rangeTail (g : Rules) (allowStruct : Bool) : Rule Unit := do
  let l ← limits
  if l = .halfOpen && (← rangeStops allowStruct) then return ()
  rightOperand g allowStruct Precedence.range

/-- What may not follow a cast. -/
def checkCast : Rule Unit := do
  let followed (what : String) : Rule Unit := complain ("casts cannot be followed by " ++ what)
  if (← peek (op ".")) && !(← peek (op "..")) then
    if ← peek2 (kw "await") then followed "`.await`"
    else if (← peek2 name) && ((← peek3 paren) || (← peek3 (op "::"))) then followed "a method call"
    else followed "a field access"
  else if ← peek (op "?") then followed "`?`"
  else if ← peek bracket then followed "indexing"
  else if ← peek paren then followed "a function call"

def operatorsRule (g : Rules) (first : ExprShape) (allowStruct : Bool) (base : Nat) : Rule ExprShape :=
  iterate first fun operand => do
    if operand == .range then return .done operand
    match ← peekOperator with
    | some (o, p) =>
      if p < base then return .done operand
      if p = Precedence.compare && operand == .comparison then
        complain "comparison operators cannot be chained"
      eatOp o
      rightOperand g allowStruct p
      return .again (if p = Precedence.compare then .comparison else .other)
    | none =>
      if base ≤ Precedence.assign && (← peek (op "=")) && !(← peek (op "=>")) then
        eatOp "="
        rightOperand g allowStruct Precedence.assign
        return .again .other
      else if base ≤ Precedence.range && (← peek (op "..")) then
        rangeTail g allowStruct
        return .again .range
      else if base ≤ Precedence.cast && (← peek (kw "as")) then
        eatWord "as"
        let _ ← g.type false
        checkCast
        return .again .other
      else return .done operand

/-! ## What may follow an operand -/

def callArguments (g : Rules) : Rule Unit := do
  let _ ← within .paren (terminated (g.expr true))

/-- The places written as one number with points, as in `x.0.1`. Gives whether a member is still to
come. -/
def floatMembers (negative : Bool) (text : String) (span : Span) (rest : List Tree) : Rule Bool := do
  let trailing := text.toList.getLast? == some '.'
  let parts := text.toList.splitOn '.'
  let parts := if trailing then parts.dropLast else parts
  let places ← parts.mapM fun part => tupleIndex negative (String.ofList part) span
  advance rest (places.intersperse (.punct '.' false span))
  if trailing then write (operator ".")
  return trailing

/-- What stands after a point. -/
def memberTail (g : Rules) : Rule Unit := do
  eatOp "."
  match ← trees with
  | .literal text span :: ts =>
    if isNumber text && (integer? text).isNone then
      unless ← floatMembers false text span ts do return ()
  | .punct '-' _ _ :: .literal text span :: ts =>
    if isNumber text && (integer? text).isNone then
      unless ← floatMembers true text span ts do return ()
  | _ => pure ()
  if ← eatWord? "await" then return ()
  match ← memberKey with
  | .index => return ()
  | .name _ =>
    let turbofish ← peek (op "::")
    if turbofish then
      eatOp "::"
      g.angle
    if turbofish || (← peek paren) then callArguments g

def trailers (g : Rules) (first : ExprShape) : Rule ExprShape :=
  iterate first fun operand => do
    if ← peek paren then
      callArguments g
      return .again .other
    else if (← peek (op ".")) && !(← peek (op "..")) && operand != .range then
      memberTail g
      return .again .other
    else if ← peek bracket then
      let _ ← within .bracket (g.expr true)
      return .again .other
    else if (← peek (op "?")) && operand != .range then
      eatOp "?"
      return .again .other
    else return .done operand

/-! ## Operands -/

/-- Whether an expression can start here. -/
def canBegin : Rule Bool := do
  let unless2 (a : String) (not : List String) : Rule Bool := do
    return (← peek (op a)) && !(← peekAny (not.map op))
  return ((← peek anyIdent) && !(← peek (kw "as"))) ||
    (← peekAny [paren, bracket, brace, literal, op "..", op "::", lifetime, op "#"]) ||
    (← unless2 "!" ["!="]) || (← unless2 "-" ["-=", "->"]) || (← unless2 "*" ["*="]) ||
    (← unless2 "|" ["|="]) || (← unless2 "&" ["&="]) || (← unless2 "<" ["<=", "<<="])

def fieldValue (g : Rules) : Rule Unit := do
  let _ ← outerAttributes g
  match ← memberKey with
  | .index =>
    eatOp ":"
    let _ ← g.expr true
  | .name _ =>
    if ← eatOp? ":" then
      let _ ← g.expr true

def structFields (g : Rules) : Rule Unit :=
  within .brace do
    loop do
      if ← atEnd then return false
      if ← peek (op "..") then
        eatOp ".."
        unless ← atEnd do
          let _ ← g.expr true
        return false
      fieldValue g
      if ← atEnd then return false
      eatOp ","
      return true

def pathOperand (g : Rules) (allowStruct : Bool) : Rule ExprShape := do
  let (qualified, p) ← anyPath g true
  if !qualified && (← peek (op "!")) && !(← peek (op "!=")) && p.isPlain then
    return .call (← callAfterPath)
  if allowStruct && (← peek brace) then structFields g
  return .other

/-- Attributes and what they stand before. A range after attributes is written in parentheses. -/
def attributed (attributes text : List Tree) (isRange : Bool) : List Tree :=
  if isRange && !attributes.isEmpty then attributes ++ [group .paren text] else attributes ++ text

/-- An argument of a closure. Attributes are not kept before a pattern that is kept as it stood. -/
def closureArgument (g : Rules) : Rule Unit := do
  let attributes ← held (outerAttributes g)
  let (shape, text) ← withhold g.pattern
  if ← peek (op ":") then
    write (attributes ++ text)
    eatOp ":"
    let _ ← g.type true
  else if shape == .verbatim then write text
  else write (attributed attributes text (shape == .range || shape == .openRange))

def closure (g : Rules) (allowStruct : Bool) : Rule Unit := do
  let _ ← binder? g
  let _ ← eatWord? "const"
  let _ ← eatWord? "static"
  let _ ← eatWord? "async"
  let _ ← eatWord? "move"
  eatOp "|"
  loop do
    if ← peek (op "|") then return false
    closureArgument g
    if ← peek (op "|") then return false
    eatOp ","
    return true
  eatOp "|"
  if ← eatOp? "->" then
    let _ ← g.type true
    plainBlock g
  else
    let _ ← g.expr allowStruct

def parenOrTuple (g : Rules) : Rule Unit := do
  let _ ← within .paren (terminated (g.expr true))

def arrayOrRepeat (g : Rules) : Rule Unit :=
  within .bracket do
    if ← atEnd then return ()
    let _ ← g.expr true
    if ← atEnd then return ()
    if ← peek (op ",") then
      eatOp ","
      let _ ← terminated (g.expr true)
    else if ← peek (op ";") then
      eatOp ";"
      let _ ← g.expr true
    else complain "expected `,` or `;`"

def letOperand (g : Rules) (allowStruct : Bool) : Rule Unit := do
  eatWord "let"
  let _ ← alternatives g
  eatOp "="
  let first ← g.unary allowStruct
  let _ ← g.operators first allowStruct Precedence.compare

def ifOperand (g : Rules) : Rule Unit :=
  loop do
    eatWord "if"
    let _ ← g.expr false
    plainBlock g
    if ← peek (kw "else") then
      eatWord "else"
      if ← peek (kw "if") then return true
      else if ← peek brace then
        plainBlock g
        return false
      else unmet [kw "if", brace]
    else return false

def whileOperand (g : Rules) : Rule Unit := do
  eatWord "while"
  let _ ← g.expr false
  bracedBlock g

def forOperand (g : Rules) : Rule Unit := do
  eatWord "for"
  let _ ← alternatives g
  eatWord "in"
  let _ ← g.expr false
  bracedBlock g

def loopOperand (g : Rules) : Rule Unit := do
  eatWord "loop"
  bracedBlock g

def labelled (g : Rules) : Rule Unit := do
  eatLifetime
  eatOp ":"
  if ← peek (kw "while") then whileOperand g
  else if ← peek (kw "for") then forOperand g
  else if ← peek (kw "loop") then loopOperand g
  else if ← peek brace then bracedBlock g
  else complain "expected loop or block expression"

def arm (g : Rules) : Rule Unit := do
  let _ ← outerAttributes g
  let _ ← alternatives g
  if ← eatWord? "if" then
    let _ ← g.expr true
  eatOp "=>"
  let shape ← g.bounded
  if shape != .block && !(← atEnd) then eatOp ","
  else
    let _ ← eatOp? ","

def matchOperand (g : Rules) : Rule Unit := do
  eatWord "match"
  let _ ← g.expr false
  within .brace do
    let _ ← innerAttributes g
    let _ ← untilEnd (arm g)

def breakOperand (g : Rules) (allowStruct : Bool) : Rule Unit := do
  eatWord "break"
  if (← peek lifetime) && (← peek2 (op ":")) then
    let _ ← g.expr true
    fail (.rule "parentheses required" false)
  let _ ← eatLifetime?
  if (← canBegin) && (allowStruct || !(← peek brace)) then
    let _ ← g.expr true

/-- Whether `for` starts the parameters of a closure here. -/
def peekBinder : Rule Bool := do
  return (← peek (kw "for")) && opensGenerics (skip 1 (← trees))

def peekClosure : Rule Bool := do
  return (← peekAny [op "|", kw "move", kw "static"]) || (← peekBinder) ||
    ((← peek (kw "const")) && !(← peek2 brace)) ||
    ((← peek (kw "async")) && ((← peek2 (op "|")) || (← peek2 (kw "move"))))

/-- The rule for an expression that ends in a block, where one starts. -/
def blockLike (g : Rules) : Rule (Option (Rule Unit)) := do
  if ← peek (kw "if") then return some (ifOperand g)
  else if ← peek (kw "while") then return some (whileOperand g)
  else if (← peek (kw "for")) && !(← peekBinder) then return some (forOperand g)
  else if ← peek (kw "loop") then return some (loopOperand g)
  else if ← peek (kw "match") then return some (matchOperand g)
  else if (← peek (kw "try")) && (← peek2 brace) then
    return some (do
      eatWord "try"
      plainBlock g)
  else if ← peek (kw "unsafe") then
    return some (do
      eatWord "unsafe"
      bracedBlock g)
  else if (← peek (kw "const")) && (← peek2 brace) then return some (constBlock g)
  else if ← peek brace then return some (bracedBlock g)
  else if ← peek lifetime then return some (labelled g)
  else return none

/-- An operand without what follows it. -/
def atom (g : Rules) (allowStruct : Bool) : Rule ExprShape := do
  if ← peek literal then
    eatLiteral
    return .other
  else if (← peek (kw "async")) &&
      ((← peek2 brace) || ((← peek2 (kw "move")) && (← peek3 brace))) then
    eatWord "async"
    let _ ← eatWord? "move"
    plainBlock g
    return .other
  else if ← peekClosure then
    closure g allowStruct
    return .other
  else if ← peekBuiltin then
    asWritten builtin
    return .other
  else if (← peekAny [name, op "::", op "<", kw "self", kw "Self", kw "super", kw "crate"]) ||
      ((← peek (kw "try")) && ((← peek2 (op "!")) || (← peek2 (op "::")))) then
    pathOperand g allowStruct
  else if ← peek paren then
    parenOrTuple g
    return .other
  else if ← peek (kw "break") then
    breakOperand g allowStruct
    return .other
  else if ← peek (kw "continue") then
    eatWord "continue"
    let _ ← eatLifetime?
    return .other
  else if ← peek (kw "return") then
    eatWord "return"
    if ← canBegin then
      let _ ← g.expr true
    return .other
  else if ← peek (kw "become") then
    asWritten do
      eatWord "become"
      let _ ← g.expr true
    return .other
  else if ← peek bracket then
    arrayOrRepeat g
    return .other
  else if ← peek (kw "let") then
    letOperand g allowStruct
    return .other
  else if ← peek (kw "yield") then
    eatWord "yield"
    if ← canBegin then
      let _ ← g.expr true
    return .other
  else if ← peek (op "..") then
    rangeTail g allowStruct
    return .range
  else if ← peek (kw "_") then
    eatWord "_"
    return .other
  else
    match ← blockLike g with
    | some rule =>
      rule
      return .block
    | none => complain "expected an expression"

/-- An operand and what follows it directly. -/
def trailed (g : Rules) (attributes : List Attribute) (allowStruct : Bool) : Rule ExprShape := do
  let shape ← trailers g (← atom g allowStruct)
  if !attributes.isEmpty && shape == .range then
    fail (.rule "attributes are not allowed on range expressions starting with `..`" false)
  return shape

/-- Whether an operand starts here that is kept as it stood, and nothing follows it directly. -/
def peekVerbatim : Rule Bool := do
  let after := skip 4 (← trees)
  let followed := [paren, bracket, op "?"].any (·.test after) ||
    ((op ".").test after && !(op "..").test after)
  return (← peek (kw "become")) || ((← peekBuiltin) && !followed)

/-- An operand after its attributes. -/
def unaryAfter (g : Rules) (attributes : List Attribute) (allowStruct : Bool) : Rule ExprShape := do
  if ← peek (op "&") then
    eatOp "&"
    let raw := (← peek (kw "raw")) && ((← peek2 (kw "mut")) || (← peek2 (kw "const")))
    if raw then eatWord "raw"
    let mutable ← eatWord? "mut"
    if raw && !mutable then eatWord "const"
    let _ ← g.unary allowStruct
    return .other
  else if ← peekAny [op "*", op "!", op "-"] then
    if ← peek (op "*") then eatOp "*"
    else if ← peek (op "!") then eatOp "!"
    else eatOp "-"
    let _ ← g.unary allowStruct
    return .other
  else trailed g attributes allowStruct

/-- An operand with the operators before it. One that is kept as it stood is so with its
attributes. -/
def unaryRule (g : Rules) (allowStruct : Bool) : Rule ExprShape :=
  keeping do
    let attributes ← outerAttributes g
    let verbatim ← peekVerbatim
    return ⟨← unaryAfter g attributes allowStruct, verbatim⟩

def exprRule (g : Rules) (allowStruct : Bool) : Rule ExprShape := do
  operatorsRule g (← unaryRule g allowStruct) allowStruct Precedence.lowest

/-- The attributes of a statement or an arm, read and not written. They are not kept before an
operand that is kept as it stood. -/
def leadingAttributes (g : Rules) : Rule (List Attribute × List Tree) := do
  let (attributes, text) ← withhold (outerAttributes g)
  return (attributes, if ← peekVerbatim then [] else text)

/-- After a block the expression of a statement or an arm goes on only by `.` or `?`. -/
def boundedRule (g : Rules) : Rule ExprShape := do
  let (_, attributes) ← leadingAttributes g
  match ← blockLike g with
  | none =>
    let (first, text) ← withhold (unaryRule g true)
    write (attributed attributes text (first == .range))
    operatorsRule g first true Precedence.lowest
  | some block =>
    write attributes
    block
    if ((← peek (op ".")) && !(← peek (op ".."))) || (← peek (op "?")) then
      operatorsRule g (← trailers g .block) true Precedence.lowest
    else return .block

end FetchKit.Grammar
