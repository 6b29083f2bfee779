import FetchKit.Grammar.Statement

/-! # Items -/

namespace FetchKit.Grammar

open FetchKit.Source Rule

/-! ## Parts of items -/

/-- `pub`, maybe with a scope in parentheses. Gives whether it is there. -/
def visibility : Rule Bool := do
  if ← peek (kw "pub") then
    eatWord "pub"
    match ← trees with
    | .group .paren (.ident i :: more) _ :: _ =>
      if i.isWord "crate" || i.isWord "self" || i.isWord "super" then
        if more.isEmpty then
          let _ ← eatGroup
      else if i.isWord "in" then
        within .paren do
          eatWord "in"
          let _ ← plainPath
    | _ => pure ()
    return true
  else return false

/-- Bounds joined by `+` up to a place where `stop` holds; there must be a `+` between two. -/
def boundsTo (g : Rules) (allowConst : Bool) (stop : Rule Bool) : Rule Unit :=
  loop do
    if ← stop then return false
    let _ ← bound g false allowConst
    if ← stop then return false
    eatOp "+"
    return true

/-! ## Functions -/

/-- Whether a function starts here. `safe` is a word of its own only where it may stand. -/
def peekSignature (allowSafe : Bool) : Rule Bool :=
  wouldRead do
    let _ ← eatWord? "const"
    let _ ← eatWord? "async"
    if allowSafe && (← peek (kw "safe")) then eatWord "safe"
    else
      let _ ← eatWord? "unsafe"
    abi?
    unless ← peek (kw "fn") do fail default

/-- `self` as an argument, as in `&'a mut self` or `self: T`. -/
def receiver (g : Rules) : Rule Unit := do
  let borrowed ← eatOp? "&"
  if borrowed then
    let _ ← eatLifetime?
  let _ ← eatWord? "mut"
  eatWord "self"
  if ← peek (op "::") then unmet [op ":"]
  if !borrowed then
    if ← eatOp? ":" then
      let _ ← g.type true

/-- What an argument turned out to be. -/
inductive ArgumentKind where
  | receiver
  | typed
  | variadic
  deriving DecidableEq

def argument (g : Rules) : Rule ArgumentKind := do
  if (← attempt (receiver g)).isSome then return .receiver
  if (← peek name) && (← peek2 (op "<")) then
    write ([word "_"] ++ operator ":")
    let _ ← g.type true
    return .typed
  let _ ← g.pattern
  eatOp ":"
  if ← eatOp? "..." then return .variadic
  let _ ← g.type true
  return .typed

/-- How many arguments came before, and whether `self` is among them. -/
structure Arity where
  count : Nat := 0
  hasReceiver : Bool := false

def arguments (g : Rules) : Rule Unit := do
  let _ ← iterate ({} : Arity) fun seen => do
    if ← atEnd then return .done seen
    let _ ← outerAttributes g
    let kind ← if ← eatOp? "..." then pure .variadic else argument g
    match kind with
    | .variadic =>
      unless ← atEnd do eatOp ","
      return .done seen
    | .receiver =>
      if seen.hasReceiver then fail (.rule "unexpected second method receiver" false)
      if seen.count != 0 then fail (.rule "unexpected method receiver" false)
    | .typed => pure ()
    if ← atEnd then return .done seen
    eatOp ","
    return .again { count := seen.count + 1, hasReceiver := seen.hasReceiver || kind = .receiver }

/-- What a function declares before its body. -/
structure Signature where
  isSafe : Bool
  isAsync : Bool
  ident : Ident
  generic : Bool
  inputs : List Tree
  output : List Tree

def signature (g : Rules) (allowSafe : Bool) : Rule Signature := do
  let _ ← eatWord? "const"
  let isAsync ← eatWord? "async"
  let isSafe := allowSafe && (← peek (kw "safe"))
  if isSafe then eatWord "safe"
  else
    let _ ← eatWord? "unsafe"
  abi?
  eatWord "fn"
  let ident ← eatName
  let declared ← generics g
  let ((_, missed), inputs) ← capture (enter .paren (arguments g))
  let (_, output) ← capture (returnType g true)
  let _ ← whereClause? g
  leave missed
  return { isSafe, isAsync, ident, generic := !declared.params.isEmpty, inputs, output }

/-! ## Declarations of data -/

def namedFields (fields : Rule Unit) : Rule Unit := do
  let _ ← within .brace (terminated fields)

/-- A field with a name. One named `_` may hold a struct or union of its own, kept as it stood. -/
def namedField (g : Rules) : Rule Unit := do
  let _ ← outerAttributes g
  let _ ← visibility
  let unnamed ← peek (kw "_")
  if unnamed then eatWord "_"
  else
    let _ ← eatName
  eatOp ":"
  if unnamed && ((← peek (kw "struct")) || ((← peek (kw "union")) && (← peek2 brace))) then
    asWritten do
      let _ ← eatAnyIdent
      g.fields
  else
    let _ ← g.type true

def fieldsRule (g : Rules) : Rule Unit := namedFields (namedField g)

def tupleFields (g : Rules) : Rule Unit := do
  let _ ← within .paren <| terminated do
    let _ ← outerAttributes g
    let _ ← visibility
    g.type true

/-- A variant. Its visibility is not kept. -/
def variant (g : Rules) : Rule Unit := do
  let _ ← outerAttributes g
  let _ ← held visibility
  let _ ← eatName
  if ← peek brace then fieldsRule g
  else if ← peek paren then tupleFields g
  if ← eatOp? "=" then
    let _ ← g.expr true

/-- A struct after its generics. Gives its conditions. -/
def structBody (g : Rules) : Rule (Option Where) := do
  if ← peek (kw "where") then
    let conditions ← whereClause g
    if ← peek brace then fieldsRule g
    else if ← peek (op ";") then eatOp ";"
    else unmet [brace, op ";"]
    return some conditions
  else if ← peek paren then
    tupleFields g
    if ← peek (kw "where") then
      let conditions ← whereClause g
      unless ← eatOp? ";" do unmet [op ";"]
      return some conditions
    else
      unless ← eatOp? ";" do unmet [kw "where", op ";"]
      return none
  else
    if ← peek brace then fieldsRule g
    else if ← peek (op ";") then eatOp ";"
    else unmet [kw "where", paren, brace, op ";"]
    return none

def enumBody (g : Rules) : Rule (Option Where) := do
  let conditions ← whereClause? g
  let _ ← within .brace (terminated (variant g))
  return conditions

def unionBody (g : Rules) : Rule (Option Where) := do
  let conditions ← whereClause? g
  fieldsRule g
  return conditions

/-- A type with its keyword, name, generics and body. -/
def dataType (g : Rules) (keyword : String) (body : Rule (Option Where)) (attributes : List Attribute) :
    Rule DataType := do
  eatWord keyword
  let ident ← eatName
  let generics ← generics g
  return { attributes, ident, generics, conditions := ← body }

/-! ## Other items -/

/-- A tree of imports. Gives whether a part in braces starts at the root. -/
def importsRule (g : Rules) (allowRoot : Bool) : Rule Bool := do
  let words := [name, kw "self", kw "super", kw "crate", kw "try"]
  if ← peekAny words then
    let _ ← eatAnyIdent
    if ← peek (op "::") then
      eatOp "::"
      g.imports false
    else if ← eatWord? "as" then
      if ← peek name then
        let _ ← eatName
      else if ← peek (kw "_") then eatWord "_"
      else complain "expected identifier or underscore"
      return false
    else return false
  else if ← peek (op "*") then
    eatOp "*"
    return false
  else if ← peek brace then
    let rooted ← within .brace <| terminated do
      let root ← if allowRoot then eatOp? "::" else pure false
      return root || (← g.imports (allowRoot && !root))
    return rooted.any id
  else unmet (words ++ [op "*", brace])

/-- Imports. Gives whether a part in braces starts at the root. -/
def useItem (g : Rules) : Rule Bool := do
  eatWord "use"
  let root ← eatOp? "::"
  let rooted ← g.imports (!root)
  eatOp ";"
  return rooted

def externCrate : Rule Ident := do
  eatWord "extern"
  eatWord "crate"
  let i ← if ← peek (kw "self") then eatAnyIdent else eatName
  if ← eatWord? "as" then
    if ← peek (kw "_") then eatWord "_"
    else
      let _ ← eatName
  eatOp ";"
  return i

/-- A call of its own among items. Gives the name it may declare. -/
def callItem : Rule (Option Ident) := do
  let _ ← plainPath
  eatOp "!"
  let i ←
    if ← peek (kw "try") then pure (some (← eatAnyIdent))
    else if ← peek name then pure (some (← eatName))
    else pure none
  let d ← eatGroup
  if d != .brace then eatOp ";"
  return i

/-- A call of its own among members. -/
def callMember : Rule Unit := do
  let _ ← plainPath
  let d ← callAfterPath
  if d != .brace then eatOp ";"

/-- Where the conditions of a type alias may stand. -/
inductive ConditionsPlace where
  | beforeEq
  | afterEq
  | both
  deriving DecidableEq

/-- What a type alias declares. -/
structure TypeAlias where
  ident : Ident
  /-- Whether a colon follows its generics. -/
  bounded : Bool
  defined : Bool

/-- A type alias. A colon that no bound follows is not kept. -/
def typeAlias (g : Rules) (place : ConditionsPlace) : Rule TypeAlias := do
  eatWord "type"
  let ident ← eatName
  let _ ← generics g
  let bounded ← peek (op ":")
  write (← boundsAfterColon (boundsTo g true (peekAny [kw "where", op "=", op ";"])))
  let early ← if place = .afterEq then pure none else whereClause? g
  let defined ← eatOp? "="
  if defined then
    let _ ← g.type true
  if place != .beforeEq && early.isNone then
    let _ ← whereClause? g
  eatOp ";"
  return { ident, bounded, defined }

/-- What a constant declares. -/
structure Constant where
  ident : Ident
  /-- Whether it has generics or conditions. -/
  generic : Bool
  defined : Bool

/-- A constant after its keyword. -/
def constantAfter (g : Rules) : Rule Constant := do
  let ident ← if ← peekAny [name, kw "_"] then eatAnyIdent else unmet [name, kw "_"]
  let declared ← generics g
  eatOp ":"
  let _ ← g.type true
  let defined ← eatOp? "="
  if defined then
    let _ ← g.expr true
  let conditions ← whereClause? g
  eatOp ";"
  return { ident, generic := !declared.opening.isEmpty || conditions.isSome, defined }

/-- A static. Gives its name, when it has a type and a value. -/
def staticItem (g : Rules) : Rule (Option Ident) := do
  eatWord "static"
  let _ ← eatWord? "mut"
  let i ← eatName
  if ← eatOp? "=" then
    let _ ← g.expr true
    eatOp ";"
    return none
  eatOp ":"
  let _ ← g.type true
  if ← eatOp? ";" then return none
  eatOp "="
  let _ ← g.expr true
  eatOp ";"
  return some i

def macroItem : Rule Unit := do
  eatWord "macro"
  let _ ← eatName
  if ← peek paren then
    let _ ← eatGroup
    unless ← peek brace do unmet [brace]
  else unless ← peek brace do unmet [paren, brace]
  let _ ← eatGroup

/-! ## Members -/

/-- Words that start a call among items or members. -/
def callStarts : List Probe := [name, kw "self", kw "super", kw "crate", op "::"]

/-- A function of a trait. -/
def traitMethod (g : Rules) : Rule Unit := do
  let _ ← signature g false
  if ← peek brace then bracedBlock g
  else if ← peek (op ";") then eatOp ";"
  else unmet [brace, op ";"]

/-- A member of a trait. Gives whether it is kept as it stood. -/
def traitMemberAfter (g : Rules) (marked : Bool) : Rule Bool := do
  let starts := [kw "fn", kw "const", kw "type"]
  if (← peek (kw "fn")) || (← peekSignature false) then
    traitMethod g
    return marked
  else if ← peek (kw "const") then
    if (← peek2 name) || (← peek2 (kw "_")) then
      eatWord "const"
      return marked || (← constantAfter g).generic
    else if (← peek2 (kw "async")) || (← peek2 (kw "unsafe")) || (← peek2 (kw "extern")) then
      traitMethod g
      return marked
    else
      eatWord "const"
      unmet [name, kw "_", kw "async", kw "unsafe", kw "extern", kw "fn"]
  else if ← peek (kw "type") then
    let _ ← typeAlias g .afterEq
    return marked
  else if !marked then
    if ← peekAny callStarts then callMember else unmet (starts ++ callStarts)
    return false
  else unmet starts

/-- A member of a trait. One with a visibility or `default` is kept as it stood. -/
def traitMember (g : Rules) : Rule Unit :=
  keeping do
    let _ ← outerAttributes g
    let visible ← visibility
    let preset ← eatWord? "default"
    return ⟨(), ← traitMemberAfter g (visible || preset)⟩

/-- A function of an `impl` block. One without a body is kept as it stood. -/
def implMethod (g : Rules) : Rule (Kept Member) := do
  let (_, visible) ← capture visibility
  let _ ← eatWord? "default"
  let s ← signature g false
  if ← eatOp? ";" then return ⟨.other, true⟩
  let (_, body) ← capture (bracedBlock g)
  let m : Method :=
    { visible, isAsync := s.isAsync, ident := s.ident, generic := s.generic, inputs := s.inputs,
      output := s.output, body }
  return ⟨.method m, false⟩

/-- A member of an `impl` block after its attributes. -/
def implMemberAfter (g : Rules) : Rule (Kept Member) := do
  let start ← get
  let visible ← visibility
  let preset := (← peek (kw "default")) && !(← peek2 (op "!"))
  if preset then eatWord "default"
  let starts := (if preset then [] else [kw "default"]) ++ [kw "fn", kw "const", kw "type"]
  if (← peek (kw "fn")) || (← peekSignature false) then
    set start
    implMethod g
  else if ← peek (kw "const") then
    eatWord "const"
    let c ← constantAfter g
    return ⟨.other, c.generic || !c.defined⟩
  else if ← peek (kw "type") then
    let t ← typeAlias g .afterEq
    return ⟨.other, t.bounded || !t.defined⟩
  else if !visible && !preset then
    if ← peekAny callStarts then callMember else unmet (starts ++ callStarts)
    return ⟨.other, false⟩
  else unmet starts

def implMember (g : Rules) : Rule Member :=
  keeping do
    let _ ← outerAttributes g
    implMemberAfter g

/-- A function without a body of its own. -/
def foreignFunction (g : Rules) : Rule (Kept Unit) := do
  let s ← signature g true
  if ← peek brace then
    bracedBlock g
    return ⟨(), true⟩
  else
    eatOp ";"
    return ⟨(), s.isSafe⟩

/-- A static without a value of its own. -/
def foreignStatic (g : Rules) : Rule (Kept Unit) := do
  let marked ← if ← eatWord? "unsafe" then pure true else eatWord? "safe"
  eatWord "static"
  let _ ← eatWord? "mut"
  let _ ← eatName
  eatOp ":"
  let _ ← g.type true
  let defined ← eatOp? "="
  if defined then
    let _ ← g.expr true
  eatOp ";"
  return ⟨(), marked || defined⟩

/-- A member of a foreign block after its attributes. One that gives more than a declaration is kept
as it stood. -/
def foreignMemberAfter (g : Rules) : Rule (Kept Unit) := do
  let visible ← visibility
  let starts := [kw "fn", kw "static", kw "type"]
  if (← peek (kw "fn")) || (← peekSignature true) then foreignFunction g
  else if (← peek (kw "static")) ||
      ((← peekAny [kw "unsafe", kw "safe"]) && (← peek2 (kw "static"))) then
    foreignStatic g
  else if ← peek (kw "type") then
    let t ← typeAlias g .both
    return ⟨(), t.bounded || t.defined⟩
  else if !visible then
    if ← peekAny callStarts then callMember else unmet (starts ++ callStarts)
    return ⟨(), false⟩
  else unmet starts

def foreignMember (g : Rules) : Rule Unit :=
  keeping do
    let _ ← outerAttributes g
    foreignMemberAfter g

/-! ## Blocks of items and members -/

/-- Members in braces, with the attributes at the front. -/
def membersIn {α : Type} (g : Rules) (member : Rule α) : Rule (List α) :=
  within .brace do
    let _ ← innerAttributes g
    untilEnd member

/-- An item with its attributes. -/
def wholeItem (g : Rules) : Rule Item := keeping do g.item (← outerAttributes g)

def moduleItem (g : Rules) : Rule Ident := do
  let _ ← eatWord? "unsafe"
  eatWord "mod"
  let i ← if ← peek (kw "try") then eatAnyIdent else eatName
  if ← peek (op ";") then eatOp ";"
  else if ← peek brace then
    let _ ← membersIn g (wholeItem g)
  else unmet [op ";", brace]
  return i

def foreignBlock (g : Rules) : Rule Unit := do
  let _ ← eatWord? "unsafe"
  abi
  let _ ← membersIn g (foreignMember g)

/-- The rest of a trait after its generics. A colon that no bound follows is not kept. -/
def traitBody (g : Rules) : Rule Unit := do
  write (← boundsAfterColon (boundsTo g true (peekAny [kw "where", brace])))
  let _ ← whereClause? g
  let _ ← membersIn g (traitMember g)

def traitItem (g : Rules) : Rule Item := do
  let _ ← eatWord? "unsafe"
  let _ ← eatWord? "auto"
  eatWord "trait"
  let i ← eatName
  let _ ← generics g
  traitBody g
  return .trait i

def traitOrAlias (g : Rules) : Rule Item := do
  eatWord "trait"
  let i ← eatName
  let _ ← generics g
  if ← peekAny [brace, op ":", kw "where"] then
    traitBody g
    return .trait i
  else if ← peek (op "=") then
    eatOp "="
    boundsTo g false (peekAny [kw "where", op ";"])
    let _ ← whereClause? g
    eatOp ";"
    return .named i
  else unmet [brace, op ":", kw "where", op "="]

/-- An `impl` block. One with a visibility or `const`, or for something that no path names, is kept
as it stood and declares nothing. -/
def implItem (g : Rules) : Rule (Kept Item) := do
  let visible ← visibility
  let _ ← eatWord? "default"
  let _ ← eatWord? "unsafe"
  eatWord "impl"
  let declared ← if ← peekGenerics then generics g else pure {}
  let constant := (← peek (kw "const")) || ((← peek (op "?")) && (← peek2 (kw "const")))
  if constant then
    let _ ← eatOp? "?"
    eatWord "const"
  let negative := (← peek (op "!")) && !(← peek2 brace)
  if negative then eatOp "!"
  let (shape, first) ← capture (g.type true)
  let forTrait ← eatWord? "for"
  let (_, second) ← capture do
    if forTrait then
      let _ ← g.type true
  if !forTrait && negative then fail (.rule "inherent impls cannot be negative" false)
  let _ ← whereClause? g
  let members ← membersIn g (implMember g)
  let namesTrait :=
    match shape with
    | .path _ => true
    | _ => false
  if visible || constant || (forTrait && !namesTrait) then return ⟨.unnamed, true⟩
  let block : ImplBlock :=
    { generics := declared, forTrait, selfType := if forTrait then second else first, members }
  return ⟨.impl block, false⟩

/-! ## Any item -/

/-- An item that is written as the grammar sets it. -/
def Item.plain (i : Item) : Kept Item := ⟨i, false⟩

/-- An item that is kept as it stood, and declares nothing. -/
def Item.verbatim : Kept Item := ⟨.unnamed, true⟩

def functionItem (g : Rules) : Rule (Kept Item) := do
  let _ ← visibility
  let s ← signature g false
  if ← eatOp? ";" then return Item.verbatim
  bracedBlock g
  return (Item.named s.ident).plain

/-- An item that starts with `extern`, read from `start`. -/
def foreignItem (g : Rules) (start : Cursor) : Rule Item := do
  eatWord "extern"
  let block : Rule Item := do
    set start
    foreignBlock g
    return .unnamed
  if ← peek (kw "crate") then
    set start
    let _ ← visibility
    return .named (← externCrate)
  else if ← peek brace then block
  else if ← peek string then
    eatLiteral
    if ← peek brace then block else unmet [brace]
  else unmet [kw "crate", brace, string]

/-- An item that starts with `unsafe`, read from `start`. -/
def unsafeItem (g : Rules) (start : Cursor) : Rule (Kept Item) := do
  eatWord "unsafe"
  if (← peek (kw "trait")) || ((← peek (kw "auto")) && (← peek2 (kw "trait"))) then
    set start
    let _ ← visibility
    return (← traitItem g).plain
  else if ← peek (kw "impl") then
    set start
    implItem g
  else if ← peek (kw "extern") then
    set start
    foreignBlock g
    return Item.unnamed.plain
  else if ← peek (kw "mod") then
    set start
    let _ ← visibility
    return (Item.named (← moduleItem g)).plain
  else unmet [kw "trait", kw "auto", kw "impl", kw "extern", kw "mod"]

def itemRule (g : Rules) (attributes : List Attribute) : Rule (Kept Item) := do
  let start ← get
  let visible ← visibility
  if (← peek (kw "fn")) || (← peekSignature false) then
    set start
    functionItem g
  else if ← peek (kw "extern") then return (← foreignItem g start).plain
  else if ← peek (kw "use") then
    if ← useItem g then return Item.verbatim else return Item.unnamed.plain
  else if ← peek (kw "static") then
    match ← staticItem g with
    | some i => return (Item.named i).plain
    | none => return Item.verbatim
  else if ← peek (kw "const") then
    eatWord "const"
    let c ← constantAfter g
    if c.generic || !c.defined then return Item.verbatim else return (Item.named c.ident).plain
  else if ← peek (kw "unsafe") then unsafeItem g start
  else if ← peek (kw "mod") then return (Item.named (← moduleItem g)).plain
  else if ← peek (kw "type") then
    let t ← typeAlias g .beforeEq
    if t.bounded || !t.defined then return Item.verbatim else return (Item.named t.ident).plain
  else if ← peek (kw "struct") then
    return (Item.struct (← dataType g "struct" (structBody g) attributes)).plain
  else if ← peek (kw "enum") then
    return (Item.enum (← dataType g "enum" (enumBody g) attributes)).plain
  else if (← peek (kw "union")) && (← peek2 name) then
    return (Item.union (← dataType g "union" (unionBody g) attributes)).plain
  else if ← peek (kw "trait") then return (← traitOrAlias g).plain
  else if (← peek (kw "auto")) && (← peek2 (kw "trait")) then return (← traitItem g).plain
  else if (← peek (kw "impl")) || ((← peek (kw "default")) && !(← peek2 (op "!"))) then
    set start
    implItem g
  else if ← peek (kw "macro") then
    macroItem
    return Item.verbatim
  else
    let starts := ["fn", "extern", "use", "static", "const", "unsafe", "mod", "type", "struct", "enum",
      "union", "trait", "auto", "impl", "default", "macro"].map kw
    if visible then unmet starts
    else if ← peekAny callStarts then
      match ← callItem with
      | some i => return (Item.named i).plain
      | none => return Item.unnamed.plain
    else unmet (starts ++ callStarts)

/-! ## The record of rules -/

/-- The rules for tokens that nest at most this deep. -/
def rules : Nat → Rules
  | 0 => .exhausted
  | n + 1 =>
    let g := rules n
    { type := fun plus => typeRule g plus
      angle := fun c => angleRule g c
      pattern := fun c => patternRule g c
      expr := fun allowStruct => exprRule g allowStruct
      bounded := fun c => boundedRule g c
      unary := fun allowStruct => unaryRule g allowStruct
      operators := fun first allowStruct base => operatorsRule g first allowStruct base
      statements := fun c => statementsRule g c
      item := fun attributes => itemRule g attributes
      imports := fun allowRoot => importsRule g allowRoot
      binder := fun c => binderRule g c
      fields := fun c => fieldsRule g c }

/-- Each level of nesting reads a tree, or is one of a few that start at the same tree. -/
def depthFor (ts : List Tree) : Nat := 4 * sizeOfTrees ts + 8

/-- A rule of the level that the trees at hand need. -/
def atDepth {α : Type} (r : Nat → Rule α) : Rule α := fun c => r (depthFor c.rest) c

/-- The rules for trees of any depth. -/
def grammar : Rules where
  type plus := atDepth fun n => (rules n).type plus
  angle := atDepth fun n => (rules n).angle
  pattern := atDepth fun n => (rules n).pattern
  expr allowStruct := atDepth fun n => (rules n).expr allowStruct
  bounded := atDepth fun n => (rules n).bounded
  unary allowStruct := atDepth fun n => (rules n).unary allowStruct
  operators first allowStruct base := atDepth fun n => (rules n).operators first allowStruct base
  statements := atDepth fun n => (rules n).statements
  item attributes := atDepth fun n => (rules n).item attributes
  imports allowRoot := atDepth fun n => (rules n).imports allowRoot
  binder := atDepth fun n => (rules n).binder
  fields := atDepth fun n => (rules n).fields

/-- Reads the trees as one item. -/
def Item.parse (ts : List Tree) : Except Complaint Item := (wholeItem grammar).run ts

/-- A struct, enum or union, and which of them. -/
def dataTypeRule (g : Rules) : Rule DataType := do
  let attributes ← outerAttributes g
  let _ ← visibility
  if ← peek (kw "struct") then dataType g "struct" (structBody g) attributes
  else if ← peek (kw "enum") then dataType g "enum" (enumBody g) attributes
  else if ← peek (kw "union") then dataType g "union" (unionBody g) attributes
  else unmet [kw "struct", kw "enum", kw "union"]

/-- Reads the trees as one struct, enum or union. -/
def DataType.parse (ts : List Tree) : Except Complaint DataType := (dataTypeRule grammar).run ts

/-- A path with its arguments, as in a type. -/
def Path.parse (ts : List Tree) : Except Complaint Path := (path grammar false).run ts

/-- Paths with commas between them, each with the trees it was read from. -/
def pathList (g : Rules) : Rule (List (Path × List Tree)) := terminated (capture (path g false))

def Path.parseList (ts : List Tree) : Except Complaint (List (Path × List Tree)) :=
  (pathList grammar).run ts

end FetchKit.Grammar
