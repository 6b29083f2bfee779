import FetchKit.Grammar.Rule

/-!
# The rules that need each other

Types, patterns, expressions, statements and items nest in one another. Each rule is written
against a record of the others, and the record is built level by level, one level for each depth
of nesting (`FetchKit.Grammar.Item`).
-/

namespace FetchKit.Grammar

open FetchKit.Source

/-! ## What is kept of a phrase -/

structure Segment where
  ident : Ident
  /-- Whether arguments in angle brackets follow. -/
  hasArguments : Bool := false
  deriving Repr, DecidableEq, Inhabited

structure Path where
  /-- Whether it starts with `::`. -/
  leading : Bool
  segments : List Segment
  deriving Repr, DecidableEq, Inhabited

namespace Path

/-- Names only, without arguments. -/
def isPlain (p : Path) : Bool := p.segments.all (!·.hasArguments)

/-- The one name it consists of. -/
def ident? (p : Path) : Option Ident :=
  match p.leading, p.segments with
  | false, [⟨i, false⟩] => some i
  | _, _ => none

def isWord (p : Path) (w : String) : Bool :=
  match p.ident? with
  | some i => i.isWord w
  | none => false

/-- The name of the last segment, `r#` dropped. -/
def canonicalName (p : Path) : Option String := p.segments.getLast?.map (·.ident.name)

end Path

inductive TypeShape where
  | path (p : Path)
  /-- Bounds without `dyn`. `lone` for one bound with no `+` after it. -/
  | bounds (lone : Bool)
  /-- One bound in parentheses that starts with `?`. -/
  | relaxed
  | paren
  | other
  deriving Repr, DecidableEq, Inhabited

inductive PatternShape where
  | rest
  /-- A range without one of its ends. -/
  | openRange
  | range
  /-- One that is kept as it stood. -/
  | verbatim
  | other
  deriving Repr, DecidableEq, Inhabited

inductive ExprShape where
  | range
  | comparison
  /-- Ends in a block, and ends a statement or an arm by itself. -/
  | block
  | call (d : Delimiter)
  | other
  deriving Repr, DecidableEq, Inhabited

/-! ## Items -/

inductive Meta where
  | bare
  | list (d : Delimiter) (tokens : List Tree)
  | value
  deriving Repr, Inhabited

structure Attribute where
  path : Path
  content : Meta
  deriving Repr, Inhabited

inductive ParamKind where
  | lifetime
  | type
  | const
  deriving Repr, DecidableEq, Inhabited

/-- A generic parameter. -/
structure Param where
  kind : ParamKind
  /-- As it is declared, without its default. -/
  declared : List Tree
  /-- Its name alone. -/
  used : List Tree
  /-- Its default, with the `=` before it. -/
  fallback : List Tree := []
  /-- The comma after it. -/
  comma : List Tree := []
  deriving Repr, Inhabited

/-- One of several things in a list, and the comma after it. -/
structure Listed where
  first : Bool
  text : List Tree
  comma : List Tree

/-- Puts those marked `first` in front, and a comma where one is missing between two. -/
def arrange (items : List Listed) : List Tree :=
  let step := fun (out : List Tree × Bool) (a : Listed) =>
    (out.1 ++ (if out.2 then [] else operator ",") ++ a.text ++ a.comma, !a.comma.isEmpty)
  let front := (items.filter (·.first)).foldl
    (fun (out : List Tree × Bool) a => (out.1 ++ a.text ++ a.comma, !a.comma.isEmpty)) ([], true)
  ((items.filter (!·.first)).foldl step front).1

structure Generics where
  /-- `<` and `>` as they stand. -/
  opening : List Tree := []
  params : List Param := []
  closing : List Tree := []
  deriving Repr, Inhabited

/-- Generic parameters or arguments between angle brackets, lifetimes first; nothing for none. -/
def Generics.angled (g : Generics) (text : Param → List Tree) : List Tree :=
  if g.params.isEmpty then []
  else
    g.opening ++ arrange (g.params.map fun p => ⟨p.kind == .lifetime, text p, p.comma⟩) ++ g.closing

/-- The parameters as they are declared. -/
def Generics.text (g : Generics) : List Tree := g.angled fun p => p.declared ++ p.fallback

/-- A condition of a `where` clause and the comma after it. -/
structure Predicate where
  text : List Tree
  comma : List Tree
  deriving Repr, Inhabited

/-- A `where` clause: its keyword and its conditions. -/
structure Where where
  keyword : List Tree
  predicates : List Predicate
  deriving Repr, Inhabited

/-- The clause as it is declared; nothing for one without conditions. -/
def Where.text (w : Where) : List Tree :=
  if w.predicates.isEmpty then [] else w.keyword ++ w.predicates.flatMap fun p => p.text ++ p.comma

/-- What a struct, enum or union declares. -/
structure DataType where
  attributes : List Attribute
  ident : Ident
  generics : Generics
  conditions : Option Where
  deriving Repr, Inhabited

/-- A function of an `impl` block. -/
structure Method where
  visible : List Tree
  isAsync : Bool
  ident : Ident
  generic : Bool
  inputs : List Tree
  output : List Tree
  body : List Tree
  deriving Repr, Inhabited

inductive Member where
  | method (m : Method)
  | other
  deriving Repr, Inhabited

/-- An `impl` block; `forTrait` when it implements a trait. -/
structure ImplBlock where
  generics : Generics
  forTrait : Bool
  selfType : List Tree
  members : List Member
  deriving Repr, Inhabited

inductive Item where
  | struct (d : DataType)
  | enum (d : DataType)
  | union (d : DataType)
  | trait (i : Ident)
  | impl (b : ImplBlock)
  /-- Another item that has a name. -/
  | named (i : Ident)
  | unnamed
  deriving Repr, Inhabited

/-! ## The record -/

structure Rules where
  /-- A type; whether `+` may join bounds. -/
  type : Bool → Rule TypeShape
  /-- Arguments between angle brackets. -/
  angle : Rule Unit
  /-- A pattern without alternatives. -/
  pattern : Rule PatternShape
  /-- An expression; whether it may end in the fields of a struct. -/
  expr : Bool → Rule ExprShape
  /-- The expression of a statement or an arm: it may end at the end of a block. -/
  bounded : Rule ExprShape
  /-- An expression without binary operators. -/
  unary : Bool → Rule ExprShape
  /-- The binary operators after an operand, from a precedence on. -/
  operators : ExprShape → Bool → Nat → Rule ExprShape
  /-- The content of a block. -/
  statements : Rule Unit
  /-- An item after its attributes. -/
  item : List Attribute → Rule (Rule.Kept Item)
  /-- A tree of imports; whether a part may start at the root. Gives whether a part does. -/
  imports : Bool → Rule Bool
  /-- Generic parameters after `for`. -/
  binder : Rule Unit
  /-- Fields in braces. -/
  fields : Rule Unit

def Rules.exhausted : Rules where
  type _ := Rule.fail .tooDeep
  angle := Rule.fail .tooDeep
  pattern := Rule.fail .tooDeep
  expr _ := Rule.fail .tooDeep
  bounded := Rule.fail .tooDeep
  unary _ := Rule.fail .tooDeep
  operators _ _ _ := Rule.fail .tooDeep
  statements := Rule.fail .tooDeep
  item _ := Rule.fail .tooDeep
  imports _ := Rule.fail .tooDeep
  binder := Rule.fail .tooDeep
  fields := Rule.fail .tooDeep

end FetchKit.Grammar
