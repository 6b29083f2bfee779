import FetchKit.Grammar.Complaint
import FetchKit.Text.Quoted

/-!
# Rules

A rule reads trees off a cursor and writes them again, each operator set as one: its characters
joint and the last one alone, whatever was joint in the source. What the rules of types,
patterns and expressions write is all that is kept of them.
-/

namespace FetchKit.Grammar

open FetchKit.Source

/-- What is left to read in the group at hand, what was written (the last tree first), and the
first group that was not read to its end. -/
structure Cursor where
  rest : List Tree
  written : List Tree := []
  leftover : Option Delimiter := none
  deriving Inhabited

abbrev Rule (α : Type) := StateT Cursor (Except Complaint) α

namespace Rule

def fail {α : Type} (c : Complaint) : Rule α := throw c

/-- Reads everything, or complains. -/
def run {α : Type} (r : Rule α) (ts : List Tree) : Except Complaint α :=
  match StateT.run r { rest := ts } with
  | .error e => .error e
  | .ok (a, c) =>
    match c.leftover, c.rest with
    | some d, _ => .error (.leftover (some d))
    | none, _ :: _ => .error (.leftover none)
    | none, [] => .ok a

/-! ## Looking ahead -/

/-- Drops one tree; a lifetime or label counts as one. -/
def skipOne : List Tree → List Tree
  | .punct '\'' true _ :: .ident _ :: ts => ts
  | _ :: ts => ts
  | [] => []

def skip : Nat → List Tree → List Tree
  | 0, ts => ts
  | n + 1, ts => skip n (skipOne ts)

/-- What can be asked for at the front of the tokens, and how it is called in a complaint. -/
structure Probe where
  shown : String
  test : List Tree → Bool

/-- An operator is there when its characters are, all joint but the last. -/
def startsOperator : List Char → List Tree → Bool
  | [], _ => true
  | [c], .punct d _ _ :: _ => c == d && d != '\''
  | c :: cs, .punct d joint _ :: ts => c == d && joint && startsOperator cs ts
  | _, _ => false

def startsWord (w : String) : List Tree → Bool
  | .ident i :: _ => i.isWord w
  | _ => false

def startsName : List Tree → Bool
  | .ident i :: _ => i.isName
  | _ => false

def startsAnyIdent : List Tree → Bool
  | .ident _ :: _ => true
  | _ => false

def startsLifetime : List Tree → Bool
  | .punct '\'' true _ :: .ident _ :: _ => true
  | _ => false

def startsGroup (d : Delimiter) : List Tree → Bool
  | .group e _ _ :: _ => d == e
  | _ => false

/-- A number is a literal that starts with a digit. -/
def isNumber (text : String) : Bool :=
  match text.toList with
  | c :: _ => '0' ≤ c && c ≤ '9'
  | [] => false

def startsLiteral : List Tree → Bool
  | .literal _ _ :: _ => true
  | .ident i :: _ => i.isWord "true" || i.isWord "false"
  | .punct '-' _ _ :: .literal text _ :: _ => isNumber text
  | _ => false

def startsString : List Tree → Bool
  | .literal text _ :: _ => (Text.unquote text).isSome
  | _ => false

def op (s : String) : Probe := ⟨"`" ++ s ++ "`", startsOperator s.toList⟩
def kw (w : String) : Probe := ⟨"`" ++ w ++ "`", startsWord w⟩
def name : Probe := ⟨"identifier", startsName⟩
def anyIdent : Probe := ⟨"identifier", startsAnyIdent⟩
def lifetime : Probe := ⟨"lifetime", startsLifetime⟩
def paren : Probe := ⟨"parentheses", startsGroup .paren⟩
def bracket : Probe := ⟨"square brackets", startsGroup .bracket⟩
def brace : Probe := ⟨"curly braces", startsGroup .brace⟩
def literal : Probe := ⟨"literal", startsLiteral⟩
def string : Probe := ⟨"string literal", startsString⟩

def trees : Rule (List Tree) := do return (← get).rest

def atEnd : Rule Bool := do return (← get).rest.isEmpty

def peek (p : Probe) : Rule Bool := do return p.test (← get).rest

def peek2 (p : Probe) : Rule Bool := do return p.test (skip 1 (← get).rest)

def peek3 (p : Probe) : Rule Bool := do return p.test (skip 2 (← get).rest)

/-- Whether one of these comes next. -/
def peekAny (ps : List Probe) : Rule Bool := do
  let ts ← trees
  return ps.any (·.test ts)

/-- Complains that none of these came next; one that did come is not named. -/
def unmet {α : Type} (ps : List Probe) : Rule α := do
  let ts ← trees
  fail (.expected ((ps.filter fun p => !p.test ts).map (·.shown)) ts.isEmpty)

def complain {α : Type} (text : String) : Rule α := do fail (.rule text (← atEnd))

/-! ## Reading trees -/

/-- Reads the trees up to `rest` and writes `out` for them. -/
def advance (rest : List Tree) (out : List Tree) : Rule Unit :=
  modify fun c => { c with rest, written := out.reverse ++ c.written }

/-- An operator as one: joint throughout, alone at its end. -/
def setOperator : List Tree → List Tree
  | [] => []
  | [.punct c _ s] => [.punct c false s]
  | .punct c _ s :: ts => .punct c true s :: setOperator ts
  | t :: ts => t :: setOperator ts

def eatOp (s : String) : Rule Unit := do
  let ts ← trees
  if startsOperator s.toList ts then
    advance (ts.drop s.length) (setOperator (ts.take s.length))
  else fail (.missing s)

def eatWord (w : String) : Rule Unit := do
  match ← trees with
  | .ident i :: ts => if i.isWord w then advance ts [.ident i] else unmet [kw w]
  | _ => unmet [kw w]

/-- A word that is no keyword. -/
def eatName : Rule Ident := do
  match ← trees with
  | .ident i :: ts =>
    if i.isName then
      advance ts [.ident i]
      return i
    else fail (.keyword i.text)
  | _ => unmet [name]

/-- Any word. -/
def eatAnyIdent : Rule Ident := do
  match ← trees with
  | .ident i :: ts =>
    advance ts [.ident i]
    return i
  | _ => complain "expected ident"

def eatLifetime : Rule Unit := do
  match ← trees with
  | .punct '\'' true s :: .ident i :: ts => advance ts [.punct '\'' true s, .ident i]
  | _ => unmet [lifetime]

/-- A literal. A number after a minus is one literal, written as the sign and the number. -/
def eatLiteral : Rule Unit := do
  match ← trees with
  | .literal text s :: ts => advance ts [.literal text s]
  | .ident i :: ts =>
    if i.isWord "true" || i.isWord "false" then advance ts [.ident i] else unmet [literal]
  | .punct '-' _ s :: .literal text t :: ts =>
    if isNumber text then advance ts [.punct '-' false s, .literal text t] else unmet [literal]
  | _ => unmet [literal]

/-- Reads and drops an operator: it is not written again. -/
def dropOp (s : String) : Rule Unit :=
  modify fun c => { c with rest := c.rest.drop s.length }

/-- Every tree of the group at hand, as it stands. -/
def eatRest : Rule Unit := do
  advance [] (← trees)

def eatOp? (s : String) : Rule Bool := do
  if ← peek (op s) then
    eatOp s
    return true
  else return false

def eatWord? (w : String) : Rule Bool := do
  if ← peek (kw w) then
    eatWord w
    return true
  else return false

def eatLifetime? : Rule Bool := do
  if ← peek lifetime then
    eatLifetime
    return true
  else return false

def delimited : Delimiter → Probe
  | .paren => paren
  | .bracket => bracket
  | .brace => brace

/-- Reads a group with a rule for what it holds. Gives the group if it was not read to its end. -/
def enter {α : Type} (d : Delimiter) (body : Rule α) : Rule (α × Option Delimiter) := fun c =>
  match c.rest with
  | .group e content s :: ts =>
    if d = e then
      match StateT.run body { rest := content, leftover := c.leftover } with
      | .error e => .error e
      | .ok (a, inner) =>
        let missed := if inner.rest.isEmpty then none else some d
        .ok ((a, missed), { rest := ts, written := .group d inner.written.reverse s :: c.written,
                            leftover := inner.leftover })
    else .error (.expected [(delimited d).shown] false)
  | ts => .error (.expected [(delimited d).shown] ts.isEmpty)

/-- Notes a group that was not read to its end, unless there was one before. -/
def leave (missed : Option Delimiter) : Rule Unit :=
  modify fun c => { c with leftover := c.leftover.or missed }

/-- Reads a group with a rule for what it holds. -/
def within {α : Type} (d : Delimiter) (body : Rule α) : Rule α := do
  let (a, missed) ← enter d body
  leave missed
  return a

/-- A group of any kind, as it stands. -/
def eatGroup : Rule Delimiter := do
  match ← trees with
  | .group d content s :: ts =>
    advance ts [.group d content s]
    return d
  | _ => complain "expected delimiter"

/-! ## Combining rules -/

/-- Whether a rule would succeed here. -/
def wouldRead {α : Type} (r : Rule α) : Rule Bool := fun c =>
  match StateT.run r c with
  | .ok _ => .ok (true, c)
  | .error _ => .ok (false, c)

/-- Reads with the rule if it succeeds, else nothing. -/
def attempt {α : Type} (r : Rule α) : Rule (Option α) := fun c =>
  match StateT.run r c with
  | .ok (a, c') => .ok (some a, c')
  | .error _ => .ok (none, c)

/-- Reads with a rule, and also gives what it wrote. -/
def capture {α : Type} (r : Rule α) : Rule (α × List Tree) := fun c =>
  match StateT.run r { c with written := [] } with
  | .error e => .error e
  | .ok (a, inner) =>
    .ok ((a, inner.written.reverse), { inner with written := inner.written ++ c.written })

/-- Reads with a rule and writes nothing itself: what was written is given back. -/
def withhold {α : Type} (r : Rule α) : Rule (α × List Tree) := fun c =>
  match StateT.run r { c with written := [] } with
  | .error e => .error e
  | .ok (a, inner) => .ok ((a, inner.written.reverse), { inner with written := c.written })

/-- What a rule writes, held back. -/
def held {α : Type} (r : Rule α) : Rule (List Tree) := do return (← withhold r).2

def write (ts : List Tree) : Rule Unit :=
  modify fun c => { c with written := ts.reverse ++ c.written }

/-- A phrase, and whether it is kept as it stood in the source. -/
structure Kept (α : Type) where
  phrase : α
  asItStood : Bool

/-- Reads with a rule. What is to be kept as it stood is written so. -/
def keeping {α : Type} (r : Rule (Kept α)) : Rule α := fun c =>
  match StateT.run r { c with written := [] } with
  | .error e => .error e
  | .ok (a, inner) =>
    let read := c.rest.take (c.rest.length - inner.rest.length)
    let out := if a.asItStood then read.reverse else inner.written
    .ok (a.phrase, { inner with written := out ++ c.written })

/-- Reads with a rule and writes the trees it read as they stood. -/
def asWritten {α : Type} (r : Rule α) : Rule α := keeping do return ⟨← r, true⟩

/-- One round of a loop: whether there is another. -/
inductive Progress (σ : Type) where
  | again (s : σ)
  | done (s : σ)

def iterateFor {σ : Type} : Nat → σ → (σ → Rule (Progress σ)) → Rule σ
  | 0, s, _ => pure s
  | n + 1, s, body => do
    match ← body s with
    | .done s => pure s
    | .again s => iterateFor n s body

/-- Repeats `body`, which reads at least one tree in each round but its last. -/
def iterate {σ : Type} (s : σ) (body : σ → Rule (Progress σ)) : Rule σ := do
  iterateFor ((← trees).length + 1) s body

/-- Repeats `body` while it says so. -/
def loop (body : Rule Bool) : Rule Unit :=
  iterate () fun _ => do
    if ← body then return .again () else return .done ()

/-- Reads to the end of the group: items with commas between them, and maybe after the last. -/
def terminated {α : Type} (item : Rule α) : Rule (List α) := do
  let found ← iterate [] fun found => do
    if ← atEnd then return .done found
    let a ← item
    if ← atEnd then return .done (a :: found)
    eatOp ","
    return .again (a :: found)
  return found.reverse

/-- Repeats a rule to the end of the group. -/
def untilEnd {α : Type} (item : Rule α) : Rule (List α) := do
  let found ← iterate [] fun found => do
    if ← atEnd then return .done found
    return .again ((← item) :: found)
  return found.reverse

end Rule

end FetchKit.Grammar
