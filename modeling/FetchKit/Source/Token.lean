import FetchKit.Source.Span
import FetchKit.Text.Word

/-!
# Tokens

A token tree is an identifier, a punctuation character, a literal or a delimited group of trees.
Operators of several characters are runs of joint punctuation characters.
-/

namespace FetchKit.Source

inductive Delimiter where
  | paren
  | bracket
  | brace
  deriving Repr, DecidableEq, Inhabited

/-! ## Identifiers -/

/-- A word. A raw one is written with `r#` in front and is never a keyword. -/
structure Ident where
  name : String
  raw : Bool := false
  span : Span := .callSite
  deriving Repr, DecidableEq, Inhabited

/-- Words that cannot name anything unless they are written raw. -/
def reservedWords : List String :=
  ["_", "abstract", "as", "async", "await", "become", "box", "break", "const", "continue",
   "crate", "do", "dyn", "else", "enum", "extern", "false", "final", "fn", "for", "if", "impl",
   "in", "let", "loop", "macro", "match", "mod", "move", "mut", "override", "priv", "pub", "ref",
   "return", "Self", "self", "static", "struct", "super", "trait", "true", "try", "type",
   "typeof", "unsafe", "unsized", "use", "virtual", "where", "while", "yield"]

/-- Words that have no raw form. -/
def neverRaw : List String := ["_", "super", "self", "Self", "crate"]

namespace Ident

/-- As it is written. -/
def text (i : Ident) : String := if i.raw then "r#" ++ i.name else i.name

/-- Whether the identifier can name a thing. -/
def isName (i : Ident) : Bool := i.raw || !(reservedWords.contains i.name)

/-- Whether it is this keyword, or this word where the word has a meaning of its own. -/
def isWord (i : Ident) (w : String) : Bool := !i.raw && i.name == w

/-- Reads an identifier back from its text. -/
def ofText (s : String) : Ident :=
  match s.toList with
  | 'r' :: '#' :: name => ⟨String.ofList name, true, .callSite⟩
  | _ => ⟨s, false, .callSite⟩

end Ident

/-! ## Trees -/

inductive Tree where
  | ident (i : Ident)
  /-- `joint` when nothing is printed between it and the next tree. -/
  | punct (c : Char) (joint : Bool) (span : Span)
  | literal (text : String) (span : Span)
  | group (d : Delimiter) (content : List Tree) (span : Span)
  deriving Repr, Inhabited

namespace Tree

def span : Tree → Span
  | ident i => i.span
  | punct _ _ s => s
  | literal _ s => s
  | group _ _ s => s

/-- Where a complaint about this tree points: at the opening delimiter of a group. -/
def head (t : Tree) : Span :=
  match t with
  | group _ _ s => s.first
  | t => t.span

def isJoint : Tree → Bool
  | punct _ joint _ => joint
  | _ => false

end Tree

/-- From the first tree to the last. -/
def spanOf : List Tree → Span
  | [] => .callSite
  | t :: ts => t.span.join ((t :: ts).getLast (by simp)).span

mutual

/-- Trees in a tree, groups counted with what they hold. -/
def Tree.size : Tree → Nat
  | .group _ content _ => sizeOfTrees content + 1
  | _ => 1

def sizeOfTrees : List Tree → Nat
  | [] => 0
  | t :: ts => t.size + sizeOfTrees ts

end

/-! ## Writing trees -/

/-- An operator: all its characters joint but the last. -/
def operator (s : String) : List Tree :=
  go s.toList
where
  go : List Char → List Tree
    | [] => []
    | [c] => [.punct c false .callSite]
    | c :: cs => .punct c true .callSite :: go cs

def word (name : String) : Tree := .ident { name }

def group (d : Delimiter) (content : List Tree) : Tree := .group d content .callSite

end FetchKit.Source
