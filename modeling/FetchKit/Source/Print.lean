import FetchKit.Source.Token

/-!
# The text of a token stream

One space between two trees, and none after a joint punctuation character.
-/

namespace FetchKit.Source

namespace Delimiter

def opening : Delimiter → List Char
  | paren => ['(']
  | bracket => ['[']
  | brace => ['{', ' ']

def closing : Delimiter → List Char
  | paren => [')']
  | bracket => [']']
  | brace => ['}']

end Delimiter

mutual

def Tree.print : Tree → List Char
  | .ident i => i.text.toList
  | .punct c _ _ => [c]
  | .literal text _ => text.toList
  | .group d content _ =>
    d.opening ++ printTrees content ++
      (if d = .brace && !content.isEmpty then ' ' :: d.closing else d.closing)

def printTrees : List Tree → List Char
  | [] => []
  | t :: ts => t.print ++ (if t.isJoint || ts.isEmpty then printTrees ts else ' ' :: printTrees ts)

end

/-- A token stream as one line of text. -/
def textOf (ts : List Tree) : String := String.ofList (printTrees ts)

end FetchKit.Source
